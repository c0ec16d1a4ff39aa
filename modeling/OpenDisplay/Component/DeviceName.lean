import OpenDisplay.Lib.Machine
import Mathlib.Data.List.Induction
import Mathlib.Data.Vector.Basic

/-!
# The name of the device

`loop()` calls `apply_ble_name_` until the device has a name.  It waits for the GATT service,
reads the MAC address of the chip and gives the BLE stack a name that shows the last three
bytes of it, the id by which the chip is known.  A stack that refuses the name is asked again
by the next `loop()`; a chip that does not tell its MAC address is not (`device_named`).
-/

namespace OpenDisplay

/-! ### Hexadecimal digits -/

/-- A digit of `%X`. -/
def hexDigit (n : ℕ) : Char := if n < 10 then Char.ofNat (48 + n) else Char.ofNat (55 + n)

/-- What `%02X` makes of a byte. -/
def hexByte (b : UInt8) : List Char := [hexDigit (b.toNat / 16), hexDigit (b.toNat % 16)]

/-- The last `k` digits of a number, the highest of them first. -/
def hexDigits : ℕ → ℕ → List Char
  | 0, _ => []
  | k + 1, n => hexDigits k (n / 16) ++ [hexDigit (n % 16)]

lemma hexDigit_inj {m n : ℕ} (hm : m < 16) (hn : n < 16) (h : hexDigit m = hexDigit n) :
    m = n := by
  have hall : ∀ m n : Fin 16, hexDigit m = hexDigit n → m = n := by decide
  exact congrArg Fin.val (hall ⟨m, hm⟩ ⟨n, hn⟩ h)

/-- The digits tell numbers of that many digits apart. -/
lemma hexDigits_inj {k m n : ℕ} (hm : m < 16 ^ k) (hn : n < 16 ^ k)
    (h : hexDigits k m = hexDigits k n) : m = n := by
  induction k generalizing m n with
  | zero => omega
  | succ k ih =>
      obtain ⟨hhigh, hlow⟩ := List.append_inj' h rfl
      have hdiv : ∀ {l : ℕ}, l < 16 ^ (k + 1) → l / 16 < 16 ^ k := fun hl =>
        Nat.div_lt_of_lt_mul (by rwa [Nat.pow_succ'] at hl)
      have hsame := ih (hdiv hm) (hdiv hn) hhigh
      have hlast := hexDigit_inj (Nat.mod_lt m (by decide)) (Nat.mod_lt n (by decide))
        (List.singleton_injective hlow)
      omega

/-! ### The name -/

/-- `od_name`. -/
def odName (mac : Vector UInt8 6) : List Char :=
  'O' :: 'D' :: (hexByte mac[5] ++ hexByte mac[4] ++ hexByte mac[3])

/-- The MAC address as the number whose lowest byte is its first. -/
def efuseMac (mac : Vector UInt8 6) : ℕ :=
  mac[0].toNat + 256 * (mac[1].toNat + 256 * (mac[2].toNat + 256 * (mac[3].toNat +
    256 * (mac[4].toNat + 256 * mac[5].toNat))))

/-- The id of the chip: the upper half of that number. -/
def chipId (mac : Vector UInt8 6) : ℕ := (efuseMac mac >>> 24) &&& 0xFFFFFF

lemma chipId_eq (mac : Vector UInt8 6) :
    chipId mac = mac[3].toNat + 256 * (mac[4].toNat + 256 * mac[5].toNat) := by
  have h0 := mac[0].toNat_lt
  have h1 := mac[1].toNat_lt
  have h2 := mac[2].toNat_lt
  have h3 := mac[3].toNat_lt
  have h4 := mac[4].toNat_lt
  have h5 := mac[5].toNat_lt
  rw [chipId, show 0xFFFFFF = 2 ^ 24 - 1 from rfl, Nat.and_two_pow_sub_one_eq_mod,
    Nat.shiftRight_eq_div_pow, efuseMac]
  omega

/-- The name shows the id of the chip. -/
lemma odName_eq (mac : Vector UInt8 6) : odName mac = 'O' :: 'D' :: hexDigits 6 (chipId mac) := by
  have h3 := mac[3].toNat_lt
  have h4 := mac[4].toNat_lt
  have h5 := mac[5].toNat_lt
  rw [chipId_eq]
  simp only [odName, hexByte, hexDigits, List.nil_append, List.cons_append, List.cons.injEq,
    true_and, and_true]
  refine ⟨?_, ?_, ?_, ?_, ?_, ?_⟩ <;> exact congrArg hexDigit (by omega)

/-- Chips with different ids have different names. -/
lemma odName_inj_iff (mac mac' : Vector UInt8 6) :
    odName mac = odName mac' ↔ chipId mac = chipId mac' := by
  have hlt : ∀ mac, chipId mac < 16 ^ 6 := fun mac =>
    Nat.lt_of_le_of_lt Nat.and_le_right (by decide)
  rw [odName_eq, odName_eq]
  refine ⟨fun h => ?_, fun h => by rw [h]⟩
  exact hexDigits_inj (hlt mac) (hlt mac') (List.cons.inj (List.cons.inj h).2).2

example : odName #v[0xA0, 0xB1, 0xC2, 0x56, 0x34, 0x12] = "OD123456".toList := by decide

/-! ### One attempt -/

/-- `ESP_OK`. -/
def espOk : Int := 0

/-- What a call of `apply_ble_name_` is answered, if it asks. -/
structure NameAnswers where
  /-- `service_->is_running()` -/
  isRunning : Bool
  /-- of `esp_efuse_mac_get_default` -/
  macErr : Int := espOk
  /-- of `esp_ble_gap_set_device_name` -/
  nameErr : Int := espOk
  /-- there is a BLE stack to restart the advertising of -/
  stackUp : Bool := true

/-- What `apply_ble_name_` reads and writes of the component. -/
structure BleName where
  /-- the service was created -/
  hasService : Bool
  bleName : List Char := []
  bleNameErr : Int := 0

/-- What is asked of the BLE stack. -/
inductive NameCall
  | setDeviceName (name : List Char)
  | advertisingStart
deriving DecidableEq

/-- The calls after the stack has taken the name. -/
def NameAnswers.restart (a : NameAnswers) : List NameCall :=
  if a.stackUp then [.advertisingStart] else []

namespace BleName

/-- The room for a name in `ble_name_`, without the end of the string. -/
def nameRoom : ℕ := 15

/-- `apply_ble_name_`, on the chip with this MAC address. -/
def applyBleName (mac : Vector UInt8 6) (b : BleName) (a : NameAnswers) :
    List NameCall × BleName :=
  if b.bleName ≠ [] ∨ b.hasService = false then ([], b)
  else if a.isRunning = false then ([], b)
  else if a.macErr ≠ espOk then
    -- no retry: the MAC address is in the fuses
    ([], { b with bleNameErr := a.macErr, bleName := ['?'] })
  else if a.nameErr ≠ espOk then
    ([.setDeviceName (odName mac)], { b with bleNameErr := a.nameErr })
  else
    (.setDeviceName (odName mac) :: a.restart,
      { b with bleName := (odName mac).take nameRoom, bleNameErr := espOk })

/-- The calls of one attempt. -/
def nameCalls (mac : Vector UInt8 6) (b : BleName) (a : NameAnswers) : List NameCall :=
  (b.applyBleName mac a).1

/-- The component after one attempt. -/
def step (mac : Vector UInt8 6) (b : BleName) (a : NameAnswers) : BleName :=
  (b.applyBleName mac a).2

variable {mac : Vector UInt8 6} {b : BleName} {a : NameAnswers}

/-- The name fits. -/
lemma take_odName (mac : Vector UInt8 6) : (odName mac).take nameRoom = odName mac :=
  List.take_of_length_le (by decide : 8 ≤ 15)

/-- What an attempt can do while there is no name. -/
inductive Attempt (mac : Vector UInt8 6) (b : BleName) (a : NameAnswers) :
    List NameCall × BleName → Prop
  | waits (hnot : a.isRunning = false) : Attempt mac b a ([], b)
  | givesUp (hrunning : a.isRunning = true) (hunread : a.macErr ≠ espOk) :
      Attempt mac b a ([], { b with bleNameErr := a.macErr, bleName := ['?'] })
  | refused (hrunning : a.isRunning = true) (hread : a.macErr = espOk)
      (hrefused : a.nameErr ≠ espOk) :
      Attempt mac b a ([.setDeviceName (odName mac)], { b with bleNameErr := a.nameErr })
  | taken (hrunning : a.isRunning = true) (hread : a.macErr = espOk) (htaken : a.nameErr = espOk) :
      Attempt mac b a (.setDeviceName (odName mac) :: a.restart,
        { b with bleName := odName mac, bleNameErr := espOk })

lemma attempt (hservice : b.hasService = true) (hname : b.bleName = []) :
    Attempt mac b a (b.applyBleName mac a) := by
  rw [applyBleName, if_neg (by simp [hservice, hname])]
  split_ifs with hnot hunread hrefused
  · exact .waits hnot
  · exact .givesUp (Bool.eq_true_of_not_eq_false hnot) hunread
  · exact .refused (Bool.eq_true_of_not_eq_false hnot) (not_not.mp hunread) hrefused
  · rw [take_odName]
    exact .taken (Bool.eq_true_of_not_eq_false hnot) (not_not.mp hunread) (not_not.mp hrefused)

/-- A name stays. -/
lemma applyBleName_of_named (hname : b.bleName ≠ []) : b.applyBleName mac a = ([], b) := by
  rw [applyBleName, if_pos (.inl hname)]

/-! ### All attempts -/

/-- The stack was asked and refused, or it was not yet time to ask. -/
def Open (a : NameAnswers) : Prop :=
  a.isRunning = true → a.macErr = espOk ∧ a.nameErr ≠ espOk

/-- The calls of attempts that leave it open. -/
def openCalls (mac : Vector UInt8 6) (as : List NameAnswers) : List NameCall :=
  (as.filter (·.isRunning)).map fun _ => .setDeviceName (odName mac)

/-- The last refusal. -/
def lastRefusal (as : List NameAnswers) : Int :=
  ((as.filter (·.isRunning)).map (·.nameErr)).getLastD espOk

/-- What the attempts come to. -/
inductive Settles (mac : Vector UInt8 6) (as : List NameAnswers) (calls : List NameCall)
    (b : BleName) : Prop
  | waiting (hopen : ∀ a ∈ as, Open a) (hcalls : calls = openCalls mac as)
      (hname : b.bleName = []) (herr : b.bleNameErr = lastRefusal as)
  | named (before : List NameAnswers) (a : NameAnswers) (after : List NameAnswers)
      (has : as = before ++ a :: after) (hopen : ∀ a ∈ before, Open a)
      (htaken : a.isRunning = true ∧ a.macErr = espOk ∧ a.nameErr = espOk)
      (hcalls : calls = openCalls mac before ++ .setDeviceName (odName mac) :: a.restart)
      (hname : b.bleName = odName mac) (herr : b.bleNameErr = espOk)
  | givenUp (before : List NameAnswers) (a : NameAnswers) (after : List NameAnswers)
      (has : as = before ++ a :: after) (hopen : ∀ a ∈ before, Open a)
      (hunread : a.isRunning = true ∧ a.macErr ≠ espOk) (hcalls : calls = openCalls mac before)
      (hname : b.bleName = ['?']) (herr : b.bleNameErr = a.macErr)

lemma openCalls_concat (as : List NameAnswers) (a : NameAnswers) :
    openCalls mac (as ++ [a]) =
      openCalls mac as ++ if a.isRunning then [.setDeviceName (odName mac)] else [] := by
  rw [openCalls, List.filter_append, List.map_append, ← openCalls]
  rcases hrunning : a.isRunning with _ | _ <;> simp [hrunning]

lemma lastRefusal_concat (as : List NameAnswers) (a : NameAnswers) :
    lastRefusal (as ++ [a]) = if a.isRunning then a.nameErr else lastRefusal as := by
  rw [lastRefusal, List.filter_append, List.map_append]
  rcases hrunning : a.isRunning with _ | _ <;> simp [hrunning, lastRefusal]

/-- One more attempt. -/
lemma Settles.concat {as : List NameAnswers} {calls : List NameCall}
    (h : Settles mac as calls b) (hservice : b.hasService = true) (a : NameAnswers) :
    Settles mac (as ++ [a]) (calls ++ nameCalls mac b a) (step mac b a) ∧
      (step mac b a).hasService = true := by
  cases h with
  | waiting hopen hcalls hname herr =>
      have ha : Attempt mac b a (b.applyBleName mac a) := attempt hservice hname
      rw [nameCalls, step]
      generalize b.applyBleName mac a = done at ha ⊢
      cases ha with
      | waits hnot =>
          refine ⟨.waiting ?_ ?_ hname ?_, hservice⟩
          · rw [List.forall_mem_append]
            refine ⟨hopen, List.forall_mem_singleton.mpr fun hrunning => ?_⟩
            cases hnot.symm.trans hrunning
          · rw [openCalls_concat, hcalls, hnot]
            rfl
          · rw [lastRefusal_concat, hnot]
            exact herr
      | refused hrunning hread hrefused =>
          refine ⟨.waiting ?_ ?_ hname ?_, hservice⟩
          · rw [List.forall_mem_append]
            exact ⟨hopen, List.forall_mem_singleton.mpr fun _ => ⟨hread, hrefused⟩⟩
          · rw [openCalls_concat, hcalls, hrunning]
            rfl
          · rw [lastRefusal_concat, hrunning]
            rfl
      | givesUp hrunning hunread =>
          refine ⟨.givenUp as a [] rfl hopen ⟨hrunning, hunread⟩ ?_ rfl rfl, hservice⟩
          rw [List.append_nil, hcalls]
      | taken hrunning hread htaken =>
          refine ⟨.named as a [] rfl hopen ⟨hrunning, hread, htaken⟩ ?_ rfl rfl, hservice⟩
          rw [hcalls]
  | named before first after has hopen htaken hcalls hname herr =>
      rw [nameCalls, step, applyBleName_of_named (by simp [hname, odName]), List.append_nil, has]
      exact ⟨.named before first (after ++ [a]) (by simp) hopen htaken hcalls hname herr, hservice⟩
  | givenUp before first after has hopen hunread hcalls hname herr =>
      rw [nameCalls, step, applyBleName_of_named (by simp [hname]), List.append_nil, has]
      exact ⟨.givenUp before first (after ++ [a]) (by simp) hopen hunread hcalls hname herr,
        hservice⟩

/-- **The device gets its name once.**  Whatever the service, the chip and the BLE stack answer
in the calls of `loop()`, the stack is asked for one name only, again and again while it
refuses; the first time that it takes the name the advertising is restarted, and nothing more
is asked.  A chip that does not tell its MAC address is not asked again, and the device has no
name.  The name shows the id of the chip, and no other chip has it. -/
theorem device_named (mac : Vector UInt8 6) (as : List NameAnswers) :
    Settles mac as (Machine.outputs (step mac) (nameCalls mac) { hasService := true } as)
        (Machine.exec (step mac) { hasService := true } as) ∧
      odName mac = 'O' :: 'D' :: hexDigits 6 (chipId mac) ∧
      ∀ mac', odName mac' = odName mac ↔ chipId mac' = chipId mac := by
  refine ⟨?_, odName_eq mac, fun mac' => odName_inj_iff mac' mac⟩
  have hall : Settles mac as
      (Machine.outputs (step mac) (nameCalls mac) { hasService := true } as)
        (Machine.exec (step mac) { hasService := true } as) ∧
      (Machine.exec (step mac) { hasService := true } as).hasService = true := by
    induction as using List.reverseRecOn with
    | nil => exact ⟨.waiting (List.forall_mem_nil _) rfl rfl rfl, rfl⟩
    | append_singleton as a ih =>
        rw [Machine.outputs_append, Machine.exec_append, Machine.outputs_cons, Machine.exec_cons,
          Machine.outputs_nil, Machine.exec_nil, List.append_nil]
        exact ih.1.concat ih.2 a
  exact hall.1

end BleName

end OpenDisplay
