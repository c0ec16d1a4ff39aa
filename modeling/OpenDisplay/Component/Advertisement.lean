import OpenDisplay.Component.LoopOrder

/-!
# The advertisement

`update_msd_` builds the MSD record at most once a second and hands it to the BLE stack, to be
advertised, if it is not the one that was handed over last.  The counter in the record moves
with each update, so in fact each update is advertised.  What a scanner sees is, for each
update in turn, what the component was told then, and the number of the update; and a client
that reads the MSD reads what is on the air (`advertisements_follow`).
-/

namespace OpenDisplay

/-! ### What a scanner reads -/

/-- The fields of `MsdAdvertisement`, with the bits of its status by their names. -/
structure MsdRecord where
  companyId : UInt16
  dynamic : List UInt8
  chipTemperature : UInt8
  /-- nine bits, the highest of them in the status -/
  batteryVoltage : ℕ
  rebootFlag : Bool
  connectionRequested : Bool
  loopCounter : ℕ
deriving DecidableEq

/-- What a scanner reads out of sixteen bytes. -/
def readMsd (msd : Vector UInt8 msdBytes) : MsdRecord :=
  let byte := fun k => msd.toList.getD k 0
  { companyId := getU16Le (byte 0) (byte 1)
    dynamic := (msd.toList.drop 2).take 11
    chipTemperature := byte 13
    batteryVoltage := (byte 14).toNat + 256 * ((byte 15).toNat % 2)
    rebootFlag := (byte 15).toNat / 2 % 2 = 1
    connectionRequested := (byte 15).toNat / 4 % 2 = 1
    loopCounter := (byte 15).toNat / 16 }

/-- The fields of the status do not overlap. -/
lemma toNat_status (battery reboot requested : Bool) (counter : UInt8) :
    ((if battery then odMsdStatusBatteryVoltageBit8 else 0) |||
      (if reboot then odMsdStatusRebootFlag else 0) |||
      (if requested then odMsdStatusConnectionRequested else 0) |||
      ((counter <<< odMsdStatusMainLoopCounterShift) &&& odMsdStatusMainLoopCounterMask)).toNat =
      battery.toNat + 2 * reboot.toNat + 4 * requested.toNat + 16 * (counter.toNat % 16) := by
  have hbyte : ∀ (battery reboot requested : Bool) (n : Fin 256),
      ((if battery then odMsdStatusBatteryVoltageBit8 else 0) |||
        (if reboot then odMsdStatusRebootFlag else 0) |||
        (if requested then odMsdStatusConnectionRequested else 0) |||
        ((UInt8.ofNat n <<< odMsdStatusMainLoopCounterShift) &&&
          odMsdStatusMainLoopCounterMask)).toNat =
        battery.toNat + 2 * reboot.toNat + 4 * requested.toNat + 16 * (n.val % 16) := by
    decide +kernel
  have hcounter := hbyte battery reboot requested ⟨counter.toNat, counter.toNat_lt⟩
  rwa [UInt8.ofNat_toNat] at hcounter

/-- The battery voltage of a record, at most what nine bits hold. -/
def cappedBattery (inputs : MsdInputs) : ℕ := min inputs.battery10mv.toNat 511

lemma toNat_cappedBattery (inputs : MsdInputs) :
    (if inputs.battery10mv > 511 then (511 : UInt16) else inputs.battery10mv).toNat =
      cappedBattery inputs := by
  rw [cappedBattery]
  split_ifs with h
  · exact (Nat.min_eq_right (Nat.le_of_lt (UInt16.lt_iff_toNat_lt.mp h))).symm
  · exact (Nat.min_eq_left (UInt16.le_iff_toNat_le.mp (UInt16.not_lt.mp h))).symm

/-- The status byte as a number: one summand for each field. -/
lemma toNat_msdStatus (inputs : MsdInputs) :
    (msdStatus inputs).toNat = cappedBattery inputs / 256 + 2 * inputs.rebootFlag.toNat +
      4 * inputs.connectionRequested.toNat + 16 * (inputs.loopCounter.toNat % 16) := by
  rw [msdStatus, ← toNat_cappedBattery]
  generalize hbatt : (if inputs.battery10mv > 511 then 511 else inputs.battery10mv) = batt
  have hle : batt.toNat ≤ 511 := by
    rw [← hbatt, toNat_cappedBattery]
    exact Nat.min_le_right _ _
  have hbit : ((batt >>> 8) &&& 0x01 ≠ 0) ↔ batt.toNat / 256 = 1 := by
    have hvalue : ((batt >>> 8) &&& 0x01).toNat = batt.toNat / 256 % 2 := by
      rw [UInt16.toNat_and, UInt16.toNat_shiftRight]
      exact (Nat.and_one_is_mod _).trans (by rw [Nat.shiftRight_eq_div_pow]; rfl)
    rw [Ne, ← UInt16.toNat_inj, hvalue]
    change ¬ batt.toNat / 256 % 2 = 0 ↔ _
    omega
  have hstatus := toNat_status (decide (batt.toNat / 256 = 1)) inputs.rebootFlag
    inputs.connectionRequested inputs.loopCounter
  simp only [hbit]
  simp only [decide_eq_true_eq] at hstatus
  rw [hstatus]
  rcases (by omega : batt.toNat / 256 = 0 ∨ batt.toNat / 256 = 1) with h | h <;> simp [h]

/-- What a record is built from. -/
def MsdInputs.record (inputs : MsdInputs) : MsdRecord where
  companyId := odBleManufacturerId
  dynamic := List.replicate 11 0
  chipTemperature := UInt8.ofNat (min inputs.chipTemperatureEncoded.toNat 255)
  batteryVoltage := cappedBattery inputs
  rebootFlag := inputs.rebootFlag
  connectionRequested := inputs.connectionRequested
  loopCounter := inputs.loopCounter.toNat % 16

/-- **A scanner reads what a record is built from.** -/
lemma readMsd_buildMsd (inputs : MsdInputs) : readMsd (buildMsd inputs) = inputs.record := by
  have hcapped : cappedBattery inputs ≤ 511 := Nat.min_le_right _ _
  have hreboot := Bool.toNat_lt inputs.rebootFlag
  have hrequested := Bool.toNat_lt inputs.connectionRequested
  have hstatus := toNat_msdStatus inputs
  have hbytes : (buildMsd inputs).toList = [(odBleManufacturerId &&& 0xFF).toUInt8,
      (odBleManufacturerId >>> 8).toUInt8] ++ List.replicate 11 0 ++
      [UInt8.ofNat (min inputs.chipTemperatureEncoded.toNat 255),
        ((if inputs.battery10mv > 511 then 511 else inputs.battery10mv) &&& 0xFF).toUInt8,
        msdStatus inputs] := rfl
  have hlow : ((if inputs.battery10mv > 511 then (511 : UInt16) else inputs.battery10mv) &&&
      0xFF).toUInt8.toNat = cappedBattery inputs % 256 := by
    rw [UInt16.toNat_toUInt8, UInt16.toNat_and, toNat_cappedBattery]
    exact congrArg (· % 256) (Nat.and_two_pow_sub_one_eq_mod _ 8) |>.trans (Nat.mod_mod _ _)
  rw [readMsd, hbytes]
  simp only [MsdInputs.record, MsdRecord.mk.injEq]
  refine ⟨getU16Le_bytes _, rfl, rfl, ?_, ?_, ?_, ?_⟩
  · show UInt8.toNat _ + 256 * ((msdStatus inputs).toNat % 2) = _
    rw [hstatus]
    refine (congrArg (· + _) hlow).trans ?_
    omega
  · show decide ((msdStatus inputs).toNat / 2 % 2 = 1) = _
    rw [hstatus]
    cases inputs.rebootFlag <;> simp <;> omega
  · show decide ((msdStatus inputs).toNat / 4 % 2 = 1) = _
    rw [hstatus]
    cases inputs.connectionRequested <;> simp <;> omega
  · show (msdStatus inputs).toNat / 16 = _
    rw [hstatus]
    omega

/-! ### Updates -/

/-- What `update_msd_` is told when it builds the record. -/
structure MsdUpdate where
  atMs : UInt32
  chipTemperatureEncoded : Int
  rebootFlag : Bool
deriving DecidableEq

/-- The record that update number `k` builds. -/
def MsdUpdate.record (u : MsdUpdate) (k : ℕ) : MsdRecord where
  companyId := odBleManufacturerId
  dynamic := List.replicate 11 0
  chipTemperature := UInt8.ofNat (min u.chipTemperatureEncoded.toNat 255)
  batteryVoltage := 0
  rebootFlag := u.rebootFlag
  connectionRequested := false
  loopCounter := k % 16

namespace OpenDisplayComponent

variable {β ω : Type} [OpenDisplayBackend β] [PanelWorld β ω] {c : OpenDisplayComponent β}

/-- The updates of a step. -/
def msdUpdates (c : OpenDisplayComponent β) : ComponentOp ω → List MsdUpdate
  | .loop _ temperature =>
      match c.phase with
      | .updateMsd startMs =>
          if startMs ≠ 0 ∧ (startMs - c.msdNextUpdateMs).toInt32 < 0 then []
          else [⟨startMs, temperature, c.rebootFlag⟩]
      | _ => []
  | _ => []

/-- What a step does to the record, to its counter and to the time of the next update. -/
inductive RecordStep (c c' : OpenDisplayComponent β) : List MsdUpdate → Prop
  | kept (hmsd : c'.msd = c.msd) (hcounter : c'.msdLoopCounter = c.msdLoopCounter)
      (hnext : c'.msdNextUpdateMs = c.msdNextUpdateMs) : RecordStep c c' []
  | updated (u : MsdUpdate) (hdue : u.atMs = 0 ∨ 0 ≤ (u.atMs - c.msdNextUpdateMs).toInt32)
      (hmsd : readMsd c'.msd = u.record c.msdLoopCounter.toNat)
      (hcounter : c'.msdLoopCounter = (c.msdLoopCounter + 1) &&& 0x0F)
      (hnext : c'.msdNextUpdateMs = u.atMs + msdUpdateIntervalMs) : RecordStep c c' [u]

omit [OpenDisplayBackend β] in
/-- Parts that handle a packet or apply a result leave the record alone. -/
lemma SameLoop.recordStep {c₁ c' : OpenDisplayComponent β} (h : SameLoop c₁ c')
    (hmsd : c₁.msd = c.msd) (hcounter : c₁.msdLoopCounter = c.msdLoopCounter)
    (hnext : c₁.msdNextUpdateMs = c.msdNextUpdateMs) : RecordStep c c' [] := by
  obtain ⟨_, _, _, _, rfl⟩ := h
  exact .kept hmsd hcounter hnext

omit [OpenDisplayBackend β] [PanelWorld β ω] in
/-- The part of the loop that updates the record, if it is time. -/
lemma recordStep_updateMsd {startMs : UInt32} (hphase : c.phase = .updateMsd startMs)
    (nowMs : UInt32) (temperature : Int) :
    RecordStep c { c.updateMsd startMs temperature with phase := .drain }
      (c.msdUpdates (.loop nowMs temperature : ComponentOp ω)) := by
  rw [msdUpdates, hphase, updateMsd]
  dsimp only
  split_ifs with hearly
  · exact .kept rfl rfl rfl
  · refine .updated _ ?_ ?_ rfl rfl
    · simpa [imp_iff_not_or] using hearly
    · exact readMsd_buildMsd _

omit [OpenDisplayBackend β] [PanelWorld β ω] in
lemma msdUpdates_of_phase {phase : LoopPhase} (hphase : c.phase = phase)
    (hother : ∀ startMs, phase ≠ .updateMsd startMs) (nowMs : UInt32) (temperature : Int) :
    c.msdUpdates (.loop nowMs temperature : ComponentOp ω) = [] := by
  rw [msdUpdates, hphase]
  split
  · exact absurd rfl (hother _)
  · rfl

/-- **What a step does to the record.** -/
lemma recordStep_step (c : OpenDisplayComponent β) (op : ComponentOp ω) :
    RecordStep c (c.step op) (c.msdUpdates op) := by
  cases op with
  | bleConnect | bleDisconnect | bleWrite | abort | world => exact .kept rfl rfl rfl
  | loop now temperature =>
      have hnone := fun {phase : LoopPhase} (hphase : c.phase = phase) hother =>
        msdUpdates_of_phase (ω := ω) hphase hother now temperature
      have ho := loop_outcome c now temperature
      rw [step, perform]
      generalize c.loop now temperature = done at ho ⊢
      cases ho with
      | updated startMs hphase => exact recordStep_updateMsd hphase now temperature
      | started hphase | idled hphase | received _ _ hphase | stale _ _ hphase
      | draining hphase | notified _ hphase | drained _ hphase | unchanged hphase =>
          rw [hnone hphase (by simp)]
          exact .kept rfl rfl rfl
      | packet startMs handled hphase pkt =>
          rw [hnone hphase (by simp)]
          exact (sameLoop_handlePacket _ pkt now).recordStep rfl rfl rfl
      | ticked startMs hphase =>
          rw [hnone hphase (by simp)]
          exact (sameLoop_answer _ _).recordStep rfl rfl rfl
      | published hphase =>
          rw [hnone hphase (by simp), (publishState_rest _).2.2.2.2]
          exact .kept rfl rfl rfl

/-! ### Publishing -/

/-- The end of `update_msd_`: the record is handed over if it is not the one published last. -/
def publishMsd (published msd : Vector UInt8 msdBytes) : List (Vector UInt8 msdBytes) :=
  if msd = published then [] else [msd]

/-- `msd_published_`, as it is initialised. -/
def msdUnpublished : Vector UInt8 msdBytes :=
  ⟨#[0xFF, 0, 0, 0, 0, 0, 0, 0, 0, 0, 0, 0, 0, 0, 0, 0], rfl⟩

end OpenDisplayComponent

open OpenDisplayComponent

/-- The component, and what it has last handed to the BLE stack. -/
structure Advertiser (β : Type) where
  component : OpenDisplayComponent β
  published : Vector UInt8 msdBytes := msdUnpublished

namespace Advertiser

variable {β ω : Type} [OpenDisplayBackend β] [PanelWorld β ω]

/-- What a step hands to the BLE stack. -/
def advertised (s : Advertiser β) (op : ComponentOp ω) : List (Vector UInt8 msdBytes) :=
  if (s.component.msdUpdates op).isEmpty then []
  else publishMsd s.published (s.component.step op).msd

def step (s : Advertiser β) (op : ComponentOp ω) : Advertiser β where
  component := s.component.step op
  published := (s.advertised op).getLastD s.published

/-- What `setup` hands to the BLE stack, if it is up by then. -/
def bootAdvertised (b : β) (settings : ComponentSettings) (temperature : Int) (stackUp : Bool) :
    List (Vector UInt8 msdBytes) :=
  if stackUp then publishMsd msdUnpublished (setup b settings temperature).2.msd else []

/-- After `setup`. -/
def boot (b : β) (settings : ComponentSettings) (temperature : Int) (stackUp : Bool) :
    Advertiser β where
  component := (setup b settings temperature).2
  published := (bootAdvertised b settings temperature stackUp).getLastD msdUnpublished

/-- What is published after `k` updates is not what update number `k` will build. -/
structure Due (k : ℕ) (lastMs : UInt32) (s : Advertiser β) : Prop where
  counter_eq : s.component.msdLoopCounter.toNat = k % 16
  next_eq : s.component.msdNextUpdateMs = lastMs + msdUpdateIntervalMs
  stale : ∀ u : MsdUpdate, readMsd s.published ≠ u.record k

/-- The times of the updates are a second apart, but for an update at time zero. -/
def Spaced (lastMs atMs : UInt32) : Prop :=
  atMs = 0 ∨ 0 ≤ (atMs - (lastMs + msdUpdateIntervalMs)).toInt32

variable {k : ℕ} {lastMs : UInt32} {s : Advertiser β}

/-- A step without an update. -/
lemma Due.kept (h : Due k lastMs s) {op : ComponentOp ω} (hnone : s.component.msdUpdates op = []) :
    s.advertised op = [] ∧ Due k lastMs (s.step op) ∧
      (s.step op).published = s.published ∧ (s.step op).component.msd = s.component.msd := by
  have hsilent : s.advertised op = [] := by
    rw [advertised, hnone]
    rfl
  have hpublished : (s.step op).published = s.published := by
    rw [step, hsilent]
    rfl
  have hstep := recordStep_step s.component op
  rw [hnone] at hstep
  cases hstep with
  | kept hmsd hcounter hnext =>
      refine ⟨hsilent, ⟨?_, ?_, ?_⟩, hpublished, hmsd⟩
      · exact (congrArg UInt8.toNat hcounter).trans h.counter_eq
      · exact hnext.trans h.next_eq
      · rw [hpublished]
        exact h.stale

/-- An update is advertised. -/
lemma Due.updated (h : Due k lastMs s) {op : ComponentOp ω} {u : MsdUpdate}
    (hone : s.component.msdUpdates op = [u]) :
    (s.advertised op).map readMsd = [u.record k] ∧ Spaced lastMs u.atMs ∧
      Due (k + 1) u.atMs (s.step op) ∧ (s.step op).published = (s.step op).component.msd := by
  have hstep := recordStep_step s.component op
  rw [hone] at hstep
  cases hstep with
  | updated _ hdue hmsd hcounter hnext =>
      have hrecord : readMsd (s.component.step op).msd = u.record k := by
        rw [hmsd, h.counter_eq, MsdUpdate.record, MsdUpdate.record, Nat.mod_mod]
      have hnew : (s.component.step op).msd ≠ s.published := by
        intro hsame
        exact h.stale u (hsame ▸ hrecord)
      have hadvertised : s.advertised op = [(s.component.step op).msd] := by
        rw [advertised, hone, publishMsd, if_neg hnew]
        rfl
      have hpublished : (s.step op).published = (s.component.step op).msd := by
        rw [step, hadvertised]
        rfl
      refine ⟨?_, ?_, ⟨?_, hnext, ?_⟩, hpublished⟩
      · rw [hadvertised, List.map_singleton, hrecord]
      · rwa [h.next_eq] at hdue
      · show (s.component.step op).msdLoopCounter.toNat = _
        have hmask : ∀ n : ℕ, n &&& 15 = n % 16 := fun n => Nat.and_two_pow_sub_one_eq_mod n 4
        have hone : (1 : UInt8).toNat = 1 := rfl
        have hfifteen : (0x0F : UInt8).toNat = 15 := rfl
        rw [hcounter, UInt8.toNat_and, UInt8.toNat_add, h.counter_eq, hone, hfifteen, hmask]
        omega
      -- the counter has moved
      · intro u' hsame
        rw [hpublished, hrecord] at hsame
        have hmoved := congrArg MsdRecord.loopCounter hsame
        change k % 16 = (k + 1) % 16 at hmoved
        omega

/-- What a run hands to the BLE stack, from the update number `k` on. -/
lemma Due.run (h : Due k lastMs s) (ops : List (ComponentOp ω)) :
    let updates := Machine.outputs OpenDisplayComponent.step msdUpdates s.component ops
    let final := Machine.exec step s ops
    (Machine.outputs step advertised s ops).map readMsd =
        (updates.mapIdx fun i u => u.record (k + i)) ∧
      (lastMs :: updates.map MsdUpdate.atMs).IsChain Spaced ∧
      (s.published = s.component.msd ∨ updates ≠ [] → final.published = final.component.msd) := by
  induction ops generalizing k lastMs s with
  | nil => exact ⟨rfl, .singleton lastMs, fun h => h.resolve_right fun hne => hne rfl⟩
  | cons op ops ih =>
      have hstep := recordStep_step s.component op
      generalize hupdates : s.component.msdUpdates op = us at hstep
      simp only [Machine.outputs_cons, Machine.exec_cons, hupdates]
      cases hstep with
      | kept =>
          obtain ⟨hsilent, hdue, hpublished, hmsd⟩ := h.kept hupdates
          obtain ⟨hrecords, hspaced, hcurrent⟩ := ih hdue
          rw [hsilent, List.nil_append, List.nil_append]
          exact ⟨hrecords, hspaced, fun hor => hcurrent (by rwa [hpublished, hmsd])⟩
      | updated u =>
          obtain ⟨hrecord, hspace, hdue, hpublished⟩ := h.updated hupdates
          obtain ⟨hrecords, hspaced, hcurrent⟩ := ih hdue
          refine ⟨?_, ?_, fun _ => hcurrent (.inl hpublished)⟩
          · rw [List.map_append, hrecord, hrecords, List.singleton_append, List.singleton_append,
              List.mapIdx_cons]
            simp only [Nat.add_zero, Nat.add_assoc, Nat.add_comm 1]
            rfl
          · exact List.isChain_cons_cons.mpr ⟨hspace, hspaced⟩

omit [OpenDisplayBackend β] in
/-- `setup` makes update number `0`. -/
lemma setup_record (b : β) (settings : ComponentSettings) (temperature : Int) :
    let c := (setup b settings temperature).2
    readMsd c.msd = (MsdUpdate.mk 0 temperature true).record 0 ∧ c.msdLoopCounter = 1 ∧
      c.msdNextUpdateMs = msdUpdateIntervalMs := by
  intro c
  have hc : c = (setup b settings temperature).2 := rfl
  rw [setup, (publishState_rest _).2.2.2.2, updateMsd, if_neg (by simp)] at hc
  rw [hc]
  have hcounter : ((0 : UInt8) + 1) &&& 0x0F = 1 := by decide
  exact ⟨readMsd_buildMsd _, hcounter, UInt32.zero_add _⟩

omit [OpenDisplayBackend β] in
/-- What `setup` hands over is the record of update number `0`. -/
lemma due_boot (b : β) (settings : ComponentSettings) (temperature : Int) (stackUp : Bool) :
    Due 1 0 (boot b settings temperature stackUp) ∧
      (bootAdvertised b settings temperature stackUp).map readMsd =
        (if stackUp then [(MsdUpdate.mk 0 temperature true).record 0] else []) ∧
      (stackUp = true → (boot b settings temperature stackUp).published =
        (boot b settings temperature stackUp).component.msd) := by
  obtain ⟨hmsd, hcounter, hnext⟩ := setup_record b settings temperature
  have hunpublished : ∀ (u : MsdUpdate) (k : ℕ), readMsd msdUnpublished ≠ u.record k := by
    intro u k hsame
    have hid : (readMsd msdUnpublished).companyId ≠ odBleManufacturerId := by decide
    exact hid (congrArg MsdRecord.companyId hsame)
  have hnew : (setup b settings temperature).2.msd ≠ msdUnpublished := by
    intro hsame
    exact hunpublished _ _ (hsame ▸ hmsd)
  have hadvertised : bootAdvertised b settings temperature stackUp =
      if stackUp then [(setup b settings temperature).2.msd] else [] := by
    rw [bootAdvertised, publishMsd, if_neg hnew]
  have hpublished : (boot b settings temperature stackUp).published =
      if stackUp then (setup b settings temperature).2.msd else msdUnpublished := by
    rw [boot, hadvertised]
    cases stackUp <;> rfl
  refine ⟨⟨?_, ?_, fun u => ?_⟩, ?_, ?_⟩
  · exact congrArg UInt8.toNat hcounter
  · exact hnext.trans (UInt32.zero_add _).symm
  · rw [hpublished]
    split_ifs
    · intro hsame
      rw [hmsd] at hsame
      exact Nat.zero_ne_one (congrArg MsdRecord.loopCounter hsame)
    · exact hunpublished u 1
  · rw [hadvertised]
    split_ifs
    · rw [List.map_singleton, hmsd]
    · rfl
  · intro hup
    rw [hpublished, if_pos hup]
    rfl

/-- **The advertisement follows the record.**  Once the BLE stack is up, each update is handed to
it, with its number and with what the component was told then, and updates are a second apart.
What was handed over last is the record that a client reads. -/
theorem advertisements_follow (b : β) (settings : ComponentSettings) (temperature : Int)
    (stackUp : Bool) (ops : List (ComponentOp ω)) :
    let s := boot b settings temperature stackUp
    let updates := Machine.outputs OpenDisplayComponent.step msdUpdates s.component ops
    let final := Machine.exec step s ops
    (bootAdvertised b settings temperature stackUp ++ Machine.outputs step advertised s ops).map
        readMsd =
      (((MsdUpdate.mk 0 temperature true :: updates).mapIdx fun k u => u.record k).drop
        (if stackUp then 0 else 1)) ∧
      (0 :: updates.map MsdUpdate.atMs).IsChain Spaced ∧
      (stackUp = true ∨ updates ≠ [] → final.published = final.component.msd) := by
  intro s updates final
  obtain ⟨hdue, hfirst, hpublished⟩ := due_boot b settings temperature stackUp
  obtain ⟨hrecords, hspaced, hcurrent⟩ := hdue.run ops
  refine ⟨?_, hspaced, fun h => hcurrent (h.imp_left hpublished)⟩
  rw [List.map_append, hfirst, hrecords, List.mapIdx_cons]
  simp only [Nat.add_comm 1]
  cases stackUp <;> rfl

end Advertiser

end OpenDisplay
