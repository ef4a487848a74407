import ModbusBridge.Devices.RegisterMap
import ModbusBridge.Library.StepSystem

/-!
# Detecting the SolPlanet ASW inverter

The first call that knows the phases reads the numbers of inputs and strings, and keeps them from
then on: also the defaults that it takes when a read fails, and numbers that are cut to 8 bits.
-/

namespace ModbusBridge

/-- The inverter holds these numbers of inputs and of strings. -/
def Bus.Holds (bus : Bus) (v s : Word) : Prop :=
  bus.image (SolplanetASW.inputRegisterToModbus 31074) = v ∧
    bus.image (SolplanetASW.inputRegisterToModbus 31075) = s

/-- Every transaction succeeds. -/
def Bus.Delivers (bus : Bus) : Prop := ∀ address, bus.fails address = false

namespace SolplanetASW

/-- The constructor. -/
def create : SolplanetASW where
  isThreePhase := false
  phaseDetected := false
  mpptCount := 0
  stringCount := 0
  configDetected := false

/-- `begin`. The Modbus client may not be initialized. -/
def begin (clientInitialized : Bool) (bus : Bus) (device : SolplanetASW) : Bool × SolplanetASW :=
  if !clientInitialized then (false, device) else (true, (device.detectPhaseConfiguration bus).2)

/-- A call, with what the bus does in it. -/
inductive Call
  | begin (clientInitialized : Bool) (bus : Bus)
  | readBasic (bus : Bus)

/-- The bus of a call. -/
def Call.bus : Call → Bus
  | begin _ bus | readBasic bus => bus

/-! ## The counts -/

/-- The number of inputs that an inverter with this register has. -/
def inputCount (v : Word) : Nat := if 1 ≤ v.toNat ∧ v.toNat ≤ 10 then v.toNat else 2

/-- The number of strings. -/
def stringNumber (s : Word) : Nat := min s.toNat 20

/-- The counts are those of the inverter. -/
def Counts (device : SolplanetASW) (v s : Word) : Prop :=
  device.mpptCount.toNat = inputCount v ∧ device.stringCount.toNat = stringNumber s

/-- A failed read counts as 2 inputs, and a number of more than 8 bits as its low byte. -/
def InputsDetectable (bus : Bus) (v : Word) : Prop :=
  if bus.fails (inputRegisterToModbus 31074) then inputCount v = 2
  else v.toNat < 256 ∨ v.toNat % 256 = 0 ∨ v.toNat % 256 = 2 ∨ 10 < v.toNat % 256

/-- A failed read counts as no string, and a number of more than 8 bits as its low byte. -/
def StringsDetectable (bus : Bus) (s : Word) : Prop :=
  if bus.fails (inputRegisterToModbus 31075) then s.toNat = 0
  else s.toNat < 256 ∨ 20 ≤ s.toNat % 256

variable {bus : Bus} {v s : Word} {device : SolplanetASW}

theorem readInputRegister_eq (inputRegister : Word) :
    readInputRegister bus inputRegister =
      if bus.fails (inputRegisterToModbus inputRegister) then none
      else some (bus.image (inputRegisterToModbus inputRegister)) := by
  rw [readInputRegister, Bus.readInputRegisters]
  split_ifs
  · rfl
  · simp

theorem lowByte_toNat (word : Word) :
    (UInt8.ofBitVec (word.setWidth 8)).toNat = word.toNat % 256 := by
  simp [UInt8.toNat]

/-- The count of inputs after a read. -/
theorem readInputs_toNat (v : Word) :
    (let count : UInt8 := .ofBitVec (v.setWidth 8)
      if count = 0 ∨ count > 10 then 2 else count).toNat =
        if v.toNat % 256 = 0 ∨ 10 < v.toNat % 256 then 2 else v.toNat % 256 := by
  have low := lowByte_toNat v
  have unusual : (UInt8.ofBitVec (v.setWidth 8) = 0 ∨ UInt8.ofBitVec (v.setWidth 8) > 10) ↔
      v.toNat % 256 = 0 ∨ 10 < v.toNat % 256 := by
    rw [← UInt8.toNat_inj, gt_iff_lt, UInt8.lt_iff_toNat_lt, low]
    rfl
  dsimp only
  rw [apply_ite UInt8.toNat]
  exact if_congr unusual rfl low

/-- The count of strings after a read. -/
theorem readStrings_toNat (s : Word) :
    (let count : UInt8 := .ofBitVec (s.setWidth 8)
      if count > 20 then 20 else count).toNat = min (s.toNat % 256) 20 := by
  have low := lowByte_toNat s
  have many : UInt8.ofBitVec (s.setWidth 8) > 20 ↔ 20 < s.toNat % 256 := by
    rw [gt_iff_lt, UInt8.lt_iff_toNat_lt, low]
    rfl
  dsimp only
  rw [apply_ite UInt8.toNat, if_congr many (show (20 : UInt8).toNat = 20 from rfl) low]
  split_ifs <;> omega

/-- The detection finds the counts of the inverter, if and only if the inverter and the failures
are such that it can. -/
theorem detectDeviceConfiguration_counts_iff (fresh : device.configDetected = false)
    (holds : bus.Holds v s) :
    (device.detectDeviceConfiguration bus).2.Counts v s ↔
      InputsDetectable bus v ∧ StringsDetectable bus s := by
  obtain ⟨rfl, rfl⟩ := holds
  rw [detectDeviceConfiguration, fresh, if_neg Bool.false_ne_true, readInputRegister_eq,
    readInputRegister_eq]
  refine and_congr ?_ ?_
  · rw [InputsDetectable]
    cases bus.fails (inputRegisterToModbus 31074) with
    | true => exact eq_comm
    | false =>
        have small := (bus.image (inputRegisterToModbus 31074)).isLt
        dsimp only
        rw [if_neg Bool.false_ne_true, if_neg Bool.false_ne_true, inputCount]
        dsimp only
        rw [readInputs_toNat]
        split_ifs <;> omega
  · rw [StringsDetectable]
    cases bus.fails (inputRegisterToModbus 31075) with
    | true =>
        dsimp only
        rw [if_pos rfl, if_pos rfl, stringNumber]
        change 0 = _ ↔ _
        omega
    | false =>
        have small := (bus.image (inputRegisterToModbus 31075)).isLt
        dsimp only
        rw [if_neg Bool.false_ne_true, if_neg Bool.false_ne_true, stringNumber]
        dsimp only
        rw [readStrings_toNat]
        omega

/-! ## Runs -/

/-- The driver after some calls. -/
structure History where
  device : SolplanetASW
  /-- A call of `readBasic` has known the phases while every transaction succeeded. -/
  served : Prop

/-- The calls of the poller. -/
def calls (single : SinglePrecision) : StepSystem History Call where
  start := ⟨create, False⟩
  next history
    | .begin clientInitialized bus =>
        some { history with device := (history.device.begin clientInitialized bus).2 }
    | .readBasic bus =>
        (history.device.readBasic single bus).map fun read =>
          { device := read.2
            served := history.served ∨
              (history.device.detectPhaseConfiguration bus).1 = true ∧ bus.Delivers }

/-- The inverter is the same in every call. The call that reads the numbers of inputs and strings
can detect them. -/
def Detects (v s : Word) (history : History) (call : Call) : Prop :=
  call.bus.Holds v s ∧
    match call with
    | .begin _ _ => True
    | .readBasic bus =>
        (history.device.detectPhaseConfiguration bus).1 = true →
          history.device.configDetected = false →
            InputsDetectable bus v ∧ StringsDetectable bus s

theorem detectPhaseConfiguration_frame :
    (device.detectPhaseConfiguration bus).2.mpptCount = device.mpptCount ∧
      (device.detectPhaseConfiguration bus).2.stringCount = device.stringCount ∧
      (device.detectPhaseConfiguration bus).2.configDetected = device.configDetected := by
  rw [detectPhaseConfiguration]
  split_ifs
  · exact ⟨rfl, rfl, rfl⟩
  · split
    · split_ifs <;> exact ⟨rfl, rfl, rfl⟩
    · exact ⟨rfl, rfl, rfl⟩

theorem detectDeviceConfiguration_detected :
    (device.detectDeviceConfiguration bus).2.configDetected = true := by
  rw [detectDeviceConfiguration]
  split_ifs with detected
  · exact detected
  · rfl

/-- What `readBasic` leaves of the driver. -/
def afterBasic (device : SolplanetASW) (bus : Bus) : SolplanetASW :=
  let phase := device.detectPhaseConfiguration bus
  if phase.1 then (phase.2.detectDeviceConfiguration bus).2 else phase.2

theorem readBasic_eq (single : SinglePrecision) (device : SolplanetASW) (bus : Bus) :
    ∃ part, device.readBasic single bus = some (part, device.afterBasic bus) := by
  obtain ⟨part, after, found, -⟩ := readBasic_lists single bus device
  refine ⟨part, found.trans (congrArg (fun left => some (part, left)) ?_)⟩
  rw [readBasic] at found
  dsimp only at found
  rw [afterBasic]
  cases known : (device.detectPhaseConfiguration bus).1 with
  | false =>
      rw [known] at found
      exact (congrArg Prod.snd (Option.some.inj found)).symm
  | true =>
      rw [known] at found
      obtain ⟨made, -, same⟩ := Option.map_eq_some_iff.mp found
      exact (congrArg Prod.snd same).symm

/-- What has been detected is right, and a call that was served has detected it. -/
structure Right (v s : Word) (history : History) : Prop where
  counts : history.device.configDetected = true → history.device.Counts v s
  detected : history.served → history.device.configDetected = true

theorem begin_frame (clientInitialized : Bool) :
    (device.begin clientInitialized bus).2.mpptCount = device.mpptCount ∧
      (device.begin clientInitialized bus).2.stringCount = device.stringCount ∧
      (device.begin clientInitialized bus).2.configDetected = device.configDetected := by
  rw [begin]
  split_ifs
  · exact ⟨rfl, rfl, rfl⟩
  · exact detectPhaseConfiguration_frame

theorem Counts.congr {other : SolplanetASW} (counts : device.Counts v s)
    (inputs : other.mpptCount = device.mpptCount)
    (strings : other.stringCount = device.stringCount) : other.Counts v s := by
  rw [Counts, inputs, strings]
  exact counts

/-- After a call that knows the phases, the counts are detected, and right if they were or could be
detected. -/
theorem afterBasic_known (holds : bus.Holds v s)
    (known : (device.detectPhaseConfiguration bus).1 = true)
    (counts : device.configDetected = true → device.Counts v s)
    (detects : device.configDetected = false → InputsDetectable bus v ∧ StringsDetectable bus s) :
    (device.afterBasic bus).Counts v s ∧ (device.afterBasic bus).configDetected = true := by
  obtain ⟨inputs, strings, detected⟩ := @detectPhaseConfiguration_frame bus device
  rw [afterBasic, if_pos known]
  refine ⟨?_, detectDeviceConfiguration_detected⟩
  cases already : device.configDetected with
  | true =>
      rw [detectDeviceConfiguration, if_pos (detected.trans already)]
      exact (counts already).congr inputs strings
  | false =>
      exact (detectDeviceConfiguration_counts_iff (detected.trans already) holds).mpr
        (detects already)

/-- A call that does not know the phases leaves the counts. -/
theorem afterBasic_unknown (unknown : ¬ (device.detectPhaseConfiguration bus).1 = true) :
    (device.afterBasic bus).mpptCount = device.mpptCount ∧
      (device.afterBasic bus).stringCount = device.stringCount ∧
      (device.afterBasic bus).configDetected = device.configDetected := by
  rw [afterBasic, if_neg unknown]
  exact detectPhaseConfiguration_frame

/-- A call that can detect the counts leaves them right. -/
theorem Right.step {single : SinglePrecision} {before after : History} {call : Call}
    (right : Right v s before) (detects : Detects v s before call)
    (moves : (calls single).next before call = some after) : Right v s after := by
  obtain ⟨holds, detects⟩ := detects
  cases call with
  | begin clientInitialized bus =>
      obtain rfl := Option.some.inj moves
      obtain ⟨inputs, strings, detected⟩ :=
        @begin_frame bus before.device clientInitialized
      constructor
      · intro already
        exact (right.counts (detected.symm.trans already)).congr inputs strings
      · exact fun served => detected.trans (right.detected served)
  | readBasic bus =>
      obtain ⟨part, made⟩ := readBasic_eq single before.device bus
      obtain ⟨read, found, rfl⟩ := Option.map_eq_some_iff.mp moves
      obtain rfl := Option.some.inj (made.symm.trans found)
      by_cases known : (before.device.detectPhaseConfiguration bus).1 = true
      · obtain ⟨counts, detected⟩ := afterBasic_known holds known right.counts (detects known)
        exact ⟨fun _ => counts, fun _ => detected⟩
      · obtain ⟨inputs, strings, detected⟩ := afterBasic_unknown known
        constructor
        · intro already
          exact (right.counts (detected.symm.trans already)).congr inputs strings
        · rintro (served | ⟨passed, -⟩)
          · exact detected.trans (right.detected served)
          · exact absurd passed known

/-- If the call that reads the numbers can detect them, they are right once a call was served, and
stay right whatever fails. -/
theorem counts_right (single : SinglePrecision) {history : History}
    (reach : (calls single).Reaches (Detects v s) history) (served : history.served) :
    history.device.Counts v s := by
  have right : Right v s history :=
    reach.invariant ⟨fun detected => absurd detected Bool.false_ne_true, False.elim⟩
      fun _ _ _ right detects moves => right.step detects moves
  exact right.counts (right.detected served)

/-- An inverter with one phase, 3 inputs and 4 strings. -/
def threeInputs (fails : Word → Bool) : Bus where
  image address :=
    if address = inputRegisterToModbus 31001 then 49
    else if address = inputRegisterToModbus 31074 then 3
    else if address = inputRegisterToModbus 31075 then 4
    else 0
  fails := fails

theorem reaches_readBasic {single : SinglePrecision} {Allowed : History → Call → Prop}
    {history : History} (reach : (calls single).Reaches Allowed history) (bus : Bus)
    (allowed : Allowed history (.readBasic bus)) :
    (calls single).Reaches Allowed
      { device := history.device.afterBasic bus
        served := history.served ∨
          (history.device.detectPhaseConfiguration bus).1 = true ∧ bus.Delivers } := by
  obtain ⟨part, made⟩ := readBasic_eq single history.device bus
  exact .step reach allowed (congrArg (Option.map _) made)

/-- Nothing can be read when the driver begins, in the first call and in the third. The second call
is served. -/
theorem counts_right_three :
    ∃ history, (calls wholeNumbers).Reaches (Detects 3 4) history ∧ history.served ∧
      history.device.Counts 3 4 := by
  let down := threeInputs fun _ => true
  let up := threeInputs fun _ => false
  have holds : ∀ fails, (threeInputs fails).Holds 3 4 := fun _ => ⟨rfl, rfl⟩
  have begun : (calls wholeNumbers).Reaches (Detects 3 4)
      ⟨(create.begin true down).2, False⟩ :=
    .step .start (show Detects 3 4 _ (.begin true down) from ⟨holds _, trivial⟩) rfl
  have first := reaches_readBasic begun down ⟨holds _, fun known => absurd known (by decide)⟩
  have second := reaches_readBasic first up
    ⟨holds _, fun _ _ => ⟨.inl (by decide), .inl (by decide)⟩⟩
  have third := reaches_readBasic second down
    ⟨holds _, fun _ fresh => absurd fresh (by decide)⟩
  refine ⟨_, third, ?_, counts_right wholeNumbers third ?_⟩
  all_goals exact Or.inl (Or.inr ⟨by decide, fun _ => rfl⟩)

/-- After one failed read the inverter has two inputs for good, although it has three. -/
theorem counts_latched :
    ∃ history, (calls wholeNumbers).Reaches (fun _ call => call.bus.Holds 3 4) history ∧
      history.served ∧ inputCount 3 = 3 ∧ history.device.mpptCount = 2 := by
  have holds : ∀ fails, (threeInputs fails).Holds 3 4 := fun _ => ⟨rfl, rfl⟩
  have first := reaches_readBasic
    (.start : (calls wholeNumbers).Reaches (fun _ call => call.bus.Holds 3 4) _)
    (threeInputs fun address => address = inputRegisterToModbus 31074) (holds _)
  have second := reaches_readBasic first (threeInputs fun _ => false) (holds _)
  exact ⟨_, second, .inr ⟨by decide, fun _ => rfl⟩, by decide, by decide⟩

end SolplanetASW

end ModbusBridge
