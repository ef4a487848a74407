import Mathlib.Data.List.Nodup
import ModbusBridge.Devices.DDS238Simulator

/-!
# The Hiking DDS238 meter

The driver of the meter that the simulator stands for, and what both make of the same registers. The
simulator takes the first word of a counter for the lower one.
-/

namespace ModbusBridge

open GenericModbusDevice (decimalInt toByte)

/-- `HikingDDS238`. -/
structure HikingDDS238 where
  slaveAddr : UInt8

namespace HikingDDS238

/-- The constructor. -/
def create (lib : ArduinoJson) (config : Config) : HikingDDS238 :=
  ⟨toByte (config.getInt lib (ascii "rtu_addr") 1)⟩

/-- `words[i]`. -/
def wordAt {count : Nat} (words : Fin count → Word) (i : Nat) : Word :=
  if inside : i < count then words ⟨i, inside⟩ else 0

variable (float : SinglePrecision) (hiking : HikingDDS238) (meter : Meter)

/-- `readInstantaneousValues`: its result and the points. -/
def readInstantaneousValues (out : List MeterPoint) : Bool × List MeterPoint :=
  match meter.readHoldingRegisters hiking.slaveAddr 0x000C 6 with
  | none => (false, out)
  | some instantaneous =>
      let voltage := wordAt instantaneous 0
      let out := push out (voltage != 0xFFFF)
        (scaledPoint float (ascii "voltage") (ascii "V") voltage.toNat 1 1)
      let current := wordAt instantaneous 1
      let out := push out (current != 0xFFFF)
        (scaledPoint float (ascii "current") (ascii "A") current.toNat 2 2)
      let power := wordAt instantaneous 2
      let out := push out (power != 0xFFFF)
        (wholePoint (ascii "power") (ascii "W") power.toInt)
      let apparentPower := wordAt instantaneous 3
      let out := push out (apparentPower != 0xFFFF)
        (wholePoint (ascii "apparent_power") (ascii "VA") apparentPower.toNat)
      let powerFactor := wordAt instantaneous 4
      let out := push out (powerFactor != 0xFFFF)
        (scaledPoint float (ascii "power_factor") [] powerFactor.toNat 3 3)
      let frequency := wordAt instantaneous 5
      let out := push out (frequency != 0xFFFF)
        (scaledPoint float (ascii "frequency") (ascii "Hz") frequency.toNat 2 2)
      (true, out)

/-- `readEnergyValues`: its result and the points. -/
def readEnergyValues (out : List MeterPoint) : Bool × List MeterPoint :=
  match meter.readHoldingRegisters hiking.slaveAddr 0x0000 2 with
  | none => (false, out)
  | some energyTotal =>
      let totalEnergy := doubleWord (wordAt energyTotal 0) (wordAt energyTotal 1)
      let out := push out (totalEnergy != 0xFFFFFFFF)
        (scaledPoint float (ascii "energy_total") (ascii "kWh") totalEnergy.toNat 2 2)
      match meter.readHoldingRegisters hiking.slaveAddr 0x0008 2 with
      | none => (false, out)
      | some energyExport =>
          let exportEnergy := doubleWord (wordAt energyExport 0) (wordAt energyExport 1)
          let out := push out (exportEnergy != 0xFFFFFFFF)
            (scaledPoint float (ascii "energy_export") (ascii "kWh") exportEnergy.toNat 2 2)
          match meter.readHoldingRegisters hiking.slaveAddr 0x000A 2 with
          | none => (false, out)
          | some energyImport =>
              let importEnergy := doubleWord (wordAt energyImport 0) (wordAt energyImport 1)
              let out := push out (importEnergy != 0xFFFFFFFF)
                (scaledPoint float (ascii "energy_import") (ascii "kWh") importEnergy.toNat 2 2)
              (true, out)

/-- `readBasic`: its result and the points. -/
def readBasic : Bool × List MeterPoint :=
  let instantaneous := readInstantaneousValues float hiking meter []
  let energy := readEnergyValues float hiking meter instantaneous.2
  (instantaneous.1 && energy.1 && !energy.2.isEmpty, energy.2)

end HikingDDS238

/-! ## Points by their names -/

/-- The first point of that name. -/
def pointOf (name : Bytes) (points : List MeterPoint) : Option MeterPoint :=
  points.find? fun point => point.name == name

/-- The points of a table that are valid. -/
def pushes (table : List (Bool × MeterPoint)) : List MeterPoint :=
  table.foldl (fun out entry => push out entry.1 entry.2) []

theorem pushes_eq (table : List (Bool × MeterPoint)) :
    pushes table = (table.filter Prod.fst).map Prod.snd := by
  have from_ : ∀ out, table.foldl (fun out entry => push out entry.1 entry.2) out =
      out ++ (table.filter Prod.fst).map Prod.snd := by
    induction table with
    | nil => simp
    | cons entry table induction =>
        intro out
        rw [List.foldl_cons, induction]
        cases valid : entry.1 <;> simp [push, valid]
  exact from_ []

/-- A point that may be valid. -/
def reading (valid : Bool) (point : MeterPoint) : Option MeterPoint :=
  if valid then some point else none

/-- In a table with different names, every entry is found under its name. -/
theorem pointOf_pushes {table : List (Bool × MeterPoint)}
    (distinct : (table.map fun entry => entry.2.name).Nodup) {entry : Bool × MeterPoint}
    (member : entry ∈ table) :
    pointOf entry.2.name (pushes table) = reading entry.1 entry.2 := by
  rw [pushes_eq, pointOf, List.find?_map, List.find?_filter]
  induction table with
  | nil => cases member
  | cons head table induction =>
      rw [List.map_cons, List.nodup_cons] at distinct
      obtain ⟨new, distinct⟩ := distinct
      rw [List.find?_cons]
      rcases List.mem_cons.mp member with rfl | later
      · cases valid : entry.1 with
        | true => simp [reading]
        | false =>
            have none : ∀ next ∈ table, next.2.name ≠ entry.2.name := fun next later same =>
              new (List.mem_map.mpr ⟨next, later, same⟩)
            simpa [valid, reading] using fun next inside => none (true, next) inside
      · have other : head.2.name ≠ entry.2.name := by
          intro same
          exact new (List.mem_map.mpr ⟨entry, later, same.symm⟩)
        simpa [other] using induction distinct later

/-- The names of the same quantity, at the meter and at its simulator. -/
def counterparts : List (Bytes × Bytes) :=
  [(ascii "energy_total", ascii "total_energy"), (ascii "energy_export", ascii "export_energy"),
    (ascii "energy_import", ascii "import_energy"), (ascii "voltage", ascii "voltage"),
    (ascii "current", ascii "current"), (ascii "power", ascii "active_power"),
    (ascii "power_factor", ascii "power_factor"), (ascii "frequency", ascii "frequency")]

/-- A meter that answers every request. -/
def answering (image : Word → Word) : Meter := ⟨image, fun _ => false⟩

/-- What the meter's driver pushes. -/
def HikingDDS238.table (float : SinglePrecision) (image : Word → Word) :
    List (Bool × MeterPoint) :=
  let totalEnergy := doubleWord (image 0x0000) (image 0x0001)
  let exportEnergy := doubleWord (image 0x0008) (image 0x0009)
  let importEnergy := doubleWord (image 0x000A) (image 0x000B)
  [(image 0x000C != 0xFFFF,
      scaledPoint float (ascii "voltage") (ascii "V") (image 0x000C).toNat 1 1),
    (image 0x000D != 0xFFFF,
      scaledPoint float (ascii "current") (ascii "A") (image 0x000D).toNat 2 2),
    (image 0x000E != 0xFFFF, wholePoint (ascii "power") (ascii "W") (image 0x000E).toInt),
    (image 0x000F != 0xFFFF,
      wholePoint (ascii "apparent_power") (ascii "VA") (image 0x000F).toNat),
    (image 0x0010 != 0xFFFF,
      scaledPoint float (ascii "power_factor") [] (image 0x0010).toNat 3 3),
    (image 0x0011 != 0xFFFF,
      scaledPoint float (ascii "frequency") (ascii "Hz") (image 0x0011).toNat 2 2),
    (totalEnergy != 0xFFFFFFFF,
      scaledPoint float (ascii "energy_total") (ascii "kWh") totalEnergy.toNat 2 2),
    (exportEnergy != 0xFFFFFFFF,
      scaledPoint float (ascii "energy_export") (ascii "kWh") exportEnergy.toNat 2 2),
    (importEnergy != 0xFFFFFFFF,
      scaledPoint float (ascii "energy_import") (ascii "kWh") importEnergy.toNat 2 2)]

theorem HikingDDS238.readBasic_eq (float : SinglePrecision) (hiking : HikingDDS238)
    (image : Word → Word) :
    (readBasic float hiking (answering image)).2 = pushes (table float image) := rfl

theorem HikingDDS238.pointOf_readBasic (float : SinglePrecision) (hiking : HikingDDS238)
    (image : Word → Word) {entry : Bool × MeterPoint} (member : entry ∈ table float image) :
    pointOf entry.2.name (readBasic float hiking (answering image)).2 =
      reading entry.1 entry.2 := by
  have names : (table float image).map (fun entry => entry.2.name) =
      [ascii "voltage", ascii "current", ascii "power", ascii "apparent_power",
        ascii "power_factor", ascii "frequency", ascii "energy_total", ascii "energy_export",
        ascii "energy_import"] := rfl
  rw [readBasic_eq]
  exact pointOf_pushes (names ▸ by decide) member

/-- What the simulator's driver pushes. -/
def DDS238Simulator.table (float : SinglePrecision) (image : Word → Word) :
    List (Bool × MeterPoint) :=
  let totalEnergy := combine32BitValue (image 0x0000) (image 0x0001)
  let exportEnergy := combine32BitValue (image 0x0008) (image 0x0009)
  let importEnergy := combine32BitValue (image 0x000A) (image 0x000B)
  [(isValidRegisterValue32 totalEnergy,
      scaledPoint float (ascii "total_energy") (ascii "kWh") totalEnergy.toNat 2 2),
    (isValidRegisterValue32 exportEnergy,
      scaledPoint float (ascii "export_energy") (ascii "kWh") exportEnergy.toNat 2 2),
    (isValidRegisterValue32 importEnergy,
      scaledPoint float (ascii "import_energy") (ascii "kWh") importEnergy.toNat 2 2),
    (isValidRegisterValue (image 0x000C),
      scaledPoint float (ascii "voltage") (ascii "V") (image 0x000C).toNat 1 1),
    (isValidRegisterValue (image 0x000D),
      scaledPoint float (ascii "current") (ascii "A") (image 0x000D).toNat 2 2),
    (image 0x000E != 0x8000,
      wholePoint (ascii "active_power") (ascii "W") (image 0x000E).toInt),
    (image 0x000F != 0x8000,
      wholePoint (ascii "reactive_power") (ascii "VAR") (image 0x000F).toInt),
    (isValidRegisterValue (image 0x0010),
      scaledPoint float (ascii "power_factor") [] (image 0x0010).toNat 3 3),
    (isValidRegisterValue (image 0x0011),
      scaledPoint float (ascii "frequency") (ascii "Hz") (image 0x0011).toNat 2 2)]

theorem DDS238Simulator.readBasic_eq (float : SinglePrecision) (simulator : DDS238Simulator)
    (image : Word → Word) :
    (readBasic float simulator (answering image)).2 = pushes (table float image) := rfl

theorem DDS238Simulator.pointOf_readBasic (float : SinglePrecision) (simulator : DDS238Simulator)
    (image : Word → Word) {entry : Bool × MeterPoint} (member : entry ∈ table float image) :
    pointOf entry.2.name (readBasic float simulator (answering image)).2 =
      reading entry.1 entry.2 := by
  have names : (table float image).map (fun entry => entry.2.name) =
      [ascii "total_energy", ascii "export_energy", ascii "import_energy", ascii "voltage",
        ascii "current", ascii "active_power", ascii "reactive_power", ascii "power_factor",
        ascii "frequency"] := rfl
  rw [readBasic_eq]
  exact pointOf_pushes (names ▸ by decide) member

/-! ## Agreement -/

/-- Two points have the same unit and the same text, made of the same value. -/
structure SameReading (ours theirs : MeterPoint) : Prop where
  unit : ours.unit = theirs.unit
  value : ours.value = theirs.value
  raw : ours.raw = theirs.raw

theorem sameReading_scaledPoint {float : SinglePrecision} {ours theirs unit : Bytes}
    {raw other : Int} {scale decimals : Nat} :
    SameReading (scaledPoint float ours unit raw scale decimals)
      (scaledPoint float theirs unit other scale decimals) ↔ raw = other := by
  constructor
  · exact SameReading.raw
  · rintro rfl
    exact ⟨rfl, rfl, rfl⟩

theorem sameReading_wholePoint (ours theirs unit : Bytes) (raw : Int) :
    SameReading (wholePoint ours unit raw) (wholePoint theirs unit raw) :=
  ⟨rfl, rfl, rfl⟩

theorem reading_eq_some {valid : Bool} {point found : MeterPoint} :
    reading valid point = some found ↔ valid = true ∧ point = found := by
  cases valid <;> simp [reading]

theorem doubleWord_toNat (high low : Word) :
    (doubleWord high low).toNat = high.toNat * 65536 + low.toNat := by
  have extended : ∀ word : Word, (word.setWidth 32).toNat = word.toNat := by
    intro word
    rw [BitVec.toNat_setWidth]
    exact Nat.mod_eq_of_lt (by omega)
  have shifted : (high.setWidth 32 <<< 16).toNat = high.toNat <<< 16 := by
    rw [BitVec.toNat_shiftLeft, extended, Nat.shiftLeft_eq]
    exact Nat.mod_eq_of_lt (by omega)
  rw [doubleWord, BitVec.toNat_or, shifted, extended, ← Nat.shiftLeft_add_eq_or_of_lt low.isLt,
    Nat.shiftLeft_eq]

theorem doubleWord_inj {high low high' low' : Word} :
    doubleWord high low = doubleWord high' low' ↔ high = high' ∧ low = low' := by
  rw [← BitVec.toNat_inj, ← BitVec.toNat_inj, ← BitVec.toNat_inj, doubleWord_toNat,
    doubleWord_toNat]
  omega

/-- The two values of a counter are the same, unless both are valid although its words differ. -/
theorem counters_agree_iff (first second : Word) :
    ((doubleWord first second != 0xFFFFFFFF) = true →
      DDS238Simulator.isValidRegisterValue32
          (DDS238Simulator.combine32BitValue first second) = true →
        ((doubleWord first second).toNat : Int) =
          (DDS238Simulator.combine32BitValue first second).toNat) ↔
      first = second ∨ first = 0 ∧ second = 0x8000 := by
  have ones : (0xFFFFFFFF : BitVec 32) = doubleWord 0xFFFF 0xFFFF := by decide
  have top : (0x80000000 : BitVec 32) = doubleWord 0x8000 0 := by decide
  simp only [DDS238Simulator.isValidRegisterValue32, DDS238Simulator.combine32BitValue,
    Bool.and_eq_true, bne_iff_ne, ne_eq, ones, top, doubleWord_inj]
  constructor
  · intro agree
    by_contra differs
    obtain ⟨unequal, present⟩ := not_or.mp differs
    have same := agree (fun all => unequal (all.1.trans all.2.symm))
      ⟨fun all => unequal (all.2.trans all.1.symm), fun low => present low.symm⟩
    rw [doubleWord_toNat, doubleWord_toNat] at same
    exact unequal (BitVec.toNat_inj.mp (by omega))
  · rintro (rfl | low) - ⟨-, present⟩
    · rfl
    · exact absurd low.symm present

section

variable (float : SinglePrecision) (hiking : HikingDDS238) (simulator : DDS238Simulator)
  (image : Word → Word)

/-- A quantity that both drivers publish with the same unit and value, if at all. -/
def AgreeOn (ours theirs : Bytes) : Prop :=
  ∀ point other,
    pointOf ours (HikingDDS238.readBasic float hiking (answering image)).2 = some point →
    pointOf theirs (DDS238Simulator.readBasic float simulator (answering image)).2 = some other →
    SameReading point other

variable {float image}

/-- Two rows of the tables, found at these places. -/
theorem agreeOn_iff {ours theirs : Bool × MeterPoint} (i j : Nat)
    (pushed : (HikingDDS238.table float image)[i]? = some ours)
    (simulated : (DDS238Simulator.table float image)[j]? = some theirs) :
    AgreeOn float hiking simulator image ours.2.name theirs.2.name ↔
      (ours.1 = true → theirs.1 = true → SameReading ours.2 theirs.2) := by
  rw [AgreeOn, HikingDDS238.pointOf_readBasic float hiking image (List.mem_of_getElem? pushed),
    DDS238Simulator.pointOf_readBasic float simulator image (List.mem_of_getElem? simulated)]
  simp only [reading_eq_some]
  constructor
  · exact fun agree here there => agree _ _ ⟨here, rfl⟩ ⟨there, rfl⟩
  · rintro agree _ _ ⟨here, rfl⟩ ⟨there, rfl⟩
    exact agree here there

/-- Rows for the same value agree. -/
theorem agreeOn_of_same {ours theirs : Bool × MeterPoint} (i j : Nat)
    (pushed : (HikingDDS238.table float image)[i]? = some ours)
    (simulated : (DDS238Simulator.table float image)[j]? = some theirs)
    (same : SameReading ours.2 theirs.2) :
    AgreeOn float hiking simulator image ours.2.name theirs.2.name :=
  (agreeOn_iff hiking simulator i j pushed simulated).mpr fun _ _ => same

/-- Rows for the counter in the same two words. -/
theorem agreeOn_counter {ours theirs unit : Bytes} {scale decimals : Nat} {first second : Word}
    (i j : Nat)
    (pushed : (HikingDDS238.table float image)[i]? =
      some (doubleWord first second != 0xFFFFFFFF,
        scaledPoint float ours unit (doubleWord first second).toNat scale decimals))
    (simulated : (DDS238Simulator.table float image)[j]? =
      some (DDS238Simulator.isValidRegisterValue32
          (DDS238Simulator.combine32BitValue first second),
        scaledPoint float theirs unit (DDS238Simulator.combine32BitValue first second).toNat scale
          decimals)) :
    AgreeOn float hiking simulator image ours theirs ↔
      first = second ∨ first = 0 ∧ second = 0x8000 := by
  have rows := agreeOn_iff hiking simulator i j pushed simulated
  simp only [sameReading_scaledPoint] at rows
  exact rows.trans (counters_agree_iff first second)

/-- The meter's driver and the simulator's read the same from an image of the registers exactly when
each counter has two equal words or is one that the simulator leaves out. -/
theorem drivers_agree_iff (float : SinglePrecision) (hiking : HikingDDS238)
    (simulator : DDS238Simulator) (image : Word → Word) :
    (∀ names ∈ counterparts, AgreeOn float hiking simulator image names.1 names.2) ↔
      ∀ address ∈ [0x0000, 0x0008, 0x000A], image address = image (address + 1) ∨
        image address = 0 ∧ image (address + 1) = 0x8000 := by
  have total : AgreeOn float hiking simulator image (ascii "energy_total")
      (ascii "total_energy") ↔ _ := agreeOn_counter hiking simulator 6 0 rfl rfl
  have exported : AgreeOn float hiking simulator image (ascii "energy_export")
      (ascii "export_energy") ↔ _ := agreeOn_counter hiking simulator 7 1 rfl rfl
  have imported : AgreeOn float hiking simulator image (ascii "energy_import")
      (ascii "import_energy") ↔ _ := agreeOn_counter hiking simulator 8 2 rfl rfl
  have voltage : AgreeOn float hiking simulator image (ascii "voltage") (ascii "voltage") :=
    agreeOn_of_same hiking simulator 0 3 rfl rfl (sameReading_scaledPoint.mpr rfl)
  have current : AgreeOn float hiking simulator image (ascii "current") (ascii "current") :=
    agreeOn_of_same hiking simulator 1 4 rfl rfl (sameReading_scaledPoint.mpr rfl)
  have power : AgreeOn float hiking simulator image (ascii "power") (ascii "active_power") :=
    agreeOn_of_same hiking simulator 2 5 rfl rfl (sameReading_wholePoint ..)
  have powerFactor : AgreeOn float hiking simulator image (ascii "power_factor")
      (ascii "power_factor") :=
    agreeOn_of_same hiking simulator 4 7 rfl rfl (sameReading_scaledPoint.mpr rfl)
  have frequency : AgreeOn float hiking simulator image (ascii "frequency") (ascii "frequency") :=
    agreeOn_of_same hiking simulator 5 8 rfl rfl (sameReading_scaledPoint.mpr rfl)
  simp only [counterparts, List.forall_mem_cons, List.not_mem_nil, IsEmpty.forall_iff,
    implies_true, and_true, voltage, current, power, powerFactor, frequency, total, exported,
    imported]
  exact Iff.rfl

/-- A meter that has counted 123.45 kWh. -/
def early (address : Word) : Word := if address = 0x0001 then 12345 else 0

theorem drivers_disagree :
    ¬∀ names ∈ counterparts, AgreeOn wholeNumbers ⟨1⟩ ⟨1⟩ early names.1 names.2 := by
  intro agree
  have total := agree (ascii "energy_total", ascii "total_energy") (by simp [counterparts])
    _ _ rfl rfl
  exact absurd total.raw (by decide)

end

end ModbusBridge
