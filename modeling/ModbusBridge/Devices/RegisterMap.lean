import Mathlib.Data.List.Flatten
import Mathlib.Data.List.Nodup
import ModbusBridge.Devices.SolplanetASW
import ModbusBridge.Library.Fallible

/-!
# The register map of the SolPlanet ASW inverter

Every point is what its label says: the value of the registers with its number, taken as its type,
and never a value that is missing. No two points have the same name.
-/

namespace ModbusBridge

open Fallible
open GenericModbusDevice (decimalInt)

namespace SolplanetASW

/-! ## Labels -/

/-- What an image holds at a register, taken as this type. -/
def interpret (image : Word → Word) (a : Word) : RegisterType → Option Int
  | .u16 | .e16 => some (image (inputRegisterToModbus a)).toNat
  | .s16 => some (image (inputRegisterToModbus a)).toInt
  | .u32 => some (doubleWord (image (inputRegisterToModbus a))
      (image (inputRegisterToModbus (a + 1)))).toNat
  | .s32 => some (doubleWord (image (inputRegisterToModbus a))
      (image (inputRegisterToModbus (a + 1)))).toInt
  | .calc => none

/-- The value of a type that stands for a missing one. -/
def sentinel : RegisterType → Option Int
  | .u16 | .e16 => some 0xFFFF
  | .s16 => some (-0x8000)
  | .u32 => some 0xFFFFFFFF
  | .s32 => some (-0x80000000)
  | .calc => none

/-- The text that is owed for a value: its numeral, the product with the power of ten of its
decimals, if that passes the bound, or its description. -/
inductive Published (single : SinglePrecision) (value : Int) : Display → Bytes → Prop
  | integer : Published single value .integer (decimalInt value)
  | hexadecimal : Published single value .hexadecimal (ModbusBridge.hexadecimal value.toNat)
  | scaled {decimals : Nat} {above : Option (Int × Nat)}
      (passes : ∀ bound ∈ above, single.gt
        (single.mul (single.ofInt value) (single.literal 1 decimals))
        (single.literal bound.1 bound.2) = true) :
      Published single value (.scaled decimals above)
        (single.text (single.mul (single.ofInt value) (single.literal 1 decimals)) decimals)
  | text (describe : Nat → Bytes) :
      Published single value (.text describe) (describe value.toNat)
  | description {describe : Nat → Bytes} (described : describe value.toNat ≠ []) :
      Published single value (.description describe) (describe value.toNat)

theorem published_of_shown {single : SinglePrecision} {value : Int} {display : Display}
    {text : Bytes} (shown : display.shown single value = some text) :
    Published single value display text := by
  cases display with
  | integer => exact Option.some.inj shown ▸ .integer
  | hexadecimal => exact Option.some.inj shown ▸ .hexadecimal
  | text describe => exact Option.some.inj shown ▸ .text describe
  | scaled decimals above =>
      cases above with
      | none => exact Option.some.inj shown ▸ .scaled (by simp)
      | some bound =>
          unfold Display.shown at shown
          dsimp only at shown
          split at shown
          next passes =>
              exact Option.some.inj shown ▸ .scaled (by simpa [Display.scale] using passes)
          next => contradiction
  | description describe =>
      rw [Display.shown] at shown
      split at shown
      next => contradiction
      next described => exact Option.some.inj shown ▸ .description described

/-- A point has the label of a row, and shows the value of its registers the way of the row. -/
structure Row.Shows (row : Row) (single : SinglePrecision) (image : Word → Word)
    (point : RegisterPoint) : Prop where
  name : point.name = row.name
  unit : point.unit = row.unit
  addr : point.addr = row.addr
  type : point.type = row.type
  value : ∃ value, interpret image row.addr row.type = some value ∧
    sentinel row.type ≠ some value ∧ Published single value row.display point.value

/-- The type that a label promises is the one that is decoded. -/
def RegisterType.decodedAs : RegisterType → Format → Bool
  | .u16, .u16 | .e16, .u16 | .s16, .s16 | .u32, .u32 | .s32, .s32 => true
  | _, _ => false

/-- The words of a row lie within its bulk, at the number of its register. -/
def Row.fits (start : Word) (count : Nat) (row : Row) : Bool :=
  row.index + row.format.size ≤ count && row.addr == start + BitVec.ofNat 16 row.index &&
    RegisterType.decodedAs row.type row.format

/-! ## Bulks -/

/-- The words of a bulk read. -/
def bulkOf (image : Word → Word) (start : Word) (count : Nat) : List Word :=
  (List.range count).map fun i => image (inputRegisterToModbus start + BitVec.ofNat 16 i)

theorem bulkOf_getElem? {image : Word → Word} {start : Word} {count i : Nat} (inside : i < count) :
    (bulkOf image start count)[i]? =
      some (image (inputRegisterToModbus (start + BitVec.ofNat 16 i))) := by
  have moved : inputRegisterToModbus start + BitVec.ofNat 16 i =
      inputRegisterToModbus (start + BitVec.ofNat 16 i) := by
    unfold inputRegisterToModbus
    grind
  simp [bulkOf, inside, moved]

variable (single : SinglePrecision)

theorem decode_of_words {type : RegisterType} {format : Format}
    (decoded : RegisterType.decodedAs type format = true) {image : Word → Word} {a : Word}
    {bulk : List Word} {i : Nat} (first : bulk[i]? = some (image (inputRegisterToModbus a)))
    (second : format.size = 2 → bulk[i + 1]? = some (image (inputRegisterToModbus (a + 1)))) :
    format.decode bulk i = interpret image a type := by
  cases format with
  | u16 =>
      cases type with
      | u16 | e16 => simp [Format.decode, interpret, first]
      | _ => contradiction
  | s16 =>
      cases type with
      | s16 => simp [Format.decode, interpret, first]
      | _ => contradiction
  | u32 =>
      cases type with
      | u32 =>
          rw [Format.decode, first, Option.bind_some, second rfl]
          rfl
      | _ => contradiction
  | s32 =>
      cases type with
      | s32 =>
          rw [Format.decode, first, Option.bind_some, second rfl]
          rfl
      | _ => contradiction

/-- What is decoded is what the label says. -/
theorem decode_eq_interpret {image : Word → Word} {start : Word} {count : Nat} {row : Row}
    (fits : row.fits start count = true) :
    row.format.decode (bulkOf image start count) row.index = interpret image row.addr row.type := by
  simp only [Row.fits, Bool.and_eq_true, decide_eq_true_eq, beq_iff_eq] at fits
  obtain ⟨⟨inside, addr⟩, decoded⟩ := fits
  have some_words : 0 < row.format.size := by cases row.format <;> decide
  refine decode_of_words decoded ?_ fun size => ?_
  · rw [addr]
    exact bulkOf_getElem? (by omega)
  · have next : row.addr + 1 = start + BitVec.ofNat 16 (row.index + 1) := by
      rw [addr, BitVec.ofNat_add, BitVec.add_assoc]
      rfl
    rw [next]
    exact bulkOf_getElem? (by omega)

theorem isNaN_eq_false {type : RegisterType} {format : Format}
    (decoded : RegisterType.decodedAs type format = true) {value : Int}
    (present : format.isNaN value = false) : sentinel type ≠ some value := by
  intro missing
  suffices absent : format.isNaN value = true from Bool.noConfusion (absent.symm.trans present)
  cases type <;> cases format <;> first
    | contradiction
    | exact Option.some.inj missing ▸ rfl

/-- A row makes no point, or one that it shows. -/
theorem emit_spec {image : Word → Word} {start : Word} {count : Nat} {row : Row}
    (fits : row.fits start count = true) :
    ∃ points, row.emit single (bulkOf image start count) = some points ∧
      (∀ point ∈ points, row.Shows single image point) ∧
      (points.map fun point => point.name).Sublist [row.name] := by
  have decoded : RegisterType.decodedAs row.type row.format = true :=
    (Bool.and_eq_true_iff.mp fits).2
  obtain ⟨value, found⟩ : ∃ value, interpret image row.addr row.type = some value := by
    cases type : row.type <;> simp_all [interpret, RegisterType.decodedAs]
  rw [Row.emit]
  rw [decode_eq_interpret fits, found, Option.map_some]
  refine ⟨_, rfl, ?_⟩
  split_ifs with missing
  · exact ⟨fun point listed => absurd listed List.not_mem_nil, List.nil_sublist _⟩
  · cases shown : row.display.shown single value with
    | none => exact ⟨fun point listed => absurd listed List.not_mem_nil, List.nil_sublist _⟩
    | some text =>
        refine ⟨fun point listed => ?_, List.Sublist.refl _⟩
        obtain rfl := List.mem_singleton.mp listed
        exact ⟨rfl, rfl, rfl, rfl, value, found,
          isNaN_eq_false decoded (Bool.not_eq_true _ ▸ missing), published_of_shown shown⟩

/-! ## Parts -/

/-- The points of a part are shown by some of these rows, and their names are some of these. -/
structure Part.Lists (single : SinglePrecision) (image : Word → Word) (rows : List Row)
    (names : List Bytes) (part : Part) : Prop where
  shown : ∀ point ∈ part.points, point.type ≠ .calc → ∃ row ∈ rows, row.Shows single image point
  names : (part.points.map fun point => point.name).Sublist names

variable {single} {image : Word → Word}

theorem Part.Lists.nothing {succeeded : Bool} {rows : List Row} {names : List Bytes} :
    Part.Lists single image rows names ⟨succeeded, []⟩ :=
  ⟨fun _ listed => absurd listed List.not_mem_nil, List.nil_sublist _⟩

theorem Part.Lists.append {rows others : List Row} {names more : List Bytes} {part other : Part}
    (first : part.Lists single image rows names) (second : other.Lists single image others more)
    (succeeded : Bool) :
    Part.Lists single image (rows ++ others) (names ++ more)
      ⟨succeeded, part.points ++ other.points⟩ where
  shown point listed labelled := by
    rcases List.mem_append.mp listed with listed | listed
    · obtain ⟨row, member, shows⟩ := first.shown point listed labelled
      exact ⟨row, List.mem_append_left _ member, shows⟩
    · obtain ⟨row, member, shows⟩ := second.shown point listed labelled
      exact ⟨row, List.mem_append_right _ member, shows⟩
  names := by
    rw [List.map_append]
    exact first.names.append second.names

theorem Part.Lists.mono {rows others : List Row} {names more : List Bytes} {part : Part}
    (lists : part.Lists single image rows names) (sub : rows ⊆ others)
    (sublist : names.Sublist more) : part.Lists single image others more where
  shown point listed labelled :=
    (lists.shown point listed labelled).imp fun _ found => ⟨sub found.1, found.2⟩
  names := lists.names.trans sublist

/-- The parts of a traversal, one after the other. -/
theorem traverse_lists {α : Type} {turn : α → Option (List RegisterPoint)} {rows : α → List Row}
    {names : α → List Bytes} {values : List α}
    (each : ∀ value ∈ values, ∃ points, turn value = some points ∧
      Part.Lists single image (rows value) (names value) ⟨true, points⟩) :
    ∃ points, values.mapM turn = some points ∧
      Part.Lists single image (values.flatMap rows) (values.flatMap names)
        ⟨true, points.flatten⟩ := by
  induction values with
  | nil => exact ⟨[], rfl, .nothing⟩
  | cons value values induction =>
      obtain ⟨first, head, lists⟩ := each value List.mem_cons_self
      obtain ⟨rest, tail, others⟩ :=
        induction fun other listed => each other (List.mem_cons_of_mem _ listed)
      refine ⟨first :: rest, ?_, ?_⟩
      · rw [List.mapM_cons, head, tail]
        rfl
      · exact lists.append others true

variable (single) (bus : Bus)

/-- A bulk read whose rows fit. -/
theorem readRows_lists (start : Word) (count : Nat) (rows : List Row)
    (fits : rows.all (Row.fits start count) = true := by decide) :
    ∃ part, readRows single bus start count rows = some part ∧
      part.Lists single bus.image rows (rows.map Row.name) := by
  rw [readRows, Bus.readInputRegisters]
  split_ifs
  · exact ⟨_, rfl, .nothing⟩
  · have each : ∀ row ∈ rows, ∃ points,
        row.emit single (bulkOf bus.image start count) = some points ∧
          Part.Lists single bus.image [row] [row.name] ⟨true, points⟩ := by
      intro row listed
      obtain ⟨points, emitted, shows, names⟩ :=
        emit_spec single (List.all_eq_true.mp fits row listed)
      exact ⟨points, emitted,
        fun point listed _ => ⟨row, List.mem_singleton_self row, shows point listed⟩, names⟩
    obtain ⟨points, emitted, lists⟩ := traverse_lists each
    refine ⟨⟨true, points.flatten⟩, ?_, lists.mono (by simp) (by simp [List.map_eq_flatMap])⟩
    dsimp only
    change Option.map _ (rows.mapM (Row.emit single (bulkOf bus.image start count))) = _
    rw [emitted]
    rfl

/-! ## The map -/

/-- The rows of the inputs. -/
def pvRows : List Row := (List.range 10).flatMap fun i => [pvVoltageRow i, pvCurrentRow i]

/-- The names of the inputs, with the power that is computed. -/
def pvNames : List Bytes :=
  (List.range 10).flatMap fun i => [(pvVoltageRow i).name, (pvCurrentRow i).name, pvPowerName i]

/-- The rows of the strings. -/
def stringRows : List Row := (List.range 20).map stringRow

/-- The rows of `readBasic` before the inputs, and after them. -/
def rowsBefore : List Row := modbusAddressRows ++ gridCodeRows ++ basicRows

@[inherit_doc rowsBefore]
def rowsAfter : List Row :=
  stringRows ++ pvEnergyRows ++ (phaseRows ++ gridRows ++ gridConnectionRows) ++
    (acEnergyRows ++ epsBasicRows ++ epsRows ++ epsPhaseRows ++ (gridPhaseRows ++ gridExportRows))

/-- The rows of `readStorage`. -/
def storageRows : List Row := batteryRows ++ bmsDiagRows ++ generatorRows

/-- All rows. -/
def catalogue : List Row := rowsBefore ++ pvRows ++ rowsAfter ++ storageRows

/-- The names of `readBasic`. -/
def basicNames : List Bytes := rowsBefore.map Row.name ++ pvNames ++ rowsAfter.map Row.name

/-! ## Methods -/

variable (device : SolplanetASW)

theorem Part.Lists.append_rows {single : SinglePrecision} {image : Word → Word}
    {rows others : List Row} {part other : Part}
    (first : part.Lists single image rows (rows.map Row.name))
    (second : other.Lists single image others (others.map Row.name)) (succeeded : Bool) :
    Part.Lists single image (rows ++ others) ((rows ++ others).map Row.name)
      ⟨succeeded, part.points ++ other.points⟩ := by
  rw [List.map_append]
  exact first.append second succeeded

theorem Part.Lists.mono_rows {single : SinglePrecision} {image : Word → Word}
    {rows others : List Row} {part : Part}
    (lists : part.Lists single image rows (rows.map Row.name)) (sublist : rows.Sublist others) :
    part.Lists single image others (others.map Row.name) :=
  lists.mono sublist.subset (sublist.map _)

theorem readDeviceInfo_lists : ∃ part, readDeviceInfo single bus = some part ∧
    part.Lists single bus.image (modbusAddressRows ++ gridCodeRows)
      ((modbusAddressRows ++ gridCodeRows).map Row.name) := by
  obtain ⟨modbusAddr, first, addrLists⟩ :=
    readRows_lists single bus 31002 1 modbusAddressRows
  obtain ⟨gridCode, second, codeLists⟩ :=
    readRows_lists single bus 31027 1 gridCodeRows
  refine ⟨_, ?_, addrLists.append_rows codeLists true⟩
  rw [readDeviceInfo, first, second]
  rfl

/-- An input makes no points, or those of its voltage and its current and one that is computed. -/
theorem readPVInput_lists (image : Word → Word) {i : Nat} (inside : i < 10) :
    ∃ points, readPVInput single (bulkOf image 31319 20) i = some points ∧
      Part.Lists single image [pvVoltageRow i, pvCurrentRow i]
        [(pvVoltageRow i).name, (pvCurrentRow i).name, pvPowerName i] ⟨true, points⟩ := by
  have next : 31319 + BitVec.ofNat 16 (i * 2 + 1) = (pvCurrentRow i).addr := by
    rw [BitVec.ofNat_add, ← BitVec.add_assoc]
    rfl
  rw [readPVInput]
  rw [bulkOf_getElem? (show i * 2 < 20 by omega), Option.bind_some,
    bulkOf_getElem? (show i * 2 + 1 < 20 by omega), Option.map_some, next]
  refine ⟨_, rfl, ?_⟩
  dsimp only
  split_ifs with present
  · rw [Bool.and_eq_true, Bool.not_eq_true', Bool.not_eq_true'] at present
    refine ⟨fun point listed labelled => ?_, List.Sublist.refl _⟩
    rcases List.mem_cons.mp listed with rfl | listed
    · exact ⟨pvVoltageRow i, List.mem_cons_self, rfl, rfl, rfl, rfl, _, rfl,
        isNaN_eq_false (show RegisterType.decodedAs .u16 .u16 = true from rfl) present.1,
        .scaled (by simp)⟩
    · rcases List.mem_cons.mp listed with rfl | listed
      · exact ⟨pvCurrentRow i, List.mem_cons_of_mem _ List.mem_cons_self, rfl, rfl, rfl, rfl, _,
          rfl, isNaN_eq_false (show RegisterType.decodedAs .u16 .u16 = true from rfl) present.2,
          .scaled (by simp)⟩
      · obtain rfl := List.mem_singleton.mp listed
        exact absurd rfl labelled
  · exact .nothing
  · exact .nothing

theorem readRowsIf_lists (needed : Bool) (start : Word) (count : Nat) (rows : List Row)
    (fits : rows.all (Row.fits start count) = true := by decide) :
    ∃ part, readRowsIf single bus needed start count rows = some part ∧
      part.Lists single bus.image rows (rows.map Row.name) := by
  rw [readRowsIf]
  split_ifs
  · exact readRows_lists single bus start count rows fits
  · exact ⟨_, rfl, .nothing⟩

theorem fits_of_sublist {rows others : List Row} {start : Word} {count : Nat}
    (sublist : rows.Sublist others) (fits : others.all (Row.fits start count) = true) :
    rows.all (Row.fits start count) = true :=
  List.all_eq_true.mpr fun row listed => List.all_eq_true.mp fits row (sublist.subset listed)

theorem stringRows_sublist (count : Nat) :
    ((List.range (min count 20)).map stringRow).Sublist stringRows :=
  (List.range_sublist.mpr (min_le_right count 20)).map _

theorem readPVInputs_lists : ∃ part, device.readPVInputs single bus = some part ∧
    part.Lists single bus.image (pvRows ++ stringRows ++ pvEnergyRows)
      (pvNames ++ stringRows.map Row.name ++ pvEnergyRows.map Row.name) := by
  rw [readPVInputs]
  cases bulk : bus.readInputRegisters (inputRegisterToModbus 31319) 20 with
  | none => exact ⟨_, rfl, .nothing⟩
  | some pvBulk =>
      obtain rfl : bulkOf bus.image 31319 20 = pvBulk := by
        rw [Bus.readInputRegisters] at bulk
        split_ifs at bulk
        exact Option.some.inj bulk
      have few : (List.range (min device.mpptCount.toNat 10)).Sublist (List.range 10) :=
        List.range_sublist.mpr (min_le_right device.mpptCount.toNat 10)
      obtain ⟨inputs, pv, pvLists⟩ := traverse_lists fun i listed =>
        readPVInput_lists single bus.image (List.mem_range.mp (few.subset listed))
      have few_strings := stringRows_sublist device.stringCount.toNat
      obtain ⟨strings, found, stringLists⟩ := readRowsIf_lists single bus (device.stringCount > 0)
        31339 20 _ (fits_of_sublist few_strings (by decide))
      obtain ⟨energy, last, energyLists⟩ :=
        readRows_lists single bus 31601 6 pvEnergyRows
      refine ⟨_, ?_, ((pvLists.mono ?_ (few.flatMap _)).append
        (stringLists.mono_rows few_strings) true).append energyLists true⟩
      · simp only [pv, found, last, Option.bind_eq_bind, Option.bind_some]
      · exact (few.flatMap _).subset

/-- The rows of three phases, if there are any. -/
theorem ofThreePhases_sublist (rows : List Row) : (device.ofThreePhases rows).Sublist rows := by
  rw [ofThreePhases]
  split_ifs
  · exact List.Sublist.refl _
  · exact List.nil_sublist _

theorem readGridAndPhaseMeasurements_lists :
    ∃ part, device.readGridAndPhaseMeasurements single bus = some part ∧
      part.Lists single bus.image (phaseRows ++ gridRows ++ gridConnectionRows)
        ((phaseRows ++ gridRows ++ gridConnectionRows).map Row.name) := by
  have sublist : (device.ofThreePhases phaseRows ++ gridRows).Sublist (phaseRows ++ gridRows) :=
    (device.ofThreePhases_sublist phaseRows).append (List.Sublist.refl _)
  obtain ⟨grid, first, gridLists⟩ :=
    readRows_lists single bus 31359 21 _ (fits_of_sublist sublist (by decide))
  obtain ⟨gridStatus, second, statusLists⟩ :=
    readRows_lists single bus 31391 1 gridConnectionRows
  rw [readGridAndPhaseMeasurements]
  rw [first, second]
  simp only [Option.bind_eq_bind, Option.bind_some]
  split_ifs
  · exact ⟨_, rfl, .nothing⟩
  · exact ⟨_, rfl, (gridLists.mono_rows sublist).append_rows statusLists true⟩

theorem readGridEnergyAndLoad_lists :
    ∃ part, device.readGridEnergyAndLoad single bus = some part ∧
      part.Lists single bus.image
        (acEnergyRows ++ epsBasicRows ++ epsRows ++ epsPhaseRows ++
          (gridPhaseRows ++ gridExportRows))
        ((acEnergyRows ++ epsBasicRows ++ epsRows ++ epsPhaseRows ++
          (gridPhaseRows ++ gridExportRows)).map Row.name) := by
  have sublist : (device.ofThreePhases gridPhaseRows ++ gridExportRows).Sublist
      (gridPhaseRows ++ gridExportRows) :=
    (device.ofThreePhases_sublist gridPhaseRows).append (List.Sublist.refl _)
  obtain ⟨acEnergy, first, acLists⟩ := readRows_lists single bus 31630 4 acEnergyRows
  obtain ⟨epsBasic, second, basicLists⟩ :=
    readRows_lists single bus 31634 3 epsBasicRows
  obtain ⟨eps, third, epsLists⟩ := readRows_lists single bus 31637 8 epsRows
  obtain ⟨epsPhase, fourth, phaseLists⟩ :=
    readRowsIf_lists single bus device.isThreePhase 31645 18 epsPhaseRows
  obtain ⟨grid, fifth, gridLists⟩ :=
    readRows_lists single bus 31663 16 _ (fits_of_sublist sublist (by decide))
  refine ⟨_, ?_, (((acLists.append_rows basicLists true).append_rows epsLists true).append_rows
    phaseLists true).append_rows (gridLists.mono_rows sublist) true⟩
  rw [readGridEnergyAndLoad, first, second, third, fourth, fifth]
  rfl

theorem readParts_lists : ∃ part, device.readParts single bus = some part ∧
    part.Lists single bus.image (rowsBefore ++ pvRows ++ rowsAfter) basicNames := by
  obtain ⟨info, first, infoLists⟩ := readDeviceInfo_lists single bus
  obtain ⟨basic, second, basicLists⟩ := readRows_lists single bus 31301 20 basicRows
  obtain ⟨pv, third, pvLists⟩ := device.readPVInputs_lists single bus
  obtain ⟨grid, fourth, gridLists⟩ := device.readGridAndPhaseMeasurements_lists single bus
  obtain ⟨load, fifth, loadLists⟩ := device.readGridEnergyAndLoad_lists single bus
  have rows : rowsBefore ++ pvRows ++ rowsAfter =
      modbusAddressRows ++ gridCodeRows ++ basicRows ++ (pvRows ++ stringRows ++ pvEnergyRows) ++
        (phaseRows ++ gridRows ++ gridConnectionRows) ++
        (acEnergyRows ++ epsBasicRows ++ epsRows ++ epsPhaseRows ++
          (gridPhaseRows ++ gridExportRows)) := by
    simp only [rowsBefore, rowsAfter, List.append_assoc]
  have names : basicNames =
      (modbusAddressRows ++ gridCodeRows ++ basicRows).map Row.name ++
        (pvNames ++ stringRows.map Row.name ++ pvEnergyRows.map Row.name) ++
        (phaseRows ++ gridRows ++ gridConnectionRows).map Row.name ++
        (acEnergyRows ++ epsBasicRows ++ epsRows ++ epsPhaseRows ++
          (gridPhaseRows ++ gridExportRows)).map Row.name := by
    simp only [basicNames, rowsBefore, rowsAfter, List.append_assoc, List.map_append]
  obtain ⟨succeeded, found⟩ : ∃ succeeded, device.readParts single bus = some ⟨succeeded,
      info.points ++ basic.points ++ pv.points ++ grid.points ++ load.points⟩ := by
    rw [readParts, first, readBasicMeasurements, second, third, fourth, fifth]
    exact ⟨_, rfl⟩
  rw [rows, names]
  exact ⟨_, found, (((infoLists.append_rows basicLists true).append pvLists true).append
    gridLists true).append loadLists succeeded⟩

theorem readBasic_lists : ∃ part after, device.readBasic single bus = some (part, after) ∧
    part.Lists single bus.image (rowsBefore ++ pvRows ++ rowsAfter) basicNames := by
  rw [readBasic]
  dsimp only
  split_ifs
  · exact ⟨_, _, rfl, .nothing⟩
  · obtain ⟨part, found, lists⟩ := readParts_lists single bus
      ((device.detectPhaseConfiguration bus).2.detectDeviceConfiguration bus).2
    rw [found]
    exact ⟨part, _, rfl, lists⟩

theorem readStorage_lists (config : Config) : ∃ part, readStorage single bus config = some part ∧
    part.Lists single bus.image storageRows (storageRows.map Row.name) := by
  rw [readStorage]
  split_ifs
  · exact ⟨_, rfl, .nothing⟩
  · obtain ⟨battery, first, batteryLists⟩ :=
      readRows_lists single bus 31607 23 batteryRows
    obtain ⟨bmsDiag, second, diagLists⟩ :=
      readRows_lists single bus 31679 3 bmsDiagRows
    obtain ⟨gen, third, genLists⟩ := readRows_lists single bus 31685 3 generatorRows
    simp only [first, second, third, Option.bind_eq_bind, Option.bind_some]
    split_ifs
    · exact ⟨_, rfl, .nothing⟩
    · exact ⟨_, rfl, (batteryLists.append_rows diagLists true).append_rows genLists _⟩

/-- The bytes of a name as one number. Numbers are compared faster. -/
def number (name : Bytes) : Nat := name.foldl (fun number byte => number * 256 + byte.toNat) 0

theorem names_nodup : (basicNames ++ storageRows.map Row.name).Nodup := by
  have numbers : ((basicNames ++ storageRows.map Row.name).map number).Nodup := by decide +kernel
  exact List.Nodup.of_map number numbers

/-- Whatever the inverter holds, whatever has been detected and whichever transactions fail, every
point of the two calls with a type shows its registers as the map has them, and the names of all
points differ. -/
theorem points_follow_map (config : Config) (basicBus storageBus : Bus) :
    ∃ basic after storage, device.readBasic single basicBus = some (basic, after) ∧
      readStorage single storageBus config = some storage ∧
      (∀ point ∈ basic.points, point.type ≠ .calc →
        ∃ row ∈ catalogue, row.Shows single basicBus.image point) ∧
      (∀ point ∈ storage.points, point.type ≠ .calc →
        ∃ row ∈ catalogue, row.Shows single storageBus.image point) ∧
      ((basic.points ++ storage.points).map fun point => point.name).Nodup := by
  obtain ⟨basic, after, first, basicLists⟩ := device.readBasic_lists single basicBus
  obtain ⟨storage, second, storageLists⟩ := readStorage_lists single storageBus config
  refine ⟨basic, after, storage, first, second, ?_, ?_, ?_⟩
  · exact (basicLists.mono (List.subset_append_left ..) (List.Sublist.refl _)).shown
  · exact (storageLists.mono (List.subset_append_right ..) (List.Sublist.refl _)).shown
  · rw [List.map_append]
    exact (basicLists.names.append storageLists.names).nodup names_nodup

end SolplanetASW

end ModbusBridge
