import Mathlib.Data.List.Nodup
import ModbusBridge.Devices.Reading
import ModbusBridge.Library.Fallible

/-!
# Accepted documents

What the parser guarantees of a document that it accepts: its requests are within the limits of the
protocol, its fields lie within the words that are read for them, and no two names are the same.
-/

namespace ModbusBridge

open Fallible

/-- The elements of an array member. A member that is no array has none. -/
def Json.elements (obj : Json) (key : Bytes) : List Json := ((obj.member key).asArray).getD []

/-! ## What is accepted -/

/-- A field as the parser accepts it. -/
structure Field.Sound (field : Field) : Prop where
  known : field.type = ascii "uint16" ∨ field.type = ascii "int16" ∨
    field.type = ascii "uint32" ∨ field.type = ascii "int32"
  named : field.name ≠ []
  bitsNamed : ∀ bit ∈ field.bits, bit.name ≠ []

/-- A flat register as the parser accepts it. -/
structure RegisterDef.Sound (reg : RegisterDef) : Prop where
  function : reg.fc = 3 ∨ reg.fc = 4
  field : reg.field.Sound

/-- A group as the parser accepts it: its fields lie within the words that it reads. -/
structure RegisterGroup.Sound (grp : RegisterGroup) : Prop where
  function : grp.fc = 3 ∨ grp.fc = 4
  some_words : 0 < grp.count.toNat
  few_words : grp.count.toNat ≤ 125
  fields : ∀ field ∈ grp.fields, field.Sound ∧
    field.offset.toNat + GenericModbusDevice.wordSize field.type ≤ grp.count.toNat

namespace GenericModbusDevice

/-- The fields that a document declares. -/
def Declarations.fields (declarations : Declarations) : List Field :=
  declarations.registers.map RegisterDef.field ++
    declarations.groups.flatMap RegisterGroup.fields

/-- A document as the parser accepts it. -/
structure Declarations.Sound (declarations : Declarations) : Prop where
  registers : ∀ reg ∈ declarations.registers, reg.Sound
  groups : ∀ grp ∈ declarations.groups, grp.Sound
  distinct : (declarations.fields.flatMap publishedNames).Nodup

variable {lib : ArduinoJson}

/-! ## The parsers -/

theorem parseBit_named {entry : Json} {bit : BitField} (parsed : parseBit lib entry = .ok bit) :
    bit.name ≠ [] := by
  rw [parseBit] at parsed
  dsimp only at parsed
  split at parsed
  · contradiction
  next named =>
    obtain ⟨mask32, -, rest⟩ := bind_eq_ok.mp parsed
    split_ifs at rest <;> exact Except.ok.inj rest ▸ named

theorem parseFieldBits_named {name type : Bytes} {bits : Json} {parsed : List BitField}
    (accepted : parseFieldBits lib name type bits = .ok parsed) :
    ∀ bit ∈ parsed, bit.name ≠ [] := by
  rw [parseFieldBits] at accepted
  split at accepted
  · obtain rfl := Except.ok.inj accepted
    exact fun _ listed => absurd listed List.not_mem_nil
  · split at accepted
    · contradiction
    · intro bit listed
      obtain ⟨entry, -, found⟩ := mem_of_mapM_eq_ok (mapError_eq_ok.mp accepted) listed
      exact parseBit_named found

/-- What `parseField` checks, and what it takes from the entry. -/
theorem parseField_eq_ok {obj : Json} {schemaVer : Int} {field : Field}
    (parsed : parseField lib obj schemaVer = .ok field) :
    field.Sound ∧ field.offset = toByte ((obj.member (ascii "offset")).intOr 0) ∧
      field.type = (obj.member (ascii "type")).stringOr (ascii "uint16") := by
  rw [parseField] at parsed
  split at parsed
  · contradiction
  next named =>
    split at parsed
    · contradiction
    next unknown =>
      simp only [ne_eq, not_and_or, not_not] at unknown
      obtain ⟨scale, -, parsed⟩ := bind_eq_ok.mp parsed
      split at parsed
      · -- schema 1
        split_ifs at parsed
        obtain rfl := Except.ok.inj parsed
        exact ⟨⟨unknown, named, fun _ listed => absurd listed List.not_mem_nil⟩, rfl, rfl⟩
      · obtain ⟨nanSentinel, -, parsed⟩ := bind_eq_ok.mp parsed
        obtain ⟨bits, accepted, parsed⟩ := bind_eq_ok.mp parsed
        obtain rfl := Except.ok.inj parsed
        exact ⟨⟨unknown, named, parseFieldBits_named accepted⟩, rfl, rfl⟩

theorem parseFunctionCode_eq_ok {describe : Bytes → Bytes} {member : Json} {fc : UInt8}
    (parsed : parseFunctionCode describe member = .ok fc) :
    fc = toByte (member.intOr 4) ∧ (fc = 3 ∨ fc = 4) := by
  unfold parseFunctionCode at parsed
  dsimp only at parsed
  split at parsed
  · contradiction
  next neither =>
    obtain rfl := Except.ok.inj parsed
    exact ⟨rfl, by simpa only [ne_eq, not_and_or, not_not] using neither⟩

/-- What `parseRegisterDef` takes from the entry. -/
structure RegisterParsed (lib : ArduinoJson) (schemaVer : Int) (obj : Json) (reg : RegisterDef) :
    Prop where
  addr : ∃ describe example', parseAddress describe (ascii "addr") example'
    (obj.member (ascii "addr")) = .ok reg.addr
  fc : ∃ describe, parseFunctionCode describe (obj.member (ascii "fc")) = .ok reg.fc
  field : ∃ field, parseField lib obj schemaVer = .ok field ∧ reg.field = { field with offset := 0 }

theorem parseRegisterDef_eq_ok {obj : Json} {schemaVer : Int} {reg : RegisterDef}
    (parsed : parseRegisterDef lib obj schemaVer = .ok reg) :
    RegisterParsed lib schemaVer obj reg := by
  rw [parseRegisterDef] at parsed
  obtain ⟨addr, address, parsed⟩ := bind_eq_ok.mp parsed
  obtain ⟨fc, function, parsed⟩ := bind_eq_ok.mp parsed
  dsimp only at parsed
  split at parsed
  · contradiction
  · obtain ⟨field, accepted, parsed⟩ := bind_eq_ok.mp parsed
    obtain rfl := Except.ok.inj parsed
    exact ⟨⟨_, _, address⟩, ⟨_, function⟩, ⟨field, accepted, rfl⟩⟩

theorem RegisterParsed.sound {obj : Json} {schemaVer : Int} {reg : RegisterDef}
    (parsed : RegisterParsed lib schemaVer obj reg) : reg.Sound := by
  obtain ⟨describe, function⟩ := parsed.fc
  obtain ⟨field, accepted, same⟩ := parsed.field
  have sound := (parseField_eq_ok accepted).1
  refine ⟨(parseFunctionCode_eq_ok function).2, ?_⟩
  rw [same]
  exact ⟨sound.known, sound.named, sound.bitsNamed⟩

/-- What the loop over the fields of a group takes from an entry. -/
structure FieldParsed (lib : ArduinoJson) (schemaVer : Int) (count : UInt8) (obj : Json)
    (field : Field) : Prop where
  parsed : parseField lib obj schemaVer = .ok field
  inside : field.offset.toNat + wordSize field.type ≤ count.toNat

theorem parseGroupFields_eq_ok {schemaVer : Int} {groupName : Bytes} {count : UInt8}
    {entries : List Json} {covered : List Nat} {fields : List Field}
    (parsed : parseGroupFields lib schemaVer groupName count entries covered = .ok fields) :
    List.Forall₂ (FieldParsed lib schemaVer count) entries fields := by
  induction entries generalizing covered fields with
  | nil =>
      obtain rfl := Except.ok.inj parsed
      exact .nil
  | cons entry entries induction =>
      rw [parseGroupFields] at parsed
      obtain ⟨first, accepted, parsed⟩ := bind_eq_ok.mp parsed
      dsimp only at parsed
      split at parsed
      · contradiction
      next inside =>
        split at parsed
        · contradiction
        · obtain ⟨rest, later, parsed⟩ := bind_eq_ok.mp parsed
          obtain rfl := Except.ok.inj parsed
          exact .cons ⟨mapError_eq_ok.mp accepted, Nat.not_lt.mp inside⟩ (induction later)

theorem toByte_toNat {value : Int} (low : 0 ≤ value) (high : value ≤ 255) :
    ((toByte value).toNat : Int) = value := by
  obtain ⟨n, rfl⟩ := Int.eq_ofNat_of_zero_le low
  change ((BitVec.ofInt 8 n).toNat : Int) = n
  rw [BitVec.toNat_ofInt]
  omega

/-- What `parseGroup` takes from the entry. -/
structure GroupParsed (lib : ArduinoJson) (schemaVer : Int) (obj : Json) (grp : RegisterGroup) :
    Prop where
  startAddr : ∃ describe example', parseAddress describe (ascii "start") example'
    (obj.member (ascii "start")) = .ok grp.startAddr
  count : (grp.count.toNat : Int) = (obj.member (ascii "count")).intOr 0
  some_words : 0 < grp.count.toNat
  few_words : grp.count.toNat ≤ 125
  fc : ∃ describe, parseFunctionCode describe (obj.member (ascii "fc")) = .ok grp.fc
  fields : List.Forall₂ (FieldParsed lib schemaVer grp.count)
    (obj.elements (ascii "fields")) grp.fields

theorem parseGroup_eq_ok {obj : Json} {schemaVer : Int} {grp : RegisterGroup}
    (parsed : parseGroup lib obj schemaVer = .ok grp) : GroupParsed lib schemaVer obj grp := by
  rw [parseGroup] at parsed
  dsimp only at parsed
  split at parsed
  · contradiction
  · obtain ⟨startAddr, address, parsed⟩ := bind_eq_ok.mp parsed
    split at parsed
    · contradiction
    next inside =>
      obtain ⟨fc, function, parsed⟩ := bind_eq_ok.mp parsed
      rw [maxGroupCount] at inside
      have count := @toByte_toNat ((obj.member (ascii "count")).intOr 0) (by omega) (by omega)
      split at parsed
      · contradiction
      · contradiction
      next entries nonempty there =>
        obtain ⟨fields, accepted, parsed⟩ := bind_eq_ok.mp parsed
        obtain rfl := Except.ok.inj parsed
        refine ⟨⟨_, _, address⟩, count, by dsimp only; omega, by dsimp only; omega,
          ⟨_, function⟩, ?_⟩
        rw [Json.elements, there]
        exact parseGroupFields_eq_ok accepted

theorem GroupParsed.sound {obj : Json} {schemaVer : Int} {grp : RegisterGroup}
    (parsed : GroupParsed lib schemaVer obj grp) : grp.Sound := by
  obtain ⟨describe, function⟩ := parsed.fc
  refine ⟨(parseFunctionCode_eq_ok function).2, parsed.some_words, parsed.few_words,
    fun field listed => ?_⟩
  obtain ⟨entry, -, accepted, inside⟩ := exists_of_forall₂ parsed.fields listed
  exact ⟨(parseField_eq_ok accepted).1, inside⟩

theorem firstDuplicate_eq_none {names seen : List Bytes} (distinct : seen.Nodup)
    (none : firstDuplicate names seen = none) : (seen ++ names).Nodup := by
  induction names generalizing seen with
  | nil => simpa using distinct
  | cons name names induction =>
      rw [firstDuplicate] at none
      split at none
      · contradiction
      next fresh =>
        have extended : (seen ++ [name]).Nodup :=
          List.nodup_append.mpr ⟨distinct, List.nodup_singleton name,
            fun other listed last single same =>
              fresh (same.trans (List.mem_singleton.mp single) ▸ listed)⟩
        simpa using induction extended none

theorem checkDuplicateNames_distinct {registers : List RegisterDef}
    {groups : List RegisterGroup} {done : Unit}
    (checked : checkDuplicateNames registers groups = .ok done) (schemaVersion : Int) :
    ((Declarations.mk schemaVersion registers groups).fields.flatMap publishedNames).Nodup := by
  unfold checkDuplicateNames at checked
  dsimp only at checked
  split at checked
  · contradiction
  next none => exact firstDuplicate_eq_none List.nodup_nil none

/-- What `parseDoc` takes from a document. -/
structure DocumentParsed (lib : ArduinoJson) (doc : Json) (declarations : Declarations) : Prop where
  registers : List.Forall₂ (RegisterParsed lib declarations.schemaVersion)
    (doc.elements (ascii "registers")) declarations.registers
  groups : List.Forall₂ (GroupParsed lib declarations.schemaVersion)
    (doc.elements (ascii "groups")) declarations.groups
  checked : checkDuplicateNames declarations.registers declarations.groups = .ok ()

/-- The end of `parseDoc`. -/
theorem parsed_of_checked {schema : Int} {doc : Json} {registers : List RegisterDef}
    {groups : List RegisterGroup} {declarations : Declarations}
    (flat : List.Forall₂ (RegisterParsed lib schema) (doc.elements (ascii "registers")) registers)
    (grouped : List.Forall₂ (GroupParsed lib schema) (doc.elements (ascii "groups")) groups)
    (parsed : (do
      checkDuplicateNames registers groups
      Except.ok ⟨schema, registers, groups⟩) = Except.ok declarations) :
    DocumentParsed lib doc declarations := by
  obtain ⟨done, checked, parsed⟩ := bind_eq_ok.mp parsed
  obtain rfl := Except.ok.inj parsed
  exact ⟨flat, grouped, checked⟩

/-- The groups of `parseDoc`, and its end. -/
theorem parsed_of_grouped {schema : Int} {doc : Json} {registers : List RegisterDef}
    {declarations : Declarations}
    (flat : List.Forall₂ (RegisterParsed lib schema) (doc.elements (ascii "registers")) registers)
    (parsed : (do
      let groups ←
        match (doc.member (ascii "groups")).asArray with
        | none => Except.ok []
        | some entries =>
            if schema < 2 then .error (ascii "groups[] requires schema_version >= 2")
            else entries.mapM fun entry => parseGroup lib entry schema
      checkDuplicateNames registers groups
      Except.ok ⟨schema, registers, groups⟩) = Except.ok declarations) :
    DocumentParsed lib doc declarations := by
  split at parsed
  next absent =>
    refine parsed_of_checked flat ?_ parsed
    rw [Json.elements, absent]
    exact .nil
  next entries there =>
    split at parsed
    · contradiction
    · obtain ⟨groups, grouped, parsed⟩ := bind_eq_ok.mp parsed
      refine parsed_of_checked flat ?_ parsed
      rw [Json.elements, there]
      exact (forall₂_of_mapM_eq_ok grouped).imp fun _ _ => parseGroup_eq_ok

theorem parseDoc_eq_ok {doc : Json} {declarations : Declarations}
    (parsed : parseDoc lib doc = .ok declarations) : DocumentParsed lib doc declarations := by
  rw [parseDoc] at parsed
  dsimp only at parsed
  split at parsed
  · contradiction
  · split at parsed
    next absent =>
      refine parsed_of_grouped ?_ parsed
      rw [Json.elements, absent]
      exact .nil
    next entries there =>
      obtain ⟨registers, flat, parsed⟩ := bind_eq_ok.mp parsed
      refine parsed_of_grouped ?_ parsed
      rw [Json.elements, there]
      exact (forall₂_of_mapM_eq_ok flat).imp fun _ _ => parseRegisterDef_eq_ok

/-- Every document that the parser accepts is sound. -/
theorem parseDoc_sound {doc : Json} {declarations : Declarations}
    (parsed : parseDoc lib doc = .ok declarations) : declarations.Sound := by
  have parsed := parseDoc_eq_ok parsed
  refine ⟨fun reg listed => ?_, fun grp listed => ?_,
    checkDuplicateNames_distinct parsed.checked declarations.schemaVersion⟩
  · obtain ⟨entry, -, found⟩ := exists_of_forall₂ parsed.registers listed
    exact found.sound
  · obtain ⟨entry, -, found⟩ := exists_of_forall₂ parsed.groups listed
    exact found.sound

/-- So is every document that `validateJSON` accepts, and it declares something. -/
theorem validateJSON_sound {content : Bytes} {declarations : Declarations}
    (accepted : validateJSON lib content = .ok declarations) :
    declarations.Sound ∧ ¬ (declarations.registers = [] ∧ declarations.groups = []) := by
  rw [validateJSON] at accepted
  split at accepted
  · contradiction
  · split at accepted
    · contradiction
    · obtain ⟨parsed, sound, accepted⟩ := bind_eq_ok.mp accepted
      split at accepted
      · contradiction
      next some_entries =>
        obtain rfl := Except.ok.inj accepted
        exact ⟨parseDoc_sound sound, some_entries⟩

end GenericModbusDevice

end ModbusBridge
