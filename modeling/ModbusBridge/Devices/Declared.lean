import ModbusBridge.Devices.Phases

/-!
# What a document writes

The numbers that a document writes, and the numbers that its declarations hold. The offset of a
field and the function code are cut to bytes before they are checked, and the end of a range of
addresses is not checked.
-/

namespace ModbusBridge

open Fallible

/-! ## Written numbers -/

namespace Json

/-- The integer that is written for a key, if there is one. -/
def written (entry : Json) (key : Bytes) (default : Int) : Int :=
  match entry.member key with
  | integer value => value
  | _ => default

/-- The register address that is written for a key. -/
def writtenAddress (entry : Json) (key : Bytes) : Nat :=
  match entry.member key with
  | string text => ((parseUnsigned32 (untilNul text)).map UInt32.toNat).getD 0
  | _ => 0

/-- The words that a value of the written type takes. -/
def writtenSize (entry : Json) : Nat :=
  GenericModbusDevice.wordSize ((entry.member (ascii "type")).stringOr (ascii "uint16"))

end Json

namespace GenericModbusDevice

variable {lib : ArduinoJson} {schemaVer : Int} {entry : Json}

theorem toByte_toNat_le (value : Int) : (toByte value).toNat ≤ 255 := by
  have bound := (toByte value).toNat_lt
  omega

theorem intOr_eq_written {key : Bytes} {default : Int} (low : 0 ≤ entry.written key default)
    (high : entry.written key default ≤ 255) :
    (entry.member key).intOr default = entry.written key default := by
  rw [Json.written] at *
  cases member : entry.member key with
  | integer value =>
      have low : 0 ≤ value := by simpa only [member] using low
      have high : value ≤ 255 := by simpa only [member] using high
      exact if_pos ⟨by omega, by omega⟩
  | _ => rfl

/-- A number that is not the default is written. -/
theorem written_eq_intOr {key : Bytes} {default : Int}
    (other : (entry.member key).intOr default ≠ default) :
    entry.written key default = (entry.member key).intOr default := by
  rw [Json.written]
  cases member : entry.member key with
  | integer value =>
      rw [member, Json.intOr] at other
      split_ifs at other with fits
      · exact (if_pos fits).symm
      · exact absurd rfl other
  | _ =>
      rw [member] at other
      exact absurd rfl other

/-- A byte holds the written number, if and only if the number is one of a byte. -/
theorem toByte_eq_written_iff {key : Bytes} {default : Int} :
    ((toByte ((entry.member key).intOr default)).toNat : Int) = entry.written key default ↔
      0 ≤ entry.written key default ∧ entry.written key default ≤ 255 := by
  constructor
  · intro same
    have bound := toByte_toNat_le ((entry.member key).intOr default)
    omega
  · rintro ⟨low, high⟩
    rw [intOr_eq_written low high, toByte_toNat low high]

/-! ## What the parsers take from a document -/

theorem parseAddress_takes {describe : Bytes → Bytes} {key example' : Bytes} {address : Word}
    (parsed : parseAddress describe key example' (entry.member key) = .ok address) :
    address.toNat = entry.writtenAddress key := by
  rw [Json.writtenAddress]
  cases member : entry.member key with
  | string text =>
      rw [member, parseAddress] at parsed
      cases read : parseUnsigned32 (untilNul text) with
      | none =>
          rw [read] at parsed
          contradiction
      | some number =>
          rw [read] at parsed
          dsimp only at parsed
          split_ifs at parsed with large
          obtain rfl := Except.ok.inj parsed
          have small : number.toNat ≤ 65535 := by simpa [UInt32.le_iff_toNat_le] using large
          simp [read]
          omega
  | _ =>
      rw [member] at parsed
      contradiction

/-- What an entry gives to its read. -/
structure Takes (key : Bytes) (size : Nat) (json : Json) (entry : Entry) : Prop where
  fc : entry.request.function = toByte ((json.member (ascii "fc")).intOr 4)
  function : entry.request.function = 3 ∨ entry.request.function = 4
  startAddr : entry.request.startAddr.toNat = json.writtenAddress key
  count : entry.request.count.toNat = size

theorem RegisterParsed.takes {reg : RegisterDef} (parsed : RegisterParsed lib schemaVer entry reg)
    (slaveAddr : UInt8) :
    Takes (ascii "addr") entry.writtenSize entry (registerEntry slaveAddr reg) := by
  obtain ⟨describe, example', address⟩ := parsed.addr
  obtain ⟨describe, function⟩ := parsed.fc
  obtain ⟨field, accepted, same⟩ := parsed.field
  obtain ⟨fc, known⟩ := parseFunctionCode_eq_ok function
  refine ⟨fc, known, parseAddress_takes address, ?_⟩
  have type : reg.field.type = field.type := by rw [same]
  rw [Json.writtenSize, ← (parseField_eq_ok accepted).2.2, ← type]
  rcases wordSize_eq reg.field.type with size | size <;> simp [registerEntry, size]

theorem GroupParsed.takes {grp : RegisterGroup} (parsed : GroupParsed lib schemaVer entry grp)
    (slaveAddr : UInt8) :
    Takes (ascii "start") (entry.written (ascii "count") 0).toNat entry
      (groupEntry slaveAddr grp) := by
  obtain ⟨describe, example', address⟩ := parsed.startAddr
  obtain ⟨describe, function⟩ := parsed.fc
  obtain ⟨fc, known⟩ := parseFunctionCode_eq_ok function
  refine ⟨fc, known, parseAddress_takes address, ?_⟩
  have count := parsed.count
  have some_words := parsed.some_words
  rw [written_eq_intOr (by omega), ← count]
  simp [groupEntry]

/-! ## What is read -/

/-- A request has the function code of its entry, and stays within the register addresses. -/
structure Entry.AsWritten (json : Json) (entry : Entry) : Prop where
  function : (entry.request.function.toNat : Int) = json.written (ascii "fc") 4
  addresses : entry.request.startAddr.toNat + entry.request.count.toNat ≤ 65536

/-- A field is decoded from the words at its offset, within those of its group. -/
structure FieldAsWritten (count : Nat) (json : Json) (field : Field) : Prop where
  words : ∀ words i,
    Entry.wordsOf field words i = words ((json.written (ascii "offset") 0).toNat + i)
  low : 0 ≤ json.written (ascii "offset") 0
  high : json.written (ascii "offset") 0 + wordSize field.type ≤ count

/-- What the document writes is what is read. -/
structure AsWritten (slaveAddr : UInt8) (doc : Json) (declarations : Declarations) : Prop where
  registers : List.Forall₂ (fun json reg => (registerEntry slaveAddr reg).AsWritten json)
    (doc.elements (ascii "registers")) declarations.registers
  groups : List.Forall₂
    (fun json grp => (groupEntry slaveAddr grp).AsWritten json ∧
      List.Forall₂ (FieldAsWritten grp.count.toNat) (json.elements (ascii "fields"))
        (groupEntry slaveAddr grp).fields)
    (doc.elements (ascii "groups")) declarations.groups

/-- A written entry whose function code is one of the two, and whose last address is one. -/
structure EntryFits (key : Bytes) (size : Nat) (json : Json) : Prop where
  function : json.written (ascii "fc") 4 = 3 ∨ json.written (ascii "fc") 4 = 4
  addresses : json.writtenAddress key + size ≤ 65536

/-- A document whose numbers fit where they are read to. -/
structure DocumentFits (doc : Json) : Prop where
  registers : ∀ json ∈ doc.elements (ascii "registers"),
    EntryFits (ascii "addr") json.writtenSize json
  groups : ∀ json ∈ doc.elements (ascii "groups"),
    EntryFits (ascii "start") (json.written (ascii "count") 0).toNat json ∧
      ∀ field ∈ json.elements (ascii "fields"),
        0 ≤ field.written (ascii "offset") 0 ∧ field.written (ascii "offset") 0 ≤ 255

instance (key : Bytes) (size : Nat) (json : Json) : Decidable (EntryFits key size json) :=
  decidable_of_iff (_ ∧ _) ⟨fun ⟨function, addresses⟩ => ⟨function, addresses⟩,
    fun fits => ⟨fits.function, fits.addresses⟩⟩

instance (doc : Json) : Decidable (DocumentFits doc) :=
  decidable_of_iff (_ ∧ _) ⟨fun ⟨registers, groups⟩ => ⟨registers, groups⟩,
    fun fits => ⟨fits.registers, fits.groups⟩⟩

theorem Takes.asWritten_iff {key : Bytes} {size : Nat} {json : Json} {entry : Entry}
    (takes : Takes key size json entry) : entry.AsWritten json ↔ EntryFits key size json := by
  have same := @toByte_eq_written_iff json (ascii "fc") 4
  rw [← takes.fc] at same
  constructor
  · rintro ⟨function, addresses⟩
    refine ⟨?_, by rwa [← takes.startAddr, ← takes.count]⟩
    rw [← function]
    rcases takes.function with code | code <;> rw [code] <;> decide
  · rintro ⟨function, addresses⟩
    exact ⟨same.mpr (by omega), by rwa [takes.startAddr, takes.count]⟩

theorem wordsOf_eq_iff (field : Field) (n : Nat) :
    (∀ words i, Entry.wordsOf field words i = words (n + i)) ↔ field.offset.toNat = n := by
  constructor
  · intro same
    by_contra apart
    have looked := same (fun i => if i = n then 1 else 0) 0
    simp [Entry.wordsOf, apart] at looked
  · rintro rfl words i
    rfl

theorem FieldParsed.asWritten_iff {count : UInt8} {field : Field}
    (parsed : FieldParsed lib schemaVer count entry field) :
    FieldAsWritten count.toNat entry field ↔
      0 ≤ entry.written (ascii "offset") 0 ∧ entry.written (ascii "offset") 0 ≤ 255 := by
  have same := @toByte_eq_written_iff entry (ascii "offset") 0
  rw [← (parseField_eq_ok parsed.parsed).2.1] at same
  have inside := parsed.inside
  constructor
  · rintro ⟨words, low, high⟩
    rw [wordsOf_eq_iff] at words
    exact same.mp (by omega)
  · rintro ⟨low, high⟩
    have offset := same.mpr ⟨low, high⟩
    exact ⟨(wordsOf_eq_iff field _).mpr (by omega), low, by omega⟩

theorem asWritten_iff {doc : Json} {declarations : Declarations}
    (parsed : DocumentParsed lib doc declarations) (slaveAddr : UInt8) :
    AsWritten slaveAddr doc declarations ↔ DocumentFits doc := by
  have registers := forall₂_iff_of_forall₂ parsed.registers fun _ _ taken =>
    (taken.takes slaveAddr).asWritten_iff
  have groups := forall₂_iff_of_forall₂ parsed.groups fun _ grp taken =>
    have fields := forall₂_iff_of_forall₂ taken.fields fun _ _ field => field.asWritten_iff
    and_congr (taken.takes slaveAddr).asWritten_iff fields
  constructor
  · exact fun written => ⟨registers.mp written.registers, groups.mp written.groups⟩
  · exact fun fits => ⟨registers.mpr fits.registers, groups.mpr fits.groups⟩

/-- Of an accepted document every entry is read as declared; and what is read is what is written,
if and only if the written numbers fit. -/
theorem declared_is_read_iff (single : SinglePrecision) (device : GenericModbusDevice) {doc : Json}
    {declarations : Declarations} (accepted : parseDoc lib doc = .ok declarations) :
    (∀ reads, (∀ reg ∈ declarations.registers, readFlatRegister single device reads reg =
        some ((registerEntry device.slaveAddr reg).read single reads)) ∧
      ∀ grp ∈ declarations.groups, readGroup single device reads grp =
        some ((groupEntry device.slaveAddr grp).read single reads)) ∧
    (AsWritten device.slaveAddr doc declarations ↔ DocumentFits doc) := by
  have sound := parseDoc_sound accepted
  refine ⟨fun reads => ⟨fun reg listed => ?_, fun grp listed => ?_⟩,
    asWritten_iff (parseDoc_eq_ok accepted) device.slaveAddr⟩
  · exact readFlatRegister_spec single device (sound.registers reg listed) reads
  · exact readGroup_spec single device (sound.groups grp listed) reads

theorem declared_is_read_hybrid :
    ∃ declarations, parseDoc (flatJson []) hybridDocument = .ok declarations ∧
      AsWritten (create (flatJson []) .initial []).slaveAddr hybridDocument declarations := by
  obtain ⟨declarations, accepted⟩ := hybrid_accepted
  exact ⟨declarations, accepted, (declared_is_read_iff wholeNumbers
    (create (flatJson []) .initial []) accepted).2.mpr (by decide +kernel)⟩

/-- A group whose function code, last address and offset are too large. -/
def strayDocument : Json :=
  .object [(ascii "schema_version", .integer 2),
    (ascii "groups", .array [.object [(ascii "name", .string (ascii "meter")),
      (ascii "start", .string (ascii "0xFFFC")), (ascii "count", .integer 10),
      (ascii "fc", .integer 259), (ascii "fields", .array [
        .object [(ascii "name", .string (ascii "power")), (ascii "offset", .integer 256)]])]])]

/-- Word 0 of ten holding registers is read, four of which have an address. -/
theorem declared_is_not_read_stray :
    ∃ declarations, parseDoc (flatJson []) strayDocument = .ok declarations ∧
      ((declarations.entries 1).map fun entry =>
        (entry.request, entry.fields.map Field.offset)) = [(⟨1, 3, 0xFFFC, 10⟩, [0])] ∧
      ¬ AsWritten 1 strayDocument declarations := by
  have tested : (parseDoc (flatJson []) strayDocument).toOption.any (fun declarations =>
      ((declarations.entries 1).map fun entry =>
        (entry.request, entry.fields.map Field.offset)) = [(⟨1, 3, 0xFFFC, 10⟩, [0])]) = true := by
    decide +kernel
  obtain ⟨declarations, accepted, entries⟩ := exists_ok tested
  refine ⟨declarations, accepted, of_decide_eq_true entries, fun written => ?_⟩
  have fits := (asWritten_iff (parseDoc_eq_ok accepted) 1).mp written
  exact absurd fits (by decide +kernel)

end GenericModbusDevice

end ModbusBridge
