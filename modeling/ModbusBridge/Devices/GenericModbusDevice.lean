import ModbusBridge.Configuration.ArduinoJson
import ModbusBridge.Modbus.Client

/-!
# Device documents

A JSON document describes the registers of a device. The parser checks it member by member; the
first check that fails gives the text of the error.
-/

namespace ModbusBridge

/-! ## Names of device files -/

/-- `GenericModbusDevice::isSafeDeviceFilename`. -/
def isSafeDeviceFilename (name : Bytes) : Bool :=
  if name.length = 0 ∨ name.length > 64 then false
  else if name.contains 47 then false
  else if name.contains 92 then false
  else if includes name (ascii "..") then false
  else if name.head? = some 46 then false
  else (ascii ".json").isSuffixOf name

/-- The path of a device file. -/
def devicePath (filename : Bytes) : Bytes := ascii "/devices/" ++ filename

theorem isSafeDeviceFilename_json {name : Bytes} (safe : isSafeDeviceFilename name = true) :
    ∃ stem, stem ++ ascii ".json" = name ∧ stem.length < name.length := by
  rw [isSafeDeviceFilename] at safe
  split_ifs at safe
  obtain ⟨stem, rfl⟩ := List.isSuffixOf_iff_suffix.mp safe
  exact ⟨stem, rfl, by simp [ascii]⟩

/-! ## Register addresses -/

/-- `hasHexPrefix`. -/
def hasHexPrefix (s : Bytes) : Bool :=
  s.head? = some 48 ∧ ((s.drop 1).head? = some 120 ∨ (s.drop 1).head? = some 88)

/-- The end of `parseUnsigned32`: all of the digits are read and fit into 32 bits. -/
def parseDigits (base : Nat) (digits : Bytes) : Option UInt32 :=
  match scanNumeral base digits with
  | none => none
  | some (negative, magnitude, rest) =>
      if rest ≠ [] then none
      else if magnitude > 4294967295 then none
      else some (if negative then 0 - UInt32.ofNat magnitude else UInt32.ofNat magnitude)

/-- `parseUnsigned32`, of a C string. -/
def parseUnsigned32 (s : Bytes) : Option UInt32 :=
  if s = [] then none
  else if hasHexPrefix s then
    let digits := s.drop 2
    if digits = [] then none else parseDigits 16 digits
  else if s.headD 0 < 48 ∨ 57 < s.headD 0 then none
  else if s.headD 0 = 48 ∧ s.drop 1 ≠ [] then none
  else parseDigits 10 s

/-- `parseSigned32AsBits`, of a C string. -/
def parseSigned32AsBits (s : Bytes) : Option UInt32 :=
  if s.head? ≠ some 45 then none
  else if s.drop 1 = [] then none
  else
    match parseUnsigned32 (s.drop 1) with
    | none => none
    | some magnitude => if magnitude > 0x80000000 then none else some (0 - magnitude)

/-! ## What a document declares -/

/-- `BitField`. -/
structure BitField where
  mask : Word
  shift : UInt8
  name : Bytes

/-- `Field`. The scale is the number of the document. -/
structure Field where
  offset : UInt8
  name : Bytes
  type : Bytes
  scale : Json
  unit : Bytes
  nanSentinel : Option UInt32
  bits : List BitField

/-- `RegisterDef`. -/
structure RegisterDef where
  addr : Word
  fc : UInt8
  isStorage : Bool
  field : Field

/-- `RegisterGroup`. -/
structure RegisterGroup where
  name : Bytes
  startAddr : Word
  count : UInt8
  fc : UInt8
  isStorage : Bool
  fields : List Field

namespace GenericModbusDevice

/-- `MAX_JSON_FILE_BYTES`. -/
def maxJSONFileBytes : Nat := 16384

/-- `MAX_SUPPORTED_SCHEMA_VERSION`. -/
def maxSupportedSchemaVersion : Int := 2

/-- `MAX_GROUP_COUNT`. -/
def maxGroupCount : Int := 125

/-- A cast to `uint8_t`. -/
def toByte (value : Int) : UInt8 := .ofBitVec (.ofInt 8 value)

/-- `String(int)`. -/
def decimalInt (value : Int) : Bytes :=
  if value < 0 then ascii "-" ++ decimal value.natAbs else decimal value.natAbs

/-- A name in the text of an error. -/
def named (kind name text : Bytes) : Bytes := kind ++ ascii " '" ++ name ++ ascii "'" ++ text

/-- `wordSize`. -/
def wordSize (type : Bytes) : Nat := if type = ascii "uint32" ∨ type = ascii "int32" then 2 else 1

/-! ## Bits -/

/-- The mask of a bit entry. -/
def parseMask (name : Bytes) : Json → Except Bytes UInt32
  | .string text =>
      match parseUnsigned32 (untilNul text) with
      | some mask => .ok mask
      | none => .error (named (ascii "bit") name
          (ascii ": mask '" ++ untilNul text ++ ascii "' is not a valid integer"))
  | .integer value =>
      if -2147483648 ≤ value ∧ value < 4294967296 then .ok (Json.toUInt32 value)
      else .error (named (ascii "bit") name
        (ascii ": mask must be a hex/decimal string or integer"))
  | _ => .error (named (ascii "bit") name (ascii ": mask must be a hex/decimal string or integer"))

/-- The number of zeros behind the lowest bit that is set. -/
def trailingZeros (mask : Word) : Nat := ((List.range 16).find? mask.getLsbD).getD 16

/-- One turn of `parseBits`. -/
def parseBit (lib : ArduinoJson) (entry : Json) : Except Bytes BitField := do
  let name := (entry.member (ascii "name")).stringOr []
  if name = [] then .error (ascii "bit entry with empty name")
  else
    let mask32 ← parseMask name (entry.member (ascii "mask"))
    if mask32 = 0 ∨ mask32 ≥ 0xFFFF then
      .error (named (ascii "bit") name (ascii ": mask must be 0x0001..0xFFFE"))
    else
      let mask : Word := mask32.toBitVec.setWidth 16
      let shift := entry.member (ascii "shift")
      if shift.isNull then .ok ⟨mask, UInt8.ofNat (trailingZeros mask), name⟩
      else if shift.asInt lib < 0 ∨ shift.asInt lib > 15 then
        .error (named (ascii "bit") name (ascii ": shift must be 0..15"))
      else .ok ⟨mask, toByte (shift.asInt lib), name⟩

/-- `parseBits`. -/
def parseBits (lib : ArduinoJson) (entries : List Json) : Except Bytes (List BitField) :=
  entries.mapM (parseBit lib)

/-! ## Fields -/

/-- The `nan_value` of a field, if it has one. -/
def parseNanValue (name : Bytes) : Json → Except Bytes (Option UInt32)
  | .null => .ok none
  | .string text =>
      let s := untilNul text
      let parsed := if s.head? = some 45 then parseSigned32AsBits s else parseUnsigned32 s
      match parsed with
      | some sentinel => .ok (some sentinel)
      | none => .error (named (ascii "field") name
          (ascii ": nan_value '" ++ s ++ ascii "' is not a valid integer"))
  | .integer value =>
      if -2147483648 ≤ value ∧ value < 4294967296 then .ok (some (.ofBitVec (.ofInt 32 value)))
      else .error (named (ascii "field") name
        (ascii ": nan_value must be a hex/decimal string or integer"))
  | _ => .error (named (ascii "field") name
      (ascii ": nan_value must be a hex/decimal string or integer"))

/-- The `scale` of a field. -/
def parseScale (name : Bytes) : Json → Except Bytes Json
  | .null => .ok (.integer 1)
  | .integer value => .ok (.integer value)
  | .real mantissa scale => .ok (.real mantissa scale)
  | _ => .error (named (ascii "field") name (ascii ": scale must be a number"))

/-- The bits of a field of schema 2. -/
def parseFieldBits (lib : ArduinoJson) (name type : Bytes) (bits : Json) :
    Except Bytes (List BitField) :=
  match bits.asArray with
  | none => .ok []
  | some entries =>
      if type ≠ ascii "uint16" then
        .error (named (ascii "field") name (ascii ": bits[] only supported on uint16"))
      else (parseBits lib entries).mapError fun error =>
        named (ascii "field") name (ascii ": " ++ error)

/-- `parseField`. -/
def parseField (lib : ArduinoJson) (obj : Json) (schemaVer : Int) : Except Bytes Field := do
  let offset := toByte ((obj.member (ascii "offset")).intOr 0)
  let name := (obj.member (ascii "name")).stringOr []
  let type := (obj.member (ascii "type")).stringOr (ascii "uint16")
  let unit := (obj.member (ascii "unit")).stringOr []
  if name = [] then .error (ascii "field with empty name")
  else if type ≠ ascii "uint16" ∧ type ≠ ascii "int16" ∧ type ≠ ascii "uint32" ∧
      type ≠ ascii "int32" then
    .error (named (ascii "field") name (ascii ": unknown type '" ++ type ++ ascii "'"))
  else
    let scale ← parseScale name (obj.member (ascii "scale"))
    if schemaVer < 2 then
      if !(obj.member (ascii "nan_value")).isNull then
        .error (named (ascii "field") name (ascii ": nan_value requires schema_version 2"))
      else if !(obj.member (ascii "bits")).isNull then
        .error (named (ascii "field") name (ascii ": bits[] requires schema_version 2"))
      else .ok ⟨offset, name, type, scale, unit, none, []⟩
    else
      let nanSentinel ← parseNanValue name (obj.member (ascii "nan_value"))
      let bits ← parseFieldBits lib name type (obj.member (ascii "bits"))
      .ok ⟨offset, name, type, scale, unit, nanSentinel, bits⟩

/-! ## Registers and groups -/

/-- The register address of a member. `describe` makes the text of an error. -/
def parseAddress (describe : Bytes → Bytes) (key example' : Bytes) :
    Json → Except Bytes Word
  | .string text =>
      match parseUnsigned32 (untilNul text) with
      | some address =>
          if address > 0xFFFF then
            .error (describe (ascii ": " ++ key ++ ascii " '" ++ untilNul text ++
              ascii "' is not a valid 16-bit register address"))
          else .ok (address.toBitVec.setWidth 16)
      | none =>
          .error (describe (ascii ": " ++ key ++ ascii " '" ++ untilNul text ++
            ascii "' is not a valid 16-bit register address"))
  | _ => .error (describe (ascii ": " ++ key ++ ascii " must be a string (e.g. " ++ example' ++
      ascii ")"))

/-- The function code of a member. -/
def parseFunctionCode (describe : Bytes → Bytes) (fc : Json) : Except Bytes UInt8 :=
  let fc := toByte (fc.intOr 4)
  if fc ≠ 3 ∧ fc ≠ 4 then .error (describe (ascii ": fc must be 3 or 4")) else .ok fc

/-- `parseRegisterDef`. -/
def parseRegisterDef (lib : ArduinoJson) (obj : Json) (schemaVer : Int) :
    Except Bytes RegisterDef := do
  let describe := named (ascii "register") ((obj.member (ascii "name")).stringOr (ascii "?"))
  let addr ← parseAddress describe (ascii "addr") (ascii "\"0x0010\" or \"100\"")
    (obj.member (ascii "addr"))
  let fc ← parseFunctionCode describe (obj.member (ascii "fc"))
  let isStorage := (obj.member (ascii "storage")).boolOr false
  if !(obj.member (ascii "offset")).isNull then
    .error (describe (ascii ": offset is only valid inside groups[].fields"))
  else
    let field ← parseField lib obj schemaVer
    .ok ⟨addr, fc, isStorage, { field with offset := 0 }⟩

/-- The loop of `parseGroup` over its fields, with the words that are covered so far. -/
def parseGroupFields (lib : ArduinoJson) (schemaVer : Int) (groupName : Bytes) (count : UInt8) :
    List Json → List Nat → Except Bytes (List Field)
  | [], _ => .ok []
  | entry :: entries, covered => do
      let field ← (parseField lib entry schemaVer).mapError fun error =>
        named (ascii "group") groupName (ascii ": " ++ error)
      let describe := fun text =>
        named (ascii "group") groupName (named (ascii " field") field.name text)
      let size := wordSize field.type
      if field.offset.toNat + size > count.toNat then
        .error (describe (ascii ": offset " ++ decimal field.offset.toNat ++ ascii " + size " ++
          decimal size ++ ascii " exceeds count " ++ decimal count.toNat))
      else
        let words := (List.range size).map (field.offset.toNat + ·)
        match words.find? (· ∈ covered) with
        | some word =>
            .error (describe (ascii ": overlaps another field at offset " ++ decimal word))
        | none =>
            let fields ← parseGroupFields lib schemaVer groupName count entries (covered ++ words)
            .ok (field :: fields)

/-- `parseGroup`. -/
def parseGroup (lib : ArduinoJson) (obj : Json) (schemaVer : Int) :
    Except Bytes RegisterGroup := do
  let name := (obj.member (ascii "name")).stringOr []
  let describe := named (ascii "group") name
  if name = [] then .error (ascii "group with empty name")
  else
    let startAddr ← parseAddress describe (ascii "start") (ascii "\"0x0000\" or \"0\"")
      (obj.member (ascii "start"))
    let countVal := (obj.member (ascii "count")).intOr 0
    if countVal ≤ 0 ∨ countVal > maxGroupCount then
      .error (describe (ascii ": count must be 1.." ++ decimalInt maxGroupCount))
    else
      let fc ← parseFunctionCode describe (obj.member (ascii "fc"))
      let isStorage := (obj.member (ascii "storage")).boolOr false
      match (obj.member (ascii "fields")).asArray with
      | none | some [] => .error (describe (ascii ": fields[] required and non-empty"))
      | some entries =>
          let fields ← parseGroupFields lib schemaVer name (toByte countVal) entries []
          .ok ⟨name, startAddr, toByte countVal, fc, isStorage, fields⟩

/-! ## Documents -/

/-- The names that a field publishes. -/
def publishedNames (field : Field) : List Bytes :=
  if field.bits = [] then [field.name] else field.bits.map BitField.name

/-- The first name that has been seen before. -/
def firstDuplicate : List Bytes → List Bytes → Option Bytes
  | [], _ => none
  | name :: names, seen =>
      if name ∈ seen then some name else firstDuplicate names (seen ++ [name])

/-- `checkDuplicateNames`. -/
def checkDuplicateNames (registers : List RegisterDef) (groups : List RegisterGroup) :
    Except Bytes Unit :=
  let fields := registers.map RegisterDef.field ++ groups.flatMap RegisterGroup.fields
  match firstDuplicate (fields.flatMap publishedNames) [] with
  | some name => .error (ascii "duplicate telemetry name: '" ++ name ++ ascii "'")
  | none => .ok ()

/-- What `parseDoc` computes. -/
structure Declarations where
  schemaVersion : Int
  registers : List RegisterDef
  groups : List RegisterGroup

/-- `parseDoc`. -/
def parseDoc (lib : ArduinoJson) (doc : Json) : Except Bytes Declarations := do
  let schema := (doc.member (ascii "schema_version")).intOr 1
  if schema < 1 ∨ schema > maxSupportedSchemaVersion then
    .error (ascii "Unsupported schema_version: " ++ decimalInt schema ++
      ascii " (firmware supports 1.." ++ decimalInt maxSupportedSchemaVersion ++ ascii ")")
  else
    let registers ←
      match (doc.member (ascii "registers")).asArray with
      | none => .ok []
      | some entries => entries.mapM fun entry => parseRegisterDef lib entry schema
    let groups ←
      match (doc.member (ascii "groups")).asArray with
      | none => .ok []
      | some entries =>
          if schema < 2 then .error (ascii "groups[] requires schema_version >= 2")
          else entries.mapM fun entry => parseGroup lib entry schema
    checkDuplicateNames registers groups
    .ok ⟨schema, registers, groups⟩

/-- `validateJSON`: what the content declares, or the text of the error. -/
def validateJSON (lib : ArduinoJson) (content : Bytes) : Except Bytes Declarations :=
  if content.length > maxJSONFileBytes then
    .error (ascii "File too large (" ++ decimal content.length ++ ascii " bytes, max " ++
      decimal maxJSONFileBytes ++ ascii ")")
  else
    match lib.deserializeJson content with
    | .error error => .error (ascii "JSON parse error: " ++ error)
    | .ok doc => do
        let declarations ← parseDoc lib doc
        if declarations.registers = [] ∧ declarations.groups = [] then
          .error (ascii "No registers or groups defined")
        else .ok declarations

end GenericModbusDevice

end ModbusBridge
