import ModbusBridge.Devices.Phases

/-!
# Loading in place

`parseDoc` stores what it parses in vectors of its caller. `validateJSON` gives it new vectors;
`loadJSON` gives it those of the device, which keep what a failed attempt has stored.
-/

namespace ModbusBridge

open Fallible

namespace GenericModbusDevice

/-! ## The functions of the source -/

namespace InPlace

/-- The loop of `parseDoc` over the groups, with the check before it. -/
def storeGroups (lib : ArduinoJson) (schema : Int) (groups : Json) (out : List RegisterGroup) :
    List RegisterGroup × Except Bytes Unit :=
  match groups.asArray with
  | none => (out, .ok ())
  | some entries =>
      if schema < 2 then (out, .error (ascii "groups[] requires schema_version >= 2"))
      else collect (fun entry => parseGroup lib entry schema) entries out

/-- `parseDoc`: what it leaves of the caller's variables, and the error if it returns false. -/
def parseDoc (lib : ArduinoJson) (doc : Json) (out : Declarations) :
    Declarations × Except Bytes Unit :=
  let schema := (doc.member (ascii "schema_version")).intOr 1
  if schema < 1 ∨ schema > maxSupportedSchemaVersion then
    (out, .error (ascii "Unsupported schema_version: " ++ decimalInt schema ++
      ascii " (firmware supports 1.." ++ decimalInt maxSupportedSchemaVersion ++ ascii ")"))
  else
    let flat := collect (fun entry => parseRegisterDef lib entry schema)
      (doc.elements (ascii "registers")) out.registers
    match flat.2 with
    | .error error => (⟨schema, flat.1, out.groups⟩, .error error)
    | .ok () =>
        let grouped := storeGroups lib schema (doc.member (ascii "groups")) out.groups
        match grouped.2 with
        | .error error => (⟨schema, flat.1, grouped.1⟩, .error error)
        | .ok () => (⟨schema, flat.1, grouped.1⟩, checkDuplicateNames flat.1 grouped.1)

/-- `validateJSON`: its own variables at the end, and the error if it returns false. -/
def validateJSON (lib : ArduinoJson) (content : Bytes) : Declarations × Except Bytes Unit :=
  let out : Declarations := ⟨1, [], []⟩
  if content.length > maxJSONFileBytes then
    (out, .error (ascii "File too large (" ++ decimal content.length ++ ascii " bytes, max " ++
      decimal maxJSONFileBytes ++ ascii ")"))
  else
    match lib.deserializeJson content with
    | .error error => (out, .error (ascii "JSON parse error: " ++ error))
    | .ok doc =>
        let parsed := parseDoc lib doc out
        match parsed.2 with
        | .error error => (parsed.1, .error error)
        | .ok () =>
            if parsed.1.registers = [] ∧ parsed.1.groups = [] then
              (parsed.1, .error (ascii "No registers or groups defined"))
            else (parsed.1, .ok ())

variable (device : GenericModbusDevice) (lib : ArduinoJson) (fs : LittleFS) (opens : Bool)

/-- The document that `loadJSON` parses, if it comes that far. The file may fail to open. -/
def openDocument : Option Json :=
  match fs.files device.jsonFilePath with
  | none => none
  | some content =>
      if !opens then none
      else if content.length > maxJSONFileBytes then none
      else
        match lib.deserializeJson content with
        | .error _ => none
        | .ok doc => some doc

/-- `loadJSON`: the device afterwards, and what is returned. -/
def loadJSON : GenericModbusDevice × Bool :=
  match openDocument device lib fs opens with
  | none => (device, false)
  | some doc =>
      let device :=
        { device with
          deviceId := (doc.member (ascii "device_id")).stringOr (ascii "unknown")
          deviceName := (doc.member (ascii "name")).stringOr (ascii "Unknown Device") }
      let parsed := parseDoc lib doc ⟨device.schemaVersion, device.registers, device.groups⟩
      let device := withDeclarations device parsed.1
      match parsed.2 with
      | .error _ => (device, false)
      | .ok () => (device, !(device.registers = [] ∧ device.groups = []))

/-- `begin`. -/
def begin : GenericModbusDevice × Bool :=
  if device.initialized then (device, true)
  else
    let loaded := loadJSON device lib fs opens
    if loaded.2 then ({ loaded.1 with initialized := true }, true) else (loaded.1, false)

end InPlace

/-! ## What is stored -/

variable {lib : ArduinoJson} {doc : Json}

/-- What `parseDoc` stores of a document in new vectors. -/
def stored (lib : ArduinoJson) (doc : Json) : List RegisterDef × List RegisterGroup :=
  let parsed := (InPlace.parseDoc lib doc ⟨1, [], []⟩).1
  (parsed.registers, parsed.groups)

theorem InPlace.storeGroups_eq (schema : Int) (groups : Json) (out : List RegisterGroup) :
    InPlace.storeGroups lib schema groups out =
      (out ++ (InPlace.storeGroups lib schema groups []).1,
        (InPlace.storeGroups lib schema groups []).2) := by
  rw [InPlace.storeGroups, InPlace.storeGroups]
  cases groups.asArray with
  | none => simp
  | some entries =>
      dsimp only
      split_ifs
      · simp
      · exact collect_eq _ entries out

/-- Whatever is there beforehand, the same is stored behind it. -/
theorem InPlace.parseDoc_stores (out : Declarations) :
    (InPlace.parseDoc lib doc out).1.registers = out.registers ++ (stored lib doc).1 ∧
      (InPlace.parseDoc lib doc out).1.groups = out.groups ++ (stored lib doc).2 := by
  rw [stored, InPlace.parseDoc, InPlace.parseDoc]
  split_ifs
  · simp
  · rw [collect_eq _ _ out.registers]
    dsimp only
    split
    · simp
    · rw [InPlace.storeGroups_eq _ _ out.groups]
      dsimp only
      split <;> simp

/-- The groups of `parseDoc`. -/
def parseGroups (lib : ArduinoJson) (schema : Int) (groups : Json) :
    Except Bytes (List RegisterGroup) :=
  match groups.asArray with
  | none => .ok []
  | some entries =>
      if schema < 2 then .error (ascii "groups[] requires schema_version >= 2")
      else entries.mapM fun entry => parseGroup lib entry schema

theorem parseDoc_eq_ok_iff {declarations : Declarations} :
    parseDoc lib doc = .ok declarations ↔
      let schema := (doc.member (ascii "schema_version")).intOr 1
      ¬ (schema < 1 ∨ schema > maxSupportedSchemaVersion) ∧
        ∃ registers groups,
          (doc.elements (ascii "registers")).mapM (fun entry => parseRegisterDef lib entry schema) =
            .ok registers ∧
          parseGroups lib schema (doc.member (ascii "groups")) = .ok groups ∧
          checkDuplicateNames registers groups = .ok () ∧
          declarations = ⟨schema, registers, groups⟩ := by
  have normal : parseDoc lib doc =
      let schema := (doc.member (ascii "schema_version")).intOr 1
      if schema < 1 ∨ schema > maxSupportedSchemaVersion then
        .error (ascii "Unsupported schema_version: " ++ decimalInt schema ++
          ascii " (firmware supports 1.." ++ decimalInt maxSupportedSchemaVersion ++ ascii ")")
      else
        (doc.elements (ascii "registers")).mapM (fun entry => parseRegisterDef lib entry schema) >>=
          fun registers => parseGroups lib schema (doc.member (ascii "groups")) >>=
            fun groups => checkDuplicateNames registers groups >>=
              fun _ => .ok ⟨schema, registers, groups⟩ := by
    rw [parseDoc, Json.elements]
    dsimp only [parseGroups]
    cases (doc.member (ascii "registers")).asArray <;>
      cases (doc.member (ascii "groups")).asArray
    · rfl
    · split_ifs <;> rfl
    · rfl
    · split_ifs <;> rfl
  rw [normal]
  dsimp only
  split_ifs with unsupported
  · simp [unsupported]
  · simp only [bind_eq_ok, unsupported, not_false_eq_true, true_and]
    constructor
    · rintro ⟨registers, flat, groups, grouped, _, checked, same⟩
      exact ⟨registers, groups, flat, grouped, checked, (Except.ok.inj same).symm⟩
    · rintro ⟨registers, groups, flat, grouped, checked, rfl⟩
      exact ⟨registers, flat, groups, grouped, (), checked, rfl⟩

theorem InPlace.storeGroups_eq_ok_iff {schema : Int} {value : Json} {groups : List RegisterGroup} :
    InPlace.storeGroups lib schema value [] = (groups, .ok ()) ↔
      parseGroups lib schema value = .ok groups := by
  rw [InPlace.storeGroups, parseGroups]
  cases value.asArray with
  | none => simp
  | some entries =>
      dsimp only
      split_ifs
      · simp
      · exact collect_eq_ok_iff

/-- In new vectors, `parseDoc` succeeds on the documents that are accepted, and leaves what they
declare. -/
theorem InPlace.parseDoc_eq_ok_iff {schemaVersion : Int} {declarations : Declarations} :
    InPlace.parseDoc lib doc ⟨schemaVersion, [], []⟩ = (declarations, .ok ()) ↔
      GenericModbusDevice.parseDoc lib doc = .ok declarations := by
  rw [InPlace.parseDoc, GenericModbusDevice.parseDoc_eq_ok_iff]
  dsimp only
  split_ifs with unsupported
  · simp [unsupported]
  · simp only [unsupported, not_false_eq_true, true_and, ← collect_eq_ok_iff,
      ← storeGroups_eq_ok_iff, Prod.ext_iff]
    split
    next failed => simp [failed]
    next stored =>
      split
      next failed => simp [failed]
      next grouped => simp [stored, grouped, eq_comm, and_comm]

/-! ## Attempts -/

variable (device : GenericModbusDevice) (fs : LittleFS) (opens : Bool)

/-- What an attempt to begin comes to: what it returns, and what the device declares then. -/
structure Outcome where
  returned : Bool
  registers : List RegisterDef
  groups : List RegisterGroup

/-- What `begin` comes to. -/
def outcome (lib : ArduinoJson) : Outcome :=
  let attempt := InPlace.begin device lib fs opens
  ⟨attempt.2, attempt.1.registers, attempt.1.groups⟩

/-- What `loadJSON` returns for a document, with these vectors. -/
def loads (lib : ArduinoJson) (doc : Json) (registers : List RegisterDef)
    (groups : List RegisterGroup) : Bool :=
  match (InPlace.parseDoc lib doc ⟨1, registers, groups⟩).2 with
  | .error _ => false
  | .ok () => !(registers ++ (stored lib doc).1 = [] ∧ groups ++ (stored lib doc).2 = [])

theorem parseDoc_snd_congr (schemaVersion : Int) (registers : List RegisterDef)
    (groups : List RegisterGroup) :
    (InPlace.parseDoc lib doc ⟨schemaVersion, registers, groups⟩).2 =
      (InPlace.parseDoc lib doc ⟨1, registers, groups⟩).2 := by
  rw [InPlace.parseDoc, InPlace.parseDoc]
  dsimp only
  split
  · rfl
  · split
    · rfl
    · split <;> rfl

theorem loadJSON_spec (opened : InPlace.openDocument device lib fs opens = some doc) :
    (InPlace.loadJSON device lib fs opens).2 = loads lib doc device.registers device.groups ∧
      (InPlace.loadJSON device lib fs opens).1.registers =
        device.registers ++ (stored lib doc).1 ∧
      (InPlace.loadJSON device lib fs opens).1.groups = device.groups ++ (stored lib doc).2 := by
  obtain ⟨registers, groups⟩ := @InPlace.parseDoc_stores lib doc
    ⟨device.schemaVersion, device.registers, device.groups⟩
  rw [InPlace.loadJSON, opened, loads, ← parseDoc_snd_congr device.schemaVersion]
  dsimp only
  split
  · exact ⟨rfl, registers, groups⟩
  · refine ⟨?_, registers, groups⟩
    rw [withDeclarations_registers, withDeclarations_groups, registers, groups]

/-- What an attempt comes to depends on the document and on the vectors alone. -/
theorem outcome_eq (started : device.initialized = false) :
    outcome device fs opens lib =
      match InPlace.openDocument device lib fs opens with
      | none => ⟨false, device.registers, device.groups⟩
      | some doc =>
          ⟨loads lib doc device.registers device.groups, device.registers ++ (stored lib doc).1,
            device.groups ++ (stored lib doc).2⟩ := by
  have begun : outcome device fs opens lib =
      let loaded := InPlace.loadJSON device lib fs opens
      ⟨loaded.2, loaded.1.registers, loaded.1.groups⟩ := by
    rw [outcome, InPlace.begin, started, if_neg Bool.false_ne_true]
    dsimp only
    split_ifs with returned
    · rw [returned]
    · rw [Bool.not_eq_true] at returned
      rw [returned]
  rw [begun]
  cases opened : InPlace.openDocument device lib fs opens with
  | none => rw [InPlace.loadJSON, opened]
  | some doc =>
      obtain ⟨returned, registers, groups⟩ := loadJSON_spec device fs opens opened
      dsimp only
      rw [returned, registers, groups]

/-- An attempt stores behind what is there, whatever it returns. -/
theorem begin_stores (started : device.initialized = false) :
    (InPlace.begin device lib fs opens).1.registers = device.registers ++
        (InPlace.openDocument device lib fs opens).elim [] (fun doc => (stored lib doc).1) ∧
      (InPlace.begin device lib fs opens).1.groups = device.groups ++
        (InPlace.openDocument device lib fs opens).elim [] (fun doc => (stored lib doc).2) := by
  have begun := @outcome_eq lib device fs opens started
  have registers := congrArg Outcome.registers begun
  have groups := congrArg Outcome.groups begun
  rw [outcome] at registers groups
  dsimp only at registers groups
  rw [registers, groups]
  cases InPlace.openDocument device lib fs opens with
  | none => exact ⟨(List.append_nil _).symm, (List.append_nil _).symm⟩
  | some doc => exact ⟨rfl, rfl⟩

theorem loadJSON_frame :
    (InPlace.loadJSON device lib fs opens).1.initialized = device.initialized ∧
      (InPlace.loadJSON device lib fs opens).1.jsonFilePath = device.jsonFilePath := by
  rw [InPlace.loadJSON]
  cases InPlace.openDocument device lib fs opens with
  | none => exact ⟨rfl, rfl⟩
  | some doc =>
      dsimp only
      split <;> exact ⟨rfl, rfl⟩

/-- A failed attempt changes nothing else that a later one depends on. -/
theorem begin_frame (failed : (InPlace.begin device lib fs opens).2 = false) :
    (InPlace.begin device lib fs opens).1.initialized = false ∧
      (InPlace.begin device lib fs opens).1.jsonFilePath = device.jsonFilePath := by
  obtain ⟨initialized, path⟩ := @loadJSON_frame lib device fs opens
  rw [InPlace.begin] at failed ⊢
  dsimp only at failed ⊢
  split_ifs at failed ⊢ with begun
  rw [Bool.not_eq_true] at begun
  exact ⟨initialized.trans begun, path⟩

/-! ## What a failed attempt leaves -/

/-- The document has an entry that `parseDoc` stores: its first register is accepted, or it has none
and its first group is accepted. -/
def StoresEntry (lib : ArduinoJson) (doc : Json) : Prop :=
  let schema := (doc.member (ascii "schema_version")).intOr 1
  ¬ (schema < 1 ∨ schema > maxSupportedSchemaVersion) ∧
    ((∃ entry ∈ (doc.elements (ascii "registers")).head?,
        (parseRegisterDef lib entry schema).isOk = true) ∨
      doc.elements (ascii "registers") = [] ∧ ¬ schema < 2 ∧
        ∃ entry ∈ (doc.elements (ascii "groups")).head?,
          (parseGroup lib entry schema).isOk = true)

theorem storeGroups_eq_nil_iff (schema : Int) (obj : Json) (key : Bytes) :
    (InPlace.storeGroups lib schema (obj.member key) []).1 = [] ↔
      ¬ (¬ schema < 2 ∧
        ∃ entry ∈ (obj.elements key).head?, (parseGroup lib entry schema).isOk = true) := by
  rw [InPlace.storeGroups, Json.elements]
  cases (obj.member key).asArray with
  | none => simp
  | some entries =>
      dsimp only
      split_ifs with old
      · simp [old]
      · rw [collect_eq_nil_iff]
        simp [old]

theorem stored_eq_nil_iff :
    (stored lib doc).1 = [] ∧ (stored lib doc).2 = [] ↔ ¬ StoresEntry lib doc := by
  rw [stored, InPlace.parseDoc, StoresEntry]
  dsimp only
  generalize (doc.member (ascii "schema_version")).intOr 1 = schema
  split_ifs with unsupported
  · simp [unsupported]
  · cases listed : doc.elements (ascii "registers") with
    | nil =>
        have groups := @storeGroups_eq_nil_iff lib schema doc (ascii "groups")
        dsimp only [collect]
        split <;> simpa [unsupported] using groups
    | cons entry entries =>
        have registers := @collect_eq_nil_iff _ _ _ (fun entry => parseRegisterDef lib entry schema)
          (entry :: entries)
        cases accepted : parseRegisterDef lib entry schema with
        | error error => simp [collect, accepted, Except.isOk, Except.toBool]
        | ok reg =>
            have nonempty : (collect (fun entry => parseRegisterDef lib entry schema)
                (entry :: entries) []).1 ≠ [] := by
              simp [registers, accepted, Except.isOk, Except.toBool]
            split
            · simp [nonempty, unsupported, accepted, Except.isOk, Except.toBool]
            · split <;> simp [nonempty, unsupported, accepted, Except.isOk, Except.toBool]

/-- A failed attempt leaves the device as it was, for all later attempts, if and only if nothing was
stored. -/
theorem outcome_failed_iff (started : device.initialized = false) (second : LittleFS)
    (secondOpens : Bool) (failed : (InPlace.begin device lib fs opens).2 = false) :
    outcome (InPlace.begin device lib fs opens).1 second secondOpens lib =
        outcome device second secondOpens lib ↔
      (InPlace.begin device lib fs opens).1.registers = device.registers ∧
        (InPlace.begin device lib fs opens).1.groups = device.groups := by
  obtain ⟨initialized, path⟩ := begin_frame device fs opens failed
  generalize (InPlace.begin device lib fs opens).1 = left at initialized path
  have same : InPlace.openDocument left lib second secondOpens =
      InPlace.openDocument device lib second secondOpens := by
    rw [InPlace.openDocument, InPlace.openDocument, path]
  rw [outcome_eq left second secondOpens initialized,
    outcome_eq device second secondOpens started, same]
  constructor
  · intro equal
    cases opened : InPlace.openDocument device lib second secondOpens with
    | none =>
        rw [opened] at equal
        exact ⟨congrArg Outcome.registers equal, congrArg Outcome.groups equal⟩
    | some doc =>
        rw [opened] at equal
        exact ⟨List.append_cancel_right (congrArg Outcome.registers equal),
          List.append_cancel_right (congrArg Outcome.groups equal)⟩
  · rintro ⟨registers, groups⟩
    rw [registers, groups]

variable (config : Config) (jsonFile : Bytes)

/-- After a failed attempt on a new device, a later one comes to the same as on a new device, if and
only if the content of the failed one has no entry that was stored. -/
theorem failed_load_traceless_iff (lib : ArduinoJson) (first second : LittleFS)
    (firstOpens secondOpens : Bool)
    (failed : (InPlace.begin (create lib config jsonFile) lib first firstOpens).2 = false) :
    let fresh := create lib config jsonFile
    outcome (InPlace.begin fresh lib first firstOpens).1 second secondOpens lib =
        outcome fresh second secondOpens lib ↔
      ¬ ∃ doc, InPlace.openDocument fresh lib first firstOpens = some doc ∧
        StoresEntry lib doc := by
  obtain ⟨registers, groups⟩ := @begin_stores lib (create lib config jsonFile) first firstOpens rfl
  dsimp only
  rw [outcome_failed_iff _ first firstOpens rfl second secondOpens failed, registers, groups]
  cases InPlace.openDocument (create lib config jsonFile) lib first firstOpens with
  | none => simp
  | some doc => simpa [create] using @stored_eq_nil_iff lib doc

/-- The text of a device with one register, and the same with another entry that has no address. -/
def powerText (complete : Bool) : Bytes :=
  ascii "\x7b\"registers\":[\x7b\"addr\":\"16\",\"name\":\"power\"\x7d" ++
    (if complete then [] else ascii ",\x7b\x7d") ++ ascii "]\x7d"

/-- The document of that text. -/
def powerDocument (complete : Bool) : Json :=
  .object [(ascii "registers", .array (
    .object [(ascii "addr", .string (ascii "16")), (ascii "name", .string (ascii "power"))] ::
      if complete then [] else [.object []]))]

/-- The library, as far as the two texts need it. -/
def powerJson : ArduinoJson :=
  flatJson ([false, true].map fun complete => (powerText complete, powerDocument complete))

/-- The file system with such a device. -/
def powerFile (complete : Bool) : LittleFS where
  mounted := true
  files path := if path = ascii "/devices/p.json" then some (powerText complete) else none
  directories path := path = ascii "/devices"

/-- The device of that file, before it begins. -/
def powerDevice : GenericModbusDevice := .create powerJson .initial (ascii "/devices/p.json")

theorem failed_load_traceless_power :
    outcome (InPlace.begin powerDevice powerJson (powerFile false) true).1 (powerFile true) true
        powerJson = outcome powerDevice (powerFile true) true powerJson ↔
      ¬ ∃ doc, InPlace.openDocument powerDevice powerJson (powerFile false) true = some doc ∧
        StoresEntry powerJson doc :=
  failed_load_traceless_iff .initial (ascii "/devices/p.json") powerJson (powerFile false)
    (powerFile true) true true (by decide +kernel)

/-- After a failed attempt, a complete file is rejected that a new device accepts. -/
theorem failed_load_rejects_complete :
    (InPlace.begin powerDevice powerJson (powerFile false) true).2 = false ∧
      (outcome (InPlace.begin powerDevice powerJson (powerFile false) true).1 (powerFile true) true
        powerJson).returned = false ∧
      (outcome powerDevice (powerFile true) true powerJson).returned = true := by
  decide +kernel

/-! ## Uploads and starts -/

theorem InPlace.parseDoc_eq_error {schemaVersion : Int} {error : Bytes}
    (failed : GenericModbusDevice.parseDoc lib doc = .error error) :
    ∃ other, (InPlace.parseDoc lib doc ⟨schemaVersion, [], []⟩).2 = .error other := by
  cases returned : (InPlace.parseDoc lib doc ⟨schemaVersion, [], []⟩).2 with
  | error other => exact ⟨other, rfl⟩
  | ok done =>
      have accepted := InPlace.parseDoc_eq_ok_iff.mp (Prod.ext rfl returned)
      rw [failed] at accepted
      contradiction

/-- What is accepted as an upload is what the functional parser accepts. -/
theorem InPlace.validateJSON_eq_ok_iff {content : Bytes} {declarations : Declarations} :
    InPlace.validateJSON lib content = (declarations, .ok ()) ↔
      GenericModbusDevice.validateJSON lib content = .ok declarations := by
  rw [InPlace.validateJSON, GenericModbusDevice.validateJSON]
  dsimp only
  split_ifs
  · simp
  · cases lib.deserializeJson content with
    | error error => simp
    | ok doc =>
        dsimp only
        cases parsed : GenericModbusDevice.parseDoc lib doc with
        | error error =>
            obtain ⟨other, failed⟩ := @InPlace.parseDoc_eq_error lib doc 1 error parsed
            simp [failed, bind, Except.bind]
        | ok found =>
            rw [InPlace.parseDoc_eq_ok_iff.mpr parsed]
            dsimp only [bind, Except.bind]
            split_ifs <;> simp

theorem loadJSON_eq :
    GenericModbusDevice.loadJSON device lib fs opens =
      (InPlace.openDocument device lib fs opens).bind fun doc =>
        match GenericModbusDevice.parseDoc lib doc with
        | .error _ => none
        | .ok declarations =>
            if declarations.registers = [] ∧ declarations.groups = [] then none
            else
              some { device with
                deviceId := (doc.member (ascii "device_id")).stringOr (ascii "unknown")
                deviceName := (doc.member (ascii "name")).stringOr (ascii "Unknown Device")
                schemaVersion := declarations.schemaVersion
                registers := declarations.registers
                groups := declarations.groups } := by
  rw [GenericModbusDevice.loadJSON, InPlace.openDocument]
  cases fs.files device.jsonFilePath with
  | none => rfl
  | some content =>
      dsimp only
      split
      · rfl
      · split
        · rfl
        · cases lib.deserializeJson content with
          | error error => rfl
          | ok doc => rfl

theorem InPlace.loadJSON_eq_iff {loaded : GenericModbusDevice} (registers : device.registers = [])
    (groups : device.groups = []) :
    InPlace.loadJSON device lib fs opens = (loaded, true) ↔
      GenericModbusDevice.loadJSON device lib fs opens = some loaded := by
  rw [InPlace.loadJSON, GenericModbusDevice.loadJSON_eq]
  cases InPlace.openDocument device lib fs opens with
  | none => simp
  | some doc =>
      rw [Option.bind_some, registers, groups]
      dsimp only
      cases parsed : GenericModbusDevice.parseDoc lib doc with
      | error error =>
          obtain ⟨other, failed⟩ :=
            @InPlace.parseDoc_eq_error lib doc device.schemaVersion error parsed
          simp [failed]
      | ok found =>
          rw [InPlace.parseDoc_eq_ok_iff.mpr parsed]
          dsimp only [withDeclarations]
          split_ifs with empty
          · simp [empty]
          · simp [empty]

/-- On a device without registers and groups, `begin` is the functional one. -/
theorem InPlace.begin_eq_iff {begun : GenericModbusDevice} (registers : device.registers = [])
    (groups : device.groups = []) :
    InPlace.begin device lib fs opens = (begun, true) ↔
      GenericModbusDevice.begin device lib fs opens = some begun := by
  rw [InPlace.begin, GenericModbusDevice.begin]
  split_ifs with started
  · simp
  · rw [Option.map_eq_some_iff]
    constructor
    · intro returned
      dsimp only at returned
      split_ifs at returned with succeeded
      · exact ⟨_, (InPlace.loadJSON_eq_iff device fs opens registers groups).mp
          (Prod.ext rfl succeeded), (Prod.mk.inj returned).1⟩
      · exact absurd (Prod.mk.inj returned).2 Bool.false_ne_true
    · rintro ⟨loaded, found, rfl⟩
      rw [(InPlace.loadJSON_eq_iff device fs opens registers groups).mpr found]
      rfl

/-- What a new device reads from its file. -/
theorem openDocument_create (lib : ArduinoJson) {content : Bytes}
    (there : fs.files jsonFile = some content) :
    InPlace.openDocument (create lib config jsonFile) lib fs true =
      if content.length > maxJSONFileBytes then none
      else (lib.deserializeJson content).toOption := by
  rw [InPlace.openDocument, create, there]
  dsimp only
  rw [if_neg (by decide)]
  split
  · rfl
  · cases lib.deserializeJson content <;> rfl

/-- An upload is accepted, if and only if a new device whose file it is begins, and both leave the
same registers and groups. -/
theorem validateJSON_agrees_begin (lib : ArduinoJson) {content : Bytes}
    (there : fs.files jsonFile = some content) :
    let uploaded := InPlace.validateJSON lib content
    let begun := InPlace.begin (create lib config jsonFile) lib fs true
    (uploaded.2 = .ok () ↔ begun.2 = true) ∧
      (uploaded.2 = .ok () →
        begun.1.registers = uploaded.1.registers ∧ begun.1.groups = uploaded.1.groups) := by
  have opened := openDocument_create fs config jsonFile lib there
  have begun := @outcome_eq lib (create lib config jsonFile) fs true rfl
  have registers : (create lib config jsonFile).registers = [] := rfl
  have groups : (create lib config jsonFile).groups = [] := rfl
  rw [opened, registers, groups] at begun
  change (_ ↔ (outcome (create lib config jsonFile) fs true lib).returned = true) ∧
    (_ → (outcome (create lib config jsonFile) fs true lib).registers = _ ∧
      (outcome (create lib config jsonFile) fs true lib).groups = _)
  rw [begun, InPlace.validateJSON]
  dsimp only
  split_ifs
  · simp
  · cases lib.deserializeJson content with
    | error error => simp [Except.toOption]
    | ok doc =>
        dsimp only [Except.toOption]
        rw [loads, stored]
        dsimp only
        split
        · simp
        · split_ifs with empty
          · simp [empty]
          · simp [empty]

theorem validateJSON_agrees_begin_power :
    (powerFile true).files (ascii "/devices/p.json") = some (powerText true) ∧
      let uploaded := InPlace.validateJSON powerJson (powerText true)
      let begun := InPlace.begin powerDevice powerJson (powerFile true) true
      (uploaded.2 = .ok () ↔ begun.2 = true) ∧
        (uploaded.2 = .ok () →
          begun.1.registers = uploaded.1.registers ∧ begun.1.groups = uploaded.1.groups) := by
  have there : (powerFile true).files (ascii "/devices/p.json") = some (powerText true) := by
    simp [powerFile]
  exact ⟨there, validateJSON_agrees_begin (powerFile true) .initial (ascii "/devices/p.json")
    powerJson there⟩

end GenericModbusDevice

end ModbusBridge
