import ModbusBridge.Configuration.Members

/-!
# The stored configuration

The configuration is written to a file and read back. What the library leaves in the document when
it cannot parse a file is a parameter.
-/

namespace ModbusBridge

namespace Config

variable {lib : ArduinoJson} {config : Config} {fs : LittleFS}

/-! ## Loading -/

/-- One turn of the loop of `load` over the defaults. -/
def fillIn (config : Config) (default : Bytes × Json) : Config :=
  if (config.document.member default.1).isNull then config.set default.1 default.2 else config

/-- `load`: whether it succeeds, the configuration and the file system afterwards. The file can be
opened or not; `left` is the document that a failed parse leaves. -/
def load (lib : ArduinoJson) (left : Bytes → Json) (config : Config) (fs : LittleFS) (opens : Bool)
    (room : Room) : Bool × Config × LittleFS :=
  if !fs.fileExists config.configPath then
    let config := { config.setDefaults with isLoaded := true }
    let saved := config.save lib fs room
    (saved.1, config, saved.2)
  else if !opens then (false, { config.setDefaults with isLoaded := true }, fs)
  else
    let file := (fs.files config.configPath).getD []
    match lib.deserializeJson file with
    | .error _ =>
        let config := { config with document := left file }
        (false, { config.setDefaults with isLoaded := true }, fs)
    | .ok document =>
        let config := { config with document }
        let temp := setDefaults ⟨[], .null, false⟩
        -- `copyArray` copies the document of `temp`
        let defaults := match temp.document with
          | .object members => members
          | _ => []
        let config := { defaults.foldl fillIn config with isLoaded := true }
        (config.validate lib fs, config, fs)

/-- The document that `load` completes with defaults. -/
def found (lib : ArduinoJson) (left : Bytes → Json) (config : Config) (fs : LittleFS)
    (opens : Bool) : Json :=
  if !fs.fileExists config.configPath ∨ !opens then config.document
  else
    let file := (fs.files config.configPath).getD []
    match lib.deserializeJson file with
    | .error _ => left file
    | .ok document => document

/-! ## Defaults for what is missing -/

theorem defaults_present : ∀ default ∈ defaults, default.2.isNull = false := by decide +kernel

theorem fillIn_of_not_writable (closed : ¬ config.document.Writable) (default : Bytes × Json) :
    config.fillIn default = config := by
  rw [fillIn, set, Json.setMember_of_not_writable closed]
  split <;> rfl

theorem writable_fillIn (writable : config.document.Writable) (default : Bytes × Json) :
    (config.fillIn default).document.Writable := by
  rw [fillIn]
  split
  · exact Json.writable_setMember writable _ _
  · exact writable

/-- A default takes the place of a value that is missing. -/
theorem member_fillIn (writable : config.document.Writable) (default : Bytes × Json)
    (key : Bytes) :
    (config.fillIn default).document.member key =
      if key = default.1 ∧ (config.document.member key).isNull = true then default.2
      else config.document.member key := by
  rw [fillIn]
  by_cases same : key = default.1
  · subst same
    by_cases missing : (config.document.member default.1).isNull = true
    · rw [if_pos missing, if_pos ⟨rfl, missing⟩]
      exact Json.member_setMember_self writable _ _
    · rw [if_neg missing, if_neg fun both => missing both.2]
  · have apart : ¬ (key = default.1 ∧ (config.document.member key).isNull = true) :=
      fun both => same both.1
    rw [if_neg apart]
    split
    · exact Json.member_setMember_of_ne same _ _
    · rfl

/-- What is there is kept, and what is missing has its default. -/
structure Completed (defaults : List (Bytes × Json)) (before after : Config) : Prop where
  path : after.configPath = before.configPath
  keeps : ∀ key, (before.document.member key).isNull = false →
    after.document.member key = before.document.member key
  others : ∀ key, key ∉ defaults.map Prod.fst →
    after.document.member key = before.document.member key
  fills : ∀ default ∈ defaults, (before.document.member default.1).isNull = true →
    after.document.member default.1 = default.2

theorem foldl_fillIn (writable : config.document.Writable) {defaults : List (Bytes × Json)}
    (distinct : (defaults.map Prod.fst).Nodup)
    (present : ∀ default ∈ defaults, default.2.isNull = false) :
    Completed defaults config (defaults.foldl fillIn config) := by
  induction defaults generalizing config with
  | nil =>
      exact ⟨rfl, fun _ _ => rfl, fun _ _ => rfl, fun _ listed => absurd listed List.not_mem_nil⟩
  | cons default defaults induction =>
      rw [List.map_cons, List.nodup_cons] at distinct
      have later := induction (writable_fillIn writable default) distinct.2
        fun other listed => present other (List.mem_cons_of_mem default listed)
      have first := member_fillIn writable default
      refine ⟨later.path.trans (by rw [fillIn]; split <;> rfl), fun key there => ?_,
        fun key other => ?_, fun other listed missing => ?_⟩
      · have kept : (config.fillIn default).document.member key = config.document.member key := by
          rw [first, there, if_neg fun both => Bool.false_ne_true both.2]
        exact (later.keeps key (kept ▸ there)).trans kept
      · rw [List.map_cons, List.mem_cons, not_or] at other
        rw [List.foldl_cons, later.others key other.2, first, if_neg fun both => other.1 both.1]
      · rcases List.mem_cons.mp listed with rfl | listed
        · rw [List.foldl_cons, later.others _ distinct.1, first, if_pos ⟨rfl, missing⟩]
        · have apart : other.1 ≠ default.1 := fun same =>
            distinct.1 (same ▸ List.mem_map_of_mem listed)
          refine later.fills other listed ?_
          rw [first, if_neg fun both => apart both.1]
          exact missing

theorem Completed.present {after : Config} (completed : Completed defaults config after) :
    ∀ default ∈ defaults, (after.document.member default.1).isNull = false := by
  intro default listed
  cases there : (config.document.member default.1).isNull with
  | false => rw [completed.keeps _ there, there]
  | true => rw [completed.fills default listed there, defaults_present default listed]

/-! ## Complete configurations -/

/-- The document has the values that the file gives, and no default is missing. -/
structure Complete (lib : ArduinoJson) (config : Config) (fs : LittleFS) (opens : Bool)
    (document : Json) : Prop where
  present : ∀ default ∈ defaults, (document.member default.1).isNull = false
  kept : fs.fileExists config.configPath = true → opens = true → ∀ members,
    lib.deserializeJson ((fs.files config.configPath).getD []) = .ok (.object members) →
      ∀ key, ((Json.object members).member key).isNull = false →
        document.member key = (Json.object members).member key

theorem not_complete_of_not_writable {opens : Bool} {document : Json}
    (closed : ¬ document.Writable) : ¬ Complete lib config fs opens document := by
  intro complete
  exact closed (Json.writable_of_present
    (complete.present (ascii "rtu_addr", .integer 1) (by simp [defaults])))

theorem setDefaults_present (writable : config.document.Writable) :
    ∀ default ∈ defaults, (config.setDefaults.document.member default.1).isNull = false := by
  rw [setDefaults_eq]
  exact fun default listed => Json.isNull_member_setMembers writable defaults_present listed

theorem setDefaults_of_not_writable (closed : ¬ config.document.Writable) :
    config.setDefaults = config := by
  rw [setDefaults_eq, Json.setMembers_of_not_writable closed]

/-- What `load` makes of a file that it can parse. -/
theorem load_of_ok {left : Bytes → Json} {room : Room} {document : Json}
    (there : fs.fileExists config.configPath = true)
    (parsed : lib.deserializeJson ((fs.files config.configPath).getD []) = .ok document) :
    config.load lib left fs true room =
      let after := { defaults.foldl fillIn { config with document } with isLoaded := true }
      (after.validate lib fs, after, fs) := by
  have temp : (setDefaults ⟨[], .null, false⟩).document = .object defaults := by
    rw [setDefaults_eq]
    exact setMembers_null_defaults
  rw [load]
  simp only [there, Bool.not_true, Bool.false_eq_true, if_false, parsed, temp]

/-- No document is read from the file. -/
def Unparsed (lib : ArduinoJson) (config : Config) (fs : LittleFS) (opens : Bool) : Prop :=
  fs.fileExists config.configPath = true → opens = true → ∀ document,
    lib.deserializeJson ((fs.files config.configPath).getD []) ≠ .ok document

/-- Without a document from the file, `load` assigns the defaults to what there is. -/
theorem load_of_unparsed {left : Bytes → Json} {opens : Bool} {room : Room}
    (unparsed : Unparsed lib config fs opens) :
    (config.load lib left fs opens room).2.1.document =
      (setDefaults { config with document := config.found lib left fs opens }).document := by
  cases there : fs.fileExists config.configPath with
  | false => simp [load, found, there]
  | true =>
      cases opens with
      | false => simp [load, found, there]
      | true =>
          cases parsed : lib.deserializeJson ((fs.files config.configPath).getD []) with
          | error error => simp [load, found, there, parsed]
          | ok document => exact absurd parsed (unparsed there rfl document)

theorem complete_setDefaults_iff {opens : Bool} (other : Config)
    (unparsed : Unparsed lib config fs opens) :
    Complete lib config fs opens other.setDefaults.document ↔ other.document.Writable := by
  constructor
  · intro complete
    by_contra closed
    rw [setDefaults_of_not_writable closed] at complete
    exact not_complete_of_not_writable closed complete
  · exact fun writable => ⟨setDefaults_present writable,
      fun there opened members parsed => absurd parsed (unparsed there opened _)⟩

theorem foldl_fillIn_of_not_writable (closed : ¬ config.document.Writable)
    (defaults : List (Bytes × Json)) : defaults.foldl fillIn config = config := by
  induction defaults with
  | nil => rfl
  | cons default defaults induction =>
      rw [List.foldl_cons, fillIn_of_not_writable closed, induction]

/-- `load` leaves a complete configuration, if and only if the document that it completes takes
members. -/
theorem load_complete_iff (lib : ArduinoJson) (left : Bytes → Json) (config : Config)
    (fs : LittleFS) (opens : Bool) (room : Room) :
    Complete lib config fs opens (config.load lib left fs opens room).2.1.document ↔
      (config.found lib left fs opens).Writable := by
  by_cases unparsed : Unparsed lib config fs opens
  · rw [load_of_unparsed unparsed]
    exact complete_setDefaults_iff _ unparsed
  · simp only [Unparsed, not_forall, not_not] at unparsed
    obtain ⟨there, rfl, document, parsed⟩ := unparsed
    have found : config.found lib left fs true = document := by simp [found, there, parsed]
    rw [load_of_ok there parsed, found]
    constructor
    · intro complete
      by_contra closed
      rw [foldl_fillIn_of_not_writable (by exact closed)] at complete
      exact not_complete_of_not_writable closed complete
    · intro writable
      have completed := @foldl_fillIn { config with document } writable defaults
        defaults_distinct defaults_present
      refine ⟨completed.present, fun _ _ members same key there => ?_⟩
      obtain rfl : document = .object members := Except.ok.inj (parsed.symm.trans same)
      exact completed.keeps key there

/-- A configuration file with an empty array. -/
theorem load_array :
    let lib := flatJson [(ascii "[]", .array [])]
    let fresh : Config := ⟨ascii "/config.json", .null, false⟩
    let fs : LittleFS := LittleFS.put ⟨true, fun _ => none, fun _ => false⟩ fresh.configPath
      (ascii "[]")
    let after := (fresh.load lib (fun _ => .null) fs true (some 4096)).2.1
    after.getInt lib (ascii "rtu_addr") 0 = 0 ∧ ¬ Complete lib fresh fs true after.document := by
  intro lib fresh fs after
  refine ⟨by decide +kernel, not_complete_of_not_writable ?_⟩
  have there : fs.fileExists fresh.configPath = true := by decide +kernel
  have parsed : lib.deserializeJson ((fs.files fresh.configPath).getD []) = .ok (.array []) := rfl
  have loaded := @load_of_ok lib fresh fs (fun _ => .null) (some 4096) _ there parsed
  rw [foldl_fillIn_of_not_writable (by exact id)] at loaded
  have document : after.document = .array [] := by rw [show after = _ from congrArg (·.2.1) loaded]
  rw [document]
  exact id

/-! ## Saving -/

/-- The defaults pass their own checks, whatever files there are. -/
theorem validate_defaults (lib : ArduinoJson) (fs : LittleFS) (configPath : Bytes) :
    Config.validate lib ⟨configPath, .object defaults, true⟩ fs = true := rfl

theorem initial_eq : initial = ⟨ascii "/config.json", .object defaults, true⟩ := by
  rw [initial, setDefaults_eq, setMembers_null_defaults]

theorem save_of_valid (valid : config.validate lib fs = true) (room : Room) :
    config.save lib fs room =
      match room with
      | none => (false, fs)
      | some bytes =>
          let written := (lib.serializeJsonPretty config.document).take bytes
          (written.length ≠ 0, fs.put config.configPath written) := by
  unfold save
  rw [valid]
  rfl

/-- Saving keeps the file or writes it anew. -/
theorem file_save (lib : ArduinoJson) (config : Config) (fs : LittleFS) (room : Room) :
    (config.save lib fs room).2.files config.configPath = fs.files config.configPath ∨
      ∃ bytes, room = some bytes ∧ (config.save lib fs room).2.files config.configPath =
        some ((lib.serializeJsonPretty config.document).take bytes) := by
  unfold save
  split
  next => exact .inl rfl
  next =>
      cases room with
      | none => exact .inl rfl
      | some bytes => exact .inr ⟨bytes, rfl, fs.files_put_self ..⟩

theorem validate_of_saved {room : Room} (saved : (config.save lib fs room).1 = true) :
    config.validate lib fs = true := by
  by_contra invalid
  unfold save at saved
  rw [Bool.not_eq_true _ |>.mp invalid] at saved
  contradiction

/-- A save that succeeds has written a beginning of the text. -/
theorem file_of_saved {room : Room} (saved : (config.save lib fs room).1 = true) :
    ∃ bytes, room = some bytes ∧ (config.save lib fs room).2.files config.configPath =
      some ((lib.serializeJsonPretty config.document).take bytes) := by
  have valid := validate_of_saved saved
  rw [save_of_valid valid] at saved ⊢
  cases room with
  | none => contradiction
  | some bytes => exact ⟨bytes, rfl, fs.files_put_self ..⟩

theorem isValidDeviceModel_put {model : Bytes} (valid : isValidDeviceModel fs model = true)
    (path content : Bytes) : isValidDeviceModel (fs.put path content) model = true := by
  rw [isValidDeviceModel] at valid ⊢
  split at valid
  next json =>
      rw [if_pos json]
      exact LittleFS.fileExists_put path content valid
  next plain =>
      rw [if_neg plain]
      exact valid

theorem getString_of_null {key : Bytes} (missing : (config.document.member key).isNull = true)
    (default : Bytes) : config.getString lib key default = default := by
  rw [getString, if_pos (.inr missing)]

theorem getInt_of_null {key : Bytes} (missing : (config.document.member key).isNull = true)
    (default : Int) : config.getInt lib key default = default := by
  rw [getInt, if_pos (.inr missing)]

/-- A key that passes a check is there when its default does not pass. -/
theorem isNull_eq_false_of_getString {key default : Bytes} (check : Bytes → Bool)
    (refuses : check default = false) (accepted : check (config.getString lib key default) = true) :
    (config.document.member key).isNull = false := by
  by_contra missing
  rw [getString_of_null (Bool.not_eq_false _ |>.mp missing), refuses] at accepted
  contradiction

theorem isNull_eq_false_of_getInt {key : Bytes} {default : Int} (check : Int → Bool)
    (refuses : check default = false) (accepted : check (config.getInt lib key default) = true) :
    (config.document.member key).isNull = false := by
  by_contra missing
  rw [getInt_of_null (Bool.not_eq_false _ |>.mp missing), refuses] at accepted
  contradiction

theorem isLoaded_of_valid (valid : config.validate lib fs = true) : config.isLoaded = true := by
  by_contra unloaded
  rw [validate, getString, if_pos (.inl (by simpa using unloaded))] at valid
  contradiction

namespace Completed

variable {after : Config}

theorem getString (completed : Completed defaults config after) (ready : config.isLoaded = true)
    (loaded : after.isLoaded = true) {key default : Bytes}
    (there : (config.document.member key).isNull = false) :
    after.getString lib key default = config.getString lib key default := by
  rw [Config.getString, Config.getString, loaded, ready, completed.keeps key there]

theorem getInt (completed : Completed defaults config after) (ready : config.isLoaded = true)
    (loaded : after.isLoaded = true) {key : Bytes} {default : Int}
    (there : (config.document.member key).isNull = false) :
    after.getInt lib key default = config.getInt lib key default := by
  rw [Config.getInt, Config.getInt, loaded, ready, completed.keeps key there]

/-- A number that is missing gets the value as which it has been read before. -/
theorem getInt_default (completed : Completed defaults config after)
    (ready : config.isLoaded = true) (loaded : after.isLoaded = true) {key : Bytes} {value : Int}
    (default : (key, .integer value) ∈ defaults) (fits : Json.toInt value = value) :
    after.getInt lib key value = config.getInt lib key value := by
  cases there : (config.document.member key).isNull with
  | false => exact completed.getInt ready loaded there
  | true =>
      rw [getInt_of_null there, Config.getInt, loaded, completed.fills _ default there]
      exact fits

/-- A truth value that is missing gets the value as which it has been read before. -/
theorem getBool_default (completed : Completed defaults config after)
    (ready : config.isLoaded = true) (loaded : after.isLoaded = true) {key : Bytes} {value : Bool}
    (default : (key, .boolean value) ∈ defaults) :
    after.getBool key value = config.getBool key value := by
  rw [Config.getBool, Config.getBool, loaded, ready]
  cases there : (config.document.member key).isNull with
  | false => rw [completed.keeps key there, there]
  | true =>
      rw [completed.fills _ default there]
      rfl

/-- A valid configuration stays valid when its missing values get their defaults. -/
theorem validate (completed : Completed defaults config after) (loaded : after.isLoaded = true)
    (valid : config.validate lib fs = true) (path content : Bytes) :
    after.validate lib (fs.put path content) = true := by
  have ready := isLoaded_of_valid valid
  simp only [Config.validate, validSettings, Bool.and_eq_true, and_assoc] at valid ⊢
  obtain ⟨model, parity, dataBits, stopBits, baudrate, rtuAddr, rtuAddr', interval, interval'⟩ :=
    valid
  have modelThere := isNull_eq_false_of_getString (isValidDeviceModel fs) rfl model
  have parityThere := isNull_eq_false_of_getString isValidParity rfl parity
  have baudrateThere := isNull_eq_false_of_getInt (fun value => value == 9600 || value == 19200 ||
    value == 38400 || value == 57600 || value == 115200) rfl baudrate
  have rtuAddrThere := isNull_eq_false_of_getInt (fun value => decide (1 ≤ value)) rfl rtuAddr
  have intervalThere := isNull_eq_false_of_getInt (fun value => decide (1 ≤ value)) rfl interval
  rw [completed.getString ready loaded modelThere, completed.getString ready loaded parityThere,
    completed.getInt ready loaded baudrateThere, completed.getInt ready loaded rtuAddrThere,
    completed.getInt ready loaded intervalThere,
    completed.getInt_default ready loaded (by simp [defaults]) rfl,
    completed.getInt_default ready loaded (by simp [defaults]) rfl]
  exact ⟨isValidDeviceModel_put model path content, parity, dataBits, stopBits, baudrate, rtuAddr,
    rtuAddr', interval, interval'⟩

end Completed

/-- The library reads a text that it has written, and no shorter beginning of the text. -/
structure Reproduces (lib : ArduinoJson) (document : Json) : Prop where
  nonempty : lib.serializeJsonPretty document ≠ []
  readable : lib.deserializeJson (lib.serializeJsonPretty document) = .ok document
  incomplete : ∀ bytes < (lib.serializeJsonPretty document).length, ∃ error,
    lib.deserializeJson ((lib.serializeJsonPretty document).take bytes) = .error error

/-- The values of a configuration are read back. A key that it lacks may get a default. -/
structure ReadBack (config loaded : Config) : Prop where
  values : ∀ key, (config.document.member key).isNull = false →
    loaded.document.member key = config.document.member key
  others : ∀ key, key ∉ defaults.map Prod.fst →
    loaded.document.member key = config.document.member key

/-- What a call of `save` may come to: a file that `load` reads back, or the file as it was. -/
structure Atomic (lib : ArduinoJson) (left : Bytes → Json) (config : Config) (fs : LittleFS)
    (room : Room) : Prop where
  succeeds : (config.save lib fs room).1 = true →
    ∀ (loader : Config) (later : Room), loader.configPath = config.configPath →
      let result := loader.load lib left (config.save lib fs room).2 true later
      result.1 = true ∧ ReadBack config result.2.1
  fails : (config.save lib fs room).1 = false →
    (config.save lib fs room).2.files config.configPath = fs.files config.configPath

/-- How much of the text is written: nothing at all, or all of it. -/
def WritesWhole (lib : ArduinoJson) (config : Config) (fs : LittleFS) (room : Room) : Prop :=
  config.validate lib fs = true → ∀ bytes, room = some bytes →
    (lib.serializeJsonPretty config.document).length ≤ bytes ∨
      bytes = 0 ∧ fs.files config.configPath = some []

/-- Only an object is valid. -/
theorem object_of_valid (valid : config.validate lib fs = true) :
    ∃ members, config.document = .object members := by
  have there := isNull_eq_false_of_getString (isValidDeviceModel fs) rfl
    (Bool.and_eq_true_iff.mp valid).1
  cases document : config.document with
  | object members => exact ⟨members, rfl⟩
  | _ =>
      rw [document] at there
      contradiction

/-- The whole text is read back. -/
theorem load_whole {left : Bytes → Json} {later : Room} {loader : Config}
    (path : loader.configPath = config.configPath) (valid : config.validate lib fs = true)
    (readable : lib.deserializeJson (lib.serializeJsonPretty config.document) =
      .ok config.document) :
    let stored := fs.put config.configPath (lib.serializeJsonPretty config.document)
    let result := loader.load lib left stored true later
    result.1 = true ∧ ReadBack config result.2.1 := by
  intro stored result
  have file : stored.files loader.configPath = some (lib.serializeJsonPretty config.document) := by
    rw [path]
    exact fs.files_put_self ..
  have there : stored.fileExists loader.configPath = true := by
    rw [path]
    exact fs.fileExists_put_self ..
  have writable : config.document.Writable := by
    obtain ⟨members, object⟩ := object_of_valid valid
    rw [object]
    trivial
  have loaded : result = _ := load_of_ok there (by rw [file]; exact readable)
  have completed := @foldl_fillIn { loader with document := config.document } writable defaults
    defaults_distinct defaults_present
  generalize defaults.foldl fillIn { loader with document := config.document } = filled
    at loaded completed
  have same : Completed defaults config { filled with isLoaded := true } :=
    ⟨completed.path.trans path, completed.keeps, completed.others, completed.fills⟩
  rw [loaded]
  exact ⟨same.validate rfl valid _ _, same.keeps, same.others⟩

/-- A file that is cut short cannot be loaded. -/
theorem load_cut_short {left : Bytes → Json} {later : Room} {content : Bytes}
    (incomplete : ∃ error, lib.deserializeJson content = .error error) :
    (config.load lib left (fs.put config.configPath content) true later).1 = false := by
  obtain ⟨error, parsed⟩ := incomplete
  rw [load]
  simp only [LittleFS.fileExists_put_self, Bool.not_true, Bool.false_eq_true, if_false,
    LittleFS.files_put_self, Option.getD_some, parsed]

theorem written_atomic_iff (left : Bytes → Json) (fs : LittleFS) (bytes : Nat)
    (valid : config.validate lib fs = true)
    (reproduces : Reproduces lib config.document) :
    Atomic lib left config fs (some bytes) ↔ WritesWhole lib config fs (some bytes) := by
  have saved : config.save lib fs (some bytes) =
      (decide (((lib.serializeJsonPretty config.document).take bytes).length ≠ 0),
        fs.put config.configPath ((lib.serializeJsonPretty config.document).take bytes)) :=
    save_of_valid valid (some bytes)
  have whole_iff : WritesWhole lib config fs (some bytes) ↔
      (lib.serializeJsonPretty config.document).length ≤ bytes ∨
        bytes = 0 ∧ fs.files config.configPath = some [] :=
    ⟨fun writes => writes valid bytes rfl, fun writes _ _ same => Option.some.inj same ▸ writes⟩
  rw [whole_iff]
  have positive := List.length_pos_iff.mpr reproduces.nonempty
  by_cases whole : (lib.serializeJsonPretty config.document).length ≤ bytes
  · rw [List.take_of_length_le whole] at saved
    refine iff_of_true ⟨fun _ loader later path => ?_, fun failed => ?_⟩ (.inl whole)
    · rw [saved]
      exact load_whole path valid reproduces.readable
    · rw [saved] at failed
      exact absurd failed (by simpa using reproduces.nonempty)
  · by_cases none_written : bytes = 0
    · subst none_written
      have emptied : (config.save lib fs (some 0)).2.files config.configPath = some [] := by
        rw [saved]
        exact fs.files_put_self ..
      have failed : (config.save lib fs (some 0)).1 = false := by rw [saved]; rfl
      constructor
      · exact fun atomic => .inr ⟨rfl, (atomic.fails failed).symm.trans emptied⟩
      · rintro (all | ⟨-, empty⟩)
        · exact absurd all whole
        · exact ⟨fun success => by rw [failed] at success; contradiction,
            fun _ => emptied.trans empty.symm⟩
    · refine iff_of_false (fun atomic => ?_) (by simp [whole, none_written])
      have success : (config.save lib fs (some bytes)).1 = true := by
        rw [saved]
        simp [reproduces.nonempty, none_written]
      have loads := (atomic.succeeds success config (some 0) rfl).1
      rw [saved] at loads
      rw [load_cut_short (reproduces.incomplete bytes (Nat.lt_of_not_le whole))] at loads
      contradiction

/-- A save that fails leaves the file, and one that succeeds can be loaded, if and only if nothing
is written or everything. -/
theorem save_atomic_iff (left : Bytes → Json) (fs : LittleFS) (room : Room)
    (reproduces : ∀ members, config.document = .object members → Reproduces lib config.document) :
    Atomic lib left config fs room ↔ WritesWhole lib config fs room := by
  cases valid : config.validate lib fs with
  | false =>
      refine iff_of_true ⟨fun saved => ?_, fun _ => ?_⟩ fun validated => ?_
      · simp [save, valid] at saved
      · simp [save, valid]
      · rw [valid] at validated
        contradiction
  | true =>
      cases room with
      | none =>
          have saved := save_of_valid valid none
          refine iff_of_true ⟨fun success => ?_, fun _ => ?_⟩ fun _ _ opened => by contradiction
          · rw [saved] at success
            contradiction
          · rw [saved]
      | some bytes =>
          obtain ⟨members, object⟩ := object_of_valid valid
          exact written_atomic_iff left fs bytes valid (reproduces members object)

theorem flatJson_reproduces (document : Json) :
    Reproduces (flatJson [((flatJson []).serializeJsonPretty document, document)]) document := by
  refine ⟨flatJson_nonempty _ _, ?_, fun bytes short => ⟨ascii "InvalidInput", ?_⟩⟩
  · simp only [flatJson, List.lookup_cons_self, Option.elim_some]
  · have short : bytes < ((flatJson []).serializeJsonPretty document).length := short
    have shorter : ((flatJson []).serializeJsonPretty document).take bytes ≠
        (flatJson []).serializeJsonPretty document := by
      intro same
      have length := congrArg List.length same
      rw [List.length_take] at length
      omega
    rw [← beq_eq_false_iff_ne] at shorter
    simp only [flatJson] at shorter ⊢
    simp only [List.lookup_cons, shorter, List.lookup_nil, Option.elim_none]

/-- Another slave and a broker in place of the defaults. -/
def edited : Config :=
  (initial.set (ascii "rtu_addr") (.integer 7)).set (ascii "mqtt_server")
    (.string (ascii "192.168.1.10"))

/-- An edited configuration is saved over the defaults. -/
theorem save_atomic_edited :
    Atomic (flatJson [((flatJson []).serializeJsonPretty edited.document, edited.document)])
      (fun _ => .null) edited
      (LittleFS.put ⟨true, fun _ => none, fun _ => false⟩ edited.configPath
        ((flatJson []).serializeJsonPretty initial.document)) (some 4096) :=
  (save_atomic_iff (fun _ => .null) _ (some 4096) fun _ _ => flatJson_reproduces _).mpr
    fun _ _ same => .inl (Option.some.inj same ▸ by decide +kernel)

/-- The flash takes one byte of a configuration that has been on it before. -/
theorem save_one_byte :
    let lib := flatJson [((flatJson []).serializeJsonPretty initial.document, initial.document)]
    let text := lib.serializeJsonPretty initial.document
    let fs := LittleFS.put ⟨true, fun _ => none, fun _ => false⟩ initial.configPath text
    let (succeeds, stored) := initial.save lib fs (some 1)
    (initial.load lib (fun _ => .null) fs true (some 4096)).1 = true ∧
      succeeds = true ∧ stored.files initial.configPath = some (ascii "\x7b") ∧
      (initial.load lib (fun _ => .null) stored true (some 4096)).1 = false ∧
      ¬ Atomic lib (fun _ => .null) initial fs (some 1) := by
  intro lib text fs
  have reproduces : Reproduces lib initial.document := flatJson_reproduces _
  have valid (fs : LittleFS) : initial.validate lib fs = true := by
    rw [initial_eq]
    exact validate_defaults ..
  have brace : ∃ rest, text = ascii "\x7b" ++ (rest ++ ascii "\r\n\x7d") := by
    change ∃ rest, lib.serializeJsonPretty initial.document = _
    rw [initial_eq]
    exact ⟨_, List.append_assoc ..⟩
  obtain ⟨rest, brace⟩ := brace
  have long : 1 < text.length := by
    rw [brace]
    simp [ascii]
  have first : text.take 1 = ascii "\x7b" := by
    rw [brace]
    rfl
  have saved : initial.save lib fs (some 1) = (true, fs.put initial.configPath (text.take 1)) := by
    rw [save_of_valid (valid fs)]
    exact Prod.ext (by rw [first]; rfl) rfl
  have unloaded := @load_cut_short lib initial fs (fun _ => .null) (some 4096) _
    (reproduces.incomplete 1 long)
  have loaded := @load_whole lib initial ⟨true, fun _ => none, fun _ => false⟩ (fun _ => .null)
    (some 4096) initial rfl (valid _) reproduces.readable
  rw [saved]
  refine ⟨loaded.1, rfl, ?_, unloaded, fun atomic => ?_⟩
  · exact (fs.files_put_self ..).trans (congrArg some first)
  · have later := (atomic.succeeds (by rw [saved]) initial (some 4096) rfl).1
    rw [saved, unloaded] at later
    exact Bool.false_ne_true later

end Config

end ModbusBridge
