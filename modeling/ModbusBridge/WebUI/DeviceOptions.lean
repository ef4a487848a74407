import ModbusBridge.Devices.InverterFactory

/-!
# Device models

The configuration form offers device models, the configuration validates one, and the factory makes
a device of it. Each of the three builds its own path from the name of a JSON device.
-/

namespace ModbusBridge

/-! ## The form -/

/-- `escapeHtml`. -/
def escapeHtml (text : Bytes) : Bytes :=
  text.flatMap fun char =>
    if char = 38 then ascii "&amp;"
    else if char = 60 then ascii "&lt;"
    else if char = 62 then ascii "&gt;"
    else if char = 34 then ascii "&quot;"
    else if char = 39 then ascii "&#39;"
    else [char]

/-- `selectOption`. -/
def selectOption (value current label : Bytes) : Bytes :=
  let selected := if value = current then ascii " selected" else []
  ascii "<option value='" ++ escapeHtml value ++ ascii "'" ++ selected ++ ascii ">" ++
    escapeHtml label ++ ascii "</option>"

/-- What `openNextFile` yields for a directory. -/
structure DirectoryEntry where
  name : Bytes
  isDirectory : Bool
  content : Bytes

/-- An option: its value and its label. -/
structure DeviceOption where
  value : Bytes
  label : Bytes

/-- The option for a file under `/devices`, if it gets one. -/
def customOption (lib : ArduinoJson) (entry : DirectoryEntry) : Option DeviceOption :=
  if (ascii ".json").isSuffixOf entry.name ∧ !entry.isDirectory then
    let displayName :=
      match lib.deserializeJson entry.content with
      | .ok doc =>
          if doc.containsKey (ascii "name") then
            (doc.member (ascii "name")).asString lib ++ ascii " (Custom)"
          else entry.name ++ ascii " (Custom)"
      | .error _ => entry.name ++ ascii " (Custom)"
    some ⟨ascii "json:" ++ entry.name, displayName⟩
  else none

/-- The options of the form, in their order. -/
def deviceOptions (lib : ArduinoJson) (devices : List DirectoryEntry) : List DeviceOption :=
  supportedDevices.map (fun device => ⟨device.model, device.displayName⟩) ++
    devices.filterMap (customOption lib)

/-- `generateDeviceOptions`. -/
def generateDeviceOptions (lib : ArduinoJson) (devices : List DirectoryEntry) (current : Bytes) :
    Bytes :=
  (deviceOptions lib devices).flatMap fun option => selectOption option.value current option.label

/-! ## Three views of a model -/

/-- The file that a device reads, if it needs one, exists. -/
def Device.backed (fs : LittleFS) : Device → Bool
  | .genericModbusDevice jsonFile => fs.fileExists jsonFile
  | _ => true

/-- The factory makes a device that finds its file. -/
def creatable (fs : LittleFS) (model : Bytes) : Bool := (create model).elim false (Device.backed fs)

/-- The models on which the configuration and the factory agree: the configuration looks for a file
whose name ends in `.json` once more. -/
def Agreeable (fs : LittleFS) (model : Bytes) : Prop :=
  model ≠ ascii "solplanet_asw_hybrid" ∧ ∀ name, model = ascii "json:" ++ name →
    if isSafeDeviceFilename name = true
    then fs.fileExists (devicePath (name ++ ascii ".json")) = fs.fileExists (devicePath name)
    else fs.fileExists (devicePath (name ++ ascii ".json")) = false

theorem isValidDeviceModel_json (fs : LittleFS) (name : Bytes) :
    Config.isValidDeviceModel fs (ascii "json:" ++ name) =
      fs.fileExists (devicePath (name ++ ascii ".json")) := by
  have prefixed : (ascii "json:").isPrefixOf (ascii "json:" ++ name) = true :=
    List.isPrefixOf_iff_prefix.mpr (List.prefix_append _ _)
  have rest : (ascii "json:" ++ name).drop 5 = name := rfl
  simp only [Config.isValidDeviceModel, if_pos prefixed, rest, devicePath, List.append_assoc]

theorem creatable_json (fs : LittleFS) (name : Bytes) :
    creatable fs (ascii "json:" ++ name) =
      (isSafeDeviceFilename name && fs.fileExists (devicePath name)) := by
  have prefixed : (ascii "json:").isPrefixOf (ascii "json:" ++ name) = true :=
    List.isPrefixOf_iff_prefix.mpr (List.prefix_append _ _)
  have rest : (ascii "json:" ++ name).drop 5 = name := rfl
  simp only [creatable, create, if_pos prefixed, rest]
  cases isSafeDeviceFilename name <;> simp [Device.backed, devicePath]

/-- Built-in devices need no file, and only the old name is missing from the list. -/
theorem valid_iff_creatable_builtin (fs : LittleFS) {model : Bytes}
    (builtin : (ascii "json:").isPrefixOf model = false) :
    (Config.isValidDeviceModel fs model = true ↔ creatable fs model = true) ↔
      model ≠ ascii "solplanet_asw_hybrid" := by
  have valid : Config.isValidDeviceModel fs model = true ↔ model = solplanetASWModel ∨
      model = hikingDDS238Model ∨ model = dds238SimulatorModel := by
    simp [Config.isValidDeviceModel, builtin, supportedDevices]
  have created : creatable fs model = true ↔ model = solplanetASWModel ∨
      model = ascii "solplanet_asw_hybrid" ∨ model = hikingDDS238Model ∨
        model = dds238SimulatorModel := by
    rw [creatable, create]
    simp only [builtin, Bool.false_eq_true, if_false]
    split_ifs with solplanet hiking simulator
    · rcases solplanet with rfl | rfl <;> simp [Device.backed]
    · simp [Device.backed, hiking]
    · simp [Device.backed, simulator]
    · obtain ⟨solplanet, hybrid⟩ := not_or.mp solplanet
      simp [solplanet, hybrid, hiking, simulator]
  rw [valid, created]
  constructor
  · rintro agree rfl
    exact absurd (agree.mpr (Or.inr (Or.inl rfl))) (by decide)
  · intro different
    simp [different]

theorem valid_iff_creatable_iff (fs : LittleFS) (model : Bytes) :
    (Config.isValidDeviceModel fs model = true ↔ creatable fs model = true) ↔
      Agreeable fs model := by
  cases builtin : (ascii "json:").isPrefixOf model with
  | false =>
      have other : ∀ name, model ≠ ascii "json:" ++ name := by
        rintro name rfl
        rw [List.isPrefixOf_iff_prefix.mpr (List.prefix_append _ _)] at builtin
        exact Bool.noConfusion builtin
      rw [valid_iff_creatable_builtin fs builtin, Agreeable]
      exact ⟨fun known => ⟨known, fun name same => (other name same).elim⟩, And.left⟩
  | true =>
      obtain ⟨name, rfl⟩ := List.isPrefixOf_iff_prefix.mp builtin
      have known : ascii "json:" ++ name ≠ ascii "solplanet_asw_hybrid" := by
        intro same
        have first : (some 106 : Option UInt8) = some 115 := congrArg List.head? same
        exact absurd first (by decide)
      rw [isValidDeviceModel_json, creatable_json, Agreeable, ← Bool.eq_iff_iff]
      simp only [ne_eq, known, not_false_eq_true, List.append_cancel_left_eq, forall_eq', true_and]
      cases isSafeDeviceFilename name <;> simp

/-! ## A whole file system -/

/-- Taking one `.json` off after the other, the configuration accepts some name that the factory
refuses. -/
theorem not_agreeable_of_json (fs : LittleFS) :
    ∀ name, fs.fileExists (devicePath (name ++ ascii ".json")) = true →
      ∃ other, ¬ Agreeable fs (ascii "json:" ++ other)
  | name, present => by
      by_cases agree : Agreeable fs (ascii "json:" ++ name)
      · have condition := agree.2 name rfl
        split_ifs at condition with safe
        · obtain ⟨stem, same, shorter⟩ := isSafeDeviceFilename_json safe
          rw [present, ← same] at condition
          exact not_agreeable_of_json fs stem condition.symm
        · rw [present] at condition
          exact Bool.noConfusion condition
      · exact ⟨name, agree⟩
  termination_by name => name.length

/-- All JSON devices are agreed on only where there are none. -/
theorem agreeable_all_iff (fs : LittleFS) :
    (∀ name, Agreeable fs (ascii "json:" ++ name)) ↔
      ∀ name, fs.fileExists (devicePath (name ++ ascii ".json")) = false := by
  constructor
  · intro agree name
    by_contra present
    obtain ⟨other, disagree⟩ := not_agreeable_of_json fs name (by simpa using present)
    exact disagree (agree other)
  · intro none name
    rw [← valid_iff_creatable_iff, isValidDeviceModel_json, creatable_json, none]
    cases safe : isSafeDeviceFilename name with
    | false => simp
    | true =>
        obtain ⟨stem, rfl, -⟩ := isSafeDeviceFilename_json safe
        simp [none]

/-! ## An uploaded device -/

/-- What holds after the form for uploads has stored a file. -/
structure Uploaded (fs : LittleFS) (devices : List DirectoryEntry) (entry : DirectoryEntry) :
    Prop where
  safe : isSafeDeviceFilename entry.name = true
  isFile : entry.isDirectory = false
  listed : entry ∈ devices
  stored : fs.files (devicePath entry.name) = some entry.content

/-- A configuration whose settings are valid, but for the device model. -/
structure Ready (lib : ArduinoJson) (config : Config) : Prop where
  loaded : config.isLoaded = true
  writable : config.document.Writable
  settings : config.validSettings lib = true

/-- The form offers the model of a file, it can be saved, and the factory makes a device of it. -/
def Selectable (lib : ArduinoJson) (fs : LittleFS) (config : Config)
    (devices : List DirectoryEntry) (entry : DirectoryEntry) : Prop :=
  let model := ascii "json:" ++ entry.name
  (∃ option ∈ deviceOptions lib devices, option.value = model) ∧
    (∃ room, ((config.setString (ascii "device_model") model).save lib fs room).1 = true) ∧
    creatable fs model = true

theorem savable_iff {lib : ArduinoJson} (nonempty : ∀ doc, lib.serializeJsonPretty doc ≠ [])
    {config : Config} (ready : Ready lib config) (fs : LittleFS) (model : Bytes) :
    (∃ room, ((config.setString (ascii "device_model") model).save lib fs room).1 = true) ↔
      Config.isValidDeviceModel fs model = true := by
  have valid : (config.setString (ascii "device_model") model).validate lib fs =
      Config.isValidDeviceModel fs model := by
    rw [Config.validate, Config.getString_setString_self lib ready.loaded ready.writable,
      Config.validSettings_setString_model, ready.settings, Bool.and_true]
  constructor
  · rintro ⟨room, saved⟩
    by_contra invalid
    rw [Bool.not_eq_true] at invalid
    unfold Config.save at saved
    simp [valid, invalid] at saved
  · intro accepted
    refine ⟨some 1, ?_⟩
    rw [Config.save]
    simp [valid, accepted, nonempty]

theorem Uploaded.offered {fs : LittleFS} {devices : List DirectoryEntry} {entry : DirectoryEntry}
    (uploaded : Uploaded fs devices entry) (lib : ArduinoJson) :
    ∃ option ∈ deviceOptions lib devices, option.value = ascii "json:" ++ entry.name := by
  obtain ⟨stem, named, -⟩ := isSafeDeviceFilename_json uploaded.safe
  have suffix : (ascii ".json").isSuffixOf entry.name = true :=
    List.isSuffixOf_iff_suffix.mpr ⟨stem, named⟩
  obtain ⟨option, made⟩ : ∃ option, customOption lib entry = some option := by
    simp [customOption, suffix, uploaded.isFile]
  refine ⟨option, List.mem_append_right _ (List.mem_filterMap.mpr ⟨entry, uploaded.listed, made⟩),
    ?_⟩
  simp only [customOption, suffix, uploaded.isFile, Bool.not_false, and_self, if_true,
    Option.some.injEq] at made
  rw [← made]

theorem selectable_iff {lib : ArduinoJson} (nonempty : ∀ doc, lib.serializeJsonPretty doc ≠ [])
    {fs : LittleFS} {config : Config} (ready : Ready lib config) {devices : List DirectoryEntry}
    {entry : DirectoryEntry} (uploaded : Uploaded fs devices entry) :
    Selectable lib fs config devices entry ↔
      fs.fileExists (devicePath (entry.name ++ ascii ".json")) = true := by
  have created : creatable fs (ascii "json:" ++ entry.name) = true := by
    simp [creatable_json, uploaded.safe, LittleFS.fileExists, uploaded.stored]
  rw [Selectable, savable_iff nonempty ready, isValidDeviceModel_json]
  exact ⟨fun selectable => selectable.2.1, fun found => ⟨uploaded.offered lib, found, created⟩⟩

/-- The configuration and the factory agree on a model exactly where it is `Agreeable`; on all JSON
devices, exactly where there are none; and an uploaded device can be selected exactly where a second
file bears its name with another `.json`. -/
theorem device_models_agree_iff {lib : ArduinoJson}
    (nonempty : ∀ doc, lib.serializeJsonPretty doc ≠ []) (fs : LittleFS) :
    (∀ model, (Config.isValidDeviceModel fs model = true ↔ creatable fs model = true) ↔
      Agreeable fs model) ∧
      ((∀ name, Agreeable fs (ascii "json:" ++ name)) ↔
        ∀ name, fs.fileExists (devicePath (name ++ ascii ".json")) = false) ∧
      ∀ config devices entry, Ready lib config → Uploaded fs devices entry →
        (Selectable lib fs config devices entry ↔
          fs.fileExists (devicePath (entry.name ++ ascii ".json")) = true) :=
  ⟨valid_iff_creatable_iff fs, agreeable_all_iff fs,
    fun _ _ _ ready uploaded => selectable_iff nonempty ready uploaded⟩

/-! ## One device -/

/-- The text of a device with one register. -/
def meterText : Bytes :=
  ascii "\x7b\"name\":\"Meter\",\"registers\":[\x7b\"addr\":\"0\",\"name\":\"v\"\x7d]\x7d"

/-- The library, as far as one device and a flat configuration need it. -/
def meterJson : ArduinoJson :=
  flatJson [(meterText, .object [(ascii "name", .string (ascii "Meter")), (ascii "registers",
    .array [.object [(ascii "addr", .string (ascii "0")), (ascii "name", .string (ascii "v"))]])])]

/-- A file system with these files under `/devices`, each with the one device. -/
def meters (names : List Bytes) : LittleFS where
  mounted := true
  files path := if (names.map devicePath).contains path then some meterText else none
  directories path := path = ascii "/devices"

/-- The listing of `/devices`. -/
def meterEntries (names : List Bytes) : List DirectoryEntry :=
  names.map fun name => ⟨name, false, meterText⟩

theorem meterJson_nonempty : ∀ doc, meterJson.serializeJsonPretty doc ≠ [] :=
  flatJson_nonempty _

theorem initial_ready : Ready meterJson .initial where
  loaded := by decide +kernel
  writable := trivial
  settings := by decide +kernel

theorem uploaded_meter {names : List Bytes} (stored : ascii "meter.json" ∈ names) :
    Uploaded (meters names) (meterEntries names) ⟨ascii "meter.json", false, meterText⟩ where
  safe := by decide +kernel
  isFile := rfl
  listed := List.mem_map.mpr ⟨_, stored, rfl⟩
  stored := if_pos (List.contains_iff_mem.mpr (List.mem_map.mpr ⟨_, stored, rfl⟩))

/-- With a second file, the device can be selected. -/
theorem device_models_agree_twice :
    let names := [ascii "meter.json", ascii "meter.json.json"]
    Selectable meterJson (meters names) .initial (meterEntries names)
      ⟨ascii "meter.json", false, meterText⟩ :=
  ((device_models_agree_iff meterJson_nonempty (meters _)).2.2 _ _ _ initial_ready
    (uploaded_meter (by decide +kernel))).mpr (by decide +kernel)

/-- A device that was uploaded under its own name alone is offered and could be made, but is not
saved; and the old name of a built-in device can be made, but not saved. -/
theorem uploaded_meter_rejected :
    let fs := meters [ascii "meter.json"]
    let entries := meterEntries [ascii "meter.json"]
    let entry : DirectoryEntry := ⟨ascii "meter.json", false, meterText⟩
    Uploaded fs entries entry ∧
      creatable fs (ascii "json:meter.json") = true ∧
      Config.isValidDeviceModel fs (ascii "json:meter.json") = false ∧
      ¬ Selectable meterJson fs .initial entries entry ∧
      creatable fs (ascii "solplanet_asw_hybrid") = true ∧
      Config.isValidDeviceModel fs (ascii "solplanet_asw_hybrid") = false := by
  refine ⟨uploaded_meter (by decide +kernel), by decide +kernel, by decide +kernel, ?_,
    by decide +kernel, by decide +kernel⟩
  rw [selectable_iff meterJson_nonempty initial_ready (uploaded_meter (by decide +kernel))]
  decide +kernel

end ModbusBridge
