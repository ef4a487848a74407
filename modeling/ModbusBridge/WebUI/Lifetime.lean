import ModbusBridge.WebUI.FormRoundTrip
import ModbusBridge.WebUI.Uploads
import ModbusBridge.MQTT.Retain

/-!
# The files over the life of a device

Requests come in any order, with any arguments; the button resets the device; it starts again at any
time, also when a file has been written in part. What all this can do to the configuration and to
the files is said once, for one event, and followed through every run.
-/

namespace ModbusBridge

/-! ## Keys that are not set -/

theorem Json.member_setMembers_of_notMem {sets : List (Bytes × Json)} {key : Bytes}
    (other : key ∉ sets.map Prod.fst) (document : Json) :
    (document.setMembers sets).member key = document.member key := by
  induction sets generalizing document with
  | nil => rfl
  | cons set sets induction =>
      rw [List.map_cons, List.mem_cons, not_or] at other
      exact (induction other.2 _).trans (member_setMember_of_ne other.1 ..)

namespace Config

variable {lib : ArduinoJson} {config : Config} {fs : LittleFS} {key : Bytes}

theorem member_setDefaults (other : key ∉ defaults.map Prod.fst) (config : Config) :
    config.setDefaults.document.member key = config.document.member key := by
  rw [setDefaults_eq]
  exact Json.member_setMembers_of_notMem other _

theorem config_factoryReset (lib : ArduinoJson) (config : Config) (fs : LittleFS) (room : Room) :
    (config.factoryReset lib fs room).2.1 =
      ⟨config.configPath, config.document.setMembers defaults, true⟩ := by
  rw [factoryReset, setDefaults_eq]

theorem member_foldl_fillIn {sets : List (Bytes × Json)} (other : key ∉ sets.map Prod.fst)
    (config : Config) :
    (sets.foldl fillIn config).document.member key = config.document.member key := by
  induction sets generalizing config with
  | nil => rfl
  | cons set sets induction =>
      rw [List.map_cons, List.mem_cons, not_or] at other
      rw [List.foldl_cons, induction other.2, fillIn]
      split
      · exact Json.member_setMember_of_ne other.1 ..
      · rfl

/-- The document that is read of a text, or left of it. -/
def readBack (lib : ArduinoJson) (left : Bytes → Json) (text : Bytes) : Json :=
  match lib.deserializeJson text with
  | .error _ => left text
  | .ok document => document

/-- Saving writes no file but its own. -/
theorem files_save (lib : ArduinoJson) (config : Config) (fs : LittleFS) (room : Room)
    (path : Bytes) :
    (config.save lib fs room).2.files path = fs.files path ∨
      path = config.configPath ∧ ∃ bytes, (config.save lib fs room).2.files path =
        some ((lib.serializeJsonPretty config.document).take bytes) := by
  by_cases own : path = config.configPath
  · subst own
    exact (file_save lib config fs room).imp_right fun ⟨bytes, _, written⟩ => ⟨rfl, bytes, written⟩
  · refine .inl ?_
    unfold save
    split_ifs
    · rfl
    · cases room with
      | none => rfl
      | some bytes => exact fs.files_put_of_ne _ _ own

/-- A reset removes its own file and writes it anew. -/
theorem files_factoryReset (lib : ArduinoJson) (config : Config) (fs : LittleFS) (room : Room)
    (path : Bytes) :
    let (_, after, stored) := config.factoryReset lib fs room
    stored.files path = fs.files path ∨ path = config.configPath ∧
      (stored.files path = none ∨ ∃ bytes, stored.files path =
        some ((lib.serializeJsonPretty after.document).take bytes)) := by
  rw [factoryReset]
  dsimp only
  rw [setDefaults_eq]
  have saved := files_save lib
    ⟨config.configPath, config.document.setMembers defaults, true⟩
    (if fs.fileExists config.configPath then fs.remove config.configPath else fs) room path
  rcases saved with kept | ⟨own, written⟩
  · rw [kept]
    by_cases own : path = config.configPath
    · subst own
      split_ifs
      · exact .inr ⟨rfl, .inl (fs.files_remove_self _)⟩
      · exact .inl rfl
    · refine .inl ?_
      split_ifs
      · exact fs.files_remove_of_ne _ own
      · rfl
  · exact .inr ⟨own, .inr written⟩

theorem configPath_foldl_fillIn (sets : List (Bytes × Json)) (config : Config) :
    (sets.foldl fillIn config).configPath = config.configPath := by
  induction sets generalizing config with
  | nil => rfl
  | cons set sets induction =>
      rw [List.foldl_cons, induction, fillIn]
      split <;> rfl

/-- A start reads the file. Apart from defaults it has nothing else, and it writes nothing else. -/
structure Started (lib : ArduinoJson) (left : Bytes → Json) (configPath : Bytes) (fs : LittleFS)
    (room : Room) (after : Config) (stored : LittleFS) : Prop where
  path : after.configPath = configPath
  members : ∀ key ∉ defaults.map Prod.fst, (after.document.member key).isNull = true ∨
    after.document.member key = (readBack lib left ((fs.files configPath).getD [])).member key
  files : stored = fs ∨ stored = (after.save lib fs room).2

theorem load_started (lib : ArduinoJson) (left : Bytes → Json) (configPath : Bytes)
    (fs : LittleFS) (opens : Bool) (room : Room) :
    let (_, after, stored) := load lib left ⟨configPath, .null, false⟩ fs opens room
    Started lib left configPath fs room after stored := by
  have fresh : ∀ key ∉ defaults.map Prod.fst,
      ((setDefaults ⟨configPath, .null, false⟩).document.member key).isNull = true := by
    intro key other
    rw [member_setDefaults other]
    rfl
  cases there : fs.fileExists configPath with
  | false =>
      simp only [load, there, Bool.not_false, if_true]
      exact ⟨by rw [setDefaults_eq], fun key other => .inl (fresh key other), .inr rfl⟩
  | true =>
      cases opens with
      | false =>
          simp only [load, there, Bool.not_true, Bool.not_false, Bool.false_eq_true, if_false,
            if_true]
          exact ⟨by rw [setDefaults_eq], fun key other => .inl (fresh key other), .inl rfl⟩
      | true =>
          cases parsed : lib.deserializeJson ((fs.files configPath).getD []) with
          | error error =>
              simp only [load, there, parsed, Bool.not_true, Bool.false_eq_true, if_false]
              refine ⟨by rw [setDefaults_eq], fun key other => .inr ?_, .inl rfl⟩
              rw [readBack, parsed]
              dsimp only
              rw [member_setDefaults other]
          | ok document =>
              rw [load_of_ok there parsed]
              dsimp only
              refine ⟨?_, fun key other => .inr ?_, .inl rfl⟩
              · rw [configPath_foldl_fillIn]
              · rw [readBack, parsed]
                dsimp only
                rw [member_foldl_fillIn other]

end Config

namespace WebUI

variable {σ : Type} {lib : ArduinoJson} {ota : UpdateClass σ} {ui before after : WebUI σ}
  {request : HTTPRequest} {here : Surroundings}

/-! ## One event -/

/-- The keys that the form, the log level and a reset set. -/
def settings : List Bytes :=
  textFields ++ numberFields ++ checkBoxes ++ Config.defaults.map Prod.fst

/-- The key that opens the diagnostics. -/
def enableDiagnostics : Bytes := ascii "enable_diagnostics"

theorem enableDiagnostics_notMem : enableDiagnostics ∉ settings := by decide

theorem not_default_of_notMem {key : Bytes} (other : key ∉ settings) :
    key ∉ Config.defaults.map Prod.fst :=
  fun listed => other (List.mem_append_right _ listed)

theorem mem_settings_of_field {key : Bytes}
    (field : textFields.contains key = true ∨ numberFields.contains key = true ∨
      checkBoxes.contains key = true) : key ∈ settings := by
  refine List.mem_append_left _ ?_
  rcases field with text | number | box
  · exact List.mem_append_left _ (List.mem_append_left _ (List.contains_iff_mem.mp text))
  · exact List.mem_append_left _ (List.mem_append_right _ (List.contains_iff_mem.mp number))
  · exact List.mem_append_right _ (List.contains_iff_mem.mp box)

/-- A device is deleted, or stored as far as there is room. -/
def Stores (lib : ArduinoJson) (content : Option Bytes) : Prop :=
  content = none ∨ ∃ text bytes, text.length ≤ GenericModbusDevice.maxJSONFileBytes ∧
    Validates lib text ∧ content = some (text.take bytes)

/-- What an event does to a file: nothing, or it is the configuration and is removed or written, or
it is a device and the diagnostics are open. -/
inductive Written (lib : ArduinoJson) (before after : WebUI σ) (path : Bytes) : Prop
  | kept (same : after.fs.files path = before.fs.files path)
  | settings (own : path = before.config.configPath)
      (content : after.fs.files path = none ∨ ∃ bytes,
        after.fs.files path = some ((lib.serializeJsonPretty after.config.document).take bytes))
  | device (filename : Bytes) (safe : isSafeDeviceFilename filename = true)
      (own : path = devicePath filename)
      (opened : before.config.getBool enableDiagnostics false = true)
      (content : Stores lib (after.fs.files path))

/-- What an event does to the configuration and to the files. -/
structure Touches (lib : ArduinoJson) (before after : WebUI σ) : Prop where
  path : after.config.configPath = before.config.configPath
  members : ∀ key ∉ settings,
    after.config.document.member key = before.config.document.member key
  files : ∀ path, Written lib before after path

theorem Touches.of_same (config : after.config = before.config)
    (files : after.fs.files = before.fs.files) : Touches lib before after :=
  ⟨by rw [config], fun _ _ => by rw [config], fun path => .kept (by rw [files])⟩

theorem handleSave_touches : Touches lib ui (ui.handleSave lib request here).1 := by
  cases token : ui.validateCSRFToken request with
  | false =>
      rw [handleSave, token]
      exact .of_same rfl rfl
  | true =>
      cases form : validateForm request with
      | false =>
          rw [handleSave, token, form]
          exact .of_same rfl rfl
      | true =>
          obtain ⟨message, accepted⟩ := handleSave_accepted lib here token form
          rw [accepted]
          have path : (ui.config.setAll (assignments request)).configPath =
              ui.config.configPath := by
            rw [Config.setAll_eq]
          refine ⟨path, fun key other => ?_, fun file => ?_⟩
          · dsimp only
            rw [Config.setAll_eq]
            refine Json.member_setMembers_of_notMem (fun listed => other ?_) _
            obtain ⟨set, assigned, rfl⟩ := List.mem_map.mp listed
            exact mem_settings_of_field (key_of_mem_assignments assigned)
          · rcases Config.files_save lib (ui.config.setAll (assignments request)) ui.fs here.room
              file with same | ⟨own, written⟩
            · exact .kept same
            · exact .settings (own.trans path) (.inr written)

/-- A reset by the form or by the button. -/
theorem factoryReset_touches {room : Room} {reset : Bool × Config × LittleFS}
    (resets : ui.config.factoryReset lib ui.fs room = reset) {after : WebUI σ}
    (config : after.config = reset.2.1) (fs : after.fs = reset.2.2) : Touches lib ui after := by
  subst resets
  refine ⟨?_, fun key other => ?_, fun file => ?_⟩
  · rw [config, Config.config_factoryReset]
  · rw [config, Config.config_factoryReset]
    exact Json.member_setMembers_of_notMem (not_default_of_notMem other) _
  · rcases Config.files_factoryReset lib ui.config ui.fs room file with same | ⟨own, written⟩
    · exact .kept (fs ▸ same)
    · refine .settings own ?_
      rw [fs, config]
      exact written

theorem handleFactoryReset_touches : Touches lib ui (ui.handleFactoryReset lib request here).1 := by
  rw [handleFactoryReset]
  split
  · exact .of_same rfl rfl
  · dsimp only
    have resets : ui.config.factoryReset lib ui.fs here.room = _ := rfl
    split <;> exact factoryReset_touches resets rfl rfl

theorem handleLogConfig_touches : Touches lib ui (ui.handleLogConfig lib request here).1 := by
  rw [handleLogConfig]
  split
  · exact .of_same rfl rfl
  · cases logConfigBody (request.arg (ascii "plain")) with
    | error message => exact .of_same rfl rfl
    | ok level =>
        refine ⟨rfl, fun key other => ?_, fun file => ?_⟩
        · refine Json.member_setMember_of_ne ?_ ..
          rintro rfl
          exact other (by decide)
        · rcases Config.files_save lib (ui.config.setString (ascii "log_level") level) ui.fs
            here.room file with same | ⟨own, written⟩
          · exact .kept same
          · exact .settings own (.inr written)

theorem uploadJSON_touches (filename content : Bytes)
    (opened : ui.config.getBool enableDiagnostics false = true) :
    Touches lib ui (ui.uploadJSON lib here filename content).1 := by
  have config : (ui.uploadJSON lib here filename content).1.config = ui.config := by
    rw [uploadJSON]
    split
    · rfl
    · split
      · rfl
      · cases GenericModbusDevice.validateJSON lib content with
        | error error => rfl
        | ok declarations =>
            dsimp only
            split
            · rfl
            · cases here.room <;> rfl
  by_cases accepted : Uploadable lib ui filename content
  · have files := congrArg Prod.fst (@uploadJSON_accepted _ lib ui here _ _ accepted)
    cases room : here.room with
    | none =>
        rw [room] at files
        exact .of_same config files
    | some bytes =>
        rw [room] at files
        refine ⟨by rw [config], fun _ _ => by rw [config], fun path => ?_⟩
        have content_eq : (ui.uploadJSON lib here filename content).1.fs.files path =
            (ui.fs.put (devicePath filename) (content.take bytes)).files path := congrFun files path
        by_cases own : path = devicePath filename
        · refine .device filename accepted.safe own opened (.inr ⟨content, bytes, accepted.small,
            accepted.validates, ?_⟩)
          rw [content_eq, own, LittleFS.files_put_self]
        · exact .kept (content_eq.trans (ui.fs.files_put_of_ne _ _ own))
  · exact .of_same config (congrArg Prod.fst (@uploadJSON_rejected _ lib ui here _ _ accepted))

theorem deleteJSON_touches (filename : Bytes)
    (opened : ui.config.getBool enableDiagnostics false = true) :
    Touches lib ui (ui.deleteJSON here filename).1 := by
  rw [deleteJSON]
  split_ifs with unsafeName unmounted there removes
  · exact .of_same rfl rfl
  · exact .of_same rfl rfl
  · refine ⟨rfl, fun _ _ => rfl, fun path => ?_⟩
    by_cases own : path = devicePath filename
    · refine .device filename (by simpa using unsafeName) own opened (.inl ?_)
      rw [own]
      exact ui.fs.files_remove_self _
    · exact .kept (ui.fs.files_remove_of_ne _ own)
  · exact .of_same rfl rfl
  · exact .of_same rfl rfl

theorem handleDiagnosticsAPI_touches :
    Touches lib ui (ui.handleDiagnosticsAPI lib request here).1 := by
  rw [handleDiagnosticsAPI]
  split
  · exact .of_same rfl rfl
  next closed =>
    have opened : ui.config.getBool enableDiagnostics false = true := by
      simpa [enableDiagnostics] using closed
    cases lib.deserializeJson (request.arg (ascii "plain")) with
    | error error => exact .of_same rfl rfl
    | ok doc =>
        dsimp only
        split_ifs
        · exact uploadJSON_touches _ _ opened
        · exact deleteJSON_touches _ opened
        · exact .of_same rfl rfl

theorem dispatch_touches (handler : Option Handler) :
    Touches lib ui (ui.dispatch lib ota request here handler).1 := by
  have same {after : WebUI σ} (config : after.config = ui.config)
      (files : after.fs.files = ui.fs.files) : Touches lib ui after := .of_same config files
  cases handler with
  | none =>
      rw [dispatch, handleNotFound]
      split_ifs <;> exact same rfl rfl
  | some handler =>
      cases handler with
      | save => exact handleSave_touches
      | factoryReset => exact handleFactoryReset_touches
      | logConfig => exact handleLogConfig_touches
      | diagnosticsAPI => exact handleDiagnosticsAPI_touches
      | reboot =>
          rw [dispatch, handleReboot]
          split_ifs <;> exact same rfl rfl
      | restartmDNS =>
          rw [dispatch, handleRestartmDNS]
          split_ifs <;> exact same rfl rfl
      | otaUpload =>
          rw [dispatch, handleOTAUpload]
          split_ifs <;> exact same rfl rfl
      | diagnostics =>
          rw [dispatch, handleDiagnostics]
          split_ifs <;> exact same rfl rfl
      | captivePortal =>
          rw [dispatch, handleCaptivePortal]
          split_ifs <;> exact same rfl rfl
      | _ => exact same rfl rfl

theorem serve_touches (lib : ArduinoJson) (ota : UpdateClass σ) (ui : WebUI σ)
    (request : HTTPRequest) (here : Surroundings) :
    Touches lib ui (ui.serve lib ota request here).1 := by
  rw [serve]
  split_ifs
  · have touches := @dispatch_touches σ lib ota
      { ui with update := request.uploads.foldl (receiveFirmware ota) ui.update } request here
      (route request)
    refine ⟨touches.path, touches.members, fun path => ?_⟩
    cases touches.files path with
    | kept same => exact .kept same
    | settings own content => exact .settings own content
    | device filename safe own opened content => exact .device filename safe own opened content
  · exact dispatch_touches _

/-! ## Runs -/

/-- What happens to a device. -/
inductive Occurrence (σ : Type)
  | request (request : HTTPRequest) (here : Surroundings)
  /-- The button has been held. -/
  | button (room : Room)
  /-- The device starts, wherever it was: `LittleFS.begin` succeeds, or again after formatting. -/
  | start (mounts again opens : Bool) (room : Room) (random : List UInt8) (update : σ)

/-- What `buttonTask` does in the end. -/
def buttonReset (lib : ArduinoJson) (ui : WebUI σ) (room : Room) : WebUI σ :=
  let reset := ui.config.factoryReset lib ui.fs room
  { ui with config := reset.2.1, fs := reset.2.2 }

/-- `setup`, as far as the configuration and the files go. -/
def boot (lib : ArduinoJson) (left : Bytes → Json) (ui : WebUI σ) (mounts again opens : Bool)
    (room : Room) (random : List UInt8) (update : σ) : WebUI σ :=
  let fs := if mounts then { ui.fs with mounted := true }
    else ⟨again, fun _ => none, fun _ => false⟩
  let fresh : Config := ⟨ascii "/config.json", .null, false⟩
  let loaded := if fs.mounted then (fresh.load lib left fs opens room).2 else (fresh, fs)
  { config := loaded.1
    fs := loaded.2
    csrfToken := generateCSRFToken random
    logLevel := ESPLogger.stringToLogLevel
      (loaded.1.getString lib (ascii "log_level") (ascii "info"))
    update }

/-- The life of a device. -/
def lifetime (lib : ArduinoJson) (ota : UpdateClass σ) (left : Bytes → Json) (ui : WebUI σ) :
    StepSystem (WebUI σ) (Occurrence σ) where
  start := ui
  next ui
    | .request request here => some (ui.serve lib ota request here).1
    | .button room => some (ui.buttonReset lib room)
    | .start mounts again opens room random update =>
        some (ui.boot lib left mounts again opens room random update)

theorem exists_next (lib : ArduinoJson) (ota : UpdateClass σ) (left : Bytes → Json)
    (ui before : WebUI σ) (event : Occurrence σ) :
    ∃ after, (lifetime lib ota left ui).next before event = some after := by
  cases event <;> exact ⟨_, rfl⟩

/-- The files that a start finds. -/
def mountedFiles (ui : WebUI σ) (mounts : Bool) : Bytes → Option Bytes :=
  if mounts then ui.fs.files else fun _ => none

/-- A start has the settings that it reads, and writes no file but theirs. -/
theorem boot_started (lib : ArduinoJson) (left : Bytes → Json) (ui : WebUI σ)
    (mounts again opens : Bool) (room : Room) (random : List UInt8) (update : σ) :
    let after := ui.boot lib left mounts again opens room random update
    let found := mountedFiles ui mounts
    after.config.configPath = ascii "/config.json" ∧
      (∀ key ∉ settings, (after.config.document.member key).isNull = true ∨
        after.config.document.member key =
          (Config.readBack lib left ((found (ascii "/config.json")).getD [])).member key) ∧
      ∀ path, after.fs.files path = found path ∨ path = ascii "/config.json" ∧ ∃ bytes,
        after.fs.files path =
          some ((lib.serializeJsonPretty after.config.document).take bytes) := by
  intro after found
  obtain ⟨fs, files, boots⟩ : ∃ fs : LittleFS, fs.files = found ∧
      after = { ui with
        config := (if fs.mounted then
          (Config.load lib left ⟨ascii "/config.json", .null, false⟩ fs opens room).2
          else (⟨ascii "/config.json", .null, false⟩, fs)).1
        fs := (if fs.mounted then
          (Config.load lib left ⟨ascii "/config.json", .null, false⟩ fs opens room).2
          else (⟨ascii "/config.json", .null, false⟩, fs)).2
        csrfToken := after.csrfToken, logLevel := after.logLevel, update } := by
    cases mounts with
    | false => exact ⟨⟨again, fun _ => none, fun _ => false⟩, rfl, rfl⟩
    | true => exact ⟨{ ui.fs with mounted := true }, rfl, rfl⟩
  have started := Config.load_started lib left (ascii "/config.json") fs opens room
  rw [← files, boots]
  generalize Config.load lib left ⟨ascii "/config.json", .null, false⟩ fs opens room = loaded
    at started
  obtain ⟨success, config, stored⟩ := loaded
  cases mounted : fs.mounted with
  | false => exact ⟨rfl, fun _ _ => .inl rfl, fun _ => .inl rfl⟩
  | true =>
      obtain ⟨path, members, written⟩ := started
      refine ⟨path, fun key other => members key (not_default_of_notMem other), fun file => ?_⟩
      rcases written with rfl | rfl
      · exact .inl rfl
      · rw [← path]
        exact Config.files_save lib config fs room file

/-! ## Diagnostics that are shut -/

/-- The diagnostics are shut, now and after a start. -/
structure Shut (lib : ArduinoJson) (left : Bytes → Json) (ui : WebUI σ) : Prop where
  path : ui.config.configPath = ascii "/config.json"
  memory : (ui.config.document.member enableDiagnostics).isNull = true
  file : ((Config.readBack lib left
    ((ui.fs.files (ascii "/config.json")).getD [])).member enableDiagnostics).isNull = true

/-- A text that is written for a document without the key does not get the key when it is read, even
if it is cut short. -/
def ReadsNoMore (lib : ArduinoJson) (left : Bytes → Json) : Prop :=
  ∀ document bytes, (document.member enableDiagnostics).isNull = true →
    ((Config.readBack lib left
      ((lib.serializeJsonPretty document).take bytes)).member enableDiagnostics).isNull = true

theorem Shut.closed {left : Bytes → Json} (shut : Shut lib left ui) :
    ui.config.getBool enableDiagnostics false = false := by
  rw [Config.getBool, shut.memory]
  simp

theorem Shut.touches {left : Bytes → Json} (honest : ReadsNoMore lib left)
    (shut : Shut lib left before) (touches : Touches lib before after) :
    Shut lib left after := by
  have memory : (after.config.document.member enableDiagnostics).isNull = true := by
    rw [touches.members _ enableDiagnostics_notMem]
    exact shut.memory
  refine ⟨touches.path.trans shut.path, memory, ?_⟩
  cases touches.files (ascii "/config.json") with
  | kept same => rw [same]; exact shut.file
  | settings own content =>
      rcases content with gone | ⟨bytes, written⟩
      · rw [gone]
        exact honest after.config.document 0 memory
      · rw [written]
        exact honest after.config.document bytes memory
  | device filename safe own => exact absurd own (devicePath_ne filename)

/-- With the diagnostics shut, an event writes no file but the configuration. -/
theorem Shut.kept {left : Bytes → Json} (shut : Shut lib left before)
    (touches : Touches lib before after) {path : Bytes} (other : path ≠ ascii "/config.json") :
    after.fs.files path = before.fs.files path := by
  cases touches.files path with
  | kept same => exact same
  | settings own => exact absurd (own.trans shut.path) other
  | device filename safe own opened =>
      rw [shut.closed] at opened
      contradiction

theorem Shut.boot {left : Bytes → Json} (honest : ReadsNoMore lib left) (shut : Shut lib left ui)
    (mounts again opens : Bool) (room : Room) (random : List UInt8) (update : σ) :
    Shut lib left (ui.boot lib left mounts again opens room random update) := by
  obtain ⟨path, members, files⟩ :=
    boot_started lib left ui mounts again opens room random update
  have found : ((Config.readBack lib left
      ((mountedFiles ui mounts (ascii "/config.json")).getD [])).member
        enableDiagnostics).isNull = true := by
    cases mounts with
    | true => exact shut.file
    | false => exact honest .null 0 rfl
  have memory := (members _ enableDiagnostics_notMem).elim id fun same => same ▸ found
  refine ⟨path, memory, ?_⟩
  rcases files (ascii "/config.json") with same | ⟨-, bytes, written⟩
  · rw [same]
    exact found
  · rw [written]
    exact honest _ bytes memory

theorem buttonReset_touches (lib : ArduinoJson) (ui : WebUI σ) (room : Room) :
    Touches lib ui (ui.buttonReset lib room) :=
  factoryReset_touches rfl rfl rfl

/-- Nothing that a client, the button or a start does opens the diagnostics. As long as they are
shut, all requests to them are refused, and no file but the configuration is ever written. -/
theorem diagnostics_stay_shut {left : Bytes → Json} (honest : ReadsNoMore lib left)
    (shut : Shut lib left ui)
    (reach : (lifetime lib ota left ui).Reaches (fun _ _ => True) after) :
    (∀ request here, after.handleDiagnosticsAPI lib request here =
      (after, ⟨.send 403 (ascii "\x7b\"error\":\"Diagnostics disabled\"\x7d"), false⟩)) ∧
    ∀ path content, path ≠ ascii "/config.json" → after.fs.files path = some content →
      ui.fs.files path = some content := by
  let Inv (after : WebUI σ) : Prop :=
    Shut lib left after ∧ ∀ path content, path ≠ ascii "/config.json" →
      after.fs.files path = some content → ui.fs.files path = some content
  have stays : Inv after := by
    refine reach.invariant (show Inv ui from ⟨shut, fun _ _ _ => id⟩) ?_
    rintro before event after ⟨shut, files⟩ - moves
    cases event with
    | request request here =>
        obtain rfl := Option.some.inj moves
        have touches := serve_touches lib ota before request here
        exact ⟨shut.touches honest touches, fun path content other there =>
          files path content other (shut.kept touches other ▸ there)⟩
    | button room =>
        obtain rfl := Option.some.inj moves
        have touches := buttonReset_touches lib before room
        exact ⟨shut.touches honest touches, fun path content other there =>
          files path content other (shut.kept touches other ▸ there)⟩
    | start mounts again opens room random update =>
        obtain rfl := Option.some.inj moves
        refine ⟨shut.boot honest .., fun path content other there => files path content other ?_⟩
        obtain ⟨-, -, written⟩ :=
          boot_started lib left before mounts again opens room random update
        rcases written path with same | ⟨own, -⟩
        · rw [same] at there
          cases mounts with
          | true => exact there
          | false => contradiction
        · exact absurd own other
  refine ⟨fun request here => ?_, stays.2⟩
  have closed := stays.1.closed
  rw [enableDiagnostics] at closed
  rw [handleDiagnosticsAPI, closed]
  rfl

/-- A device whose diagnostics are shut. -/
def shutUI : WebUI Image := { sampleUI with config := .initial }

theorem shutUI_shut : Shut (flatJson []) (fun _ => .null) shutUI := by
  refine ⟨rfl, by decide +kernel, ?_⟩
  rw [Config.readBack]
  rfl

/-- A form asks for the key, and the device starts again. -/
theorem diagnostics_stay_shut_form : ∃ after,
    (lifetime (flatJson []) imageUpdate (fun _ => .null) shutUI).Reaches (fun _ _ => True) after ∧
    (∀ request here, after.handleDiagnosticsAPI (flatJson []) request here =
      (after, ⟨.send 403 (ascii "\x7b\"error\":\"Diagnostics disabled\"\x7d"), false⟩)) ∧
    ∀ path content, path ≠ ascii "/config.json" → after.fs.files path = some content →
      shutUI.fs.files path = some content := by
  obtain ⟨asked, moves⟩ := exists_next (flatJson []) imageUpdate (fun _ => .null) shutUI shutUI
    (.request (form [(enableDiagnostics, ascii "true")]) ample)
  obtain ⟨after, starts⟩ := exists_next (flatJson []) imageUpdate (fun _ => .null) shutUI asked
    (.start true true true (some 4096) [0x5A] shutUI.update)
  have reach : (lifetime (flatJson []) imageUpdate (fun _ => .null) shutUI).Reaches
      (fun _ _ => True) after := .step (.step .start trivial moves) trivial starts
  have honest : ReadsNoMore (flatJson []) fun _ => .null := by
    intro document bytes _
    rw [Config.readBack]
    rfl
  exact ⟨after, reach, diagnostics_stay_shut honest shutUI_shut reach⟩

/-! ## Files that are kept -/

/-- The flash mounts at a start. -/
def Occurrence.mounts : Occurrence σ → Prop
  | .start mounts .. => mounts = true
  | _ => True

/-- The file is as it was, or it is the configuration, or a device with a safe name. -/
def Confined (lib : ArduinoJson) (before after : WebUI σ) (file : Bytes) : Prop :=
  after.fs.files file = before.fs.files file ∨
    (file = ascii "/config.json" ∧ (after.fs.files file = none ∨ ∃ document bytes,
      after.fs.files file = some ((lib.serializeJsonPretty document).take bytes))) ∨
    ∃ filename, isSafeDeviceFilename filename = true ∧ file = devicePath filename ∧
      Stores lib (after.fs.files file)

theorem Confined.touches {middle : WebUI σ} {file : Bytes}
    (path : middle.config.configPath = ascii "/config.json")
    (confined : Confined lib before middle file) (touches : Touches lib middle after) :
    Confined lib before after file := by
  cases touches.files file with
  | kept same =>
      rw [Confined, same]
      exact confined
  | settings own content =>
      exact .inr (.inl ⟨own.trans path, content.imp_right fun ⟨bytes, written⟩ =>
        ⟨_, bytes, written⟩⟩)
  | device filename safe own _ content => exact .inr (.inr ⟨filename, safe, own, content⟩)

/-- Whatever requests come, in whatever order, every file is as it was, or it is the configuration,
or it lies in the directory of the devices under a safe name and is the text of a valid device, as
far as there was room. -/
theorem files_stay_inside {left : Bytes → Json}
    (path : ui.config.configPath = ascii "/config.json")
    (reach : (lifetime lib ota left ui).Reaches (fun _ event => event.mounts) after)
    (file : Bytes) : Confined lib ui after file := by
  let Inv (after : WebUI σ) : Prop :=
    after.config.configPath = ascii "/config.json" ∧ Confined lib ui after file
  have stays : Inv after := by
    refine reach.invariant (show Inv ui from ⟨path, .inl rfl⟩) ?_
    rintro before event after ⟨path, confined⟩ mounted moves
    cases event with
    | request request here =>
        obtain rfl := Option.some.inj moves
        have touches := serve_touches lib ota before request here
        exact ⟨touches.path.trans path, confined.touches path touches⟩
    | button room =>
        obtain rfl := Option.some.inj moves
        have touches := buttonReset_touches lib before room
        exact ⟨touches.path.trans path, confined.touches path touches⟩
    | start mounts again opens room random update =>
        obtain rfl := Option.some.inj moves
        obtain ⟨path, -, written⟩ :=
          boot_started lib left before mounts again opens room random update
        refine ⟨path, ?_⟩
        rcases written file with same | ⟨own, bytes, written⟩
        · have whole : mounts = true := mounted
          rw [Confined, same, mountedFiles, if_pos whole]
          exact confined
        · exact .inr (.inl ⟨own, .inr ⟨_, bytes, written⟩⟩)
  exact stays.2

/-- A device is deleted. -/
theorem files_stay_inside_deletion : ∃ after,
    (lifetime deletionJson imageUpdate (fun _ => .null) sampleUI).Reaches
      (fun _ event => event.mounts) after ∧
    after.fs.files (devicePath (ascii "meter.json")) = none ∧
    Confined deletionJson sampleUI after (devicePath (ascii "meter.json")) := by
  let delete := post (ascii "/api/diagnostics") (ascii "plain") deletion []
  have reach : (lifetime deletionJson imageUpdate (fun _ => .null) sampleUI).Reaches
      (fun _ event => event.mounts) (sampleUI.serve deletionJson imageUpdate delete ample).1 :=
    @StepSystem.Reaches.step _ _ _ _ _ _ (.request delete ample) .start trivial rfl
  exact ⟨_, reach, by decide +kernel, files_stay_inside rfl reach _⟩

end WebUI

end ModbusBridge
