import ModbusBridge.Configuration.Storage
import ModbusBridge.Library.StepSystem
import ModbusBridge.MQTT.Publishing
import ModbusBridge.WebUI.Saving

/-!
# The retain setting

The form writes the key `retain`. One of the functions that publish reads it; the others read the
key `mqtt_retain`, which no form and no handler writes.
-/

namespace ModbusBridge

/-! ## Publications -/

namespace MQTTClient

/-- A call of a function that publishes, up to its argument `retain`. -/
inductive Publication
  | publish (metric value : Bytes)
  | telemetry (metric value unit : Bytes)
  | status (metric value : Bytes)
  | diagnostics (metric value : Bytes)
  | hardware (metric value : Bytes)
  | config (metric value : Bytes)
  | availability (online : Bool)
  | json (dataType metric jsonPayload : Bytes)

/-- The call. -/
def Publication.deliver (publication : Publication) (lib : ArduinoJson) (config : Config)
    (identity : Identity) (moment : Moment) (retain : Bool) : Delivery :=
  match publication with
  | .publish metric value => MQTTClient.publish lib config identity moment metric value retain
  | .telemetry metric value unit =>
      publishTelemetry lib config identity moment metric value unit retain
  | .status metric value => publishStatus lib config moment metric value retain
  | .diagnostics metric value => publishDiagnostics lib config moment metric value retain
  | .hardware metric value => publishHardware lib config moment metric value retain
  | .config metric value => publishConfig lib config moment metric value retain
  | .availability online => publishAvailability lib config moment online retain
  | .json dataType metric jsonPayload =>
      publishJson lib config moment dataType metric jsonPayload retain

/-- Every message is sent without the flag. -/
def Unretained (lib : ArduinoJson) (config : Config) : Prop :=
  ∀ (publication : Publication) (identity : Identity) (moment : Moment) (retain : Bool),
    ∀ message ∈ (publication.deliver lib config identity moment retain).message,
      message.retain = false

/-- A message from the shared body has the flag of the caller, if `mqtt_retain` has it. -/
theorem retain_publishGeneric {lib : ArduinoJson} {config : Config} {moment : Moment}
    {dataType metric payload : Bytes} {retain : Bool} {message : Message}
    (sent : message ∈ (publishGeneric lib config moment dataType metric payload retain).message) :
    message.retain = (retain && config.getBool (ascii "mqtt_retain") true) := by
  rw [publishGeneric] at sent
  split at sent
  next => contradiction
  next =>
      obtain rfl := Option.some.inj sent
      rfl

/-- Both keys have to be off. -/
theorem unretained_iff (lib : ArduinoJson) (config : Config) :
    Unretained lib config ↔ config.getBool (ascii "retain") true = false ∧
      config.getBool (ascii "mqtt_retain") true = false := by
  constructor
  · intro unretained
    exact ⟨unretained (.publish [] []) ⟨[], []⟩ ⟨true, true, 0, 0⟩ true _ rfl,
      unretained (.status [] []) ⟨[], []⟩ ⟨true, true, 0, 0⟩ true _ rfl⟩
  · rintro ⟨legacy, current⟩ publication identity moment retain message sent
    cases publication with
    | publish metric value =>
        rw [Publication.deliver, MQTTClient.publish] at sent
        split at sent
        next => contradiction
        next =>
            obtain rfl := Option.some.inj sent
            simp [legacy]
    | _ => simpa [current] using retain_publishGeneric sent

end MQTTClient

namespace WebUI

/-! ## What requests change -/

variable {σ : Type} {lib : ArduinoJson} {ota : UpdateClass σ} {ui : WebUI σ}
  {request : HTTPRequest} {here : Surroundings}

/-- Only the log level may have changed in the configuration, and the file has been kept or written
anew. -/
structure KeepsSettings (lib : ArduinoJson) (room : Room) (before after : WebUI σ) : Prop where
  path : after.config.configPath = before.config.configPath
  loaded : after.config.isLoaded = before.config.isLoaded
  members : ∀ key ≠ ascii "log_level",
    after.config.document.member key = before.config.document.member key
  writable : before.config.document.Writable → after.config.document.Writable
  file : after.fs.files (ascii "/config.json") = before.fs.files (ascii "/config.json") ∨
    ∃ bytes, room = some bytes ∧ after.fs.files (ascii "/config.json") =
      some ((lib.serializeJsonPretty after.config.document).take bytes)

theorem KeepsSettings.refl (lib : ArduinoJson) (room : Room) (ui : WebUI σ) :
    KeepsSettings lib room ui ui :=
  ⟨rfl, rfl, fun _ _ => rfl, id, .inl rfl⟩

theorem KeepsSettings.of_files {after : WebUI σ} (config : after.config = ui.config)
    (files : after.fs.files (ascii "/config.json") = ui.fs.files (ascii "/config.json"))
    (room : Room) : KeepsSettings lib room ui after :=
  ⟨by rw [config], by rw [config], fun _ _ => by rw [config], fun writable => by rwa [config],
    .inl files⟩

theorem handleLogConfig_keeps (path : ui.config.configPath = ascii "/config.json") :
    KeepsSettings lib here.room ui (ui.handleLogConfig lib request here).1 := by
  rw [handleLogConfig]
  split
  next => exact .refl lib here.room ui
  next =>
      cases logConfigBody (request.arg (ascii "plain")) with
      | error message => exact .refl lib here.room ui
      | ok level =>
          have file := Config.file_save lib (ui.config.setString (ascii "log_level") level) ui.fs
            here.room
          have same : (ui.config.setString (ascii "log_level") level).configPath = _ := path
          rw [same] at file
          exact ⟨rfl, rfl, fun key other => Json.member_setMember_of_ne other .., fun writable =>
            Json.writable_setMember writable .., file⟩

theorem devicePath_ne (filename : Bytes) : ascii "/config.json" ≠ devicePath filename := by
  intro same
  have second := congrArg (fun path : Bytes => path[1]?) same
  simp [devicePath, ascii] at second

theorem uploadJSON_keeps (filename content : Bytes) :
    KeepsSettings lib here.room ui (ui.uploadJSON lib here filename content).1 := by
  have refl := KeepsSettings.refl lib here.room ui
  rw [uploadJSON]
  split
  next => exact refl
  next =>
      split
      next => exact refl
      next =>
          cases GenericModbusDevice.validateJSON lib content with
          | error error => exact refl
          | ok declarations =>
              dsimp only
              split
              next => exact refl
              next =>
                  have files : (if !ui.fs.fileExists (ascii "/devices") then
                      ui.fs.mkdir (ascii "/devices") else ui.fs).files = ui.fs.files := by
                    split <;> rfl
                  cases here.room with
                  | none =>
                      refine .of_files ?_ ?_ _
                      · rfl
                      · exact congrFun files _
                  | some bytes =>
                      refine .of_files ?_ ?_ _
                      · rfl
                      · exact (LittleFS.files_put_of_ne _ _ _ (devicePath_ne filename)).trans
                          (congrFun files _)

theorem deleteJSON_keeps (filename : Bytes) :
    KeepsSettings lib here.room ui (ui.deleteJSON here filename).1 := by
  have refl := KeepsSettings.refl lib here.room ui
  rw [deleteJSON]
  split_ifs
  · exact refl
  · exact refl
  · refine .of_files ?_ ?_ _
    · rfl
    · exact ui.fs.files_remove_of_ne _ (devicePath_ne filename)
  · exact refl
  · exact refl

theorem handleDiagnosticsAPI_keeps :
    KeepsSettings lib here.room ui (ui.handleDiagnosticsAPI lib request here).1 := by
  have refl := KeepsSettings.refl lib here.room ui
  rw [handleDiagnosticsAPI]
  split
  next => exact refl
  next =>
      cases lib.deserializeJson (request.arg (ascii "plain")) with
      | error error => exact refl
      | ok doc =>
          dsimp only
          split_ifs
          · exact uploadJSON_keeps _ _
          · exact deleteJSON_keeps _
          · exact refl

/-- The form and the reset are the only handlers that change other settings. -/
theorem dispatch_keeps {handler : Option Handler}
    (path : ui.config.configPath = ascii "/config.json") (noSave : handler ≠ some .save)
    (noReset : handler ≠ some .factoryReset) :
    KeepsSettings lib here.room ui (ui.dispatch lib ota request here handler).1 := by
  have refl := KeepsSettings.refl lib here.room ui
  cases handler with
  | none =>
      rw [dispatch, handleNotFound]
      split_ifs <;> exact refl
  | some handler =>
      cases handler with
      | save => exact (noSave rfl).elim
      | factoryReset => exact (noReset rfl).elim
      | logConfig => exact handleLogConfig_keeps path
      | diagnosticsAPI => exact handleDiagnosticsAPI_keeps
      | reboot =>
          rw [dispatch, handleReboot]
          split_ifs <;> exact refl
      | restartmDNS =>
          rw [dispatch, handleRestartmDNS]
          split_ifs <;> exact refl
      | otaUpload =>
          rw [dispatch, handleOTAUpload]
          split_ifs <;> exact refl
      | diagnostics =>
          rw [dispatch, handleDiagnostics]
          split_ifs <;> exact refl
      | captivePortal =>
          rw [dispatch, handleCaptivePortal]
          split_ifs <;> exact refl
      | _ => exact refl

theorem serve_keeps (lib : ArduinoJson) (ota : UpdateClass σ) (here : Surroundings)
    (path : ui.config.configPath = ascii "/config.json") (noSave : route request ≠ some .save)
    (noReset : route request ≠ some .factoryReset) :
    KeepsSettings lib here.room ui (ui.serve lib ota request here).1 := by
  rw [serve]
  split_ifs
  · have kept := @dispatch_keeps _ lib ota
      { ui with update := request.uploads.foldl (receiveFirmware ota) ui.update } request here _
      path noSave noReset
    exact ⟨kept.path, kept.loaded, kept.members, kept.writable, kept.file⟩
  · exact dispatch_keeps path noSave noReset

/-! ## What the form sets -/

/-- The form assigns its own fields. -/
theorem key_of_mem_assignments {set : Bytes × Json} (listed : set ∈ assignments request) :
    textFields.contains set.1 = true ∨ numberFields.contains set.1 = true ∨
      checkBoxes.contains set.1 = true := by
  rcases List.mem_append.mp listed with field | box
  · obtain ⟨argument, -, assigned⟩ := List.mem_filterMap.mp field
    rw [assignment] at assigned
    split_ifs at assigned with text number box <;> obtain rfl := Option.some.inj assigned
    · exact .inl text
    · exact .inr (.inl number)
    · exact .inr (.inr box)
  · obtain ⟨name, missing, rfl⟩ := List.mem_map.mp box
    exact .inr (.inr (List.contains_iff_mem.mpr (List.mem_filter.mp missing).1))

theorem lookup_mqtt_retain (request : HTTPRequest) :
    (assignments request).reverse.lookup (ascii "mqtt_retain") = none := by
  refine List.lookup_eq_none_iff.mpr fun set listed => bne_iff_ne.mpr ?_
  rintro same
  have field := key_of_mem_assignments (List.mem_reverse.mp listed)
  rw [← same] at field
  revert field
  decide

/-- The last word on an unchecked box is that it is off. -/
theorem lookup_retain (unchecked : request.hasArg (ascii "retain") = false) :
    (assignments request).reverse.lookup (ascii "retain") = some (.boolean false) := by
  rw [assignments, List.reverse_append, List.lookup_append, checkBoxes]
  simp only [List.filter_cons, List.filter_nil, unchecked, Bool.not_false, if_true]
  split_ifs <;> rfl

/-- The values of the two keys, in a configuration that has them. -/
structure Reads (config : Config) (current : Bool) : Prop where
  loaded : config.isLoaded = true
  writable : config.document.Writable
  legacy : config.getBool (ascii "retain") true = false
  current : config.getBool (ascii "mqtt_retain") true = current

theorem Reads.document {config : Config} {current : Bool} (reads : Reads config current)
    (configPath : Bytes) : Reads ⟨configPath, config.document, true⟩ current := by
  obtain ⟨_, document, isLoaded⟩ := config
  obtain ⟨rfl, writable, legacy, value⟩ := reads
  exact ⟨rfl, writable, legacy, value⟩

/-- The form turns `retain` off, and leaves `mqtt_retain` as it is. -/
theorem reads_setAll {fs : LittleFS}
    (valid : (ui.config.setAll (assignments request)).validate lib fs = true)
    (unchecked : request.hasArg (ascii "retain") = false) :
    Reads (ui.config.setAll (assignments request))
      (ui.config.getBool (ascii "mqtt_retain") true) := by
  have loaded := Config.isLoaded_of_valid valid
  obtain ⟨members, object⟩ := Config.object_of_valid valid
  have writable : ui.config.document.Writable := by
    by_contra closed
    rw [Config.setAll_eq, Json.setMembers_of_not_writable closed] at object
    rw [object] at closed
    exact closed trivial
  refine ⟨loaded, by rw [object]; trivial, ?_, ?_⟩
  · rw [Config.getBool, member_setAll, wanted, if_pos writable, lookup_retain unchecked, loaded]
    rfl
  · have same : ui.config.isLoaded = true := by rwa [Config.setAll_eq] at loaded
    rw [Config.getBool, member_setAll, wanted, if_pos writable, lookup_mqtt_retain, loaded,
      Config.getBool, same]
    rfl

/-! ## Later runs -/

/-- The device, and the document from which its configuration file was written. -/
structure Device (σ : Type) where
  ui : WebUI σ
  stored : Json

/-- What happens after the form was saved. -/
inductive Happening (σ : Type)
  | request (request : HTTPRequest) (here : Surroundings)
  /-- The device starts, and opens the configuration file if it can. -/
  | start (opens : Bool) (room : Room) (csrfToken : Bytes) (logLevel : ESPLogger.LogLevel)
      (update : σ)

/-- The runs of a device, beginning when it has answered a request. -/
def laterRuns (lib : ArduinoJson) (ota : UpdateClass σ) (left : Bytes → Json) (ui : WebUI σ) :
    StepSystem (Device σ) (Happening σ) where
  start := ⟨ui, ui.config.document⟩
  next device
    | .request request here =>
        let after := (device.ui.serve lib ota request here).1
        let kept := after.fs.files (ascii "/config.json") =
          device.ui.fs.files (ascii "/config.json")
        some ⟨after, if kept then device.stored else after.config.document⟩
    | .start opens room csrfToken logLevel update =>
        let fresh : Config := ⟨ascii "/config.json", .null, false⟩
        let loaded := fresh.load lib left device.ui.fs opens room
        some { device with ui := ⟨loaded.2.1, loaded.2.2, csrfToken, logLevel, update⟩ }

theorem start_stored (lib : ArduinoJson) (ota : UpdateClass σ) (left : Bytes → Json)
    (ui : WebUI σ) : (laterRuns lib ota left ui).start.stored = ui.config.document := rfl

theorem next_eq_some (lib : ArduinoJson) (ota : UpdateClass σ) (left : Bytes → Json)
    (ui : WebUI σ) (device : Device σ) (happening : Happening σ) :
    ∃ after, (laterRuns lib ota left ui).next device happening = some after := by
  cases happening <;> exact ⟨_, rfl⟩

/-- The form is not sent again and the device is not reset, files are written whole, and a start
reads the configuration file as it was written. -/
def Undisturbed (lib : ArduinoJson) (ota : UpdateClass σ) (device : Device σ) :
    Happening σ → Prop
  | .request request here =>
      route request ≠ some .save ∧ route request ≠ some .factoryReset ∧
        ∀ bytes, here.room = some bytes →
          (lib.serializeJsonPretty
            (device.ui.serve lib ota request here).1.config.document).length ≤ bytes
  | .start opens .. =>
      opens = true ∧
        lib.deserializeJson (lib.serializeJsonPretty device.stored) = .ok device.stored

/-- The values of the two keys, in memory and in the file. -/
structure Kept (lib : ArduinoJson) (current : Bool) (device : Device σ) : Prop where
  path : device.ui.config.configPath = ascii "/config.json"
  memory : Reads device.ui.config current
  file : device.ui.fs.files (ascii "/config.json") = some (lib.serializeJsonPretty device.stored)
  stored : Reads ⟨ascii "/config.json", device.stored, true⟩ current

theorem KeepsSettings.reads {room : Room} {before after : WebUI σ} {current : Bool}
    (keeps : KeepsSettings lib room before after) (reads : Reads before.config current) :
    Reads after.config current := by
  have same (key : Bytes) (other : key ≠ ascii "log_level") :
      after.config.getBool key true = before.config.getBool key true := by
    rw [Config.getBool, Config.getBool, keeps.loaded, keeps.members key other]
  exact ⟨keeps.loaded.trans reads.loaded, keeps.writable reads.writable,
    (same _ (by decide)).trans reads.legacy, (same _ (by decide)).trans reads.current⟩

theorem Kept.served {device after : Device σ} {current : Bool} {left : Bytes → Json}
    (kept : Kept lib current device)
    (undisturbed : Undisturbed lib ota device (.request request here))
    (step : (laterRuns lib ota left ui).next device (.request request here) = some after) :
    Kept lib current after := by
  obtain ⟨noSave, noReset, whole⟩ := undisturbed
  have keeps := serve_keeps lib ota here kept.path noSave noReset
  obtain rfl := Option.some.inj step
  have path := keeps.path.trans kept.path
  have memory := keeps.reads kept.memory
  split
  next same => exact ⟨path, memory, same.trans kept.file, kept.stored⟩
  next changed =>
      rcases keeps.file with same | ⟨bytes, room, written⟩
      · exact absurd same changed
      · rw [List.take_of_length_le (whole bytes room)] at written
        exact ⟨path, memory, written, memory.document _⟩

/-- What a start reads from the file. -/
theorem Kept.started {device after : Device σ} {current : Bool} {left : Bytes → Json}
    {opens : Bool} {room : Room} {csrfToken : Bytes} {logLevel : ESPLogger.LogLevel} {update : σ}
    (kept : Kept lib current device)
    (undisturbed : Undisturbed lib ota device (.start opens room csrfToken logLevel update))
    (step : (laterRuns lib ota left ui).next device (.start opens room csrfToken logLevel update) =
      some after) : Kept lib current after := by
  obtain ⟨rfl, readable⟩ := undisturbed
  obtain rfl := Option.some.inj step
  have there : device.ui.fs.fileExists (ascii "/config.json") = true := by
    rw [LittleFS.fileExists, kept.file]
    rfl
  have loaded := @Config.load_of_ok lib ⟨ascii "/config.json", .null, false⟩ device.ui.fs left room
    device.stored there (by rw [kept.file]; exact readable)
  have completed := @Config.foldl_fillIn ⟨ascii "/config.json", device.stored, false⟩
    kept.stored.writable _ Config.defaults_distinct Config.defaults_present
  rw [loaded]
  generalize Config.defaults.foldl Config.fillIn ⟨ascii "/config.json", device.stored, false⟩ =
    filled at completed ⊢
  have same : Config.Completed Config.defaults ⟨ascii "/config.json", device.stored, true⟩
      { filled with isLoaded := true } :=
    ⟨completed.path, completed.keeps, completed.others, completed.fills⟩
  have writable : filled.document.Writable := Json.writable_of_present
    (completed.present (ascii "rtu_addr", .integer 1) (by simp [Config.defaults]))
  refine ⟨completed.path, ⟨rfl, writable, ?_, ?_⟩, kept.file, kept.stored⟩
  · exact (same.getBool_default rfl rfl (by simp [Config.defaults])).trans kept.stored.legacy
  · exact (same.getBool_default rfl rfl (by simp [Config.defaults])).trans kept.stored.current

/-- The state after the form. -/
theorem kept_saved (path : ui.config.configPath = ascii "/config.json")
    (unchecked : request.hasArg (ascii "retain") = false)
    (saved : ∃ message, (ui.handleSave lib request here).2.response =
      .sendSuccessWithRedirect message)
    (whole : ∀ bytes, here.room = some bytes →
      (lib.serializeJsonPretty (ui.handleSave lib request here).1.config.document).length ≤ bytes)
    (ota : UpdateClass σ) (left : Bytes → Json) :
    Kept lib (ui.config.getBool (ascii "mqtt_retain") true)
      (laterRuns lib ota left (ui.handleSave lib request here).1).start := by
  obtain ⟨config, fs, done⟩ := handleSave_saved saved
  rw [config] at whole
  have path : (ui.config.setAll (assignments request)).configPath = ascii "/config.json" := by
    rwa [Config.setAll_eq]
  generalize written : ui.config.setAll (assignments request) = after at *
  have valid := Config.validate_of_saved done
  have memory : Reads after (ui.config.getBool (ascii "mqtt_retain") true) := by
    rw [← written]
    exact reads_setAll (written.symm ▸ valid) unchecked
  obtain ⟨bytes, room, file⟩ := Config.file_of_saved done
  rw [List.take_of_length_le (whole bytes room), path, ← fs] at file
  rw [← config] at path memory file
  exact ⟨path, memory, file, memory.document _⟩

/-- In every later run, the messages are sent without the flag if and only if `mqtt_retain` was off
before the form was sent. -/
theorem retain_honoured_iff (lib : ArduinoJson) (ota : UpdateClass σ) (left : Bytes → Json)
    (ui : WebUI σ) (request : HTTPRequest) (here : Surroundings)
    (path : ui.config.configPath = ascii "/config.json")
    (unchecked : request.hasArg (ascii "retain") = false)
    (saved : ∃ message, (ui.handleSave lib request here).2.response =
      .sendSuccessWithRedirect message)
    (whole : ∀ bytes, here.room = some bytes →
      (lib.serializeJsonPretty (ui.handleSave lib request here).1.config.document).length ≤ bytes)
    {device : Device σ}
    (reach : (laterRuns lib ota left (ui.handleSave lib request here).1).Reaches
      (Undisturbed lib ota) device) :
    MQTTClient.Unretained lib device.ui.config ↔
      ui.config.getBool (ascii "mqtt_retain") true = false := by
  have kept := reach.invariant (kept_saved path unchecked saved whole ota left)
    fun before happening after kept undisturbed step => by
      cases happening with
      | request request here => exact kept.served undisturbed step
      | start opens room csrfToken logLevel update => exact kept.started undisturbed step
  rw [MQTTClient.unretained_iff, kept.memory.current]
  exact and_iff_right kept.memory.legacy

/-- A device with `mqtt_retain` off is started again after the form. -/
theorem retain_honoured_off :
    let ui := { sampleUI with config := sampleUI.config.setBool (ascii "mqtt_retain") false }
    let document := (ui.config.setAll (assignments (form []))).document
    let lib := flatJson [((flatJson []).serializeJsonPretty document, document)]
    let system := laterRuns lib imageUpdate (fun _ => .null) (ui.handleSave lib (form []) ample).1
    let start : Happening Image := .start true (some 4096) [] .info ui.update
    ∃ device, system.next system.start start = some device ∧
      MQTTClient.Unretained lib device.ui.config := by
  intro ui document lib system start
  have saved := @handleSave_succeeds _ lib ui (form []) ample (by decide +kernel)
    (by decide +kernel) (by decide +kernel)
  have config := (handleSave_saved saved).1
  have whole : ∀ bytes, ample.room = some bytes → (lib.serializeJsonPretty
      (ui.handleSave lib (form []) ample).1.config.document).length ≤ bytes := by
    rw [config]
    intro _ same
    obtain rfl := Option.some.inj same
    decide +kernel
  have stored : system.start.stored = document := by rw [start_stored, config]
  have undisturbed : Undisturbed lib imageUpdate system.start start :=
    ⟨rfl, stored ▸ (Config.flatJson_reproduces document).readable⟩
  obtain ⟨device, moves⟩ := next_eq_some lib imageUpdate (fun _ => .null) _ system.start start
  have reach : system.Reaches (Undisturbed lib imageUpdate) device :=
    .step .start undisturbed moves
  exact ⟨device, moves, (retain_honoured_iff lib imageUpdate (fun _ => .null) ui (form []) ample rfl
    (by decide +kernel) saved whole reach).mpr (by decide +kernel)⟩

/-- The form is saved with the box unchecked, on a device with the default configuration. -/
theorem retain_not_honoured :
    let lib := flatJson []
    let (after, reply) := sampleUI.handleSave lib (form []) ample
    let moment : Moment := ⟨true, true, 0, 0⟩
    (form []).hasArg (ascii "retain") = false ∧
      (∃ message, reply.response = .sendSuccessWithRedirect message) ∧
      (MQTTClient.publish lib after.config ⟨[], []⟩ moment (ascii "pv_power") (ascii "0")
        true).message.map Message.retain = some false ∧
      (MQTTClient.publishStatus lib after.config moment (ascii "mode") (ascii "0")
        true).message.map Message.retain = some true ∧
      ¬ MQTTClient.Unretained lib after.config := by
  intro lib
  have saved := @handleSave_succeeds _ lib sampleUI (form []) ample (by decide +kernel)
    (by decide +kernel) (by decide +kernel)
  have config := (handleSave_saved saved).1
  generalize sampleUI.handleSave lib (form []) ample = result at saved config ⊢
  obtain ⟨after, reply⟩ := result
  have config : after.config = _ := config
  dsimp only
  rw [MQTTClient.unretained_iff, config]
  exact ⟨by decide +kernel, saved, by decide +kernel, by decide +kernel, by decide +kernel⟩

end WebUI

end ModbusBridge
