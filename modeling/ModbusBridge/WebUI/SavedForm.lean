import ModbusBridge.MQTT.Connection
import ModbusBridge.MQTT.Retain
import ModbusBridge.Modbus.ReadOnly
import ModbusBridge.WebUI.FormRoundTrip

/-!
# Saved forms

What is filled into the form and saved is what the device works with from then on, whatever other
requests come and however often it starts again, and what the page shows.
-/

namespace ModbusBridge

namespace WebUI

variable {σ : Type} {lib : ArduinoJson} {ota : UpdateClass σ} {ui : WebUI σ}
  {request : HTTPRequest} {here : Surroundings} {left : Bytes → Json}

/-! ## Settings that last -/

/-- A configuration with these members. -/
structure Holds (settings : List (Bytes × Json)) (config : Config) : Prop where
  loaded : config.isLoaded = true
  writable : config.document.Writable
  members : ∀ setting ∈ settings, config.document.member setting.1 = setting.2

/-- Settings that have a value, without the log level. -/
structure Settled (settings : List (Bytes × Json)) : Prop where
  present : ∀ setting ∈ settings, setting.2.isNull = false
  other : ∀ setting ∈ settings, setting.1 ≠ ascii "log_level"

/-- The settings, in memory and in the file. -/
structure Lasts (lib : ArduinoJson) (settings : List (Bytes × Json)) (device : Device σ) :
    Prop where
  path : device.ui.config.configPath = ascii "/config.json"
  memory : Holds settings device.ui.config
  file : device.ui.fs.files (ascii "/config.json") = some (lib.serializeJsonPretty device.stored)
  stored : Holds settings ⟨ascii "/config.json", device.stored, true⟩

variable {settings : List (Bytes × Json)} {device after : Device σ}

theorem Holds.document {config : Config} (holds : Holds settings config) (configPath : Bytes) :
    Holds settings ⟨configPath, config.document, true⟩ :=
  ⟨rfl, holds.writable, holds.members⟩

theorem Lasts.served (settled : Settled settings) (lasts : Lasts lib settings device)
    (undisturbed : Undisturbed lib ota device (.request request here))
    (step : (laterRuns lib ota left ui).next device (.request request here) = some after) :
    Lasts lib settings after := by
  obtain ⟨noSave, noReset, whole⟩ := undisturbed
  have keeps := serve_keeps lib ota here lasts.path noSave noReset
  obtain rfl := Option.some.inj step
  have path := keeps.path.trans lasts.path
  have memory : Holds settings (device.ui.serve lib ota request here).1.config :=
    ⟨keeps.loaded.trans lasts.memory.loaded, keeps.writable lasts.memory.writable,
      fun setting listed => (keeps.members setting.1 (settled.other setting listed)).trans
        (lasts.memory.members setting listed)⟩
  split
  next same => exact ⟨path, memory, same.trans lasts.file, lasts.stored⟩
  next changed =>
      rcases keeps.file with same | ⟨bytes, room, written⟩
      · exact absurd same changed
      · rw [List.take_of_length_le (whole bytes room)] at written
        exact ⟨path, memory, written, memory.document _⟩

theorem Lasts.started {opens : Bool} {room : Room} {csrfToken : Bytes}
    {logLevel : ESPLogger.LogLevel} {update : σ} (settled : Settled settings)
    (lasts : Lasts lib settings device)
    (undisturbed : Undisturbed lib ota device (.start opens room csrfToken logLevel update))
    (step : (laterRuns lib ota left ui).next device (.start opens room csrfToken logLevel update) =
      some after) : Lasts lib settings after := by
  obtain ⟨rfl, readable⟩ := undisturbed
  obtain rfl := Option.some.inj step
  have there : device.ui.fs.fileExists (ascii "/config.json") = true := by
    rw [LittleFS.fileExists, lasts.file]
    rfl
  have loaded := @Config.load_of_ok lib ⟨ascii "/config.json", .null, false⟩ device.ui.fs left room
    device.stored there (by rw [lasts.file]; exact readable)
  have completed := @Config.foldl_fillIn ⟨ascii "/config.json", device.stored, false⟩
    lasts.stored.writable _ Config.defaults_distinct Config.defaults_present
  rw [loaded]
  generalize Config.defaults.foldl Config.fillIn ⟨ascii "/config.json", device.stored, false⟩ =
    filled at completed ⊢
  have writable : filled.document.Writable := Json.writable_of_present
    (completed.present (ascii "rtu_addr", .integer 1) (by simp [Config.defaults]))
  refine ⟨completed.path, ⟨rfl, writable, fun setting listed => ?_⟩, lasts.file, lasts.stored⟩
  have member := lasts.stored.members setting listed
  exact (completed.keeps setting.1 (by rw [member]; exact settled.present setting listed)).trans
    member

/-- A run without another form and without a reset keeps settled settings. -/
theorem Lasts.reaches (settled : Settled settings)
    (lasts : Lasts lib settings (laterRuns lib ota left ui).start)
    (reach : (laterRuns lib ota left ui).Reaches (Undisturbed lib ota) device) :
    Lasts lib settings device :=
  reach.invariant lasts fun before happening after lasts undisturbed step => by
    cases happening with
    | request request here => exact lasts.served settled undisturbed step
    | start opens room csrfToken logLevel update => exact lasts.started settled undisturbed step

/-! ## What a form settles -/

/-- What the form assigns, without the log level. -/
def settledBy (request : HTTPRequest) : List (Bytes × Json) :=
  (assignments request).filter fun set => set.1 != ascii "log_level"

theorem settledBy_settled (request : HTTPRequest) : Settled (settledBy request) := by
  refine ⟨fun setting listed => ?_, fun setting listed => ?_⟩
  · rcases List.mem_append.mp (List.mem_filter.mp listed).1 with given | unchecked
    · obtain ⟨argument, -, assigns⟩ := List.mem_filterMap.mp given
      rw [assignment] at assigns
      split_ifs at assigns <;> exact (Option.some.inj assigns) ▸ rfl
    · obtain ⟨name, -, rfl⟩ := List.mem_map.mp unchecked
      rfl
  · simpa using (List.mem_filter.mp listed).2

/-- A form that is saved was applied to a configuration that takes members. -/
theorem ready_of_saved
    (saved : ((ui.config.setAll (assignments request)).save lib ui.fs here.room).1 = true) :
    ui.config.isLoaded = true ∧ ui.config.document.Writable ∧
      (ui.config.setAll (assignments request)).document.Writable := by
  have valid := Config.validate_of_saved saved
  have loaded := Config.isLoaded_of_valid valid
  obtain ⟨members, object⟩ := Config.object_of_valid valid
  refine ⟨by rwa [Config.setAll_eq] at loaded, ?_, by rw [object]; trivial⟩
  by_contra closed
  rw [Config.setAll_eq, Json.setMembers_of_not_writable closed] at object
  rw [object] at closed
  exact closed trivial

/-- The state after a form that is saved and written whole. -/
theorem lasts_saved (path : ui.config.configPath = ascii "/config.json")
    (distinct : (request.args.map Prod.fst).Nodup)
    (saved : ∃ message, (ui.handleSave lib request here).2.response =
      .sendSuccessWithRedirect message)
    (whole : ∀ bytes, here.room = some bytes →
      (lib.serializeJsonPretty (ui.handleSave lib request here).1.config.document).length ≤ bytes)
    (ota : UpdateClass σ) (left : Bytes → Json) :
    Lasts lib (settledBy request)
      (laterRuns lib ota left (ui.handleSave lib request here).1).start := by
  obtain ⟨config, fs, done⟩ := handleSave_saved saved
  obtain ⟨loaded, writable, object⟩ := ready_of_saved done
  have memory : Holds (settledBy request) (ui.config.setAll (assignments request)) := by
    refine ⟨by rw [Config.setAll_eq]; exact loaded, object, fun setting listed => ?_⟩
    rw [ui.member_setAll]
    exact wanted_of_assigned writable distinct (List.mem_filter.mp listed).1
  have place : (ui.config.setAll (assignments request)).configPath = ascii "/config.json" := by
    rwa [Config.setAll_eq]
  obtain ⟨bytes, room, file⟩ := Config.file_of_saved done
  rw [config] at whole
  rw [List.take_of_length_le (whole bytes room), place, ← fs] at file
  rw [← config] at place memory file
  exact ⟨place, memory, file, memory.document _⟩

/-! ## What the device works with -/

/-- A configuration that reads like the settings shown, whatever defaults a reader has. The log
level may have changed. -/
structure WorksWith (lib : ArduinoJson) (shown config : Config) : Prop where
  texts : ∀ key ∈ textFields, key ≠ ascii "log_level" → ∀ default,
    config.getString lib key default = shown.getString lib key []
  numbers : ∀ key ∈ numberFields, ∀ default,
    config.getInt lib key default = shown.getInt lib key 0
  boxes : ∀ key ∈ checkBoxes, ∀ default, config.getBool key default = shown.getBool key false

variable {shown config : Config} {devices : List DirectoryEntry} {csrfToken : Bytes}

/-- The form has a field for every setting. -/
theorem filled_texts : ∀ key ∈ textFields, ∃ value,
    (key, value) ∈ (filled lib shown devices csrfToken).args :=
  (@textFields_iff lib devices _).mpr
    ⟨fun key listed => ⟨_, freeTexts_listed key listed⟩,
      fun list listed => ⟨_, textLists_listed list listed⟩⟩

theorem filled_numbers : ∀ key ∈ numberFields, ∃ value,
    (key, value) ∈ (filled lib shown devices csrfToken).args :=
  numberFields_iff.mpr
    ⟨fun key listed => ⟨_, freeNumbers_listed key listed⟩,
      fun list listed => ⟨_, numberLists_listed list listed⟩⟩

/-- What a form settles is what the device works with. -/
theorem worksWith_of_holds (loaded : ui.config.isLoaded = true)
    (writable : ui.config.document.Writable) (showable : Showable lib shown devices)
    (holds : Holds (settledBy (filled lib shown devices csrfToken)) config) :
    WorksWith lib shown config := by
  have same := (filled_same_iff loaded writable shown devices csrfToken).mpr showable
  have distinct : ((filled lib shown devices csrfToken).args.map Prod.fst).Nodup :=
    formFields_distinct
  have settled : ∀ {key : Bytes} {value : Json},
      (key, value) ∈ assignments (filled lib shown devices csrfToken) →
        key ≠ ascii "log_level" → config.document.member key = value :=
    fun assigned other =>
      holds.members _ (List.mem_filter.mpr ⟨assigned, by simpa using other⟩)
  refine ⟨fun key text other default => ?_, fun key number default => ?_,
    fun key box default => ?_⟩
  · obtain ⟨value, listed⟩ := @filled_texts lib shown devices csrfToken key text
    rw [← same.texts key text, getString_applied loaded writable distinct listed text,
      Config.getString, settled (text_assigned listed text) other, holds.loaded]
    rfl
  · obtain ⟨value, listed⟩ := @filled_numbers lib shown devices csrfToken key number
    have other : ∀ key ∈ numberFields, key ≠ ascii "log_level" := by decide +kernel
    obtain ⟨low, high⟩ := toInt_range value
    rw [← same.numbers key number, getInt_applied loaded writable distinct listed number,
      Config.getInt, settled (number_assigned listed number) (other key number), holds.loaded]
    simp [Json.isNull, Json.asInt, Json.toInt, low, high]
  · have other : ∀ key ∈ checkBoxes, key ≠ ascii "log_level" := by decide +kernel
    rw [← same.boxes key box, getBool_applied loaded writable distinct box, Config.getBool,
      settled (box_assigned box) (other key box), holds.loaded]
    rfl

/-! ## Readers -/

/-- A field of the page that is neither the token nor the log level. -/
def isSetting (field : Bytes × Bytes) : Bool :=
  field.1 != ascii "_csrf" && field.1 != ascii "log_level"

theorem WorksWith.fields (works : WorksWith lib shown config) (devices : List DirectoryEntry)
    (token other : Bytes) :
    (formFields lib config devices token).filter isSetting =
      (formFields lib shown devices other).filter isSetting := by
  have text (name : String) (listed : ascii name ∈ textFields)
      (apart : ascii name ≠ ascii "log_level") :
      textField lib config name = textField lib shown name := by
    rw [textField, works.texts _ listed apart, textField]
  have number (name : String) (listed : ascii name ∈ numberFields) :
      numberField lib config name = numberField lib shown name := by
    rw [numberField, works.numbers _ listed, numberField]
  have numbers (name : String) (options : List DeviceOption)
      (listed : ascii name ∈ numberFields) :
      numberListField lib config name options = numberListField lib shown name options := by
    rw [numberListField, works.numbers _ listed, numberListField]
  have texts (name : String) (options : List DeviceOption) (listed : ascii name ∈ textFields)
      (apart : ascii name ≠ ascii "log_level") :
      textListField lib config name options = textListField lib shown name options := by
    rw [textListField, works.texts _ listed apart, textListField]
  have box (key : Bytes) (listed : key ∈ checkBoxes) :
      checkField key (config.getBool key false) = checkField key (shown.getBool key false) := by
    rw [works.boxes key listed]
  have token_gone (value : Bytes) : [(ascii "_csrf", value)].filter isSetting = [] := rfl
  have level_gone (field : Bytes × Bytes) (value : Bytes) :
      [field, (ascii "log_level", value)].filter isSetting = [field].filter isSetting := by
    have gone : [(ascii "log_level", value)].filter isSetting = [] := rfl
    rw [← List.singleton_append, List.filter_append, gone, List.append_nil]
  have level (config : Config) : textListField lib config "log_level" logLevelOptions =
      (ascii "log_level", (textListField lib config "log_level" logLevelOptions).2) := rfl
  rw [formFields, formFields, level config, level shown]
  simp only [List.filter_append, token_gone, level_gone, text "wifi_ssid" (by decide) (by decide),
    text "wifi_password" (by decide) (by decide), text "hostname" (by decide) (by decide),
    text "ap_ssid" (by decide) (by decide), text "ap_password" (by decide) (by decide),
    text "mqtt_broker" (by decide) (by decide), text "mqtt_username" (by decide) (by decide),
    text "mqtt_password" (by decide) (by decide),
    text "mqtt_topic_prefix" (by decide) (by decide), number "mqtt_port" (by decide),
    number "rtu_addr" (by decide), number "rs485_de_re_pin" (by decide),
    number "poll_interval_sec" (by decide), numbers "baudrate" _ (by decide),
    numbers "data_bits" _ (by decide), numbers "stop_bits" _ (by decide),
    texts "parity" _ (by decide) (by decide), texts "device_model" _ (by decide) (by decide),
    box (ascii "ap_enabled") (by decide), box (ascii "retain") (by decide),
    box (ascii "read_storage_regs") (by decide)]

/-- The settings of the serial line that `validate` lets pass. -/
structure ValidLine (lib : ArduinoJson) (shown : Config) : Prop where
  baudrate : shown.getInt lib (ascii "baudrate") 0 = 9600 ∨
    shown.getInt lib (ascii "baudrate") 0 = 19200 ∨
    shown.getInt lib (ascii "baudrate") 0 = 38400 ∨
    shown.getInt lib (ascii "baudrate") 0 = 57600 ∨ shown.getInt lib (ascii "baudrate") 0 = 115200
  parity : shown.getString lib (ascii "parity") [] = ascii "N" ∨
    shown.getString lib (ascii "parity") [] = ascii "E" ∨
    shown.getString lib (ascii "parity") [] = ascii "O"
  dataBits : shown.getInt lib (ascii "data_bits") 0 = 7 ∨
    shown.getInt lib (ascii "data_bits") 0 = 8

theorem validLine_of_valid {fs : LittleFS} (works : WorksWith lib shown config)
    (valid : config.validate lib fs = true) : ValidLine lib shown := by
  have apart : ascii "parity" ≠ ascii "log_level" := by decide
  simp only [Config.validate, Config.validSettings, Config.isValidParity, Bool.and_eq_true,
    Bool.or_eq_true, beq_iff_eq, decide_eq_true_eq, and_assoc, or_assoc,
    works.texts (ascii "parity") (by decide) apart, works.numbers (ascii "data_bits") (by decide),
    works.numbers (ascii "baudrate") (by decide)] at valid
  obtain ⟨-, parity, dataBits, -, baudrate, -⟩ := valid
  exact ⟨baudrate, parity, dataBits⟩

/-- The serial line that a client sets up is the one that is shown. -/
structure LineShown (lib : ArduinoJson) (shown : Config) (client : SerialClient) : Prop where
  baudrate : client.baudrate.toNat = shown.getInt lib (ascii "baudrate") 0
  parity : [.ofNat client.parity.toNat] = shown.getString lib (ascii "parity") []
  dataBits : client.dataBits = shown.getInt lib (ascii "data_bits") 0
  stopBits : client.stopBits = shown.getInt lib (ascii "stop_bits") 0
  dePin : client.dePin = shown.getInt lib (ascii "rs485_de_re_pin") 0

theorem WorksWith.line (works : WorksWith lib shown config) (valid : ValidLine lib shown) :
    LineShown lib shown (SerialClient.create.begin lib config) where
  baudrate := by
    change ((SerialClient.getBaudrateValue lib config).toNat : Int) = _
    simp only [SerialClient.getBaudrateValue, works.numbers (ascii "baudrate") (by decide)]
    rcases valid.baudrate with rate | rate | rate | rate | rate <;> rw [rate] <;> rfl
  parity := by
    change [UInt8.ofNat (SerialClient.getParityValue lib config).toNat] = _
    simp only [SerialClient.getParityValue, works.texts (ascii "parity") (by decide) (by decide)]
    rcases valid.parity with letter | letter | letter <;> rw [letter] <;> decide
  dataBits := by
    change SerialClient.getDataBitsValue lib config = _
    simp only [SerialClient.getDataBitsValue, works.numbers (ascii "data_bits") (by decide)]
    exact if_pos valid.dataBits
  stopBits := works.numbers (ascii "stop_bits") (by decide) _
  dePin := works.numbers (ascii "rs485_de_re_pin") (by decide) _

theorem form_of_saved
    (saved : ∃ message, (ui.handleSave lib request here).2.response =
      .sendSuccessWithRedirect message) : validateForm request = true := by
  rw [handleSave] at saved
  cases token : ui.validateCSRFToken request with
  | false => simp [token] at saved
  | true =>
      cases form : validateForm request with
      | false => simp [token, form] at saved
      | true => rfl

/-- The port of a form that is accepted is one. -/
theorem port_of_form (accepted : validateForm (filled lib shown devices csrfToken) = true) :
    ¬ (shown.getInt lib (ascii "mqtt_port") 0 < 1 ∨
      shown.getInt lib (ascii "mqtt_port") 0 > 65535) := by
  have distinct : ((filled lib shown devices csrfToken).args.map Prod.fst).Nodup :=
    formFields_distinct
  have listed := @freeNumbers_listed lib shown devices csrfToken (ascii "mqtt_port") (by decide)
  have found : (filled lib shown devices csrfToken).args.lookup (ascii "mqtt_port") =
      some (GenericModbusDevice.decimalInt (shown.getInt lib (ascii "mqtt_port") 0)) :=
    lookup_of_mem distinct listed
  obtain ⟨low, high⟩ := shown.getInt_range lib (ascii "mqtt_port")
  rw [validateForm, HTTPRequest.hasArg, HTTPRequest.arg, found, Option.getD_some,
    toInt_decimalInt low high] at accepted
  simpa using accepted

/-- In every later run, a device works with what was filled into the form, sets up the line and the
client of the broker as it says, and shows it on the page. -/
theorem filled_form_lasts (lib : ArduinoJson) (ota : UpdateClass σ) (left : Bytes → Json)
    (ui : WebUI σ) (shown : Config) (devices : List DirectoryEntry) (here : Surroundings)
    (path : ui.config.configPath = ascii "/config.json") (showable : Showable lib shown devices)
    (saved : ∃ message,
      (ui.handleSave lib (filled lib shown devices ui.csrfToken) here).2.response =
        .sendSuccessWithRedirect message)
    (whole : ∀ bytes, here.room = some bytes → (lib.serializeJsonPretty (ui.handleSave lib
      (filled lib shown devices ui.csrfToken) here).1.config.document).length ≤ bytes)
    {device : Device σ}
    (reach : (laterRuns lib ota left (ui.handleSave lib
      (filled lib shown devices ui.csrfToken) here).1).Reaches (Undisturbed lib ota) device) :
    WorksWith lib shown device.ui.config ∧
    LineShown lib shown (SerialClient.create.begin lib device.ui.config) ∧
    (MQTTClient.create.begin lib device.ui.config).1 =
      !(shown.getString lib (ascii "mqtt_broker") []).isEmpty ∧
    ∀ listing, ∃ fields,
      browse (generateConfigForm lib device.ui.config listing device.ui.csrfToken) = some fields ∧
      fields.filter isSetting = (formFields lib shown listing []).filter isSetting := by
  obtain ⟨config, -, done⟩ := handleSave_saved saved
  obtain ⟨loaded, writable, -⟩ := ready_of_saved done
  have start := lasts_saved path formFields_distinct saved whole ota left
  have lasts := start.reaches (settledBy_settled _) reach
  have works := worksWith_of_holds loaded writable showable lasts.memory
  have first := worksWith_of_holds loaded writable showable (config ▸ start.memory)
  have line := validLine_of_valid first (Config.validate_of_saved done)
  have port := port_of_form (form_of_saved saved)
  refine ⟨works, works.line line, ?_, fun listing => ⟨_,
    (generateConfigForm_offers listing device.ui.csrfToken).browse, works.fields listing _ _⟩⟩
  rw [MQTTClient.begin, MQTTClient.validateMQTTConfig]
  simp only [works.texts (ascii "mqtt_broker") (by decide) (by decide),
    works.numbers (ascii "mqtt_port") (by decide), port, if_false]
  cases shown.getString lib (ascii "mqtt_broker") [] <;> rfl

/-- The settings of the first start, with another speed of the line and a broker. -/
def fasterSettings : Config :=
  (Config.initial.setInt (ascii "baudrate") 19200).setString (ascii "mqtt_broker")
    (ascii "broker.lan")

/-- Without device files, the texts that the library can read do not matter to the form. -/
theorem filled_flatJson (known : List (Bytes × Json)) (shown : Config) (csrfToken : Bytes) :
    filled (flatJson known) shown [] csrfToken = filled (flatJson []) shown [] csrfToken := rfl

/-- The form is saved with these, and the device starts again. -/
theorem filled_form_lasts_faster :
    let document := (sampleUI.config.setAll
      (assignments (filled (flatJson []) fasterSettings [] sampleUI.csrfToken))).document
    let lib := flatJson [((flatJson []).serializeJsonPretty document, document)]
    let system := laterRuns lib imageUpdate (fun _ => .null)
      (sampleUI.handleSave lib (filled lib fasterSettings [] sampleUI.csrfToken) ample).1
    ∃ device, system.next system.start (.start true (some 4096) [] .info sampleUI.update) =
        some device ∧
      (SerialClient.create.begin lib device.ui.config).baudrate.toNat = (19200 : Int) ∧
      (MQTTClient.create.begin lib device.ui.config).1 = true := by
  intro document lib system
  have saved := @handleSave_succeeds _ lib sampleUI
    (filled lib fasterSettings [] sampleUI.csrfToken) ample (by decide +kernel)
    (by decide +kernel) (by decide +kernel)
  have config := (handleSave_saved saved).1
  have whole : ∀ bytes, ample.room = some bytes → (lib.serializeJsonPretty (sampleUI.handleSave lib
      (filled lib fasterSettings [] sampleUI.csrfToken) ample).1.config.document).length ≤
        bytes := by
    rw [config]
    intro _ same
    obtain rfl := Option.some.inj same
    decide +kernel
  have stored : system.start.stored = document := by
    rw [start_stored, config]
    exact congrArg (fun form => (sampleUI.config.setAll (assignments form)).document)
      (filled_flatJson _ fasterSettings sampleUI.csrfToken)
  have undisturbed : Undisturbed lib imageUpdate system.start
      (.start true (some 4096) [] .info sampleUI.update) :=
    ⟨rfl, stored ▸ (Config.flatJson_reproduces document).readable⟩
  obtain ⟨device, moves⟩ := next_eq_some lib imageUpdate (fun _ => .null) _ system.start
    (.start true (some 4096) [] .info sampleUI.update)
  have reach : system.Reaches (Undisturbed lib imageUpdate) device :=
    .step .start undisturbed moves
  have showable : Showable lib fasterSettings [] :=
    ⟨by decide +kernel, by decide +kernel, by decide +kernel⟩
  have path : sampleUI.config.configPath = ascii "/config.json" := by decide +kernel
  have lasts := filled_form_lasts lib imageUpdate (fun _ => .null) sampleUI
    fasterSettings [] ample path showable saved whole reach
  exact ⟨device, moves, lasts.2.1.baudrate.trans (by decide +kernel),
    lasts.2.2.1.trans (by decide +kernel)⟩

end WebUI

end ModbusBridge
