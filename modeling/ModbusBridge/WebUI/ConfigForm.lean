import ModbusBridge.Library.Forms
import ModbusBridge.WebUI.Console
import ModbusBridge.WebUI.Escaping

/-!
# The configuration form

The page shows the configuration in a form. A browser finds the end of every tag and submits the
fields of the form, whatever the settings are.
-/

namespace ModbusBridge

open Markup (Token Submits Closed submission normalize sanitize)
open GenericModbusDevice (decimalInt)

/-! ## The parts of the form -/

/-- `csrfHiddenInput`. -/
def csrfHiddenInput (csrfToken : Bytes) : Bytes :=
  ascii "<input type='hidden' name='_csrf' value='" ++ escapeHtml csrfToken ++ ascii "'>"

/-- `checkboxInput`. -/
def checkboxInput (name : Bytes) (checked : Bool) (label : Bytes) : Bytes :=
  ascii "<div class='form-group'>" ++ ascii "<div class='checkbox-group'>" ++
    (ascii "<input type='checkbox' name='" ++ escapeHtml name ++ ascii "' id='" ++
      escapeHtml name ++ ascii "'") ++
    (if checked then ascii " checked" else []) ++ ascii ">" ++
    (ascii "<label for='" ++ escapeHtml name ++ ascii "'>" ++ escapeHtml label ++
      ascii "</label>") ++
    ascii "</div>" ++ ascii "</div>"

/-- `selectInput`. -/
def selectInput (name options label : Bytes) : Bytes :=
  ascii "<div class='form-group'>" ++
    (ascii "<label for='" ++ escapeHtml name ++ ascii "'>" ++ escapeHtml label ++
      ascii ":</label>") ++
    (ascii "<select name='" ++ escapeHtml name ++ ascii "' id='" ++ escapeHtml name ++
      ascii "'>" ++ options ++ ascii "</select>") ++
    ascii "</div>"

/-- Calls of `selectOption`, one after the other. -/
def selectOptions (options : List DeviceOption) (current : Bytes) : Bytes :=
  options.flatMap fun option => selectOption option.value current option.label

/-! ## What a browser makes of a part -/

/-- A part of a page: a browser finds the end of every tag in it, and submits these fields. -/
def Offers (html : Bytes) (fields : List (Bytes × Bytes)) : Prop :=
  ∃ tokens, html = tokens.flatMap (Markup.write escapeHtml) ∧ Closed tokens ∧
    Submits tokens fields

/-- The fields that a browser submits. -/
def browse (html : Bytes) : Option (List (Bytes × Bytes)) :=
  (Markup.read unescapeHtml html).map submission

theorem Offers.browse {html : Bytes} {fields : List (Bytes × Bytes)}
    (offers : Offers html fields) : browse html = some fields := by
  obtain ⟨tokens, rfl, closed, submits⟩ := offers
  rw [ModbusBridge.browse, Markup.read_write safe_escapeHtml closed.wellFormed closed.apart]
  exact congrArg some submits.submission

theorem Offers.append {early late : Bytes} {first second : List (Bytes × Bytes)}
    (front : Offers early first) (back : Offers late second) :
    Offers (early ++ late) (first ++ second) := by
  obtain ⟨tokens, rfl, closed, submits⟩ := front
  obtain ⟨others, rfl, shut, adds⟩ := back
  exact ⟨tokens ++ others, List.flatMap_append.symm, closed.append shut, submits.append adds⟩

instance : DecidablePred Token.WellFormed
  | .opening name attributes =>
      inferInstanceAs (Decidable (Markup.Name name ∧ ∀ pair ∈ attributes, Markup.Name pair.1))
  | .closing name => inferInstanceAs (Decidable (Markup.Name name))
  | .text content => inferInstanceAs (Decidable (content ≠ []))

instance : DecidableRel Token.Apart
  | .text _, .text _ => isFalse id
  | .text _, .opening .. | .text _, .closing _ | .opening .., _ | .closing _, _ => isTrue trivial

/-- Markup without fields that ends with a tag. -/
def Static (html : Bytes) (tokens : List Token) : Prop :=
  html = tokens.flatMap (Markup.write escapeHtml) ∧
    (∀ token ∈ tokens, token.WellFormed ∧ token.Idle) ∧ tokens.IsChain Token.Apart ∧
    ∀ token ∈ tokens.getLast?, token.Apart (.text [])

instance (html : Bytes) (tokens : List Token) : Decidable (Static html tokens) :=
  inferInstanceAs (Decidable (_ ∧ _ ∧ _ ∧ _))

/-- A literal is checked by reading it. -/
theorem Offers.literal {html : Bytes}
    (static : Static html ((Markup.read unescapeHtml html).getD [])) : Offers html [] := by
  obtain ⟨written, tokens, apart, last⟩ := static
  refine ⟨_, written, ⟨fun token listed => (tokens token listed).1, apart, ?_⟩,
    .idle fun token listed => (tokens token listed).2⟩
  intro token ends next
  have tag := last token ends
  cases token with
  | text content => exact tag.elim
  | opening name attributes => trivial
  | closing name => trivial

theorem Offers.of_eq {html : Bytes} {fields others : List (Bytes × Bytes)}
    (offers : Offers html fields) (same : fields = others) : Offers html others := same ▸ offers

/-- A text without its line breaks. -/
def unbroken (text : Bytes) : Bytes := text.filter fun byte => byte != 10 && byte != 13

theorem normalize_unbroken (text : Bytes) : normalize (unbroken text) = unbroken text := by
  refine Markup.normalize_of_unbroken ⟨fun feed => ?_, fun back => ?_⟩
  · exact absurd (List.mem_filter.mp feed).2 (by decide)
  · exact absurd (List.mem_filter.mp back).2 (by decide)

theorem textInput_offers {name type : Bytes} (named : name ≠ []) (value label : Bytes)
    (plain : type = ascii "text" ∨ type = ascii "password" ∨ type = ascii "number") :
    Offers (textInput name value label type) [(name, normalize (sanitize type value))] := by
  refine ⟨_, textInput_eq name value label type, textInputTokens_closed name value label type,
    fun before => ?_⟩
  have noBox : type ≠ Markup.word "checkbox" := by
    rcases plain with rfl | rfl | rfl <;> decide
  have visited : Markup.Browser.input ⟨none, before⟩
      [(ascii "type", some type), (ascii "name", some name), (ascii "id", some name),
        (ascii "value", some value)] =
      ⟨none, before ++ [(name, normalize (sanitize type value))]⟩ := by
    refine (Markup.Browser.input_value ?_).trans (Markup.Browser.add_named named _)
    exact noBox
  exact visited

/-- What a browser reads of a check box. -/
def checkboxTokens (name : Bytes) (checked : Bool) (label : Bytes) : List Token :=
  [.opening (ascii "div") [(ascii "class", some (ascii "form-group"))],
    .opening (ascii "div") [(ascii "class", some (ascii "checkbox-group"))],
    .opening (ascii "input")
      ([(ascii "type", some (ascii "checkbox")), (ascii "name", some name),
        (ascii "id", some name)] ++ if checked then [(ascii "checked", none)] else []),
    .opening (ascii "label") [(ascii "for", some name)],
    .text label,
    .closing (ascii "label"),
    .closing (ascii "div"),
    .closing (ascii "div")]

theorem checkboxInput_eq (name : Bytes) (checked : Bool) (label : Bytes) :
    checkboxInput name checked label =
      (checkboxTokens name checked label).flatMap (Markup.write escapeHtml) := by
  have group : escapeHtml (ascii "form-group") = ascii "form-group" := by decide
  have box : escapeHtml (ascii "checkbox-group") = ascii "checkbox-group" := by decide
  have type : escapeHtml (ascii "checkbox") = ascii "checkbox" := by decide
  cases checked <;>
    simp only [checkboxInput, checkboxTokens, List.flatMap_cons, List.flatMap_nil, Markup.write,
      Markup.writeAttribute, group, box, type, List.append_assoc, List.cons_append,
      List.nil_append, List.append_nil, if_true, Bool.false_eq_true, if_false] <;>
    rfl

theorem checkboxTokens_closed (name : Bytes) (checked : Bool) {label : Bytes}
    (labelled : label ≠ []) : Closed (checkboxTokens name checked label) where
  wellFormed := by
    have names : ∀ name ∈ [ascii "div", ascii "class", ascii "label", ascii "for", ascii "input",
        ascii "type", ascii "name", ascii "id", ascii "checked"], Markup.Name name := by
      decide +kernel
    simp only [List.forall_mem_cons] at names
    simp only [checkboxTokens, List.forall_mem_cons, Token.WellFormed]
    cases checked <;> simp [names, labelled]
  apart := by simp [checkboxTokens, Token.Apart]
  last := by simp [checkboxTokens, Token.Apart]

/-- The fields of a check box. -/
def checkField (name : Bytes) (checked : Bool) : List (Bytes × Bytes) :=
  if checked then [(name, ascii "on")] else []

theorem checkboxInput_offers {name label : Bytes} (named : name ≠ []) (checked : Bool)
    (labelled : label ≠ []) :
    Offers (checkboxInput name checked label) (checkField name checked) := by
  refine ⟨_, checkboxInput_eq name checked label, checkboxTokens_closed name checked labelled,
    fun before => ?_⟩
  cases checked with
  | false => exact congrArg _ (List.append_nil before).symm
  | true =>
      have visited : Markup.Browser.input ⟨none, before⟩
          [(ascii "type", some (ascii "checkbox")), (ascii "name", some name),
            (ascii "id", some name), (ascii "checked", none)] =
          ⟨none, before ++ checkField name true⟩ := by
        rw [Markup.Browser.input_checked rfl rfl rfl]
        exact Markup.Browser.add_named named _
      exact visited

theorem csrfHiddenInput_offers (csrfToken : Bytes) :
    Offers (csrfHiddenInput csrfToken) [(ascii "_csrf", normalize csrfToken)] := by
  have hidden : escapeHtml (ascii "hidden") = ascii "hidden" := by decide
  have name : escapeHtml (ascii "_csrf") = ascii "_csrf" := by decide
  refine ⟨[.opening (ascii "input") [(ascii "type", some (ascii "hidden")),
    (ascii "name", some (ascii "_csrf")), (ascii "value", some csrfToken)]], ?_, ?_, ?_⟩
  · simp only [csrfHiddenInput, List.flatMap_cons, List.flatMap_nil, Markup.write,
      Markup.writeAttribute, hidden, name, List.append_assoc, List.cons_append, List.nil_append,
      List.append_nil]
    rfl
  · have names : ∀ name ∈ [ascii "input", ascii "type", ascii "name", ascii "value"],
        Markup.Name name := by decide +kernel
    simp only [List.forall_mem_cons] at names
    refine ⟨?_, .singleton _, by simp [Token.Apart]⟩
    simp only [List.forall_mem_cons, Token.WellFormed]
    simp [names]
  · exact fun before => rfl

/-! ## Lists -/

/-- What a list gives: what is set, if it is offered, and the first option otherwise. -/
def listValue (options : List DeviceOption) (current : Bytes) : Bytes :=
  if (options.map DeviceOption.value).contains current then current
  else (options.map DeviceOption.value).headD []

theorem listValue_eq (options : List DeviceOption) (current : Bytes) :
    listValue options current = if current ∈ options.map DeviceOption.value then current
      else (options.map DeviceOption.value).headD [] := by
  simp only [listValue, List.contains_iff_mem]

theorem visit_optionTokens (choice : Markup.Choice) (before : List (Bytes × Bytes))
    (value current label : Bytes) :
    (optionTokens value current label).foldl Markup.Browser.visit ⟨some choice, before⟩ =
      ⟨some (choice.offer value (decide (value = current))), before⟩ := by
  rw [optionTokens]
  by_cases same : value = current <;> by_cases unlabelled : label = [] <;>
    simp only [same, unlabelled, if_true, if_false, decide_true, decide_false] <;> rfl

theorem visit_options (choice : Markup.Choice) (before : List (Bytes × Bytes))
    (options : List DeviceOption) (current : Bytes) :
    (options.flatMap fun option => optionTokens option.value current option.label).foldl
        Markup.Browser.visit ⟨some choice, before⟩ =
      ⟨some (choice.offerAll ((options.map DeviceOption.value).map fun value =>
        (value, decide (value = current)))), before⟩ := by
  induction options generalizing choice with
  | nil => rfl
  | cons option options induction =>
      rw [List.flatMap_cons, List.foldl_append, visit_optionTokens, induction]
      rfl

/-- What a browser reads of a list. -/
def selectTokens (name : Bytes) (options : List DeviceOption) (current label : Bytes) :
    List Token :=
  [.opening (ascii "div") [(ascii "class", some (ascii "form-group"))],
    .opening (ascii "label") [(ascii "for", some name)],
    .text (label ++ ascii ":"),
    .closing (ascii "label"),
    .opening (ascii "select") [(ascii "name", some name), (ascii "id", some name)]] ++
    (options.flatMap fun option => optionTokens option.value current option.label) ++
    [.closing (ascii "select"), .closing (ascii "div")]

theorem selectInput_eq (name : Bytes) (options : List DeviceOption) (current label : Bytes) :
    selectInput name (selectOptions options current) label =
      (selectTokens name options current label).flatMap (Markup.write escapeHtml) := by
  have colon : escapeHtml (ascii ":") = ascii ":" := by decide
  have group : escapeHtml (ascii "form-group") = ascii "form-group" := by decide
  simp only [selectInput, selectTokens, selectOptions, selectOption_eq, List.flatMap_append,
    List.flatMap_assoc, List.flatMap_cons, List.flatMap_nil, Markup.write, Markup.writeAttribute,
    escapeHtml_append, colon, group, List.append_assoc, List.cons_append, List.nil_append,
    List.append_nil]
  rfl

theorem selectTokens_closed (name : Bytes) (options : List DeviceOption) (current label : Bytes) :
    Closed (selectTokens name options current label) := by
  have names : ∀ name ∈ [ascii "div", ascii "class", ascii "label", ascii "for",
      ascii "select", ascii "name", ascii "id"], Markup.Name name := by
    decide +kernel
  have colon : ascii ":" ≠ [] := by decide
  simp only [List.forall_mem_cons] at names
  refine .append (.append ⟨?_, ?_, ?_⟩ (.flatMap fun option _ => optionTokens_closed ..))
    ⟨?_, ?_, ?_⟩
  · simp only [List.forall_mem_cons, Token.WellFormed]
    simp [names, colon]
  · simp [Token.Apart]
  · simp [Token.Apart]
  · simp only [List.forall_mem_cons, Token.WellFormed]
    simp [names]
  · simp [Token.Apart]
  · simp [Token.Apart]

theorem selectInput_offers {name : Bytes} (named : name ≠ []) {options : List DeviceOption}
    (offered : options ≠ []) (current label : Bytes) :
    Offers (selectInput name (selectOptions options current) label)
      [(name, normalize (listValue options current))] := by
  refine ⟨_, selectInput_eq name options current label,
    selectTokens_closed name options current label, fun before => ?_⟩
  have chosen := Markup.Choice.chosen_offerAll name current (options.map DeviceOption.value)
  have value : (if current ∈ options.map DeviceOption.value then some current
      else (options.map DeviceOption.value).head?) = some (listValue options current) := by
    rw [listValue_eq]
    split_ifs
    · rfl
    · obtain ⟨option, others, rfl⟩ := List.exists_cons_of_ne_nil offered
      rfl
  rw [value] at chosen
  have left : Markup.Browser.leave ⟨some ((⟨name, none, none⟩ : Markup.Choice).offerAll
      ((options.map DeviceOption.value).map fun value => (value, decide (value = current)))),
      before⟩ = ⟨none, before ++ [(name, normalize (listValue options current))]⟩ := by
    rw [Markup.Browser.leave]
    dsimp only
    rw [chosen, Markup.Choice.offerAll_name]
    exact if_neg named
  rw [selectTokens, List.foldl_append, List.foldl_append]
  change List.foldl _ (List.foldl _ (Markup.Browser.select ⟨none, before⟩ _) _) _ = _
  have started : Markup.Browser.select ⟨none, before⟩
      [(ascii "name", some name), (ascii "id", some name)] =
      ⟨some ⟨name, none, none⟩, before⟩ := rfl
  rw [started, visit_options]
  exact left

/-! ## The form -/

namespace WebUI

variable (lib : ArduinoJson) (config : Config)

/-- `textInput` for a setting. -/
def textSetting (name label type : String) : Bytes :=
  textInput (ascii name) (config.getString lib (ascii name) []) (ascii label) (ascii type)

/-- `textInput` for a number. -/
def numberSetting (name label : String) : Bytes :=
  textInput (ascii name) (decimalInt (config.getInt lib (ascii name) 0)) (ascii label)
    (ascii "number")

/-- `checkboxInput` for a setting. -/
def checkSetting (name label : String) : Bytes :=
  checkboxInput (ascii name) (config.getBool (ascii name) false) (ascii label)

/-- `selectInput` for a text. -/
def textListSetting (name label : String) (options : List DeviceOption) : Bytes :=
  selectInput (ascii name) (selectOptions options (config.getString lib (ascii name) []))
    (ascii label)

/-- `selectInput` for a number. -/
def numberListSetting (name label : String) (options : List DeviceOption) : Bytes :=
  selectInput (ascii name)
    (selectOptions options (decimalInt (config.getInt lib (ascii name) 0))) (ascii label)

/-- The options of these lists. -/
def baudrateOptions : List DeviceOption :=
  [⟨ascii "9600", ascii "9600"⟩, ⟨ascii "19200", ascii "19200"⟩, ⟨ascii "38400", ascii "38400"⟩,
    ⟨ascii "57600", ascii "57600"⟩, ⟨ascii "115200", ascii "115200"⟩]

def dataBitsOptions : List DeviceOption :=
  [⟨ascii "7", ascii "7 bits"⟩, ⟨ascii "8", ascii "8 bits"⟩]

def parityOptions : List DeviceOption :=
  [⟨ascii "N", ascii "None"⟩, ⟨ascii "E", ascii "Even"⟩, ⟨ascii "O", ascii "Odd"⟩]

def stopBitsOptions : List DeviceOption :=
  [⟨ascii "1", ascii "1 bit"⟩, ⟨ascii "2", ascii "2 bits"⟩]

def logLevelOptions : List DeviceOption :=
  [⟨ascii "error", ascii "Error - Critical issues only"⟩,
    ⟨ascii "warn", ascii "Warning - Issues and critical"⟩,
    ⟨ascii "info", ascii "Info - Normal operation"⟩, ⟨ascii "debug", ascii "Debug - All messages"⟩]

/-- The WiFi settings of the form. -/
def wifiFieldset : Bytes :=
  ascii "<fieldset><legend>WiFi Settings</legend>" ++
    textSetting lib config "wifi_ssid" "WiFi SSID" "text" ++
    textSetting lib config "wifi_password" "WiFi Password" "password" ++
    textSetting lib config "hostname" "Device Hostname" "text" ++
    (ascii "<div style='font-size:0.75rem;color:var(--text-light);margin-top:-0.5rem;" ++
      ascii "margin-bottom:1rem'>Used for DHCP and mDNS (e.g., hostname.local)</div>") ++
    checkSetting config "ap_enabled" "Enable AP Fallback" ++
    textSetting lib config "ap_ssid" "AP SSID" "text" ++
    textSetting lib config "ap_password" "AP Password" "password" ++
    ascii "</fieldset>"

/-- The MQTT settings of the form. -/
def mqttFieldset : Bytes :=
  ascii "<fieldset><legend>MQTT Settings</legend>" ++
    textSetting lib config "mqtt_broker" "MQTT Broker" "text" ++
    numberSetting lib config "mqtt_port" "MQTT Port" ++
    textSetting lib config "mqtt_username" "MQTT Username" "text" ++
    textSetting lib config "mqtt_password" "MQTT Password" "password" ++
    textSetting lib config "mqtt_topic_prefix" "Topic Prefix" "text" ++
    checkSetting config "retain" "Retain Messages" ++
    ascii "</fieldset>"

/-- The Modbus settings of the form. -/
def modbusFieldset : Bytes :=
  ascii "<fieldset><legend>Modbus/RS485 Settings</legend>" ++
    numberSetting lib config "rtu_addr" "Slave Address" ++
    numberListSetting lib config "baudrate" "Baud Rate" baudrateOptions ++
    numberListSetting lib config "data_bits" "Data Bits" dataBitsOptions ++
    textListSetting lib config "parity" "Parity" parityOptions ++
    numberListSetting lib config "stop_bits" "Stop Bits" stopBitsOptions ++
    numberSetting lib config "rs485_de_re_pin" "DE/RE Pin" ++
    ascii "</fieldset>"

/-- The inverter settings of the form. -/
def inverterFieldset (devices : List DirectoryEntry) : Bytes :=
  ascii "<fieldset><legend>Inverter Settings</legend>" ++
    selectInput (ascii "device_model")
      (generateDeviceOptions lib devices (config.getString lib (ascii "device_model") []))
      (ascii "Device Model") ++
    checkSetting config "read_storage_regs" "Read Battery/Storage Registers" ++
    numberSetting lib config "poll_interval_sec" "Poll Interval (seconds)" ++
    ascii "</fieldset>"

/-- The system settings of the form. -/
def systemFieldset : Bytes :=
  ascii "<fieldset><legend>System Settings</legend>" ++
    textListSetting lib config "log_level" "Log Level" logLevelOptions ++
    (ascii "<div style='font-size:0.75rem;color:var(--text-light);margin-top:-0.5rem;" ++
      ascii "margin-bottom:1rem'>Controls verbosity of serial console and system logs</div>") ++
    ascii "</fieldset>"

/-- The form of `generateConfigForm`, from its first tag to its last. -/
def generateConfigForm (devices : List DirectoryEntry) (csrfToken : Bytes) : Bytes :=
  ascii "<form method='POST' action='/save' onsubmit='return validateForm()'>" ++
    csrfHiddenInput csrfToken ++
    wifiFieldset lib config ++ mqttFieldset lib config ++ modbusFieldset lib config ++
    inverterFieldset lib config devices ++ systemFieldset lib config ++
    (ascii "<div class='button-group'>" ++
      -- a floppy disk stands in front of the text
      (ascii "<button type='submit' class='btn-primary'>" ++ [0xF0, 0x9F, 0x92, 0xBE] ++
        ascii " Save Configuration</button>") ++
      ascii "</div>") ++
    ascii "</form>"

/-! ## What a browser submits -/

/-- The field of a text. -/
def textField (name : String) : Bytes × Bytes :=
  (ascii name, unbroken (config.getString lib (ascii name) []))

/-- The field of a number. -/
def numberField (name : String) : Bytes × Bytes :=
  (ascii name, decimalInt (config.getInt lib (ascii name) 0))

/-- The field of a list of texts. -/
def textListField (name : String) (options : List DeviceOption) : Bytes × Bytes :=
  (ascii name, normalize (listValue options (config.getString lib (ascii name) [])))

/-- The field of a list of numbers. -/
def numberListField (name : String) (options : List DeviceOption) : Bytes × Bytes :=
  (ascii name, normalize (listValue options (decimalInt (config.getInt lib (ascii name) 0))))

/-- The fields of the form, in their order. -/
def formFields (devices : List DirectoryEntry) (csrfToken : Bytes) : List (Bytes × Bytes) :=
  [(ascii "_csrf", normalize csrfToken)] ++
    [textField lib config "wifi_ssid", textField lib config "wifi_password",
      textField lib config "hostname"] ++
    checkField (ascii "ap_enabled") (config.getBool (ascii "ap_enabled") false) ++
    [textField lib config "ap_ssid", textField lib config "ap_password",
      textField lib config "mqtt_broker", numberField lib config "mqtt_port",
      textField lib config "mqtt_username", textField lib config "mqtt_password",
      textField lib config "mqtt_topic_prefix"] ++
    checkField (ascii "retain") (config.getBool (ascii "retain") false) ++
    [numberField lib config "rtu_addr", numberListField lib config "baudrate" baudrateOptions,
      numberListField lib config "data_bits" dataBitsOptions,
      textListField lib config "parity" parityOptions,
      numberListField lib config "stop_bits" stopBitsOptions,
      numberField lib config "rs485_de_re_pin",
      textListField lib config "device_model" (deviceOptions lib devices)] ++
    checkField (ascii "read_storage_regs") (config.getBool (ascii "read_storage_regs") false) ++
    [numberField lib config "poll_interval_sec",
      textListField lib config "log_level" logLevelOptions]

variable {lib config}

theorem isDigit_decimal {n : Nat} {byte : UInt8} (member : byte ∈ decimal n) :
    Markup.isDigit byte = true := isDigit_of_mem_decimal member

theorem isNumber_digits {digits : Bytes} (nonempty : digits ≠ [])
    (all : ∀ byte ∈ digits, Markup.isDigit byte = true) :
    Markup.isNumber digits = true ∧ Markup.isNumber (45 :: digits) = true := by
  have rest : digits.dropWhile Markup.isDigit = [] := List.dropWhile_eq_nil_iff.mpr all
  have long := List.length_pos_iff.mpr nonempty
  have unsigned : digits.head? ≠ some 45 := fun minus =>
    absurd (all 45 (List.mem_of_mem_head? minus)) (by decide)
  constructor
  · simp [Markup.isNumber, unsigned, rest, long]
  · simp [Markup.isNumber, rest, long]

/-- A number is one for the browser too, and on one line. -/
theorem decimalInt_number (value : Int) :
    Markup.isNumber (decimalInt value) = true ∧ unbroken (decimalInt value) = decimalInt value := by
  have digits := @isDigit_decimal value.natAbs
  obtain ⟨plain, minus⟩ := isNumber_digits (by simp [decimal, Nat.toDigits_ne_nil])
    fun byte => digits
  have kept : ∀ byte ∈ 45 :: decimal value.natAbs, (byte != 10 && byte != 13) = true := by
    intro byte member
    rcases List.mem_cons.mp member with rfl | digit
    · rfl
    · have numeral := digits digit
      simp only [Markup.isDigit, Bool.and_eq_true, decide_eq_true_eq, UInt8.le_iff_toNat_le]
        at numeral
      have low : 48 ≤ byte.toNat := numeral.1
      simp only [Bool.and_eq_true, bne_iff_ne, ne_eq]
      constructor <;> rintro rfl <;> simp at low
  rw [GenericModbusDevice.decimalInt]
  split_ifs
  · exact ⟨minus, List.filter_eq_self.mpr kept⟩
  · exact ⟨plain, List.filter_eq_self.mpr fun byte member =>
      kept byte (List.mem_cons_of_mem _ member)⟩

theorem textSetting_offers {name label type : String} (named : ascii name ≠ [])
    (plain : ascii type = ascii "text" ∨ ascii type = ascii "password") :
    Offers (textSetting lib config name label type) [textField lib config name] := by
  have kept : normalize (sanitize (ascii type) (config.getString lib (ascii name) [])) =
      unbroken (config.getString lib (ascii name) []) := by
    have free : sanitize (ascii type) (config.getString lib (ascii name) []) =
        unbroken (config.getString lib (ascii name) []) := by
      rcases plain with same | same <;> rw [same] <;> rfl
    rw [free, normalize_unbroken]
  rw [textField, ← kept]
  exact textInput_offers named _ _ (plain.imp_right .inl)

theorem numberSetting_offers {name label : String} (named : ascii name ≠ []) :
    Offers (numberSetting lib config name label) [numberField lib config name] := by
  obtain ⟨number, clean⟩ := decimalInt_number (config.getInt lib (ascii name) 0)
  have kept : normalize (sanitize (ascii "number")
      (decimalInt (config.getInt lib (ascii name) 0))) =
      decimalInt (config.getInt lib (ascii name) 0) := by
    have same : sanitize (ascii "number") (decimalInt (config.getInt lib (ascii name) 0)) =
        decimalInt (config.getInt lib (ascii name) 0) := if_pos number
    rw [same, ← clean, normalize_unbroken]
  rw [numberField]
  have offers := textInput_offers named (decimalInt (config.getInt lib (ascii name) 0))
    (ascii label) (.inr (.inr (rfl : ascii "number" = ascii "number")))
  rwa [kept] at offers

theorem wifiFieldset_offers :
    Offers (wifiFieldset lib config)
      ([textField lib config "wifi_ssid", textField lib config "wifi_password",
        textField lib config "hostname"] ++
        checkField (ascii "ap_enabled") (config.getBool (ascii "ap_enabled") false) ++
        [textField lib config "ap_ssid", textField lib config "ap_password"]) := by
  rw [wifiFieldset]
  refine (((((((((Offers.literal (by decide +kernel)).append
    (textSetting_offers (by decide) (.inl rfl))).append
    (textSetting_offers (by decide) (.inr rfl))).append
    (textSetting_offers (by decide) (.inl rfl))).append
    (Offers.literal (by decide +kernel))).append
    (checkboxInput_offers (by decide) _ (by decide))).append
    (textSetting_offers (by decide) (.inl rfl))).append
    (textSetting_offers (by decide) (.inr rfl))).append
    (Offers.literal (by decide +kernel))).of_eq ?_
  simp

theorem mqttFieldset_offers :
    Offers (mqttFieldset lib config)
      ([textField lib config "mqtt_broker", numberField lib config "mqtt_port",
        textField lib config "mqtt_username", textField lib config "mqtt_password",
        textField lib config "mqtt_topic_prefix"] ++
        checkField (ascii "retain") (config.getBool (ascii "retain") false)) := by
  rw [mqttFieldset]
  refine ((((((((Offers.literal (by decide +kernel)).append
    (textSetting_offers (by decide) (.inl rfl))).append
    (numberSetting_offers (by decide))).append
    (textSetting_offers (by decide) (.inl rfl))).append
    (textSetting_offers (by decide) (.inr rfl))).append
    (textSetting_offers (by decide) (.inl rfl))).append
    (checkboxInput_offers (by decide) _ (by decide))).append
    (Offers.literal (by decide +kernel))).of_eq ?_
  simp

theorem modbusFieldset_offers :
    Offers (modbusFieldset lib config)
      [numberField lib config "rtu_addr", numberListField lib config "baudrate" baudrateOptions,
        numberListField lib config "data_bits" dataBitsOptions,
        textListField lib config "parity" parityOptions,
        numberListField lib config "stop_bits" stopBitsOptions,
        numberField lib config "rs485_de_re_pin"] := by
  rw [modbusFieldset]
  refine ((((((((Offers.literal (by decide +kernel)).append
    (numberSetting_offers (by decide))).append
    (selectInput_offers (by decide) (by simp [baudrateOptions]) _ _)).append
    (selectInput_offers (by decide) (by simp [dataBitsOptions]) _ _)).append
    (selectInput_offers (by decide) (by simp [parityOptions]) _ _)).append
    (selectInput_offers (by decide) (by simp [stopBitsOptions]) _ _)).append
    (numberSetting_offers (by decide))).append
    (Offers.literal (by decide +kernel))).of_eq ?_
  simp [numberListField, textListField]

theorem inverterFieldset_offers (devices : List DirectoryEntry) :
    Offers (inverterFieldset lib config devices)
      ([textListField lib config "device_model" (deviceOptions lib devices)] ++
        checkField (ascii "read_storage_regs")
          (config.getBool (ascii "read_storage_regs") false) ++
        [numberField lib config "poll_interval_sec"]) := by
  have offered : deviceOptions lib devices ≠ [] := by simp [deviceOptions, supportedDevices]
  rw [inverterFieldset]
  refine (((((Offers.literal (by decide +kernel)).append
    (selectInput_offers (by decide) offered _ _)).append
    (checkboxInput_offers (by decide) _ (by decide))).append
    (numberSetting_offers (by decide))).append
    (Offers.literal (by decide +kernel))).of_eq ?_
  simp [textListField]

theorem systemFieldset_offers :
    Offers (systemFieldset lib config)
      [textListField lib config "log_level" logLevelOptions] := by
  rw [systemFieldset]
  refine ((((Offers.literal (by decide +kernel)).append
    (selectInput_offers (by decide) (by simp [logLevelOptions]) _ _)).append
    (Offers.literal (by decide +kernel))).append
    (Offers.literal (by decide +kernel))).of_eq ?_
  simp [textListField]

/-- A browser finds the fields of the form, whatever the settings are. -/
theorem generateConfigForm_offers (devices : List DirectoryEntry) (csrfToken : Bytes) :
    Offers (generateConfigForm lib config devices csrfToken)
      (formFields lib config devices csrfToken) := by
  rw [generateConfigForm]
  refine (((((((((Offers.literal (by decide +kernel)).append
    (csrfHiddenInput_offers csrfToken)).append wifiFieldset_offers).append
    mqttFieldset_offers).append modbusFieldset_offers).append
    (inverterFieldset_offers devices)).append systemFieldset_offers).append
    (Offers.literal (by decide +kernel))).append (Offers.literal (by decide +kernel))).of_eq ?_
  simp [formFields]

end WebUI

end ModbusBridge
