import ModbusBridge.Numerals
import ModbusBridge.WebUI.ConfigForm
import ModbusBridge.WebUI.Saving

/-!
# The form comes back

A form that is sent as it was shown keeps the settings, if texts are on one line and each list
offers what is set.
-/

namespace ModbusBridge

open Markup (normalize)
open GenericModbusDevice (decimalInt)

/-! ## Numbers that come back -/

/-- An `int` is read back from its text. -/
theorem toInt_decimalInt {value : Int} (low : -2147483648 ≤ value) (high : value < 2147483648) :
    toInt (decimalInt value) = value := by
  have solid : (decimalInt value).takeWhile (· != 0) = decimalInt value := by
    rw [List.takeWhile_eq_self_iff]
    intro byte member
    rw [GenericModbusDevice.decimalInt] at member
    split_ifs at member
    · rcases List.mem_append.mp member with minus | digit
      · obtain rfl := List.mem_singleton.mp minus
        rfl
      · simpa using decimal_ne_zero digit
    · simpa using decimal_ne_zero member
  have read : scanNumeral 10 (decimalInt value) = some (decide (value < 0), value.natAbs, []) := by
    refine scanNumeral_eq_some_iff.mpr ?_
    by_cases negative : value < 0
    · refine ⟨ascii "-", decimal value.natAbs, ?_, ?_, denotes_decimal _⟩
      · rw [GenericModbusDevice.decimalInt, if_pos negative]
      · rw [decide_eq_true negative]
        exact ⟨[], [45], [], rfl, by simp, .minus, .none⟩
    · refine ⟨[], decimal value.natAbs, ?_, ?_, denotes_decimal _⟩
      · rw [GenericModbusDevice.decimalInt, if_neg negative]
        rfl
      · rw [decide_eq_false negative]
        exact lead_nil_iff.mpr rfl
  rw [toInt, solid, read]
  dsimp only
  by_cases negative : value < 0
  · rw [decide_eq_true negative, if_pos rfl]
    omega
  · rw [decide_eq_false negative, if_neg Bool.false_ne_true]
    omega

theorem toInt_range (text : Bytes) : -2147483648 ≤ toInt text ∧ toInt text < 2147483648 := by
  rw [toInt]
  split
  · decide
  · split_ifs <;> omega

theorem Config.getInt_range (lib : ArduinoJson) (config : Config) (key : Bytes) :
    -2147483648 ≤ config.getInt lib key 0 ∧ config.getInt lib key 0 < 2147483648 := by
  have range : ∀ value, -2147483648 ≤ Json.toInt value ∧ Json.toInt value < 2147483648 := by
    intro value
    rw [Json.toInt]
    split_ifs <;> omega
  rw [getInt]
  split
  · decide
  · cases config.document.member key with
    | boolean value => cases value <;> simp [Json.asInt]
    | integer value => exact range _
    | real mantissa scale => exact range _
    | string text => exact range _
    | _ => simp [Json.asInt]

/-! ## What the form assigns -/

theorem lookup_of_mem {β : Type*} {entries : List (Bytes × β)}
    (distinct : (entries.map Prod.fst).Nodup) {key : Bytes} {value : β}
    (listed : (key, value) ∈ entries) : entries.lookup key = some value := by
  obtain ⟨front, back, rfl⟩ := List.append_of_mem listed
  rw [List.map_append, List.map_cons, List.nodup_append] at distinct
  refine List.lookup_eq_some_iff.mpr ⟨front, back, rfl, fun entry member => ?_⟩
  simpa using (distinct.2.2 entry.1 (List.mem_map_of_mem member) key List.mem_cons_self).symm

namespace WebUI

variable {σ : Type} {lib : ArduinoJson} {ui : WebUI σ} {request : HTTPRequest}

theorem assignment_name {argument : Bytes × Bytes} {assigned : Bytes × Json}
    (assigns : assignment argument = some assigned) : assigned.1 = argument.1 := by
  rw [assignment] at assigns
  split_ifs at assigns <;> exact (Option.some.inj assigns) ▸ rfl

theorem assignments_distinct (distinct : (request.args.map Prod.fst).Nodup) :
    ((assignments request).map Prod.fst).Nodup := by
  have names : ∀ args : List (Bytes × Bytes),
      ((args.filterMap assignment).map Prod.fst).Sublist (args.map Prod.fst) := by
    intro args
    induction args with
    | nil => exact List.Sublist.refl _
    | cons argument args induction =>
        cases assigned : assignment argument with
        | none =>
            rw [List.filterMap_cons_none assigned]
            exact induction.cons _
        | some pair =>
            rw [List.filterMap_cons_some assigned, List.map_cons, List.map_cons,
              assignment_name assigned]
            exact induction.cons_cons _
  have boxes : checkBoxes.Nodup := by decide +kernel
  rw [assignments, List.map_append, List.map_map, List.nodup_append]
  refine ⟨(names request.args).nodup distinct, ?_, fun name assigned other unchecked => ?_⟩
  · exact (List.map_id _).symm ▸ boxes.filter _
  · rintro rfl
    obtain ⟨argument, listed, rfl⟩ := List.mem_map.mp ((names request.args).subset assigned)
    obtain ⟨box, missing, same⟩ := List.mem_map.mp unchecked
    have same : box = argument.1 := same
    have absent := (List.mem_filter.mp missing).2
    rw [same, HTTPRequest.hasArg] at absent
    have there := List.lookup_eq_none_iff.mp (by simpa using absent) argument listed
    simp at there

/-- A key gets what its only argument assigns. -/
theorem wanted_of_assigned (writable : ui.config.document.Writable)
    (distinct : (request.args.map Prod.fst).Nodup) {key : Bytes} {value : Json}
    (assigned : (key, value) ∈ assignments request) : ui.wanted request key = value := by
  have reversed : (((assignments request).reverse).map Prod.fst).Nodup := by
    rw [List.map_reverse]
    exact (List.reverse_perm _).nodup_iff.mpr (assignments_distinct distinct)
  rw [wanted, if_pos writable, lookup_of_mem reversed (List.mem_reverse.mpr assigned),
    Option.getD_some]

theorem wanted_of_unassigned {key : Bytes}
    (unassigned : key ∉ (assignments request).map Prod.fst) :
    ui.wanted request key = ui.config.document.member key := by
  have absent : (assignments request).reverse.lookup key = none := by
    rw [List.lookup_eq_none_iff]
    intro entry listed
    have other : key ≠ entry.1 := fun same =>
      unassigned (same ▸ List.mem_map_of_mem (List.mem_reverse.mp listed))
    simpa using other
  rw [wanted, absent]
  split_ifs <;> rfl

theorem mem_assignments {argument : Bytes × Bytes} {assigned : Bytes × Json}
    (listed : argument ∈ request.args) (assigns : assignment argument = some assigned) :
    assigned ∈ assignments request :=
  List.mem_append_left _ (List.mem_filterMap.mpr ⟨argument, listed, assigns⟩)

theorem text_assigned {key value : Bytes} (listed : (key, value) ∈ request.args)
    (text : key ∈ textFields) : (key, .string value) ∈ assignments request :=
  mem_assignments listed (if_pos (List.contains_iff_mem.mpr text))

theorem number_assigned {key value : Bytes} (listed : (key, value) ∈ request.args)
    (number : key ∈ numberFields) : (key, .integer (toInt value)) ∈ assignments request := by
  have apart : ∀ key ∈ numberFields, textFields.contains key = false := by decide +kernel
  refine mem_assignments listed ?_
  rw [assignment, apart key number, List.contains_iff_mem.mpr number]
  rfl

theorem box_assigned {key : Bytes} (box : key ∈ checkBoxes) :
    (key, .boolean (request.hasArg key)) ∈ assignments request := by
  have apart : ∀ key ∈ checkBoxes,
      textFields.contains key = false ∧ numberFields.contains key = false := by decide +kernel
  cases there : request.hasArg key with
  | true =>
      rw [HTTPRequest.hasArg] at there
      obtain ⟨value, found⟩ := Option.isSome_iff_exists.mp there
      obtain ⟨front, back, split, -⟩ := List.lookup_eq_some_iff.mp found
      have listed : (key, value) ∈ request.args := split ▸ by simp
      refine mem_assignments listed ?_
      rw [assignment, (apart key box).1, (apart key box).2, List.contains_iff_mem.mpr box]
      rfl
  | false =>
      exact List.mem_append_right _ (List.mem_map.mpr
        ⟨key, List.mem_filter.mpr ⟨box, by simp [there]⟩, rfl⟩)

/-! ## What the settings are afterwards -/

theorem getString_applied (loaded : ui.config.isLoaded = true)
    (writable : ui.config.document.Writable) (distinct : (request.args.map Prod.fst).Nodup)
    {key value : Bytes} (listed : (key, value) ∈ request.args) (text : key ∈ textFields) :
    (ui.config.setAll (assignments request)).getString lib key [] = value := by
  have member := (ui.member_setAll request key).trans
    (wanted_of_assigned writable distinct (text_assigned listed text))
  rw [Config.getString, member, Config.setAll_eq]
  simp [loaded, Json.isNull, Json.asString]

theorem getInt_applied (loaded : ui.config.isLoaded = true)
    (writable : ui.config.document.Writable) (distinct : (request.args.map Prod.fst).Nodup)
    {key value : Bytes} (listed : (key, value) ∈ request.args) (number : key ∈ numberFields) :
    (ui.config.setAll (assignments request)).getInt lib key 0 = toInt value := by
  have member := (ui.member_setAll request key).trans
    (wanted_of_assigned writable distinct (number_assigned listed number))
  obtain ⟨low, high⟩ := toInt_range value
  rw [Config.getInt, member, Config.setAll_eq]
  simp [loaded, Json.isNull, Json.asInt, Json.toInt, low, high]

theorem getBool_applied (loaded : ui.config.isLoaded = true)
    (writable : ui.config.document.Writable) (distinct : (request.args.map Prod.fst).Nodup)
    {key : Bytes} (box : key ∈ checkBoxes) :
    (ui.config.setAll (assignments request)).getBool key false = request.hasArg key := by
  have member := (ui.member_setAll request key).trans
    (wanted_of_assigned writable distinct (box_assigned box))
  rw [Config.getBool, member, Config.setAll_eq]
  simp [loaded, Json.isNull, Json.asBool]

/-- A key that is no field keeps its member. -/
theorem member_applied {key : Bytes} (noText : key ∉ textFields) (noNumber : key ∉ numberFields)
    (noBox : key ∉ checkBoxes) :
    (ui.config.setAll (assignments request)).document.member key =
      ui.config.document.member key := by
  rw [ui.member_setAll, wanted_of_unassigned]
  intro assigned
  rw [assignments, List.map_append, List.mem_append] at assigned
  rcases assigned with given | unchecked
  · obtain ⟨pair, listed, rfl⟩ := List.mem_map.mp given
    obtain ⟨argument, -, assigns⟩ := List.mem_filterMap.mp listed
    have name := assignment_name assigns
    rw [assignment, ← name] at assigns
    simp [noText, noNumber, noBox] at assigns
  · obtain ⟨pair, listed, rfl⟩ := List.mem_map.mp unchecked
    obtain ⟨box, missing, rfl⟩ := List.mem_map.mp listed
    exact noBox (List.mem_filter.mp missing).1

/-! ## The form as it was shown -/

/-- One digit of `%02x`. -/
def lowerHexDigit (value : UInt8) : UInt8 := if value < 10 then 48 + value else 87 + value

/-- `generateCSRFToken`, with what `esp_random` gives. -/
def generateCSRFToken (random : List UInt8) : Bytes :=
  random.flatMap fun byte => [lowerHexDigit (byte / 16), lowerHexDigit (byte % 16)]

theorem normalize_generateCSRFToken (random : List UInt8) :
    normalize (generateCSRFToken random) = generateCSRFToken random := by
  have digits : ∀ byte : UInt8, 10 ∉ [lowerHexDigit (byte / 16), lowerHexDigit (byte % 16)] ∧
      13 ∉ [lowerHexDigit (byte / 16), lowerHexDigit (byte % 16)] := by
    have all : ∀ n < 256, 10 ∉ [lowerHexDigit (.ofNat n / 16), lowerHexDigit (.ofNat n % 16)] ∧
        13 ∉ [lowerHexDigit (.ofNat n / 16), lowerHexDigit (.ofNat n % 16)] := by
      decide +kernel
    intro byte
    have byte_eq : UInt8.ofNat byte.toNat = byte := UInt8.ofNat_toNat
    exact byte_eq ▸ all byte.toNat byte.toNat_lt
  refine Markup.normalize_of_unbroken ⟨fun feed => ?_, fun back => ?_⟩
  · obtain ⟨byte, -, listed⟩ := List.mem_flatMap.mp feed
    exact (digits byte).1 listed
  · obtain ⟨byte, -, listed⟩ := List.mem_flatMap.mp back
    exact (digits byte).2 listed

/-- The request for a form that is sent as the page shows it. The page's script holds a form back
that names no network or no broker; the reading of bytes as UTF-8 is left out. -/
def echo (lib : ArduinoJson) (ui : WebUI σ) (devices : List DirectoryEntry) :
    Option HTTPRequest :=
  (browse (generateConfigForm lib ui.config devices ui.csrfToken)).map fun fields =>
    ⟨.post, ascii "/save", fields, []⟩

theorem echo_eq (devices : List DirectoryEntry) : echo lib ui devices =
    some ⟨.post, ascii "/save", formFields lib ui.config devices ui.csrfToken, []⟩ := by
  rw [echo, (generateConfigForm_offers devices ui.csrfToken).browse]
  rfl

variable {config : Config} {devices : List DirectoryEntry} {csrfToken : Bytes}

theorem checkField_names (name : Bytes) (checked : Bool) :
    ((checkField name checked).map Prod.fst).Sublist [name] := by
  cases checked <;> simp [checkField]

theorem formFields_distinct :
    ((formFields lib config devices csrfToken).map Prod.fst).Nodup := by
  let names := [ascii "_csrf"] ++
    [ascii "wifi_ssid", ascii "wifi_password", ascii "hostname"] ++ [ascii "ap_enabled"] ++
    [ascii "ap_ssid", ascii "ap_password", ascii "mqtt_broker", ascii "mqtt_port",
      ascii "mqtt_username", ascii "mqtt_password", ascii "mqtt_topic_prefix"] ++
    [ascii "retain"] ++
    [ascii "rtu_addr", ascii "baudrate", ascii "data_bits", ascii "parity", ascii "stop_bits",
      ascii "rs485_de_re_pin", ascii "device_model"] ++ [ascii "read_storage_regs"] ++
    [ascii "poll_interval_sec", ascii "log_level"]
  have distinct : names.Nodup := by decide +kernel
  refine List.Sublist.nodup ?_ distinct
  simp only [formFields, List.map_append]
  exact (((((((List.Sublist.refl _).append (List.Sublist.refl _)).append
    (checkField_names _ _)).append (List.Sublist.refl _)).append
    (checkField_names _ _)).append (List.Sublist.refl _)).append
    (checkField_names _ _)).append (List.Sublist.refl _)

/-- The texts that are typed. -/
def freeTexts : List Bytes :=
  [ascii "wifi_ssid", ascii "wifi_password", ascii "ap_ssid", ascii "ap_password",
    ascii "hostname", ascii "mqtt_broker", ascii "mqtt_username", ascii "mqtt_password",
    ascii "mqtt_topic_prefix"]

/-- The numbers that are typed. -/
def freeNumbers : List Bytes :=
  [ascii "mqtt_port", ascii "rtu_addr", ascii "rs485_de_re_pin", ascii "poll_interval_sec"]

/-- The texts that are taken from a list. -/
def textLists (lib : ArduinoJson) (devices : List DirectoryEntry) :
    List (Bytes × List DeviceOption) :=
  [(ascii "parity", parityOptions), (ascii "device_model", deviceOptions lib devices),
    (ascii "log_level", logLevelOptions)]

/-- The numbers that are taken from a list. -/
def numberLists : List (Bytes × List DeviceOption) :=
  [(ascii "baudrate", baudrateOptions), (ascii "data_bits", dataBitsOptions),
    (ascii "stop_bits", stopBitsOptions)]

theorem freeTexts_listed : ∀ key ∈ freeTexts,
    (key, unbroken (config.getString lib key [])) ∈ formFields lib config devices csrfToken := by
  simp [freeTexts, formFields, textField]

theorem freeNumbers_listed : ∀ key ∈ freeNumbers,
    (key, decimalInt (config.getInt lib key 0)) ∈ formFields lib config devices csrfToken := by
  simp [freeNumbers, formFields, numberField]

theorem textLists_listed : ∀ list ∈ textLists lib devices,
    (list.1, normalize (listValue list.2 (config.getString lib list.1 []))) ∈
      formFields lib config devices csrfToken := by
  simp [textLists, formFields, textListField]

theorem numberLists_listed : ∀ list ∈ numberLists,
    (list.1, normalize (listValue list.2 (decimalInt (config.getInt lib list.1 0)))) ∈
      formFields lib config devices csrfToken := by
  simp [numberLists, formFields, numberListField]

theorem hasArg_iff {key : Bytes} :
    request.hasArg key = true ↔ key ∈ request.args.map Prod.fst := by
  rw [HTTPRequest.hasArg, ← not_iff_not, Bool.not_eq_true, Option.isSome_eq_false_iff,
    Option.isNone_iff_eq_none, List.lookup_eq_none_iff]
  simp only [bne_iff_ne, List.mem_map, not_exists, not_and]
  exact forall_congr' fun pair => imp_congr_right fun _ => ne_comm

/-- A check box is submitted if it is set. -/
theorem checkBoxes_submitted : ∀ key ∈ checkBoxes,
    (key ∈ (formFields lib config devices csrfToken).map Prod.fst ↔
      config.getBool key false = true) := by
  simp only [checkBoxes, List.forall_mem_cons, List.not_mem_nil, false_imp_iff, implies_true,
    and_true]
  refine ⟨?_, ?_, ?_⟩
  · cases set : config.getBool (ascii "ap_enabled") false <;>
      simp +decide [formFields, textField, numberField, textListField, numberListField,
        checkField, set]
  · cases set : config.getBool (ascii "retain") false <;>
      simp +decide [formFields, textField, numberField, textListField, numberListField,
        checkField, set]
  · cases set : config.getBool (ascii "read_storage_regs") false <;>
      simp +decide [formFields, textField, numberField, textListField, numberListField,
        checkField, set]

/-! ## Fields that give a setting back -/

theorem unbroken_eq_iff (text : Bytes) : unbroken text = text ↔ 10 ∉ text ∧ 13 ∉ text := by
  rw [unbroken, List.filter_eq_self]
  simp only [Bool.and_eq_true, bne_iff_ne]
  constructor
  · exact fun all => ⟨fun feed => (all 10 feed).1 rfl, fun back => (all 13 back).2 rfl⟩
  · rintro ⟨noFeed, noReturn⟩ byte member
    exact ⟨ne_of_mem_of_not_mem member noFeed, ne_of_mem_of_not_mem member noReturn⟩

/-- An option of the list whose line breaks a browser leaves as they are. -/
def Offered (options : List DeviceOption) (current : Bytes) : Prop :=
  current ∈ options.map DeviceOption.value ∧ normalize current = current

instance (options : List DeviceOption) (current : Bytes) : Decidable (Offered options current) :=
  inferInstanceAs (Decidable (_ ∧ _))

theorem listValue_eq_iff {options : List DeviceOption} (current : Bytes)
    (head : ∃ value ∈ (options.map DeviceOption.value).head?, normalize value = value) :
    normalize (listValue options current) = current ↔ Offered options current := by
  obtain ⟨value, first, clean⟩ := head
  rw [Offered, listValue_eq]
  split_ifs with offered
  · exact (and_iff_right offered).symm
  · have headed : (options.map DeviceOption.value).headD [] = value := by
      rw [List.headD_eq_head?_getD, first]
      rfl
    rw [headed, clean]
    refine iff_of_false ?_ fun both => offered both.1
    rintro rfl
    exact offered (List.mem_of_mem_head? first)

theorem numberListValue_eq_iff {options : List DeviceOption} {value : Int}
    (low : -2147483648 ≤ value) (high : value < 2147483648)
    (head : ∃ first ∈ (options.map DeviceOption.value).head?,
      normalize first = first ∧ decimalInt (toInt first) = first) :
    toInt (normalize (listValue options (decimalInt value))) = value ↔
      decimalInt value ∈ options.map DeviceOption.value := by
  obtain ⟨first, there, clean, back⟩ := head
  have single : normalize (decimalInt value) = decimalInt value := by
    rw [← (decimalInt_number value).2, normalize_unbroken]
  rw [listValue_eq]
  split_ifs with offered
  · rw [single]
    exact iff_of_true (toInt_decimalInt low high) offered
  · have headed : (options.map DeviceOption.value).headD [] = first := by
      rw [List.headD_eq_head?_getD, there]
      rfl
    rw [headed, clean]
    refine iff_of_false ?_ offered
    rintro rfl
    rw [back] at offered
    exact offered (List.mem_of_mem_head? there)

/-- The settings read the same. -/
structure SameSettings (lib : ArduinoJson) (after before : Config) : Prop where
  texts : ∀ key ∈ textFields, after.getString lib key [] = before.getString lib key []
  numbers : ∀ key ∈ numberFields, after.getInt lib key 0 = before.getInt lib key 0
  boxes : ∀ key ∈ checkBoxes, after.getBool key false = before.getBool key false
  others : ∀ key, key ∉ textFields → key ∉ numberFields → key ∉ checkBoxes →
    after.document.member key = before.document.member key

/-- The form can show what is set: texts are on one line, and each list offers its value. -/
structure Showable (lib : ArduinoJson) (config : Config) (devices : List DirectoryEntry) :
    Prop where
  texts : ∀ key ∈ freeTexts,
    10 ∉ config.getString lib key [] ∧ 13 ∉ config.getString lib key []
  textLists : ∀ list ∈ textLists lib devices,
    Offered list.2 (config.getString lib list.1 [])
  numberLists : ∀ list ∈ numberLists,
    decimalInt (config.getInt lib list.1 0) ∈ list.2.map DeviceOption.value

theorem textFields_iff {holds : Bytes → Prop} : (∀ key ∈ textFields, holds key) ↔
    (∀ key ∈ freeTexts, holds key) ∧ ∀ list ∈ textLists lib devices, holds list.1 := by
  simp [textFields, freeTexts, textLists, and_assoc]

theorem numberFields_iff {holds : Bytes → Prop} : (∀ key ∈ numberFields, holds key) ↔
    (∀ key ∈ freeNumbers, holds key) ∧ ∀ list ∈ numberLists, holds list.1 := by
  simp only [numberFields, freeNumbers, numberLists, List.forall_mem_cons, List.not_mem_nil,
    false_imp_iff, implies_true, and_true]
  constructor
  · exact fun ⟨port, address, rate, data, stop, pin, interval⟩ =>
      ⟨⟨port, address, pin, interval⟩, rate, data, stop⟩
  · exact fun ⟨⟨port, address, pin, interval⟩, rate, data, stop⟩ =>
      ⟨port, address, rate, data, stop, pin, interval⟩

/-- The fields of the form read the same. -/
structure SameFields (lib : ArduinoJson) (after before : Config) : Prop where
  texts : ∀ key ∈ textFields, after.getString lib key [] = before.getString lib key []
  numbers : ∀ key ∈ numberFields, after.getInt lib key 0 = before.getInt lib key 0
  boxes : ∀ key ∈ checkBoxes, after.getBool key false = before.getBool key false

/-- The request for a form that shows some settings. -/
def filled (lib : ArduinoJson) (shown : Config) (devices : List DirectoryEntry)
    (csrfToken : Bytes) : HTTPRequest :=
  ⟨.post, ascii "/save", formFields lib shown devices csrfToken, []⟩

/-- The settings after a form that is accepted as it was filled in. -/
theorem filled_same_iff (loaded : ui.config.isLoaded = true)
    (writable : ui.config.document.Writable) (shown : Config) (devices : List DirectoryEntry)
    (csrfToken : Bytes) :
    SameFields lib (ui.config.setAll (assignments (filled lib shown devices csrfToken))) shown ↔
      Showable lib shown devices := by
  have distinct : ((filled lib shown devices csrfToken).args.map Prod.fst).Nodup :=
    formFields_distinct
  obtain ⟨freeText, listText⟩ := (@textFields_iff lib devices (· ∈ textFields)).mp fun _ => id
  obtain ⟨freeNumber, listNumber⟩ :=
    (@numberFields_iff (· ∈ numberFields)).mp fun _ => id
  let after := ui.config.setAll (assignments (filled lib shown devices csrfToken))
  have texts : ∀ key ∈ freeTexts,
      (after.getString lib key [] = shown.getString lib key [] ↔
        10 ∉ shown.getString lib key [] ∧ 13 ∉ shown.getString lib key []) := by
    intro key listed
    rw [getString_applied loaded writable distinct (freeTexts_listed key listed)
      (freeText key listed), unbroken_eq_iff]
  have chosen : ∀ list ∈ textLists lib devices,
      (after.getString lib list.1 [] = shown.getString lib list.1 [] ↔
        Offered list.2 (shown.getString lib list.1 [])) := by
    intro list listed
    have head : ∃ value ∈ (list.2.map DeviceOption.value).head?, normalize value = value := by
      have heads : ∀ list ∈ textLists lib devices, ∃ value ∈ [ascii "N", solplanetASWModel,
          ascii "error"], (list.2.map DeviceOption.value).head? = some value := by
        simp [textLists, parityOptions, logLevelOptions, deviceOptions, supportedDevices]
      have clean : ∀ value ∈ [ascii "N", solplanetASWModel, ascii "error"],
          normalize value = value := by decide +kernel
      obtain ⟨value, known, first⟩ := heads list listed
      exact ⟨value, first, clean value known⟩
    rw [getString_applied loaded writable distinct (textLists_listed list listed)
      (listText list listed), listValue_eq_iff _ head]
  have numbers : ∀ key ∈ freeNumbers,
      after.getInt lib key 0 = shown.getInt lib key 0 := by
    intro key listed
    obtain ⟨low, high⟩ := shown.getInt_range lib key
    rw [getInt_applied loaded writable distinct (freeNumbers_listed key listed)
      (freeNumber key listed), toInt_decimalInt low high]
  have picked : ∀ list ∈ numberLists,
      (after.getInt lib list.1 0 = shown.getInt lib list.1 0 ↔
        decimalInt (shown.getInt lib list.1 0) ∈ list.2.map DeviceOption.value) := by
    intro list listed
    obtain ⟨low, high⟩ := shown.getInt_range lib list.1
    have heads : ∀ list ∈ numberLists, ∃ first ∈ (list.2.map DeviceOption.value).head?,
        normalize first = first ∧ decimalInt (toInt first) = first := by
      have known : ∀ first ∈ [ascii "9600", ascii "7", ascii "1"],
          normalize first = first ∧ decimalInt (toInt first) = first := by decide +kernel
      simpa [numberLists, baudrateOptions, dataBitsOptions, stopBitsOptions] using known
    rw [getInt_applied loaded writable distinct (numberLists_listed list listed)
      (listNumber list listed), numberListValue_eq_iff low high (heads list listed)]
  constructor
  · intro same
    obtain ⟨freeSame, listSame⟩ := textFields_iff.mp same.texts
    exact ⟨fun key listed => (texts key listed).mp (freeSame key listed),
      fun list listed => (chosen list listed).mp (listSame list listed),
      fun list listed => (picked list listed).mp ((numberFields_iff.mp same.numbers).2 list listed)⟩
  · intro showable
    refine ⟨textFields_iff.mpr
      ⟨fun key listed => (texts key listed).mpr (showable.texts key listed),
      fun list listed => (chosen list listed).mpr (showable.textLists list listed)⟩,
      numberFields_iff.mpr ⟨numbers,
        fun list listed => (picked list listed).mpr (showable.numberLists list listed)⟩,
      fun key box => ?_⟩
    rw [getBool_applied loaded writable distinct box, Bool.eq_iff_iff, hasArg_iff]
    exact checkBoxes_submitted key box

/-- The settings after a form that is accepted as it was shown. -/
theorem applied_same_iff (loaded : ui.config.isLoaded = true)
    (writable : ui.config.document.Writable) (devices : List DirectoryEntry) :
    SameSettings lib (ui.config.setAll (assignments
        (filled lib ui.config devices ui.csrfToken))) ui.config ↔
      Showable lib ui.config devices := by
  rw [← filled_same_iff loaded writable ui.config devices ui.csrfToken]
  exact ⟨fun same => ⟨same.texts, same.numbers, same.boxes⟩, fun same =>
    ⟨same.texts, same.numbers, same.boxes,
      fun key noText noNumber noBox => member_applied noText noNumber noBox⟩⟩

/-- A form that is sent as the page shows it keeps all settings, exactly if it is refused for its
port or could show what is set. -/
theorem echo_keeps_iff (loaded : ui.config.isLoaded = true)
    (writable : ui.config.document.Writable) {random : List UInt8} (some_bytes : random ≠ [])
    (token : ui.csrfToken = generateCSRFToken random) (devices : List DirectoryEntry)
    (here : Surroundings) :
    ∃ request, echo lib ui devices = some request ∧
      (SameSettings lib (ui.handleSave lib request here).1.config ui.config ↔
        (ui.config.getInt lib (ascii "mqtt_port") 0 < 1 ∨
            65535 < ui.config.getInt lib (ascii "mqtt_port") 0) ∨
          Showable lib ui.config devices) := by
  refine ⟨_, echo_eq devices, ?_⟩
  have same := @applied_same_iff σ lib ui loaded writable devices
  rw [filled] at same
  have distinct := @formFields_distinct lib ui.config devices ui.csrfToken
  have listed := @freeNumbers_listed lib ui.config devices ui.csrfToken (ascii "mqtt_port")
    (by decide)
  have shown : (formFields lib ui.config devices ui.csrfToken).lookup (ascii "_csrf") =
      some (normalize ui.csrfToken) := rfl
  generalize formFields lib ui.config devices ui.csrfToken = fields at *
  have port : (⟨.post, ascii "/save", fields, []⟩ : HTTPRequest).arg (ascii "mqtt_port") =
      decimalInt (ui.config.getInt lib (ascii "mqtt_port") 0) := by
    rw [HTTPRequest.arg, lookup_of_mem distinct listed, Option.getD_some]
  have there : (⟨.post, ascii "/save", fields, []⟩ : HTTPRequest).hasArg (ascii "mqtt_port") =
      true := by
    rw [HTTPRequest.hasArg, lookup_of_mem distinct listed, Option.isSome_some]
  have carried : ui.validateCSRFToken ⟨.post, ascii "/save", fields, []⟩ = true := by
    have nonempty : ui.csrfToken ≠ [] := by
      obtain ⟨byte, others, rfl⟩ := List.exists_cons_of_ne_nil some_bytes
      rw [token]
      simp [generateCSRFToken]
    rw [validateCSRFToken, if_neg nonempty, HTTPRequest.hasArg, HTTPRequest.arg, shown, token,
      normalize_generateCSRFToken]
    simp
  obtain ⟨low, high⟩ := ui.config.getInt_range lib (ascii "mqtt_port")
  have form : validateForm ⟨.post, ascii "/save", fields, []⟩ = true ↔
      ¬ (ui.config.getInt lib (ascii "mqtt_port") 0 < 1 ∨
        65535 < ui.config.getInt lib (ascii "mqtt_port") 0) := by
    rw [validateForm, if_pos there, port, toInt_decimalInt low high]
    simp
  by_cases refused : ui.config.getInt lib (ascii "mqtt_port") 0 < 1 ∨
      65535 < ui.config.getInt lib (ascii "mqtt_port") 0
  · have stopped : validateForm ⟨.post, ascii "/save", fields, []⟩ = false := by
      rw [← Bool.not_eq_true, form, not_not]
      exact refused
    rw [handleSave, carried, stopped]
    exact iff_of_true ⟨fun _ _ => rfl, fun _ _ => rfl, fun _ _ => rfl, fun _ _ _ _ => rfl⟩
      (.inl refused)
  · obtain ⟨message, saved⟩ := handleSave_accepted lib here carried (form.mpr refused)
    rw [saved, or_iff_right refused]
    exact same

/-- A device that joins a network whose name needs escapes. -/
def joined : WebUI Image where
  config := Config.initial.set (ascii "wifi_ssid") (.string (ascii "Tom's \"Garden\" & <Yard>"))
  fs := sampleUI.fs
  csrfToken := generateCSRFToken [0x5A]
  logLevel := .info
  update := sampleUI.update

/-- Its settings come back. -/
theorem echo_keeps_joined :
    ∃ request, echo (flatJson []) joined [] = some request ∧
      SameSettings (flatJson []) (joined.handleSave (flatJson []) request ample).1.config
        joined.config := by
  obtain ⟨request, shown, keeps⟩ := @echo_keeps_iff _ (flatJson []) joined rfl trivial _
    (List.cons_ne_nil 0x5A []) rfl [] ample
  refine ⟨request, shown, keeps.mpr (.inr ⟨?_, ?_, ?_⟩)⟩
  · decide +kernel
  · decide +kernel
  · decide +kernel

end WebUI

end ModbusBridge
