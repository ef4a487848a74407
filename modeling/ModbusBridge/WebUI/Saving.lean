import ModbusBridge.Configuration.Members
import ModbusBridge.WebUI.Csrf

/-!
# Saving the form

`handleSave` changes the configuration and the log level before it knows whether the result is
valid and can be written.
-/

namespace ModbusBridge

namespace WebUI

variable {σ : Type} {lib : ArduinoJson} {ui : WebUI σ} {request : HTTPRequest}
  {here : Surroundings}

/-! ## What the form assigns -/

/-- The assignment of one argument, if it is a field of the form. -/
def assignment (argument : Bytes × Bytes) : Option (Bytes × Json) :=
  if textFields.contains argument.1 then some (argument.1, .string argument.2)
  else if numberFields.contains argument.1 then some (argument.1, .integer (toInt argument.2))
  else if checkBoxes.contains argument.1 then some (argument.1, .boolean true)
  else none

/-- The assignments of a request, first to last. -/
def assignments (request : HTTPRequest) : List (Bytes × Json) :=
  request.args.filterMap assignment ++
    (checkBoxes.filter fun name => !request.hasArg name).map fun name => (name, .boolean false)

theorem applyArgument_eq (config : Config) (argument : Bytes × Bytes) :
    applyArgument config argument = config.setAll (assignment argument).toList := by
  rw [applyArgument, assignment]
  split_ifs <;> rfl

theorem foldl_applyArgument (config : Config) (args : List (Bytes × Bytes)) :
    args.foldl applyArgument config = config.setAll (args.filterMap assignment) := by
  induction args generalizing config with
  | nil => rfl
  | cons argument args induction =>
      rw [List.foldl_cons, induction, applyArgument_eq, ← Config.setAll_append,
        List.filterMap_cons]
      cases assignment argument <;> rfl

theorem foldl_uncheck (request : HTTPRequest) (config : Config) (names : List Bytes) :
    names.foldl (uncheck request) config =
      config.setAll ((names.filter fun name => !request.hasArg name).map
        fun name => (name, .boolean false)) := by
  induction names generalizing config with
  | nil => rfl
  | cons name names induction =>
      rw [List.foldl_cons, induction, uncheck, List.filter_cons]
      split
      · rfl
      · rfl

/-- The configuration after the form. -/
theorem applied_eq (config : Config) (request : HTTPRequest) :
    checkBoxes.foldl (uncheck request) (request.args.foldl applyArgument config) =
      config.setAll (assignments request) := by
  rw [foldl_applyArgument, foldl_uncheck, ← Config.setAll_append, assignments]

/-- The value that a key is to have: the last one that the form assigns, if there is one. -/
def wanted (ui : WebUI σ) (request : HTTPRequest) (key : Bytes) : Json :=
  if ui.config.document.Writable then
    ((assignments request).reverse.lookup key).getD (ui.config.document.member key)
  else ui.config.document.member key

theorem member_setAll (ui : WebUI σ) (request : HTTPRequest) (key : Bytes) :
    (ui.config.setAll (assignments request)).document.member key = ui.wanted request key := by
  rw [Config.setAll_eq, wanted]
  split
  next writable => exact Json.member_setMembers writable _ key
  next closed => exact congrArg (Json.member · key) (Json.setMembers_of_not_writable closed _)

/-- A configuration with the values that the keys are to have is valid. -/
def WantsValid (lib : ArduinoJson) (ui : WebUI σ) (request : HTTPRequest) : Prop :=
  ∃ config : Config, config.isLoaded = ui.config.isLoaded ∧
    (∀ key, config.document.member key = ui.wanted request key) ∧
      config.validate lib ui.fs = true

/-- The keys and the log level have the values already that they are to have. -/
structure Repeats (lib : ArduinoJson) (ui : WebUI σ) (request : HTTPRequest) : Prop where
  keys : ∀ key, ui.wanted request key = ui.config.document.member key
  level : ESPLogger.stringToLogLevel
    (ui.config.getString lib (ascii "log_level") (ascii "info")) = ui.logLevel

theorem wantsValid_iff : WantsValid lib ui request ↔
    (ui.config.setAll (assignments request)).validate lib ui.fs = true := by
  have loaded : (ui.config.setAll (assignments request)).isLoaded = ui.config.isLoaded := by
    rw [Config.setAll_eq]
  constructor
  · rintro ⟨config, same, members, valid⟩
    have values : Config.SameValues (ui.config.setAll (assignments request)) config :=
      ⟨loaded.trans same.symm, fun key => (ui.member_setAll request key).trans (members key).symm⟩
    exact (values.validate lib ui.fs).trans valid
  · exact fun valid => ⟨_, loaded, ui.member_setAll request, valid⟩

theorem save_eq_true_iff (nonempty : ∀ document, lib.serializeJsonPretty document ≠ [])
    (config : Config) (fs : LittleFS) (room : Room) :
    (config.save lib fs room).1 = true ↔
      config.validate lib fs = true ∧ ∃ bytes, room = some bytes ∧ 0 < bytes := by
  have long := List.length_pos_iff.mpr (nonempty config.document)
  unfold Config.save
  cases config.validate lib fs with
  | false => simp
  | true =>
      cases room with
      | none => simp
      | some bytes => simp [nonempty, Nat.pos_iff_ne_zero]

/-- What is left of a form that is not refused at once, and the answer. -/
theorem handleSave_accepted (lib : ArduinoJson) (here : Surroundings)
    (token : ui.validateCSRFToken request = true) (form : validateForm request = true) :
    let config := ui.config.setAll (assignments request)
    let saved := config.save lib ui.fs here.room
    ∃ message, ui.handleSave lib request here =
      ({ ui with
          config := config
          fs := saved.2
          logLevel := ESPLogger.stringToLogLevel
            (config.getString lib (ascii "log_level") (ascii "info")) },
        if saved.1 then ⟨.sendSuccessWithRedirect message, true⟩
        else ⟨.sendError (ascii "Failed to save configuration"), false⟩) := by
  rw [handleSave]
  simp only [token, form, applied_eq, Bool.not_true, Bool.false_eq_true, if_false]
  exact ⟨_, (apply_ite (Prod.mk _) _ _ _).symm⟩

/-- How a request with the token ends. -/
theorem handleSave_cases (lib : ArduinoJson) (here : Surroundings)
    (token : ui.validateCSRFToken request = true) :
    let config := ui.config.setAll (assignments request)
    let (after, reply) := ui.handleSave lib request here
    (validateForm request = false ∧ after = ui) ∨
      (validateForm request = true ∧
        if (config.save lib ui.fs here.room).1 = true then
          ∃ message, reply.response = .sendSuccessWithRedirect message
        else
          (∃ message, reply.response = .sendError message) ∧ after.config = config ∧
            after.logLevel = ESPLogger.stringToLogLevel
              (config.getString lib (ascii "log_level") (ascii "info"))) := by
  cases form : validateForm request with
  | false =>
      rw [handleSave]
      simp [token, form]
  | true =>
      obtain ⟨message, same⟩ := handleSave_accepted lib here token form
      rw [same]
      cases saved : ((ui.config.setAll (assignments request)).save lib ui.fs here.room).1 <;>
        simp [saved]

/-- A form that is accepted and written is answered with a success. -/
theorem handleSave_succeeds (token : ui.validateCSRFToken request = true)
    (form : validateForm request = true)
    (done : ((ui.config.setAll (assignments request)).save lib ui.fs here.room).1 = true) :
    ∃ message, (ui.handleSave lib request here).2.response = .sendSuccessWithRedirect message := by
  obtain ⟨refused, -⟩ | ⟨-, outcome⟩ := handleSave_cases lib here token
  · rw [form] at refused
    contradiction
  · rwa [if_pos done] at outcome

/-- A form that is saved. -/
theorem handleSave_saved
    (saved : ∃ message, (ui.handleSave lib request here).2.response =
      .sendSuccessWithRedirect message) :
    (ui.handleSave lib request here).1.config = ui.config.setAll (assignments request) ∧
      (ui.handleSave lib request here).1.fs =
        ((ui.config.setAll (assignments request)).save lib ui.fs here.room).2 ∧
      ((ui.config.setAll (assignments request)).save lib ui.fs here.room).1 = true := by
  cases token : ui.validateCSRFToken request with
  | false =>
      rw [handleSave] at saved
      simp [token] at saved
  | true =>
      cases form : validateForm request with
      | false =>
          rw [handleSave] at saved
          simp [token, form] at saved
      | true =>
          obtain ⟨message, same⟩ := handleSave_accepted lib here token form
          rw [same] at saved ⊢
          refine ⟨rfl, rfl, ?_⟩
          by_contra failed
          rw [if_neg failed] at saved
          simp at saved

/-- What is applied but not saved changes nothing, if and only if the form repeats what is there. -/
theorem kept_iff_repeats {after : WebUI σ}
    (config : after.config = ui.config.setAll (assignments request))
    (level : after.logLevel = ESPLogger.stringToLogLevel
      ((ui.config.setAll (assignments request)).getString lib (ascii "log_level") (ascii "info"))) :
    (∀ key, after.config.document.member key = ui.config.document.member key) ∧
      after.logLevel = ui.logLevel ↔ Repeats lib ui request := by
  have members : ∀ key, after.config.document.member key = ui.wanted request key := by
    rw [config]
    exact ui.member_setAll request
  have same_level (keys : ∀ key, ui.wanted request key = ui.config.document.member key) :
      after.logLevel = ESPLogger.stringToLogLevel
        (ui.config.getString lib (ascii "log_level") (ascii "info")) := by
    have values : Config.SameValues (ui.config.setAll (assignments request)) ui.config :=
      ⟨by rw [Config.setAll_eq], fun key => (ui.member_setAll request key).trans (keys key)⟩
    rw [level, values.getString]
  simp only [members]
  constructor
  · exact fun ⟨keys, kept⟩ => ⟨keys, (same_level keys).symm.trans kept⟩
  · exact fun ⟨keys, repeated⟩ => ⟨keys, (same_level keys).trans repeated⟩

/-- An answer with an error leaves the keys and the log level as they were, if and only if the form
is refused at once, or its values are valid and can be written, or it changes nothing. -/
theorem handleSave_atomic_iff (nonempty : ∀ document, lib.serializeJsonPretty document ≠ [])
    (token : ui.validateCSRFToken request = true) :
    let (after, reply) := ui.handleSave lib request here
    ((∃ message, reply.response = .sendError message) →
        (∀ key, after.config.document.member key = ui.config.document.member key) ∧
          after.logLevel = ui.logLevel) ↔
      validateForm request = false ∨
        (WantsValid lib ui request ∧ ∃ bytes, here.room = some bytes ∧ 0 < bytes) ∨
          Repeats lib ui request := by
  have cases := handleSave_cases lib here token
  rw [wantsValid_iff, ← save_eq_true_iff nonempty]
  generalize ui.handleSave lib request here = result at cases ⊢
  obtain ⟨after, reply⟩ := result
  obtain ⟨refused, same⟩ | ⟨form, outcome⟩ := cases
  · exact iff_of_true (fun _ => same ▸ ⟨fun _ => rfl, rfl⟩) (.inl refused)
  · split at outcome
    next saved =>
        obtain ⟨message, success⟩ := outcome
        exact iff_of_true (fun ⟨_, error⟩ => by rw [success] at error; contradiction)
          (.inr (.inl saved))
    next failed =>
        obtain ⟨error, config, level⟩ := outcome
        rw [or_iff_right (by rw [form]; decide), or_iff_right failed]
        exact (forall_prop_of_true error).trans (kept_iff_repeats config level)

/-- A form with the token of `sampleUI`. -/
def form (fields : List (Bytes × Bytes)) : HTTPRequest :=
  ⟨.post, ascii "/save", (ascii "_csrf", sampleUI.csrfToken) :: fields, []⟩

/-- A port that is refused. -/
theorem handleSave_atomic_port :
    let request := form [(ascii "rtu_addr", ascii "5"), (ascii "mqtt_port", ascii "0")]
    let (after, _) := sampleUI.handleSave (flatJson []) request ample
    (∀ key, after.config.document.member key = sampleUI.config.document.member key) ∧
      after.logLevel = sampleUI.logLevel := by
  intro request
  have refused : validateForm request = false := by decide +kernel
  have token : sampleUI.validateCSRFToken request = true := by decide +kernel
  have error : ∃ message, (sampleUI.handleSave (flatJson []) request ample).2.response =
      .sendError message := by
    rw [handleSave]
    exact ⟨ascii "Invalid MQTT port", by rw [token, refused]; rfl⟩
  exact (handleSave_atomic_iff (flatJson_nonempty []) token).mpr (.inl refused) error

/-- An address that is not valid stays in the running configuration, with another log level. -/
theorem handleSave_half_done :
    let request := form [(ascii "rtu_addr", ascii "300"), (ascii "log_level", ascii "debug")]
    let (after, reply) := sampleUI.handleSave (flatJson []) request ample
    sampleUI.validateCSRFToken request = true ∧
      (∃ message, reply.response = .sendError message) ∧
      after.config.getInt (flatJson []) (ascii "rtu_addr") 0 = 300 ∧ after.logLevel = .debug ∧
      ¬ ((∀ key, after.config.document.member key = sampleUI.config.document.member key) ∧
        after.logLevel = sampleUI.logLevel) := by
  intro request
  have token : sampleUI.validateCSRFToken request = true := by decide +kernel
  have accepted : validateForm request = true := by decide +kernel
  have applied : let config := sampleUI.config.setAll (assignments request)
      (config.save (flatJson []) sampleUI.fs ample.room).1 = false ∧
        config.getInt (flatJson []) (ascii "rtu_addr") 0 = 300 ∧
        ESPLogger.stringToLogLevel (config.getString (flatJson []) (ascii "log_level")
          (ascii "info")) = .debug := by decide +kernel
  obtain ⟨failed, address, debug⟩ := applied
  have cases := handleSave_cases (flatJson []) ample token
  generalize sampleUI.handleSave (flatJson []) request ample = result at cases ⊢
  obtain ⟨after, reply⟩ := result
  dsimp only at cases
  rw [accepted, failed] at cases
  obtain ⟨refused, -⟩ | ⟨-, error, config, level⟩ := cases
  · contradiction
  · rw [debug] at level
    have config : after.config = _ := config
    refine ⟨token, error, config ▸ address, level, fun kept => ?_⟩
    have same := level.symm.trans kept.2
    contradiction

end WebUI

end ModbusBridge
