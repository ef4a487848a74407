import ModbusBridge.Library.Escapes
import ModbusBridge.Library.Markup
import ModbusBridge.WebUI.DeviceOptions

/-!
# Configuration values in pages

Pages put configuration values into attributes and texts. `escapeHtml` replaces the characters that
could end either, and a reader of the page gets the values back, whatever they are.
-/

namespace ModbusBridge

/-! ## Escaping -/

/-- The entities that `escapeHtml` emits. -/
def entities : Escapes UInt8 where
  table := [(38, ascii "&amp;"), (60, ascii "&lt;"), (62, ascii "&gt;"), (34, ascii "&quot;"),
    (39, ascii "&#39;")]
  mark := 38
  marked := by decide
  markedOnce := by decide
  covered := ⟨ascii "&amp;", by decide⟩
  prefixFree := by decide

theorem escapeHtml_eq (text : Bytes) : escapeHtml text = entities.escape text := by
  refine congrArg (List.flatMap · text) (funext fun char => ?_)
  simp only [Escapes.code, entities, List.lookup_cons, List.lookup_nil, beq_eq_decide]
  split_ifs <;> simp [*]

/-- The text with the characters of the entities. -/
def unescapeHtml (text : Bytes) : Bytes := entities.unescape text

theorem unescapeHtml_escapeHtml (text : Bytes) : unescapeHtml (escapeHtml text) = text := by
  rw [escapeHtml_eq]
  exact entities.unescape_escape text

/-- A character that no text holds any more. -/
theorem not_mem_escapeHtml {char : UInt8} (text : Bytes)
    (special : char ∈ [60, 62, 34, 39] := by decide) : char ∉ escapeHtml text := by
  rw [escapeHtml_eq]
  have coded : ∀ char ∈ [60, 62, 34, 39], char ∈ entities.table.map Prod.fst := by
    decide +kernel
  have absent : ∀ char ∈ [60, 62, 34, 39], ∀ pair ∈ entities.table, char ∉ pair.2 := by
    decide +kernel
  obtain ⟨⟨_, code⟩, listed, rfl⟩ := List.mem_map.mp (coded char special)
  exact Escapes.not_mem_escape ⟨code, listed⟩ (absent _ special) text

/-- Every ampersand starts an entity. -/
theorem exists_entity_of_ampersand {text front back : Bytes}
    (split : escapeHtml text = front ++ 38 :: back) :
    ∃ entity ∈ entities.table, entity.2 <+: 38 :: back := by
  rw [escapeHtml_eq] at split
  exact Escapes.exists_code_of_mark split

theorem safe_escapeHtml : Markup.Safe escapeHtml unescapeHtml where
  inverse := unescapeHtml_escapeHtml
  empty text empty := by
    have back := unescapeHtml_escapeHtml text
    rw [empty] at back
    exact back.symm
  apostrophe text := not_mem_escapeHtml text
  tag text := not_mem_escapeHtml text

/-! ## Fields of a form -/

open Markup (Token)

/-- `textInput`. -/
def textInput (name value label type : Bytes) : Bytes :=
  ascii "<div class='form-group'>" ++
    (ascii "<label for='" ++ escapeHtml name ++ ascii "'>" ++ escapeHtml label ++
      ascii ":</label>") ++
    (ascii "<input type='" ++ escapeHtml type ++ ascii "' name='" ++ escapeHtml name ++
      ascii "' id='" ++ escapeHtml name ++ ascii "' value='" ++ escapeHtml value ++ ascii "'>") ++
    ascii "</div>"

/-- What a browser reads of a text field. -/
def textInputTokens (name value label type : Bytes) : List Token :=
  [.opening (ascii "div") [(ascii "class", some (ascii "form-group"))],
    .opening (ascii "label") [(ascii "for", some name)],
    .text (label ++ ascii ":"),
    .closing (ascii "label"),
    .opening (ascii "input")
      [(ascii "type", some type), (ascii "name", some name), (ascii "id", some name),
        (ascii "value", some value)],
    .closing (ascii "div")]

theorem escapeHtml_append (front back : Bytes) :
    escapeHtml (front ++ back) = escapeHtml front ++ escapeHtml back :=
  List.flatMap_append

theorem textInput_eq (name value label type : Bytes) :
    textInput name value label type =
      (textInputTokens name value label type).flatMap (Markup.write escapeHtml) := by
  have colon : escapeHtml (ascii ":") = ascii ":" := by decide
  have group : escapeHtml (ascii "form-group") = ascii "form-group" := by decide
  simp only [textInput, textInputTokens, List.flatMap_cons, List.flatMap_nil, Markup.write,
    Markup.writeAttribute, escapeHtml_append, colon, group, List.append_assoc, List.cons_append,
    List.nil_append, List.append_nil]
  rfl

theorem textInputTokens_closed (name value label type : Bytes) :
    Markup.Closed (textInputTokens name value label type) where
  wellFormed := by
    have names : ∀ name ∈ [ascii "div", ascii "class", ascii "label", ascii "for", ascii "input",
        ascii "type", ascii "name", ascii "id", ascii "value"], Markup.Name name := by
      decide +kernel
    have colon : ascii ":" ≠ [] := by decide
    simp only [List.forall_mem_cons] at names
    simp only [textInputTokens, List.forall_mem_cons, Token.WellFormed]
    simp [names, colon]
  apart := by simp [textInputTokens, Token.Apart]
  last := by simp [textInputTokens, Token.Apart]

/-- A text field is read as what it was made of: no name, value, label or type ends early. -/
theorem read_textInput (name value label type : Bytes) :
    Markup.read unescapeHtml (textInput name value label type) =
      some (textInputTokens name value label type) := by
  have closed := textInputTokens_closed name value label type
  rw [textInput_eq]
  exact Markup.read_write safe_escapeHtml closed.wellFormed closed.apart

/-! ## Lists of options -/

/-- What a browser reads of an option. -/
def optionTokens (value current label : Bytes) : List Token :=
  .opening (ascii "option") ((ascii "value", some value) ::
      if value = current then [(ascii "selected", none)] else []) ::
    ((if label = [] then [] else [.text label]) ++ [.closing (ascii "option")])

theorem selectOption_eq (value current label : Bytes) :
    selectOption value current label =
      (optionTokens value current label).flatMap (Markup.write escapeHtml) := by
  rw [selectOption, optionTokens]
  have empty : escapeHtml [] = [] := rfl
  have ends : ascii ">" = [62] := rfl
  have opens : ascii "<option value='" =
      60 :: (ascii "option" ++ 32 :: (ascii "value" ++ [61, 39])) := rfl
  have closes : ascii "</option>" = 60 :: 47 :: (ascii "option" ++ [62]) := rfl
  have selected : ascii " selected" = 32 :: ascii "selected" := rfl
  have apostrophe : ascii "'" = [39] := rfl
  by_cases current : value = current <;> by_cases unlabelled : label = [] <;>
    simp [current, unlabelled, Markup.write, Markup.writeAttribute, empty, ends, opens, closes,
      selected, apostrophe]

theorem optionTokens_closed (value current label : Bytes) :
    Markup.Closed (optionTokens value current label) := by
  have names : Markup.Name (ascii "option") ∧ Markup.Name (ascii "value") ∧
      Markup.Name (ascii "selected") := by
    decide +kernel
  have pairs : ∀ pair ∈ (ascii "value", some value) ::
      (if value = current then [(ascii "selected", none)] else []), Markup.Name pair.1 := by
    rw [List.forall_mem_cons]
    refine ⟨names.2.1, ?_⟩
    split <;> simp [names]
  have opening : (Token.opening (ascii "option") ((ascii "value", some value) ::
      if value = current then [(ascii "selected", none)] else [])).WellFormed :=
    ⟨names.1, pairs⟩
  rw [optionTokens]
  by_cases unlabelled : label = []
  · exact ⟨List.forall_mem_cons.mpr ⟨opening, by simp [unlabelled, Token.WellFormed, names.1]⟩,
      by simp [unlabelled, Token.Apart], by simp [unlabelled, Token.Apart]⟩
  · exact ⟨List.forall_mem_cons.mpr ⟨opening, by simp [unlabelled, Token.WellFormed, names.1]⟩,
      by simp [unlabelled, Token.Apart], by simp [unlabelled, Token.Apart]⟩

/-- The list of device models is read as the options that it was made of, whatever the files call
themselves. -/
theorem read_generateDeviceOptions (lib : ArduinoJson) (devices : List DirectoryEntry)
    (current : Bytes) :
    Markup.read unescapeHtml (generateDeviceOptions lib devices current) =
      some ((deviceOptions lib devices).flatMap fun option =>
        optionTokens option.value current option.label) := by
  have closed : Markup.Closed ((deviceOptions lib devices).flatMap fun option =>
      optionTokens option.value current option.label) :=
    .flatMap fun option _ => optionTokens_closed option.value current option.label
  have written : generateDeviceOptions lib devices current =
      ((deviceOptions lib devices).flatMap fun option =>
        optionTokens option.value current option.label).flatMap (Markup.write escapeHtml) := by
    simp only [generateDeviceOptions, selectOption_eq, List.flatMap_assoc]
  rw [written]
  exact Markup.read_write safe_escapeHtml closed.wellFormed closed.apart

/-! ## Safe and lossless -/

/-- Escaping leaves no character that could end a tag or an attribute, and no ampersand that starts
anything but one of its entities. It is undone by replacing the entities, so that a browser reads
the value of a text field as it was. -/
theorem escapeHtml_lossless (text : Bytes) :
    (60 ∉ escapeHtml text ∧ 62 ∉ escapeHtml text ∧ 34 ∉ escapeHtml text ∧
      39 ∉ escapeHtml text) ∧
    (∀ front back, escapeHtml text = front ++ 38 :: back →
      ∃ entity ∈ [ascii "&amp;", ascii "&lt;", ascii "&gt;", ascii "&quot;", ascii "&#39;"],
        entity <+: 38 :: back) ∧
    unescapeHtml (escapeHtml text) = text ∧
    ∀ name label type, Markup.read unescapeHtml (textInput name text label type) =
      some [.opening (ascii "div") [(ascii "class", some (ascii "form-group"))],
        .opening (ascii "label") [(ascii "for", some name)],
        .text (label ++ ascii ":"),
        .closing (ascii "label"),
        .opening (ascii "input")
          [(ascii "type", some type), (ascii "name", some name), (ascii "id", some name),
            (ascii "value", some text)],
        .closing (ascii "div")] := by
  refine ⟨⟨?_, ?_, ?_, ?_⟩, ?_, unescapeHtml_escapeHtml text, fun name label type =>
    read_textInput name text label type⟩
  · exact not_mem_escapeHtml text
  · exact not_mem_escapeHtml text
  · exact not_mem_escapeHtml text
  · exact not_mem_escapeHtml text
  · intro front back split
    obtain ⟨entity, listed, starts⟩ := exists_entity_of_ampersand split
    exact ⟨entity.2, List.mem_map_of_mem listed, starts⟩

end ModbusBridge
