import ModbusBridge.Library.Markup

/-!
# Forms

What a browser submits of the form that it has read: the fields in the order of the markup. A text
loses its line breaks, a check box counts if it is checked, and a list gives the option that is
selected, or else its first. Texts are bytes and are sent as they stand: a browser decodes them as
UTF-8, which changes those that are no UTF-8.
-/

namespace Markup

/-! ## Attributes -/

/-- The bytes of a word of the language. -/
def word (text : String) : List UInt8 := text.toList.map fun char => .ofNat char.toNat

section

variable (name : String) (attributes : List (List UInt8 × Option (List UInt8)))

/-- The attribute is there, with a value or without. -/
def hasAttribute : Bool := (attributes.lookup (word name)).isSome

/-- The value of an attribute, empty if there is none. -/
def attributeOf : List UInt8 := (attributes.lookup (word name)).join.getD []

end

/-! ## Values -/

def isDigit (byte : UInt8) : Bool := 48 ≤ byte && byte ≤ 57

/-- A sign, if any, and digits up to the end. -/
def isExponent (text : List UInt8) : Bool :=
  let digits := if text.head? = some 43 ∨ text.head? = some 45 then text.tail else text
  digits ≠ [] && digits.all isDigit

/-- A floating-point number: no field for numbers takes anything else. -/
def isNumber (text : List UInt8) : Bool :=
  let unsigned := if text.head? = some 45 then text.tail else text
  let whole := unsigned.dropWhile isDigit
  let point := whole.head? = some 46
  let rest := if point then whole.tail.dropWhile isDigit else whole
  let digits := if point then rest.length < whole.tail.length else rest.length < unsigned.length
  let exponent := rest = [] ∨
    ((rest.head? = some 101 ∨ rest.head? = some 69) ∧ isExponent rest.tail = true)
  decide (digits ∧ exponent)

/-- What a field of a type makes of a value. -/
def sanitize (type value : List UInt8) : List UInt8 :=
  if type = word "hidden" then value
  else if type = word "number" then if isNumber value then value else []
  else value.filter fun byte => byte != 10 && byte != 13

/-- Line breaks as they are submitted: a carriage return and a line feed each. -/
def normalize : List UInt8 → List UInt8
  | [] => []
  | 13 :: 10 :: rest => 13 :: 10 :: normalize rest
  | byte :: rest =>
      if byte = 13 ∨ byte = 10 then 13 :: 10 :: normalize rest else byte :: normalize rest

theorem normalize_of_unbroken {value : List UInt8} (unbroken : 10 ∉ value ∧ 13 ∉ value) :
    normalize value = value := by
  induction value with
  | nil => rfl
  | cons byte value induction =>
      obtain ⟨noFeed, noReturn⟩ := unbroken
      rw [List.mem_cons, not_or] at noFeed noReturn
      have plain : ¬ (byte = 13 ∨ byte = 10) :=
        not_or.mpr ⟨Ne.symm noReturn.1, Ne.symm noFeed.1⟩
      rw [normalize, if_neg plain, induction ⟨noFeed.2, noReturn.2⟩]
      exact fun rest same => absurd same (Ne.symm noReturn.1)

/-! ## The browser -/

/-- The list that is being read: its first option, and the last one that is selected. -/
structure Choice where
  name : List UInt8
  first : Option (List UInt8)
  selected : Option (List UInt8)

namespace Choice

/-- Another option. -/
def offer (choice : Choice) (value : List UInt8) (selected : Bool) : Choice :=
  { choice with
    first := choice.first.or (some value)
    selected := if selected then some value else choice.selected }

/-- The option that the list gives. -/
def chosen (choice : Choice) : Option (List UInt8) := choice.selected.or choice.first

end Choice

/-- A browser while it reads a form. -/
structure Browser where
  choice : Option Choice
  fields : List (List UInt8 × List UInt8)

namespace Browser

/-- A field that is submitted, if it has a name. -/
def add (browser : Browser) (name value : List UInt8) : Browser :=
  if name = [] then browser
  else { browser with fields := browser.fields ++ [(name, normalize value)] }

/-- A field of one of the types. -/
def input (browser : Browser) (attributes : List (List UInt8 × Option (List UInt8))) : Browser :=
  let type := attributeOf "type" attributes
  let name := attributeOf "name" attributes
  if type = word "checkbox" then
    if hasAttribute "checked" attributes then
      browser.add name
        (if hasAttribute "value" attributes then attributeOf "value" attributes else word "on")
    else browser
  else browser.add name (sanitize type (attributeOf "value" attributes))

variable {browser : Browser} {attributes : List (List UInt8 × Option (List UInt8))}
  {name : List UInt8}

theorem add_named (named : name ≠ []) (value : List UInt8) :
    browser.add name value =
      { browser with fields := browser.fields ++ [(name, normalize value)] } :=
  if_neg named

theorem input_value (noBox : attributeOf "type" attributes ≠ word "checkbox") :
    browser.input attributes = browser.add (attributeOf "name" attributes)
      (sanitize (attributeOf "type" attributes) (attributeOf "value" attributes)) :=
  if_neg noBox

theorem input_checked (box : attributeOf "type" attributes = word "checkbox")
    (on : hasAttribute "checked" attributes = true)
    (plain : hasAttribute "value" attributes = false) :
    browser.input attributes = browser.add (attributeOf "name" attributes) (word "on") := by
  simp [input, box, on, plain]

/-- The start of a list. -/
def select (browser : Browser) (attributes : List (List UInt8 × Option (List UInt8))) : Browser :=
  { browser with choice := some ⟨attributeOf "name" attributes, none, none⟩ }

/-- An option of the list that is being read. -/
def option (browser : Browser) (attributes : List (List UInt8 × Option (List UInt8))) : Browser :=
  { browser with
    choice := browser.choice.map fun choice =>
      choice.offer (attributeOf "value" attributes) (hasAttribute "selected" attributes) }

/-- The end of a list. One without options gives nothing. -/
def leave (browser : Browser) : Browser :=
  match browser.choice with
  | none => browser
  | some choice =>
      match choice.chosen with
      | none => { browser with choice := none }
      | some value => { browser with choice := none }.add choice.name value

def visit (browser : Browser) : Token → Browser
  | .opening tag attributes =>
      if tag = word "input" then browser.input attributes
      else if tag = word "select" then browser.select attributes
      else if tag = word "option" then browser.option attributes
      else browser
  | .closing tag => if tag = word "select" then browser.leave else browser
  | .text _ => browser

end Browser

/-- The fields of the form that consists of these tokens. -/
def submission (tokens : List Token) : List (List UInt8 × List UInt8) :=
  (tokens.foldl Browser.visit ⟨none, []⟩).fields

/-! ## Parts of a form -/

/-- Outside of a list, the tokens add these fields. -/
def Submits (tokens : List Token) (fields : List (List UInt8 × List UInt8)) : Prop :=
  ∀ before, tokens.foldl Browser.visit ⟨none, before⟩ = ⟨none, before ++ fields⟩

variable {tokens early late : List Token} {fields first second : List (List UInt8 × List UInt8)}

theorem Submits.submission (submits : Submits tokens fields) : submission tokens = fields := by
  rw [Markup.submission, submits]
  rfl

theorem Submits.append (front : Submits early first) (back : Submits late second) :
    Submits (early ++ late) (first ++ second) := by
  intro before
  rw [List.foldl_append, front, back, List.append_assoc]

/-- A token that is neither a field nor part of a list. -/
def Token.Idle : Token → Prop
  | .opening tag _ => tag ≠ word "input" ∧ tag ≠ word "select" ∧ tag ≠ word "option"
  | .closing tag => tag ≠ word "select"
  | .text _ => True

instance : DecidablePred Token.Idle
  | .opening tag _ =>
      inferInstanceAs (Decidable (tag ≠ word "input" ∧ tag ≠ word "select" ∧ tag ≠ word "option"))
  | .closing tag => inferInstanceAs (Decidable (tag ≠ word "select"))
  | .text _ => inferInstanceAs (Decidable True)

theorem Token.Idle.visit {token : Token} (idle : token.Idle) (browser : Browser) :
    browser.visit token = browser := by
  cases token with
  | opening tag attributes =>
      rw [Browser.visit, if_neg idle.1, if_neg idle.2.1, if_neg idle.2.2]
  | closing tag => rw [Browser.visit, if_neg idle]
  | text content => rfl

theorem Submits.idle (idle : ∀ token ∈ tokens, token.Idle) : Submits tokens [] := by
  intro before
  rw [List.append_nil]
  induction tokens with
  | nil => rfl
  | cons token tokens induction =>
      rw [List.foldl_cons, (idle token List.mem_cons_self).visit]
      exact induction fun other listed => idle other (List.mem_cons_of_mem _ listed)

/-! ## Lists -/

/-- The options of a list, each with its value and whether it is selected. -/
def Choice.offerAll (choice : Choice) (options : List (List UInt8 × Bool)) : Choice :=
  options.foldl (fun choice option => choice.offer option.1 option.2) choice

theorem Choice.offerAll_name (choice : Choice) (options : List (List UInt8 × Bool)) :
    (choice.offerAll options).name = choice.name := by
  induction options generalizing choice with
  | nil => rfl
  | cons option options induction => exact induction _

theorem Choice.offerAll_first (choice : Choice) (options : List (List UInt8 × Bool)) :
    (choice.offerAll options).first = choice.first.or (options.head?.map Prod.fst) := by
  induction options generalizing choice with
  | nil => simp [offerAll]
  | cons option options induction =>
      have later : (choice.offerAll (option :: options)).first = _ := induction _
      rw [later]
      cases there : choice.first <;> simp [offer, there]

/-- Where the options with one value are selected and no others, that value is chosen if it is
offered, and the first one otherwise. -/
theorem Choice.chosen_offerAll (name current : List UInt8) (values : List (List UInt8)) :
    ((⟨name, none, none⟩ : Choice).offerAll
        (values.map fun value => (value, decide (value = current)))).chosen =
      if current ∈ values then some current else values.head? := by
  have selected : ∀ choice : Choice, (choice.offerAll
      (values.map fun value => (value, decide (value = current)))).selected =
        if current ∈ values then some current else choice.selected := by
    induction values with
    | nil => intro choice; rfl
    | cons value values induction =>
        intro choice
        rw [List.map_cons]
        refine (induction _).trans ?_
        by_cases later : current ∈ values
        · rw [if_pos later, if_pos (List.mem_cons_of_mem _ later)]
        · rw [if_neg later]
          dsimp only [offer]
          by_cases same : value = current
          · simp [same]
          · have absent : current ∉ value :: values := by
              simp [later, Ne.symm same]
            simp [same, absent]
  rw [chosen, selected, offerAll_first]
  split_ifs
  · rfl
  · cases values <;> rfl

end Markup
