import ModbusBridge.Text

/-!
# JSON documents

Documents as ArduinoJson holds them. What the firmware needs of the library beyond its documents,
the conversions to and from text, is a parameter.
-/

namespace ModbusBridge

/-- A JSON value. A real number is `mantissa / 10 ^ scale`. -/
inductive Json
  | null
  | boolean (value : Bool)
  | integer (value : Int)
  | real (mantissa : Int) (scale : Nat)
  | string (text : Bytes)
  | array (elements : List Json)
  | object (members : List (Bytes × Json))
  deriving Inhabited

/-- The conversions of the library between values and text. -/
structure ArduinoJson where
  /-- `deserializeJson`: the document, or the name of the error. -/
  deserializeJson : Bytes → Except Bytes Json
  /-- `serializeJsonPretty`. -/
  serializeJsonPretty : Json → Bytes
  /-- `as<String>()` of a value that is no string. -/
  serializeJson : Json → Bytes
  /-- The number at the beginning of a text. -/
  parseNumber : Bytes → Int

namespace Json

/-- `isNull`. -/
def isNull : Json → Bool
  | null => true
  | _ => false

/-- Replace the member of that name, or add one at the end. -/
def assign (key : Bytes) (value : Json) : List (Bytes × Json) → List (Bytes × Json)
  | [] => [(key, value)]
  | (name, old) :: members =>
      if name = key then (name, value) :: members else (name, old) :: assign key value members

/-- `doc[key]`. A missing member reads as null. -/
def member (document : Json) (key : Bytes) : Json :=
  match document with
  | object members => (members.lookup key).getD null
  | _ => null

/-- `containsKey`. -/
def containsKey (document : Json) (key : Bytes) : Bool :=
  match document with
  | object members => (members.lookup key).isSome
  | _ => false

/-- `doc[key] = value`. A null document becomes an object; other values take no members. -/
def setMember (document : Json) (key : Bytes) (value : Json) : Json :=
  match document with
  | null => object [(key, value)]
  | object members => object (assign key value members)
  | other => other

/-- `as<String>()` of a text without a NUL byte. The library stops at the first one, which is left
out here. -/
def asString (lib : ArduinoJson) : Json → Bytes
  | string text => text
  | other => lib.serializeJson other

/-- A number that an `int` cannot hold reads as 0. -/
def toInt (value : Int) : Int := if -2147483648 ≤ value ∧ value < 2147483648 then value else 0

/-- `as<int>()`. -/
def asInt (lib : ArduinoJson) : Json → Int
  | boolean value => if value then 1 else 0
  | integer value => toInt value
  | real mantissa scale => toInt (mantissa.tdiv (10 ^ scale : Nat))
  | string text => toInt (lib.parseNumber text)
  | _ => 0

/-- `as<T>()` for an unsigned type of this width. A number that it cannot hold reads as 0; whether
it can is decided before the number is truncated. -/
def asUnsigned (lib : ArduinoJson) (width : Nat) : Json → BitVec width
  | boolean value => if value then 1 else 0
  | integer value => if 0 ≤ value ∧ value < (2 ^ width : Nat) then .ofInt width value else 0
  | real mantissa scale =>
      if 0 ≤ mantissa ∧ mantissa ≤ ((2 ^ width - 1) * 10 ^ scale : Nat) then
        .ofInt width (mantissa / (10 ^ scale : Nat))
      else 0
  | string text =>
      let value := lib.parseNumber text
      if 0 ≤ value ∧ value < (2 ^ width : Nat) then .ofInt width value else 0
  | _ => 0

/-- `as<bool>()`. -/
def asBool : Json → Bool
  | null => false
  | boolean value => value
  | integer value => value ≠ 0
  | real mantissa _ => mantissa ≠ 0
  | _ => true

/-! ## Checked conversions -/

/-- `value | default` for an `int`. -/
def intOr (value : Json) (default : Int) : Int :=
  match value with
  | integer number =>
      if -2147483648 ≤ number ∧ number < 2147483648 then number else default
  | _ => default

/-- `value | default` for a `bool`. -/
def boolOr (value : Json) (default : Bool) : Bool :=
  match value with
  | boolean truth => truth
  | _ => default

/-- `value | default` for a C string. -/
def stringOr (value : Json) (default : Bytes) : Bytes :=
  match value with
  | string text => untilNul text
  | _ => default

/-- `as<JsonArrayConst>()`, if it is not null. -/
def asArray : Json → Option (List Json)
  | array elements => some elements
  | _ => none

/-- `as<uint32_t>()` of an integer. A number that it cannot hold reads as 0. -/
def toUInt32 (value : Int) : UInt32 :=
  if 0 ≤ value ∧ value < 4294967296 then UInt32.ofNat value.toNat else 0

/-! ## Members -/

theorem lookup_assign_self (key : Bytes) (value : Json) (members : List (Bytes × Json)) :
    (assign key value members).lookup key = some value := by
  induction members with
  | nil => simp [assign]
  | cons entry members induction =>
      obtain ⟨name, old⟩ := entry
      rw [assign]
      split_ifs with same
      · simp [same]
      · have other : (key == name) = false := by simpa using Ne.symm same
        simpa [List.lookup_cons, other] using induction

theorem lookup_assign_of_ne {key other : Bytes} (different : other ≠ key) (value : Json)
    (members : List (Bytes × Json)) :
    (assign key value members).lookup other = members.lookup other := by
  have apart : (other == key) = false := by simpa using different
  induction members with
  | nil => simp [assign, List.lookup_cons, apart]
  | cons entry members induction =>
      obtain ⟨name, old⟩ := entry
      rw [assign]
      split_ifs with same
      · subst same
        simp [List.lookup_cons, apart]
      · simp only [List.lookup_cons, induction]

/-- A document that takes members. -/
def Writable : Json → Prop
  | null | object _ => True
  | _ => False

theorem member_setMember_self {document : Json} (writable : document.Writable) (key : Bytes)
    (value : Json) : (document.setMember key value).member key = value := by
  cases document with
  | null => simp [setMember, member]
  | object members => simp [setMember, member, lookup_assign_self]
  | _ => exact writable.elim

theorem member_setMember_of_ne {key other : Bytes} (different : other ≠ key) (value : Json)
    (document : Json) : (document.setMember key value).member other = document.member other := by
  have apart : (other == key) = false := by simpa using different
  cases document with
  | null => simp [setMember, member, List.lookup_cons, apart]
  | object members => simp [setMember, member, lookup_assign_of_ne different]
  | _ => rfl

end Json

/-! ## Flat documents -/

/-- The text of a value that is no container. -/
def scalarText : Json → Bytes
  | .null => ascii "null"
  | .boolean value => if value then ascii "true" else ascii "false"
  | .integer value => if value < 0 then 45 :: decimal value.natAbs else decimal value.natAbs
  | .real mantissa scale => decimal mantissa.natAbs ++ ascii "e-" ++ decimal scale
  | .string text => ascii "\"" ++ text ++ ascii "\""
  | .array _ => ascii "[]"
  | .object _ => ascii "\x7b\x7d"

/-- A document in braces, with a text before each member, after each name and at the end. -/
def flatObject (indent colon close : Bytes) : Json → Bytes
  | .object members =>
      let line := fun member : Bytes × Json =>
        indent ++ ascii "\"" ++ member.1 ++ ascii "\"" ++ colon ++ scalarText member.2
      ascii "\x7b" ++ (ascii ",").intercalate (members.map line) ++ close
  | other => scalarText other

/-- The library on documents whose members are no containers and hold nothing to escape. It can read
the given texts. -/
def flatJson (known : List (Bytes × Json)) : ArduinoJson where
  deserializeJson text := (known.lookup text).elim (.error (ascii "InvalidInput")) .ok
  serializeJsonPretty := flatObject (ascii "\r\n  ") (ascii ": ") (ascii "\r\n\x7d")
  serializeJson := flatObject [] (ascii ":") (ascii "\x7d")
  parseNumber _ := 0

theorem scalarText_ne_nil (value : Json) : scalarText value ≠ [] := by
  cases value with
  | boolean value => cases value <;> decide
  | integer value =>
      rw [scalarText]
      split_ifs <;> simp [decimal]
  | _ => simp [scalarText, ascii]

theorem flatJson_nonempty (known : List (Bytes × Json)) (document : Json) :
    (flatJson known).serializeJsonPretty document ≠ [] := by
  change flatObject _ _ _ document ≠ []
  unfold flatObject
  split
  · simp [ascii]
  · exact scalarText_ne_nil _

end ModbusBridge
