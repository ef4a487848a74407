import Mathlib.Data.List.Forall2
import Mathlib.Data.List.TakeWhile

/-!
# JSON texts of flat objects

A reader of JSON objects whose members are strings, natural numbers and truth values, written
without spaces, on the bytes of the text. In strings it knows every escape but those of surrogates.
What is written in this form is read back.
-/

namespace JsonText

/-! ## Strings -/

/-- The rest of a text that starts with a given byte. -/
def expect (byte : UInt8) (text : List UInt8) : Option (List UInt8) :=
  if text.head? = some byte then some text.tail else none

/-- The value of a hexadecimal digit. -/
def hexDigit (byte : UInt8) : Option Nat :=
  if 48 ≤ byte ∧ byte ≤ 57 then some (byte.toNat - 48)
  else if 97 ≤ byte ∧ byte ≤ 102 then some (byte.toNat - 87)
  else if 65 ≤ byte ∧ byte ≤ 70 then some (byte.toNat - 55)
  else none

/-- The character with this code, encoded. -/
def encode (code : Nat) : Option (List UInt8) :=
  if code.isValidChar then some (String.utf8EncodeChar (Char.ofNat code)) else none

/-- What stands behind a backslash: the bytes that the escape stands for, and the rest. -/
def scanEscape : List UInt8 → Option (List UInt8 × List UInt8)
  | 34 :: rest => some ([34], rest)
  | 92 :: rest => some ([92], rest)
  | 47 :: rest => some ([47], rest)
  | 98 :: rest => some ([8], rest)
  | 102 :: rest => some ([12], rest)
  | 110 :: rest => some ([10], rest)
  | 114 :: rest => some ([13], rest)
  | 116 :: rest => some ([9], rest)
  | 117 :: first :: second :: third :: fourth :: rest => do
      let digits ← [first, second, third, fourth].mapM hexDigit
      let bytes ← encode (digits.foldl (fun code digit => 16 * code + digit) 0)
      return (bytes, rest)
  | _ => none

/-- An escape, or a byte that stands for itself: what it stands for, and the rest. -/
def scanUnit : List UInt8 → Option (List UInt8 × List UInt8)
  | [] => none
  | byte :: rest =>
      if byte = 92 then scanEscape rest
      else if byte = 34 ∨ byte < 32 then none
      else some ([byte], rest)

/-- The text up to the closing quote, decoded, and what follows it. -/
def scanString : Nat → List UInt8 → Option (List UInt8 × List UInt8)
  | 0, _ => none
  | fuel + 1, text =>
      if text.head? = some 34 then some ([], text.tail)
      else do
        let unit ← scanUnit text
        let later ← scanString fuel unit.2
        return (unit.1 ++ later.1, later.2)

/-- A string in quotes. -/
def scanQuoted (text : List UInt8) : Option (List UInt8 × List UInt8) := do
  scanString text.length (← expect 34 text)

/-- The text is the spelling of these bytes in a string. -/
def Spells (unit decoded : List UInt8) : Prop :=
  ∀ rest, scanUnit (unit ++ rest) = some (decoded, rest)

/-- The text in quotes. -/
def quoted (body : List UInt8) : List UInt8 := 34 :: (body ++ [34])

variable {substitute decode : UInt8 → List UInt8} {unit decoded bytes key text rest : List UInt8}
  {byte : UInt8}

@[simp]
theorem expect_cons : expect byte (byte :: rest) = some rest := by
  simp [expect]

theorem Spells.ne_nil (spells : Spells unit decoded) : unit ≠ [] := by
  rintro rfl
  exact nomatch spells []

theorem Spells.head_ne (spells : Spells unit decoded) : (unit ++ rest).head? ≠ some 34 := by
  intro quote
  obtain ⟨later, starts⟩ := List.head?_eq_some_iff.mp quote
  have scanned := spells rest
  rw [starts] at scanned
  exact nomatch scanned

/-- A byte without a special meaning stands for itself. -/
theorem spells_self (printable : 32 ≤ byte) (noQuote : byte ≠ 34) (noBackslash : byte ≠ 92) :
    Spells [byte] [byte] := by
  intro rest
  simp [scanUnit, noQuote, noBackslash, printable]

/-- A string whose bytes are spelled out or dropped is read as what they stand for. -/
theorem scanString_flatMap {fuel : Nat}
    (spells : ∀ byte ∈ bytes, (substitute byte = [] ∧ decode byte = []) ∨
      Spells (substitute byte) (decode byte))
    (enough : (bytes.flatMap substitute).length < fuel) :
    scanString fuel (bytes.flatMap substitute ++ 34 :: rest) =
      some (bytes.flatMap decode, rest) := by
  induction bytes generalizing fuel with
  | nil =>
      obtain ⟨fuel, rfl⟩ := Nat.exists_eq_add_of_lt enough
      simp [scanString]
  | cons byte bytes induction =>
      rw [List.forall_mem_cons] at spells
      rw [List.flatMap_cons] at enough ⊢
      rcases spells.1 with ⟨dropped, empty⟩ | spelled
      · rw [dropped] at enough ⊢
        rw [List.flatMap_cons, empty]
        exact induction spells.2 enough
      · have some_unit := List.length_pos_of_ne_nil spelled.ne_nil
        rw [List.length_append] at enough
        obtain ⟨fuel, rfl⟩ : ∃ less, fuel = less + 1 := ⟨fuel - 1, by omega⟩
        have later : (bytes.flatMap substitute).length < fuel := by omega
        rw [List.append_assoc, scanString, if_neg spelled.head_ne, spelled, List.flatMap_cons]
        simp [induction spells.2 later]

theorem scanQuoted_flatMap
    (spells : ∀ byte ∈ bytes, (substitute byte = [] ∧ decode byte = []) ∨
      Spells (substitute byte) (decode byte)) :
    scanQuoted (quoted (bytes.flatMap substitute) ++ rest) = some (bytes.flatMap decode, rest) := by
  have starts : quoted (bytes.flatMap substitute) ++ rest =
      34 :: (bytes.flatMap substitute ++ 34 :: rest) := by
    simp [quoted]
  rw [starts, scanQuoted, expect_cons]
  refine scanString_flatMap spells ?_
  rw [List.length_cons, List.length_append]
  exact Nat.lt_succ_of_le (Nat.le_add_right ..)

/-! ## Values -/

/-- The value of a member. -/
inductive Value
  | text (bytes : List UInt8)
  | number (n : Nat)
  | truth (value : Bool)
  deriving DecidableEq, Repr

def isDigit (byte : UInt8) : Bool := 48 ≤ byte && byte ≤ 57

/-- The number with these digits. -/
def number (digits : List UInt8) : Nat :=
  digits.foldl (fun number digit => 10 * number + (digit.toNat - 48)) 0

/-- A value, and what follows it. -/
def scanValue (text : List UInt8) : Option (Value × List UInt8) :=
  if text.head? = some 34 then (scanQuoted text).map fun read => (.text read.1, read.2)
  else if [116, 114, 117, 101].isPrefixOf text then some (.truth true, text.drop 4)
  else if [102, 97, 108, 115, 101].isPrefixOf text then some (.truth false, text.drop 5)
  else
    let digits := text.takeWhile isDigit
    -- A number has no leading zeros.
    if digits = [] ∨ (digits.head? = some 48 ∧ digits ≠ [48]) then none
    else some (.number (number digits), text.drop digits.length)

/-- The text is a way to write the value, in front of anything but a digit. -/
def Reads (text : List UInt8) (value : Value) : Prop :=
  ∀ rest, (∀ byte ∈ rest.head?, isDigit byte = false) →
    scanValue (text ++ rest) = some (value, rest)

theorem reads_quoted
    (spells : ∀ byte ∈ bytes, (substitute byte = [] ∧ decode byte = []) ∨
      Spells (substitute byte) (decode byte)) :
    Reads (quoted (bytes.flatMap substitute)) (.text (bytes.flatMap decode)) := by
  intro rest _
  rw [scanValue, if_pos (by simp [quoted]), scanQuoted_flatMap spells]
  rfl

theorem reads_true : Reads [116, 114, 117, 101] (.truth true) := by
  intro rest _
  simp [scanValue]

theorem reads_false : Reads [102, 97, 108, 115, 101] (.truth false) := by
  intro rest _
  simp [scanValue]

theorem reads_number {digits : List UInt8} (nonempty : digits ≠ [])
    (all : ∀ digit ∈ digits, isDigit digit = true)
    (leading : digits.head? = some 48 → digits = [48]) :
    Reads digits (.number (number digits)) := by
  intro rest ends
  have taken : (digits ++ rest).takeWhile isDigit = digits := by
    rw [List.takeWhile_append_of_pos all]
    cases rest with
    | nil => simp
    | cons first rest => simp [ends first rfl]
  obtain ⟨first, others, rfl⟩ := List.exists_cons_of_ne_nil nonempty
  have digit := all first List.mem_cons_self
  have letters (byte : UInt8) (letter : isDigit byte = false) : byte ≠ first := by
    rintro rfl
    rw [digit] at letter
    contradiction
  have number : ¬(first :: others = [] ∨
      (first :: others).head? = some 48 ∧ first :: others ≠ [48]) := by
    rintro (empty | ⟨zero, more⟩)
    · contradiction
    · exact more (leading zero)
  rw [scanValue, if_neg (by simpa using (letters 34 rfl).symm), if_neg (by simp [letters 116 rfl]),
    if_neg (by simp [letters 102 rfl]), taken]
  dsimp only
  rw [if_neg number, List.drop_left]

/-! ## Objects -/

/-- A key and its value. -/
def scanMember (text : List UInt8) : Option ((List UInt8 × Value) × List UInt8) := do
  let key ← scanQuoted text
  let value ← scanValue (← expect 58 key.2)
  return ((key.1, value.1), value.2)

/-- The members up to the closing brace, with which the text ends. -/
def scanMembers : Nat → List UInt8 → Option (List (List UInt8 × Value))
  | 0, _ => none
  | fuel + 1, text => do
      let member ← scanMember text
      if member.2 = [125] then return [member.1]
      else return member.1 :: (← scanMembers fuel (← expect 44 member.2))

/-- The members of the object that the text is. -/
def parseObject (text : List UInt8) : Option (List (List UInt8 × Value)) := do
  let members ← expect 123 text
  if members = [125] then return [] else scanMembers text.length members

/-- Bytes that a string may hold as they are. -/
def Plain (bytes : List UInt8) : Prop := ∀ byte ∈ bytes, 32 ≤ byte ∧ byte ≠ 34 ∧ byte ≠ 92

instance : DecidablePred Plain := fun bytes =>
  List.decidableBAll (fun byte => 32 ≤ byte ∧ byte ≠ 34 ∧ byte ≠ 92) bytes

/-- A member of an object, in its written form. -/
def memberText (key text : List UInt8) : List UInt8 := quoted key ++ 58 :: text

/-- The members, with commas between them. -/
def memberTexts : List (List UInt8 × List UInt8) → List UInt8
  | [] => []
  | [shown] => memberText shown.1 shown.2
  | shown :: next :: others => memberText shown.1 shown.2 ++ 44 :: memberTexts (next :: others)

/-- The object with the members, in its written form. -/
def objectText (members : List (List UInt8 × List UInt8)) : List UInt8 :=
  123 :: (memberTexts members ++ [125])

/-- A key and a value are written like this. -/
def Shows (shown : List UInt8 × List UInt8) (member : List UInt8 × Value) : Prop :=
  shown.1 = member.1 ∧ Plain member.1 ∧ Reads shown.2 member.2

variable {members : List (List UInt8 × Value)} {texts : List (List UInt8 × List UInt8)}
  {shown : List UInt8 × List UInt8} {member : List UInt8 × Value} {value : Value}
  {key text : List UInt8}

theorem shows_member (reads : Reads text value) (plain : Plain key := by decide) :
    Shows (key, text) (key, value) :=
  ⟨rfl, plain, reads⟩

theorem scanQuoted_plain (plain : Plain bytes) :
    scanQuoted (quoted bytes ++ rest) = some (bytes, rest) := by
  have same := @scanQuoted_flatMap (fun byte => [byte]) (fun byte => [byte]) bytes rest
    fun byte listed =>
      .inr (spells_self (plain byte listed).1 (plain byte listed).2.1 (plain byte listed).2.2)
  rwa [List.flatMap_singleton'] at same

theorem reads_plain (plain : Plain bytes) : Reads (quoted bytes) (.text bytes) := by
  intro rest _
  rw [scanValue, if_pos (by simp [quoted]), scanQuoted_plain plain]
  rfl

theorem scanMember_memberText (shows : Shows shown member)
    (ends : ∀ byte ∈ rest.head?, isDigit byte = false) :
    scanMember (memberText shown.1 shown.2 ++ rest) = some (member, rest) := by
  obtain ⟨same, plain, reads⟩ := shows
  rw [same, memberText, List.append_assoc, scanMember, scanQuoted_plain plain]
  simp [reads rest ends]

theorem scanMembers_memberTexts {fuel : Nat} (shows : List.Forall₂ Shows texts members)
    (nonempty : texts ≠ []) (enough : texts.length ≤ fuel) :
    scanMembers fuel (memberTexts texts ++ [125]) = some members := by
  induction shows generalizing fuel with
  | nil => contradiction
  | @cons shown member texts members first others induction =>
      obtain ⟨fuel, rfl⟩ : ∃ less, fuel = less + 1 :=
        ⟨fuel - 1, by rw [List.length_cons] at enough; omega⟩
      cases others with
      | nil =>
          rw [memberTexts, scanMembers, scanMember_memberText first (by simp [isDigit])]
          simp
      | cons second others =>
          rw [memberTexts, List.append_assoc, scanMembers,
            scanMember_memberText first (by simp [isDigit])]
          have later := induction (List.cons_ne_nil _ _) (Nat.le_of_succ_le_succ enough)
          simp [later]

theorem length_le_memberTexts (texts : List (List UInt8 × List UInt8)) :
    texts.length ≤ (memberTexts texts).length := by
  induction texts with
  | nil => rfl
  | cons shown others induction =>
      cases others with
      | nil => simp [memberTexts, memberText, quoted]
      | cons second others =>
          rw [memberTexts, List.length_append, List.length_cons, List.length_cons (a := 44)]
          omega

/-- An object in its written form is read back. -/
theorem parseObject_objectText (shows : List.Forall₂ Shows texts members) :
    parseObject (objectText texts) = some members := by
  rw [objectText, parseObject, expect_cons]
  cases texts with
  | nil =>
      cases shows
      rfl
  | cons shown others =>
      have quote : memberTexts (shown :: others) ++ [125] ≠ [125] := by
        cases others <;> simp [memberTexts, memberText, quoted]
      have enough : (shown :: others).length ≤
          (123 :: (memberTexts (shown :: others) ++ [125])).length := by
        have each := length_le_memberTexts (shown :: others)
        rw [List.length_cons (a := 123), List.length_append]
        omega
      rw [Option.bind_eq_bind, Option.bind_some, if_neg quote]
      exact scanMembers_memberTexts shows (List.cons_ne_nil _ _) enough

end JsonText
