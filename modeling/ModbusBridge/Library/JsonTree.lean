import ModbusBridge.Library.JsonText
import ModbusBridge.Library.Utf8

/-!
# JSON texts of any depth

A reader of JSON texts, on the bytes of the text, which may have spaces between the tokens. Numbers
stay as they are written; strings are read as in flat objects. What is written without spaces is
read back. A string literal that is read as its own body has nothing in it to escape.
-/

namespace JsonTree

open JsonText

/-! ## Reading -/

/-- A JSON value. A number is its numeral. -/
inductive Tree
  | null
  | truth (value : Bool)
  | number (numeral : List UInt8)
  | text (bytes : List UInt8)
  | array (elements : List Tree)
  | object (members : List (List UInt8 × Tree))

/-- The names of the members, if it is an object. -/
def Tree.keys : Tree → List (List UInt8)
  | object members => members.map Prod.fst
  | _ => []

def isSpace (byte : UInt8) : Bool := byte == 32 || byte == 9 || byte == 10 || byte == 13

/-- The text without the spaces in front. -/
def skip (text : List UInt8) : List UInt8 := text.dropWhile isSpace

/-- What follows the fraction of a numeral, if it has one. -/
def skipFraction (text : List UInt8) : Option (List UInt8) :=
  if text.head? = some 46 then
    if text.tail.takeWhile isDigit = [] then none else some (text.tail.dropWhile isDigit)
  else some text

/-- What follows the exponent of a numeral, if it has one. -/
def skipExponent (text : List UInt8) : Option (List UInt8) :=
  if text.head? = some 101 ∨ text.head? = some 69 then
    let sign := text.tail.head?
    let digits := if sign = some 43 ∨ sign = some 45 then text.tail.tail else text.tail
    if digits.takeWhile isDigit = [] then none else some (digits.dropWhile isDigit)
  else some text

/-- A numeral, and what follows it. -/
def scanNumeral (text : List UInt8) : Option (List UInt8 × List UInt8) :=
  let unsigned := if text.head? = some 45 then text.tail else text
  let digits := unsigned.takeWhile isDigit
  -- A number has no leading zeros.
  if digits = [] ∨ (digits.head? = some 48 ∧ digits ≠ [48]) then none
  else do
    let rest ← skipExponent (← skipFraction (unsigned.drop digits.length))
    return (text.take (text.length - rest.length), rest)

/-- A value without parts, and what follows it. -/
def scanLeaf (text : List UInt8) : Option (Tree × List UInt8) :=
  if text.head? = some 34 then (scanQuoted text).map fun read => (.text read.1, read.2)
  else if [116, 114, 117, 101].isPrefixOf text then some (.truth true, text.drop 4)
  else if [102, 97, 108, 115, 101].isPrefixOf text then some (.truth false, text.drop 5)
  else if [110, 117, 108, 108].isPrefixOf text then some (.null, text.drop 4)
  else (scanNumeral text).map fun read => (.number read.1, read.2)

mutual

/-- A value, and what follows it. -/
def scan : Nat → List UInt8 → Option (Tree × List UInt8)
  | 0, _ => none
  | fuel + 1, spaced =>
      let text := skip spaced
      let inside := skip text.tail
      if text.head? = some 123 then
        if inside.head? = some 125 then some (.object [], inside.tail)
        else (scanMembers fuel text.tail).map fun read => (.object read.1, read.2)
      else if text.head? = some 91 then
        if inside.head? = some 93 then some (.array [], inside.tail)
        else (scanElements fuel text.tail).map fun read => (.array read.1, read.2)
      else scanLeaf text

/-- Members up to the closing brace, and what follows it. -/
def scanMembers : Nat → List UInt8 → Option (List (List UInt8 × Tree) × List UInt8)
  | 0, _ => none
  | fuel + 1, text => do
      let key ← scanQuoted (skip text)
      let value ← scan fuel (← expect 58 (skip key.2))
      let after := skip value.2
      if after.head? = some 44 then
        let others ← scanMembers fuel after.tail
        return ((key.1, value.1) :: others.1, others.2)
      else
        let rest ← expect 125 after
        return ([(key.1, value.1)], rest)

/-- Elements up to the closing bracket, and what follows it. -/
def scanElements : Nat → List UInt8 → Option (List Tree × List UInt8)
  | 0, _ => none
  | fuel + 1, text => do
      let value ← scan fuel text
      let after := skip value.2
      if after.head? = some 44 then
        let others ← scanElements fuel after.tail
        return (value.1 :: others.1, others.2)
      else
        let rest ← expect 93 after
        return ([value.1], rest)

end

/-- The value that the text is. -/
def parse (text : List UInt8) : Option Tree := do
  let read ← scan text.length text
  if skip read.2 = [] then return read.1 else none

/-! ## Values in their written form -/

/-- The text goes on behind a value. -/
def Ends (rest : List UInt8) : Prop := ∀ byte ∈ rest.head?, byte = 44 ∨ byte = 93 ∨ byte = 125

/-- The text is a way to write the value. -/
def Writes (text : List UInt8) (tree : Tree) : Prop :=
  ∀ rest fuel, Ends rest → text.length ≤ fuel → scan fuel (text ++ rest) = some (tree, rest)

/-- The elements, with commas in front of all but the first. -/
def elementTexts : List (List UInt8) → List UInt8
  | [] => []
  | text :: texts => text ++ texts.flatMap fun text => 44 :: text

/-- The array with the elements, in its written form. -/
def arrayText (elements : List (List UInt8)) : List UInt8 := 91 :: (elementTexts elements ++ [93])

variable {text bytes digits rest body key decoded : List UInt8} {tree value : Tree} {fuel : Nat}
  {texts : List (List UInt8)} {elements : List Tree} {byte : UInt8}

theorem skip_cons (solid : isSpace byte = false) : skip (byte :: rest) = byte :: rest := by
  simp [skip, solid]

theorem ends_nil : Ends [] := fun _ listed => nomatch listed

theorem ends_cons (delimiter : byte = 44 ∨ byte = 93 ∨ byte = 125) : Ends (byte :: rest) := by
  simpa [Ends] using delimiter

theorem skip_delimiter (delimiter : byte = 44 ∨ byte = 93 ∨ byte = 125) :
    skip (byte :: rest) = byte :: rest := by
  refine skip_cons ?_
  rcases delimiter with rfl | rfl | rfl <;> rfl

/-- A leaf starts with none of the bytes that start anything else. -/
theorem writes_leaf (nonempty : text ≠ [])
    (starts : ∀ byte ∈ text.head?, isSpace byte = false ∧ byte ≠ 123 ∧ byte ≠ 91)
    (reads : ∀ rest, Ends rest → scanLeaf (text ++ rest) = some (tree, rest)) :
    Writes text tree := by
  intro rest fuel ends enough
  obtain ⟨first, others, rfl⟩ := List.exists_cons_of_ne_nil nonempty
  obtain ⟨fuel, rfl⟩ : ∃ less, fuel = less + 1 :=
    ⟨fuel - 1, by rw [List.length_cons] at enough; omega⟩
  obtain ⟨solid, brace, bracket⟩ := starts first rfl
  have solid : skip (first :: others ++ rest) = first :: others ++ rest := skip_cons solid
  rw [scan, solid, if_neg (by simpa using brace), if_neg (by simpa using bracket)]
  exact reads rest ends

theorem writes_text (reads : ∀ rest, scanQuoted (quoted body ++ rest) = some (bytes, rest)) :
    Writes (quoted body) (.text bytes) := by
  refine writes_leaf (by simp [quoted]) (by simp [quoted, isSpace]) fun rest _ => ?_
  rw [scanLeaf, if_pos (by simp [quoted]), reads]
  rfl

theorem writes_plain (plain : Plain bytes) : Writes (quoted bytes) (.text bytes) :=
  writes_text fun _ => scanQuoted_plain plain

theorem writes_true : Writes [116, 114, 117, 101] (.truth true) :=
  writes_leaf (by simp) (by simp [isSpace]) fun _ _ => by simp [scanLeaf]

theorem writes_false : Writes [102, 97, 108, 115, 101] (.truth false) :=
  writes_leaf (by simp) (by simp [isSpace]) fun _ _ => by simp [scanLeaf]

/-- Digits that are a number: at least one, and no leading zero. -/
structure Digits (digits : List UInt8) : Prop where
  nonempty : digits ≠ []
  all : ∀ digit ∈ digits, isDigit digit = true
  leading : digits.head? = some 48 → digits = [48]

theorem Digits.head_ne (number : Digits digits) (other : isDigit byte = false) :
    digits.head? ≠ some byte := by
  intro starts
  have digit := number.all byte (List.mem_of_mem_head? starts)
  rw [other] at digit
  contradiction

theorem Ends.head_ne (ends : Ends rest) (other : byte ≠ 44 ∧ byte ≠ 93 ∧ byte ≠ 125) :
    rest.head? ≠ some byte := by
  intro starts
  rcases ends byte starts with rfl | rfl | rfl <;> simp at other

/-- An integer is read up to its end, whatever its sign. -/
theorem scanNumeral_digits (number : Digits digits) (ends : Ends rest)
    (unsigned : (if text.head? = some 45 then text.tail else text) = digits ++ rest) :
    scanNumeral text = some (text.take (text.length - rest.length), rest) := by
  have taken : (digits ++ rest).takeWhile isDigit = digits := by
    rw [List.takeWhile_append_of_pos number.all]
    cases rest with
    | nil => simp
    | cons first rest =>
        rcases ends first rfl with rfl | rfl | rfl <;> simp [isDigit]
  have wellFormed : ¬(digits = [] ∨ (digits.head? = some 48 ∧ digits ≠ [48])) := by
    rintro (empty | ⟨zero, more⟩)
    · exact number.nonempty empty
    · exact more (number.leading zero)
  have noFraction : skipFraction rest = some rest :=
    if_neg (ends.head_ne (by decide))
  have noExponent : skipExponent rest = some rest :=
    if_neg (not_or.mpr ⟨ends.head_ne (by decide), ends.head_ne (by decide)⟩)
  rw [scanNumeral, unsigned, taken, if_neg wellFormed, List.drop_left, noFraction]
  simp [noExponent]

theorem scanLeaf_numeral (sign : text.head? = some 45 ∨ ∃ digit, text.head? = some digit ∧
    isDigit digit = true) :
    scanLeaf text = (scanNumeral text).map fun read => (.number read.1, read.2) := by
  have letter (byte : UInt8) (others : List UInt8) (other : byte ≠ 45 ∧ isDigit byte = false) :
      ¬ (byte :: others).isPrefixOf text = true := by
    intro starts
    obtain ⟨rest, rfl⟩ := List.isPrefixOf_iff_prefix.mp starts
    rcases sign with minus | ⟨digit, starts, isDigit⟩
    · exact other.1 (by simpa using minus)
    · obtain rfl : byte = digit := by simpa using starts
      rw [other.2] at isDigit
      contradiction
  have quote : text.head? ≠ some 34 := by
    rintro quote
    rcases sign with minus | ⟨digit, starts, isDigit⟩
    · simp [quote] at minus
    · obtain rfl : 34 = digit := by simpa [quote] using starts
      contradiction
  rw [scanLeaf, if_neg quote, if_neg (letter 116 _ (by decide)), if_neg (letter 102 _ (by decide)),
    if_neg (letter 110 _ (by decide))]

theorem writes_number (number : Digits digits) : Writes digits (.number digits) := by
  obtain ⟨first, others, split⟩ := List.exists_cons_of_ne_nil number.nonempty
  have digit : isDigit first = true := number.all first (split ▸ List.mem_cons_self)
  refine writes_leaf number.nonempty ?_ fun rest ends => ?_
  · intro byte starts
    obtain rfl : first = byte := by simpa [split] using starts
    grind [isDigit, isSpace]
  · have unsigned : (if (digits ++ rest).head? = some 45 then (digits ++ rest).tail
        else digits ++ rest) = digits ++ rest := by
      refine if_neg ?_
      rw [List.head?_append_of_ne_nil _ number.nonempty]
      exact number.head_ne rfl
    rw [scanLeaf_numeral (.inr ⟨first, by simp [split], digit⟩),
      scanNumeral_digits number ends unsigned]
    simp

theorem writes_negative (number : Digits digits) :
    Writes (45 :: digits) (.number (45 :: digits)) := by
  refine writes_leaf (List.cons_ne_nil _ _) (by simp [isSpace]) fun rest ends => ?_
  have shorter : digits.length + rest.length + 1 - rest.length = digits.length + 1 := by omega
  rw [scanLeaf_numeral (.inl rfl), scanNumeral_digits number ends (if_pos rfl)]
  simp [shorter]

/-! ## Arrays and objects -/

theorem elementTexts_cons_cons (text next : List UInt8) (texts : List (List UInt8)) :
    elementTexts (text :: next :: texts) = text ++ 44 :: elementTexts (next :: texts) := by
  simp [elementTexts]

theorem scanElements_elementTexts (writes : List.Forall₂ Writes texts elements)
    (nonempty : texts ≠ []) (enough : (elementTexts texts).length < fuel) :
    scanElements fuel (elementTexts texts ++ 93 :: rest) = some (elements, rest) := by
  induction writes generalizing fuel with
  | nil => contradiction
  | @cons text tree texts elements first others induction =>
      obtain ⟨fuel, rfl⟩ : ∃ less, fuel = less + 1 := ⟨fuel - 1, by omega⟩
      rw [scanElements]
      cases others with
      | nil =>
          have fits : text.length ≤ fuel := by simpa [elementTexts] using Nat.lt_succ_iff.mp enough
          have one : elementTexts [text] ++ 93 :: rest = text ++ 93 :: rest := by
            simp [elementTexts]
          rw [one, first _ fuel (ends_cons (by simp)) fits]
          simp [skip_delimiter]
      | @cons next tree texts elements second others =>
          rw [elementTexts_cons_cons, List.length_append, List.length_cons] at enough
          have later := @induction fuel (List.cons_ne_nil _ _) (by omega)
          rw [elementTexts_cons_cons, List.append_assoc, List.cons_append,
            first _ fuel (ends_cons (by simp)) (by omega)]
          simp [skip_delimiter, later]

/-- No value starts with the end of an array. -/
theorem head_skip_ne (scanned : scan fuel text = some (tree, rest)) :
    (skip text).head? ≠ some 93 := by
  intro bracket
  obtain ⟨others, starts⟩ := List.head?_eq_some_iff.mp bracket
  cases fuel with
  | zero => exact nomatch scanned
  | succ fuel =>
      rw [scan, starts] at scanned
      simp [scanLeaf, scanNumeral, isDigit] at scanned

theorem writes_array (writes : List.Forall₂ Writes texts elements) :
    Writes (arrayText texts) (.array elements) := by
  intro rest fuel ends enough
  rw [arrayText, List.length_cons, List.length_append, List.length_singleton] at enough
  obtain ⟨fuel, rfl⟩ : ∃ less, fuel = less + 1 := ⟨fuel - 1, by omega⟩
  have starts : skip (arrayText texts ++ rest) = 91 :: (elementTexts texts ++ 93 :: rest) := by
    simp [arrayText, skip, isSpace]
  rw [scan, starts]
  cases writes with
  | nil => simp [elementTexts, skip_delimiter]
  | @cons text tree texts elements first others =>
      have read := @scanElements_elementTexts rest fuel _ _ (.cons first others)
        (List.cons_ne_nil _ _) (by omega)
      have inside : (skip (elementTexts (text :: texts) ++ 93 :: rest)).head? ≠ some 93 := by
        cases fuel with
        | zero => omega
        | succ fuel =>
            rw [scanElements, Option.bind_eq_bind, Option.bind_eq_some_iff] at read
            obtain ⟨value, scanned, -⟩ := read
            exact head_skip_ne scanned
      simp [inside, read]

/-- A key and a value are written like this. -/
structure Shows (shown : List UInt8 × List UInt8) (member : List UInt8 × Tree) : Prop where
  key : shown.1 = member.1
  plain : Plain member.1
  value : Writes shown.2 member.2

variable {shown : List UInt8 × List UInt8} {member : List UInt8 × Tree}
  {front back : List (List UInt8 × List UInt8)} {written members : List (List UInt8 × Tree)}
  {after : List UInt8}

theorem shows_member (writes : Writes text tree) (plain : Plain key := by decide) :
    Shows (key, text) (key, tree) :=
  ⟨rfl, plain, writes⟩

/-- Behind a key that needs no escapes, a member is its value and what follows it. -/
theorem scanMembers_memberText (plain : Plain key) (fuel : Nat) (text rest : List UInt8) :
    scanMembers (fuel + 1) (memberText key text ++ rest) = (do
      let value ← scan fuel (text ++ rest)
      let after := skip value.2
      if after.head? = some 44 then
        let others ← scanMembers fuel after.tail
        return ((key, value.1) :: others.1, others.2)
      else
        let rest ← expect 125 after
        return ([(key, value.1)], rest)) := by
  have quote : skip (memberText key text ++ rest) = quoted key ++ 58 :: (text ++ rest) := by
    simp [memberText, quoted, skip, isSpace]
  have colon : skip (58 :: (text ++ rest)) = 58 :: (text ++ rest) := skip_cons rfl
  rw [scanMembers, quote, scanQuoted_plain plain]
  simp [colon]

/-- A member that is written out is read before the others. -/
theorem scanMembers_cons (shows : Shows shown member) (back : List (List UInt8 × List UInt8))
    (next : List UInt8 × List UInt8) (rest : List UInt8) (enough : shown.2.length ≤ fuel) :
    scanMembers (fuel + 1) (memberTexts (shown :: next :: back) ++ rest) =
      (scanMembers fuel (memberTexts (next :: back) ++ rest)).map fun others =>
        (member :: others.1, others.2) := by
  rw [memberTexts, List.append_assoc, shows.key, scanMembers_memberText shows.plain,
    List.cons_append, shows.value _ fuel (ends_cons (by simp)) enough]
  cases read : scanMembers fuel (memberTexts (next :: back) ++ rest) <;>
    simp [skip_delimiter, read]

theorem length_memberTexts_cons (shown next : List UInt8 × List UInt8)
    (back : List (List UInt8 × List UInt8)) :
    (memberTexts (shown :: next :: back)).length =
      (memberText shown.1 shown.2).length + 1 + (memberTexts (next :: back)).length := by
  rw [memberTexts, List.length_append, List.length_cons]
  omega

theorem length_memberText (key text : List UInt8) :
    (memberText key text).length = key.length + text.length + 3 := by
  simp [memberText, quoted]
  omega

theorem scanMembers_memberTexts (shows : List.Forall₂ Shows front written) (nonempty : front ≠ [])
    (enough : (memberTexts front).length ≤ fuel) :
    scanMembers fuel (memberTexts front ++ 125 :: rest) = some (written, rest) := by
  induction shows generalizing fuel with
  | nil => contradiction
  | @cons shown member front written first others induction =>
      cases others with
      | nil =>
          rw [memberTexts, length_memberText] at enough
          obtain ⟨fuel, rfl⟩ : ∃ less, fuel = less + 1 := ⟨fuel - 1, by omega⟩
          rw [memberTexts, first.key, scanMembers_memberText first.plain,
            first.value _ fuel (ends_cons (by simp)) (by omega)]
          simp [skip_delimiter]
      | @cons next _ front written second others =>
          rw [length_memberTexts_cons, length_memberText] at enough
          obtain ⟨fuel, rfl⟩ : ∃ less, fuel = less + 1 := ⟨fuel - 1, by omega⟩
          rw [scanMembers_cons first _ _ _ (by omega),
            @induction fuel (List.cons_ne_nil _ _) (by omega)]
          rfl

/-- An object with members starts with the first of them. -/
theorem scan_objectText (nonempty : front ≠ []) (fuel : Nat) (rest : List UInt8) :
    scan (fuel + 1) (objectText front ++ rest) =
      (scanMembers fuel (memberTexts front ++ 125 :: rest)).map fun read =>
        (.object read.1, read.2) := by
  obtain ⟨shown, others, rfl⟩ := List.exists_cons_of_ne_nil nonempty
  have starts : skip (objectText (shown :: others) ++ rest) =
      123 :: (memberTexts (shown :: others) ++ 125 :: rest) := by
    simp [objectText, skip, isSpace]
  have quote : (skip (memberTexts (shown :: others) ++ 125 :: rest)).head? = some 34 := by
    cases others <;> simp [memberTexts, memberText, quoted, skip, isSpace]
  rw [scan, starts]
  simp [quote]

theorem writes_object (shows : List.Forall₂ Shows front written) (nonempty : front ≠ []) :
    Writes (objectText front) (.object written) := by
  intro rest fuel ends enough
  rw [objectText, List.length_cons, List.length_append, List.length_singleton] at enough
  obtain ⟨fuel, rfl⟩ : ∃ less, fuel = less + 1 := ⟨fuel - 1, by omega⟩
  rw [scan_objectText nonempty, scanMembers_memberTexts shows nonempty (by omega)]
  rfl

/-- A value in its written form is read back. -/
theorem parse_of_writes (writes : Writes text tree) : parse text = some tree := by
  have read := writes [] text.length ends_nil le_rfl
  rw [List.append_nil] at read
  rw [parse, read]
  rfl

/-! ## What a text cannot hide -/

/-- The members start with the text of the first one. -/
theorem memberTexts_starts (key text : List UInt8) (back : List (List UInt8 × List UInt8))
    (after : List UInt8) :
    ∃ behind, memberTexts ((key, text) :: back) ++ after = memberText key text ++ behind ∧
      (memberText key text).length ≤ (memberTexts ((key, text) :: back)).length := by
  cases back with
  | nil => exact ⟨after, rfl, le_rfl⟩
  | cons next back =>
      refine ⟨44 :: (memberTexts (next :: back) ++ after), ?_, ?_⟩
      · rw [memberTexts, List.append_assoc, List.cons_append]
      · rw [length_memberTexts_cons]
        exact Nat.le_add_right_of_le (Nat.le_succ _)

/-- The first member has its key, and its value is read from what stands there. -/
theorem exists_first_of_scanMembers (plain : Plain key)
    (enough : (memberTexts ((key, text) :: back)).length ≤ fuel)
    (read : scanMembers fuel (memberTexts ((key, text) :: back) ++ after) = some (members, rest)) :
    ∃ fuel value others behind later, text.length ≤ fuel ∧
      scan fuel (text ++ behind) = some (value, later) ∧ members = (key, value) :: others := by
  obtain ⟨behind, starts, fits⟩ := memberTexts_starts key text back after
  rw [length_memberText] at fits
  obtain ⟨fuel, rfl⟩ : ∃ less, fuel = less + 1 := ⟨fuel - 1, by omega⟩
  rw [starts, scanMembers_memberText plain, Option.bind_eq_bind, Option.bind_eq_some_iff] at read
  obtain ⟨⟨value, later⟩, scanned, read⟩ := read
  refine ⟨fuel, value, ?_⟩
  dsimp only at read
  split_ifs at read
  · obtain ⟨others, -, read⟩ := Option.bind_eq_some_iff.mp read
    have same := (Prod.ext_iff.mp (Option.some.inj read)).1
    exact ⟨others.1, behind, later, by omega, scanned, same.symm⟩
  · obtain ⟨rest, -, read⟩ := Option.bind_eq_some_iff.mp read
    have same := (Prod.ext_iff.mp (Option.some.inj read)).1
    exact ⟨[], behind, later, by omega, scanned, same.symm⟩

/-- So has a member behind members that are written out. -/
theorem exists_member_of_scanMembers (shows : List.Forall₂ Shows front written)
    (plain : Plain key) (enough : (memberTexts (front ++ (key, text) :: back)).length ≤ fuel)
    (read : scanMembers fuel (memberTexts (front ++ (key, text) :: back) ++ after) =
      some (members, rest)) :
    ∃ fuel value others behind later, text.length ≤ fuel ∧
      scan fuel (text ++ behind) = some (value, later) ∧
      members = written ++ (key, value) :: others := by
  induction shows generalizing fuel members with
  | nil => exact exists_first_of_scanMembers plain enough read
  | @cons shown member front written first others induction =>
      obtain ⟨next, more, split⟩ : ∃ next more, front ++ (key, text) :: back = next :: more :=
        List.exists_cons_of_ne_nil (by simp)
      rw [List.cons_append, split, length_memberTexts_cons, length_memberText] at enough
      obtain ⟨fuel, rfl⟩ : ∃ less, fuel = less + 1 := ⟨fuel - 1, by omega⟩
      rw [List.cons_append, split, scanMembers_cons first _ _ _ (by omega),
        Option.map_eq_some_iff] at read
      obtain ⟨⟨others, last⟩, read, same⟩ := read
      obtain ⟨rfl, rfl⟩ := Prod.ext_iff.mp same
      rw [← split] at read enough
      obtain ⟨fuel, value, others, behind, later, enough, scanned, rfl⟩ :=
        @induction fuel others (by omega) read
      exact ⟨fuel, value, others, behind, later, enough, scanned, rfl⟩

/-- And so has a member of an object. -/
theorem exists_member_of_scan (shows : List.Forall₂ Shows front written) (plain : Plain key)
    (enough : (objectText (front ++ (key, text) :: back)).length ≤ fuel)
    (read : scan fuel (objectText (front ++ (key, text) :: back) ++ after) = some (tree, rest)) :
    ∃ fuel value others behind later, text.length ≤ fuel ∧
      scan fuel (text ++ behind) = some (value, later) ∧
      tree = .object (written ++ (key, value) :: others) := by
  rw [objectText, List.length_cons, List.length_append] at enough
  obtain ⟨fuel, rfl⟩ : ∃ less, fuel = less + 1 := ⟨fuel - 1, by omega⟩
  rw [scan_objectText (by simp), Option.map_eq_some_iff] at read
  obtain ⟨⟨members, last⟩, read, same⟩ := read
  obtain ⟨rfl, rfl⟩ := Prod.ext_iff.mp same
  obtain ⟨fuel, value, others, behind, later, enough, scanned, rfl⟩ :=
    exists_member_of_scanMembers shows plain (by omega) read
  exact ⟨fuel, value, others, behind, later, enough, scanned, rfl⟩

/-- A string is read as what it stands for. -/
theorem scan_quoted (enough : (quoted body).length ≤ fuel)
    (read : scan fuel (quoted body ++ after) = some (tree, rest)) :
    ∃ decoded, tree = .text decoded ∧ scanQuoted (quoted body ++ after) = some (decoded, rest) := by
  obtain ⟨fuel, rfl⟩ : ∃ less, fuel = less + 1 :=
    ⟨fuel - 1, by rw [quoted, List.length_cons] at enough; omega⟩
  have starts : skip (quoted body ++ after) = quoted body ++ after := by
    simp [quoted, skip, isSpace]
  rw [scan, starts, if_neg (by simp [quoted]), if_neg (by simp [quoted]), scanLeaf,
    if_pos (by simp [quoted]), Option.map_eq_some_iff] at read
  obtain ⟨⟨decoded, last⟩, scanned, same⟩ := read
  obtain ⟨rfl, rfl⟩ := Prod.ext_iff.mp same
  exact ⟨decoded, rfl, scanned⟩

theorem scan_of_parse (parsed : parse text = some tree) :
    ∃ rest, scan text.length text = some (tree, rest) := by
  rw [parse, Option.bind_eq_bind, Option.bind_eq_some_iff] at parsed
  obtain ⟨⟨value, rest⟩, scanned, parsed⟩ := parsed
  split_ifs at parsed
  obtain rfl := Option.some.inj parsed
  exact ⟨rest, scanned⟩

/-! ## Strings that stand for themselves -/

/-- What is spelled out is no shorter than what it stands for, and has no more quotes; where it is
just as long, it is the same and needs no escapes. -/
structure Spelled (spelled decoded : List UInt8) : Prop where
  length : decoded.length ≤ spelled.length
  same : decoded.length = spelled.length → spelled = decoded ∧ Plain spelled
  quotes : spelled.count 34 ≤ decoded.count 34

theorem Spelled.append {first second decoded later : List UInt8} (early : Spelled first decoded)
    (late : Spelled second later) : Spelled (first ++ second) (decoded ++ later) where
  length := by
    rw [List.length_append, List.length_append]
    exact Nat.add_le_add early.length late.length
  same equal := by
    rw [List.length_append, List.length_append] at equal
    have shorter := early.length
    have shorter' := late.length
    obtain ⟨rfl, plain⟩ := early.same (by omega)
    obtain ⟨rfl, plain'⟩ := late.same (by omega)
    exact ⟨rfl, fun byte listed => (List.mem_append.mp listed).elim (plain byte) (plain' byte)⟩
  quotes := by
    rw [List.count_append, List.count_append]
    exact Nat.add_le_add early.quotes late.quotes

/-- No digit of a number behind a backslash is a quote. -/
theorem mem_of_mapM_hexDigit {values : List Nat} (read : digits.mapM hexDigit = some values) :
    34 ∉ digits := by
  induction digits generalizing values with
  | nil => exact List.not_mem_nil
  | cons digit digits induction =>
      rw [List.mapM_cons, Option.bind_eq_bind, Option.bind_eq_some_iff] at read
      obtain ⟨value, first, read⟩ := read
      obtain ⟨others, rest, -⟩ := Option.bind_eq_some_iff.mp read
      rw [List.mem_cons, not_or]
      refine ⟨?_, induction rest⟩
      rintro rfl
      exact nomatch first

theorem length_encode_le {code : Nat} (encoded : encode code = some bytes) : bytes.length ≤ 4 := by
  rw [encode] at encoded
  split_ifs at encoded
  obtain rfl := Option.some.inj encoded
  rw [String.length_utf8EncodeChar]
  exact Char.utf8Size_le_four _

/-- Fewer bytes than they are spelled out with. -/
theorem Spelled.of_length_lt {spelled : List UInt8} (shorter : decoded.length < spelled.length)
    (quotes : spelled.count 34 ≤ decoded.count 34) : Spelled spelled decoded where
  length := shorter.le
  same equal := absurd equal shorter.ne
  quotes := quotes

theorem scanEscape_spelled (read : scanEscape text = some (decoded, rest)) :
    ∃ spelled, text = spelled ++ rest ∧ Spelled (92 :: spelled) decoded := by
  rw [scanEscape.eq_def] at read
  split at read
  case h_9 first second third fourth rest' =>
      obtain ⟨values, digits, read⟩ := Option.bind_eq_some_iff.mp read
      obtain ⟨bytes, encoded, read⟩ := Option.bind_eq_some_iff.mp read
      obtain ⟨rfl, rfl⟩ := Prod.ext_iff.mp (Option.some.inj read)
      have short := length_encode_le encoded
      have none : List.count 34 (92 :: [117, first, second, third, fourth]) = 0 := by
        rw [List.count_eq_zero]
        simpa using mem_of_mapM_hexDigit digits
      exact ⟨[117, first, second, third, fourth], rfl, .of_length_lt (by simpa using by omega)
        (none.trans_le (Nat.zero_le _))⟩
  case h_10 => contradiction
  all_goals
    obtain ⟨rfl, rfl⟩ := Prod.ext_iff.mp (Option.some.inj read)
    exact ⟨[_], rfl, .of_length_lt (by simp) (by simp)⟩

/-- A backslash and what it stands with, or a byte that stands for itself. -/
theorem scanUnit_spelled (read : scanUnit text = some (decoded, rest)) :
    ∃ spelled, text = spelled ++ rest ∧ Spelled spelled decoded := by
  cases text with
  | nil => exact nomatch read
  | cons byte others =>
      rw [scanUnit] at read
      split_ifs at read with backslash special
      · obtain ⟨spelled, rfl, spells⟩ := scanEscape_spelled read
        exact ⟨92 :: spelled, by rw [backslash, List.cons_append], spells⟩
      · obtain ⟨rfl, rfl⟩ := Prod.ext_iff.mp (Option.some.inj read)
        rw [not_or] at special
        exact ⟨[byte], rfl, le_rfl, fun _ => ⟨rfl, by
          simpa [Plain, backslash, special.1] using special.2⟩, le_rfl⟩

/-- A string is spelled out up to the first quote that is not part of an escape. -/
theorem scanString_spelled (read : scanString fuel text = some (decoded, rest)) :
    ∃ spelled, text = spelled ++ 34 :: rest ∧ Spelled spelled decoded := by
  induction fuel generalizing text decoded with
  | zero => contradiction
  | succ fuel induction =>
      rw [scanString] at read
      split_ifs at read with quote
      · obtain ⟨others, rfl⟩ := List.head?_eq_some_iff.mp quote
        obtain ⟨rfl, rfl⟩ := Prod.ext_iff.mp (Option.some.inj read)
        exact ⟨[], rfl, le_rfl, fun _ => ⟨rfl, List.forall_mem_nil _⟩, le_rfl⟩
      · obtain ⟨⟨unit, others⟩, first, read⟩ := Option.bind_eq_some_iff.mp read
        obtain ⟨⟨later, last⟩, second, read⟩ := Option.bind_eq_some_iff.mp read
        obtain ⟨rfl, rfl⟩ := Prod.ext_iff.mp (Option.some.inj read)
        obtain ⟨front, rfl, early⟩ := scanUnit_spelled first
        obtain ⟨back, rfl, late⟩ : ∃ back, others = back ++ 34 :: last ∧ Spelled back later :=
          induction second
        exact ⟨front ++ back, (List.append_assoc ..).symm, early.append late⟩

/-- A string that is read as its own body needs no escapes. If it went on behind the body, the quote
there would be part of an escape, and the string would have more quotes than the body. -/
theorem plain_of_scanQuoted (read : scanQuoted (quoted body ++ after) = some (body, rest)) :
    Plain body := by
  have starts : quoted body ++ after = 34 :: (body ++ 34 :: after) := by simp [quoted]
  rw [starts, scanQuoted, expect_cons] at read
  obtain ⟨spelled, split, spells⟩ := scanString_spelled read
  obtain ⟨more, rfl⟩ : body <+: spelled :=
    List.prefix_of_prefix_length_le (List.prefix_append body (34 :: after))
      ⟨34 :: rest, split.symm⟩ spells.length
  cases more with
  | nil =>
      rw [List.append_nil] at spells
      exact (spells.same rfl).2
  | cons byte more =>
      rw [List.append_assoc] at split
      obtain ⟨rfl, -⟩ := List.cons.inj (List.append_cancel_left split)
      have quotes := spells.quotes
      rw [List.count_append, List.count_cons_self] at quotes
      omega

/-! ## Encoding -/

theorem valid_quoted_iff : Utf8.Valid (quoted body) ↔ Utf8.Valid body := by
  have quote : Utf8.Valid [34] := Utf8.valid_singleton (by decide)
  rw [quoted, ← List.singleton_append, Utf8.valid_append_iff quote,
    Utf8.valid_append_right_iff quote]

/-- A member is a text if its value is one. -/
theorem valid_memberText_iff (valid : Utf8.Valid key) :
    Utf8.Valid (memberText key text) ↔ Utf8.Valid text := by
  have colon : Utf8.Valid [58] := Utf8.valid_singleton (by decide)
  rw [memberText, Utf8.valid_append_iff (valid_quoted_iff.mpr valid), ← List.singleton_append,
    Utf8.valid_append_iff colon]

theorem valid_cons_iff (small : byte < 128) : Utf8.Valid (byte :: text) ↔ Utf8.Valid text := by
  rw [← List.singleton_append, Utf8.valid_append_iff (Utf8.valid_singleton small)]

theorem valid_memberTexts (valid : ∀ shown ∈ front, Utf8.Valid shown.1 ∧ Utf8.Valid shown.2) :
    Utf8.Valid (memberTexts front) := by
  induction front with
  | nil => exact Utf8.valid_nil
  | cons shown front induction =>
      rw [List.forall_mem_cons] at valid
      have first := (valid_memberText_iff valid.1.1).mpr valid.1.2
      cases front with
      | nil => exact first
      | cons next front =>
          rw [memberTexts, Utf8.valid_append_iff first, valid_cons_iff (by decide)]
          exact induction valid.2

theorem valid_objectText (valid : ∀ shown ∈ front, Utf8.Valid shown.1 ∧ Utf8.Valid shown.2) :
    Utf8.Valid (objectText front) := by
  have brace : Utf8.Valid [125] := Utf8.valid_singleton (by decide)
  rw [objectText, valid_cons_iff (by decide), Utf8.valid_append_right_iff brace]
  exact valid_memberTexts valid

/-- Among members that are texts, one more is judged by itself. -/
theorem valid_objectText_iff (before : ∀ shown ∈ front, Utf8.Valid shown.1 ∧ Utf8.Valid shown.2)
    (behind : ∀ shown ∈ back, Utf8.Valid shown.1 ∧ Utf8.Valid shown.2)
    (valid : Utf8.Valid key) :
    Utf8.Valid (objectText (front ++ (key, text) :: back)) ↔ Utf8.Valid text := by
  have brace : Utf8.Valid [125] := Utf8.valid_singleton (by decide)
  rw [objectText, valid_cons_iff (by decide), Utf8.valid_append_right_iff brace]
  induction front with
  | nil =>
      cases back with
      | nil => exact valid_memberText_iff valid
      | cons next back =>
          have rest : Utf8.Valid (44 :: memberTexts (next :: back)) :=
            (valid_cons_iff (by decide)).mpr (valid_memberTexts behind)
          rw [List.nil_append, memberTexts, Utf8.valid_append_right_iff rest]
          exact valid_memberText_iff valid
  | cons shown front induction =>
      rw [List.forall_mem_cons] at before
      have first := (valid_memberText_iff before.1.1).mpr before.1.2
      obtain ⟨next, more, split⟩ : ∃ next more, front ++ (key, text) :: back = next :: more :=
        List.exists_cons_of_ne_nil (by simp)
      have later := induction before.2
      rw [split] at later
      rw [List.cons_append, split, memberTexts, Utf8.valid_append_iff first,
        valid_cons_iff (by decide)]
      exact later

theorem valid_arrayText (valid : ∀ text ∈ texts, Utf8.Valid text) :
    Utf8.Valid (arrayText texts) := by
  have bracket : Utf8.Valid [93] := Utf8.valid_singleton (by decide)
  rw [arrayText, valid_cons_iff (by decide), Utf8.valid_append_right_iff bracket]
  cases texts with
  | nil => exact Utf8.valid_nil
  | cons text texts =>
      rw [List.forall_mem_cons] at valid
      rw [elementTexts, Utf8.valid_append_iff valid.1]
      induction texts with
      | nil => exact Utf8.valid_nil
      | cons next texts induction =>
          rw [List.forall_mem_cons] at valid
          rw [List.flatMap_cons, List.cons_append, valid_cons_iff (by decide),
            Utf8.valid_append_iff valid.2.1]
          exact induction ⟨valid.1, valid.2.2⟩

end JsonTree
