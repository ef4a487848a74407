import Mathlib.Data.List.TakeWhile
import Mathlib.Data.List.Chain

/-!
# Markup

A reader of tags and of the texts between them, on bytes. Values of attributes are in quotes of
either kind; values and texts are decoded. A writer that encodes them so that neither an apostrophe
nor the start of a tag is left is read back.
-/

namespace Markup

/-- A tag, or a text. An attribute may come without a value. -/
inductive Token
  | opening (name : List UInt8) (attributes : List (List UInt8 × Option (List UInt8)))
  | closing (name : List UInt8)
  | text (content : List UInt8)
  deriving DecidableEq

/-! ## Reading -/

/-- Letters, digits and dashes. -/
def isName (byte : UInt8) : Bool :=
  (97 ≤ byte && byte ≤ 122) || (65 ≤ byte && byte ≤ 90) || (48 ≤ byte && byte ≤ 57) || byte == 45

def isSpace (byte : UInt8) : Bool :=
  byte == 32 || byte == 9 || byte == 10 || byte == 12 || byte == 13

section

variable (decode : List UInt8 → List UInt8)

/-- The attributes up to the end of a tag, and what follows it. -/
def readAttributes : Nat → List UInt8 →
    Option (List (List UInt8 × Option (List UInt8)) × List UInt8)
  | 0, _ => none
  | fuel + 1, spaced =>
      let text := spaced.dropWhile isSpace
      let name := text.takeWhile isName
      let rest := text.drop name.length
      if text.head? = some 62 then some ([], text.tail)
      else if name = [] then none
      else if rest.head? = some 61 then
        match rest.tail with
        | [] => none
        | quote :: body =>
            let value := body.takeWhile (· != quote)
            if quote ≠ 34 ∧ quote ≠ 39 then none
            else if value = body then none
            else
              (readAttributes fuel (body.drop (value.length + 1))).map fun others =>
                ((name, some (decode value)) :: others.1, others.2)
      else (readAttributes fuel rest).map fun others => ((name, none) :: others.1, others.2)

/-- The tags and the texts, to the end. -/
def readTokens : Nat → List UInt8 → Option (List Token)
  | 0, _ => none
  | _ + 1, [] => some []
  | fuel + 1, first :: rest =>
      if first = 60 then
        if rest.head? = some 47 then
          let name := rest.tail.takeWhile isName
          let after := rest.tail.drop name.length
          if name = [] ∨ after.head? ≠ some 62 then none
          else (readTokens fuel after.tail).map (.closing name :: ·)
        else
          let name := rest.takeWhile isName
          if name = [] then none
          else do
            let attributes ← readAttributes decode rest.length (rest.drop name.length)
            (readTokens fuel attributes.2).map (.opening name attributes.1 :: ·)
      else
        let content := (first :: rest).takeWhile (· != 60)
        (readTokens fuel ((first :: rest).drop content.length)).map (.text (decode content) :: ·)

/-- The tags and the texts that the markup consists of. -/
def read (markup : List UInt8) : Option (List Token) := readTokens decode (markup.length + 1) markup

end

/-! ## Writing -/

section

variable (encode : List UInt8 → List UInt8)

/-- An attribute, with a space in front. -/
def writeAttribute (pair : List UInt8 × Option (List UInt8)) : List UInt8 :=
  32 :: (pair.1 ++
    match pair.2 with
    | some value => 61 :: 39 :: (encode value ++ [39])
    | none => [])

/-- A tag or a text, in its written form. -/
def write : Token → List UInt8
  | .opening name attributes => 60 :: (name ++ (attributes.flatMap (writeAttribute encode) ++ [62]))
  | .closing name => 60 :: 47 :: (name ++ [62])
  | .text content => encode content

end

/-- The name of a tag or of an attribute. -/
def Name (name : List UInt8) : Prop := name ≠ [] ∧ ∀ byte ∈ name, isName byte = true

instance : DecidablePred Name := fun name =>
  inferInstanceAs (Decidable (name ≠ [] ∧ ∀ byte ∈ name, isName byte = true))

/-- Names are names, and a text is not empty. -/
def Token.WellFormed : Token → Prop
  | opening name attributes => Name name ∧ ∀ pair ∈ attributes, Name pair.1
  | closing name => Name name
  | text content => content ≠ []

/-- One of two tokens in a row is a tag. -/
def Token.Apart : Token → Token → Prop
  | text _, text _ => False
  | _, _ => True

/-- An encoding that neither an apostrophe nor the start of a tag survives, and that is undone. -/
structure Safe (encode decode : List UInt8 → List UInt8) : Prop where
  inverse : ∀ text, decode (encode text) = text
  empty : ∀ text, encode text = [] → text = []
  apostrophe : ∀ text, 39 ∉ encode text
  tag : ∀ text, 60 ∉ encode text

/-! ## What is written is read -/

variable {encode decode : List UInt8 → List UInt8} {name rest content : List UInt8}
  {attributes : List (List UInt8 × Option (List UInt8))} {fuel : Nat} {first : UInt8}

theorem takeWhile_name (named : Name name) (ends : isName first = false) :
    (name ++ first :: rest).takeWhile isName = name := by
  rw [List.takeWhile_append_of_pos named.2, List.takeWhile_cons_of_neg (by simp [ends]),
    List.append_nil]

theorem Name.head_ne (named : Name name) (other : isName first = false) :
    (name ++ rest).head? ≠ some first := by
  obtain ⟨nonempty, all⟩ := named
  obtain ⟨byte, others, rfl⟩ := List.exists_cons_of_ne_nil nonempty
  intro starts
  obtain rfl : byte = first := by simpa using starts
  rw [all byte List.mem_cons_self] at other
  contradiction

theorem isSpace_of_isName (letter : isName first = true) : isSpace first = false := by
  grind [isName, isSpace]

theorem dropWhile_space (named : Name name) :
    (32 :: (name ++ rest)).dropWhile isSpace = name ++ rest := by
  obtain ⟨nonempty, all⟩ := named
  obtain ⟨byte, others, rfl⟩ := List.exists_cons_of_ne_nil nonempty
  have solid := isSpace_of_isName (all byte List.mem_cons_self)
  have space : isSpace 32 = true := rfl
  simp [space, solid]

theorem takeWhile_ne {stop : UInt8} (absent : stop ∉ content) :
    (content ++ stop :: rest).takeWhile (· != stop) = content := by
  have all : ∀ byte ∈ content, (byte != stop) = true := by
    intro byte member
    simpa using ne_of_mem_of_not_mem member absent
  rw [List.takeWhile_append_of_pos all]
  simp

theorem writeAttribute_append (pair : List UInt8 × Option (List UInt8)) (rest : List UInt8) :
    writeAttribute encode pair ++ rest = 32 :: (pair.1 ++
      match pair.2 with
      | some value => 61 :: 39 :: (encode value ++ 39 :: rest)
      | none => rest) := by
  rw [writeAttribute]
  cases pair.2 <;> simp

/-- A value ends with the apostrophe behind it. -/
theorem readAttributes_value (safe : Safe encode decode) (named : Name name) (fuel : Nat)
    (value rest : List UInt8) :
    readAttributes decode (fuel + 1) (32 :: (name ++ 61 :: 39 :: (encode value ++ 39 :: rest))) =
      (readAttributes decode fuel rest).map fun others =>
        ((name, some value) :: others.1, others.2) := by
  have taken : (name ++ 61 :: 39 :: (encode value ++ 39 :: rest)).takeWhile isName = name :=
    takeWhile_name named rfl
  have inside : (encode value ++ 39 :: rest).takeWhile (· != 39) = encode value :=
    takeWhile_ne (safe.apostrophe value)
  have closed : encode value ≠ encode value ++ 39 :: rest := by simp
  have behind : (encode value ++ 39 :: rest).drop ((encode value).length + 1) = rest := by
    rw [← List.drop_drop, List.drop_left, List.drop_one, List.tail_cons]
  rw [readAttributes, dropWhile_space named, if_neg (named.head_ne rfl), taken, if_neg named.1,
    List.drop_left]
  simp [inside, closed, behind, safe.inverse]

theorem readAttributes_bare (named : Name name) (fuel : Nat) (ends : isName first = false)
    (bare : first ≠ 61) :
    readAttributes decode (fuel + 1) (32 :: (name ++ first :: rest)) =
      (readAttributes decode fuel (first :: rest)).map fun others =>
        ((name, none) :: others.1, others.2) := by
  have noBracket : (name ++ first :: rest).head? ≠ some 62 := named.head_ne rfl
  rw [readAttributes, dropWhile_space named, if_neg noBracket, takeWhile_name named ends,
    if_neg named.1, List.drop_left, if_neg (by simpa using bare)]

/-- Attributes are read up to the end of the tag. -/
theorem readAttributes_write (safe : Safe encode decode)
    (named : ∀ pair ∈ attributes, Name pair.1) (enough : attributes.length < fuel) :
    readAttributes decode fuel (attributes.flatMap (writeAttribute encode) ++ 62 :: rest) =
      some (attributes, rest) := by
  induction attributes generalizing fuel with
  | nil =>
      obtain ⟨fuel, rfl⟩ : ∃ less, fuel = less + 1 := ⟨fuel - 1, by omega⟩
      have solid : (62 :: rest).dropWhile isSpace = 62 :: rest := by simp [isSpace]
      rw [List.flatMap_nil, List.nil_append, readAttributes, solid]
      rfl
  | cons pair attributes induction =>
      rw [List.length_cons] at enough
      obtain ⟨fuel, rfl⟩ : ∃ less, fuel = less + 1 := ⟨fuel - 1, by omega⟩
      rw [List.forall_mem_cons] at named
      obtain ⟨first, others⟩ := named
      have later := @induction fuel others (by omega)
      obtain ⟨name, value⟩ := pair
      rw [List.flatMap_cons, List.append_assoc, writeAttribute_append]
      cases value with
      | some value =>
          dsimp only
          rw [readAttributes_value safe first, later]
          rfl
      | none =>
          -- Behind the name comes the space of the next attribute, or the end of the tag.
          obtain ⟨byte, more, split, ends, bare⟩ : ∃ byte more,
              attributes.flatMap (writeAttribute encode) ++ 62 :: rest = byte :: more ∧
                isName byte = false ∧ byte ≠ 61 := by
            cases attributes with
            | nil => exact ⟨62, rest, rfl, rfl, by decide⟩
            | cons next attributes => exact ⟨32, _, rfl, rfl, by decide⟩
          rw [split] at later ⊢
          dsimp only
          rw [readAttributes_bare first fuel ends bare, later]
          rfl

theorem length_le_flatMap (attributes : List (List UInt8 × Option (List UInt8))) :
    attributes.length ≤ (attributes.flatMap (writeAttribute encode)).length := by
  induction attributes with
  | nil => rfl
  | cons pair attributes induction =>
      rw [List.flatMap_cons, List.length_append, List.length_cons, writeAttribute,
        List.length_cons]
      omega

theorem readTokens_opening (safe : Safe encode decode) (named : Name name)
    (each : ∀ pair ∈ attributes, Name pair.1) (fuel : Nat) (rest : List UInt8) :
    readTokens decode (fuel + 1) (write encode (.opening name attributes) ++ rest) =
      (readTokens decode fuel rest).map (.opening name attributes :: ·) := by
  have written : write encode (.opening name attributes) ++ rest =
      60 :: (name ++ (attributes.flatMap (writeAttribute encode) ++ 62 :: rest)) := by
    simp [write]
  have taken : (name ++ (attributes.flatMap (writeAttribute encode) ++ 62 :: rest)).takeWhile
      isName = name := by
    cases attributes with
    | nil => exact takeWhile_name named rfl
    | cons pair attributes => exact takeWhile_name named rfl
  have noSlash : (name ++ (attributes.flatMap (writeAttribute encode) ++ 62 :: rest)).head? ≠
      some 47 := named.head_ne rfl
  have enough : attributes.length <
      (name ++ (attributes.flatMap (writeAttribute encode) ++ 62 :: rest)).length := by
    have each := @length_le_flatMap encode attributes
    simp only [List.length_append, List.length_cons]
    omega
  rw [written, readTokens, if_pos rfl, if_neg noSlash, taken, if_neg named.1, List.drop_left,
    readAttributes_write safe each enough]
  rfl

theorem readTokens_closing (named : Name name) (fuel : Nat) (rest : List UInt8) :
    readTokens decode (fuel + 1) (write encode (.closing name) ++ rest) =
      (readTokens decode fuel rest).map (.closing name :: ·) := by
  have written : write encode (.closing name) ++ rest = 60 :: 47 :: (name ++ 62 :: rest) := by
    simp [write]
  have taken : (name ++ 62 :: rest).takeWhile isName = name := takeWhile_name named rfl
  rw [written, readTokens, if_pos rfl, List.head?_cons, if_pos rfl, List.tail_cons]
  dsimp only
  rw [taken, List.drop_left, if_neg (by simp [named.1])]
  rfl

/-- A text ends where the next tag starts. -/
theorem readTokens_text (safe : Safe encode decode) (nonempty : content ≠ []) (fuel : Nat)
    (ends : ∀ byte ∈ rest.head?, byte = 60) :
    readTokens decode (fuel + 1) (write encode (.text content) ++ rest) =
      (readTokens decode fuel rest).map (.text content :: ·) := by
  obtain ⟨first, others, split⟩ := List.exists_cons_of_ne_nil fun empty =>
    nonempty (safe.empty content empty)
  have noTag := safe.tag content
  have taken : (encode content ++ rest).takeWhile (· != 60) = encode content := by
    cases rest with
    | nil =>
        rw [List.append_nil, List.takeWhile_eq_self_iff]
        exact fun byte member => by simpa using ne_of_mem_of_not_mem member noTag
    | cons byte rest =>
        obtain rfl := ends byte rfl
        exact takeWhile_ne noTag
  have different : first ≠ 60 := by
    rintro rfl
    exact noTag (by simp [split])
  have written : write encode (.text content) ++ rest = first :: (others ++ rest) := by
    rw [write, split, List.cons_append]
  have whole : first :: (others ++ rest) = encode content ++ rest := by
    rw [split, List.cons_append]
  rw [written, readTokens, if_neg different, whole, taken]
  dsimp only
  rw [List.drop_left, safe.inverse]

theorem head_write (token : Token) (tag : ∀ content, token ≠ .text content) :
    ∀ byte ∈ (write encode token ++ rest).head?, byte = 60 := by
  cases token with
  | text content => exact absurd rfl (tag content)
  | opening name attributes => simp [write]
  | closing name => simp [write]

theorem readTokens_write (safe : Safe encode decode) {tokens : List Token}
    (wellFormed : ∀ token ∈ tokens, token.WellFormed) (apart : tokens.IsChain Token.Apart)
    (enough : tokens.length < fuel) :
    readTokens decode fuel (tokens.flatMap (write encode)) = some tokens := by
  induction tokens generalizing fuel with
  | nil =>
      obtain ⟨fuel, rfl⟩ : ∃ less, fuel = less + 1 := ⟨fuel - 1, by omega⟩
      rfl
  | cons token tokens induction =>
      rw [List.length_cons] at enough
      obtain ⟨fuel, rfl⟩ : ∃ less, fuel = less + 1 := ⟨fuel - 1, by omega⟩
      rw [List.forall_mem_cons] at wellFormed
      obtain ⟨first, others⟩ := wellFormed
      have later := @induction fuel others apart.tail (by omega)
      rw [List.flatMap_cons]
      cases token with
      | opening name attributes =>
          rw [readTokens_opening safe first.1 first.2, later]
          rfl
      | closing name =>
          rw [readTokens_closing first, later]
          rfl
      | text content =>
          have ends : ∀ byte ∈ (tokens.flatMap (write encode)).head?, byte = 60 := by
            cases tokens with
            | nil => exact fun _ listed => nomatch listed
            | cons next tokens =>
                refine head_write next ?_
                rintro content rfl
                exact apart.rel
          rw [readTokens_text safe first fuel ends, later]
          rfl

/-- Tokens that are written out are read back. -/
theorem read_write (safe : Safe encode decode) {tokens : List Token}
    (wellFormed : ∀ token ∈ tokens, token.WellFormed) (apart : tokens.IsChain Token.Apart) :
    read decode (tokens.flatMap (write encode)) = some tokens := by
  refine readTokens_write safe wellFormed apart (Nat.lt_succ_of_le ?_)
  clear apart
  induction tokens with
  | nil => rfl
  | cons token tokens induction =>
      rw [List.forall_mem_cons] at wellFormed
      have later := induction wellFormed.2
      have some_bytes : 0 < (write encode token).length := by
        cases token with
        | opening name attributes => simp [write]
        | closing name => simp [write]
        | text content =>
            exact List.length_pos_of_ne_nil fun empty => wellFormed.1 (safe.empty content empty)
      rw [List.flatMap_cons, List.length_append, List.length_cons]
      omega

/-- Tokens that may stand in front of any others: names are names, and the last one is a tag. -/
structure Closed (tokens : List Token) : Prop where
  wellFormed : ∀ token ∈ tokens, token.WellFormed
  apart : tokens.IsChain Token.Apart
  last : ∀ token ∈ tokens.getLast?, ∀ next, token.Apart next

theorem Closed.nil : Closed [] where
  wellFormed _ listed := nomatch listed
  apart := .nil
  last _ listed := nomatch listed

theorem Closed.append {first second : List Token} (early : Closed first) (late : Closed second) :
    Closed (first ++ second) where
  wellFormed token listed :=
    (List.mem_append.mp listed).elim (early.wellFormed token) (late.wellFormed token)
  apart := List.isChain_append.mpr
    ⟨early.apart, late.apart, fun token ends next _ => early.last token ends next⟩
  last token ends := by
    rw [List.getLast?_append, Option.mem_def, Option.or_eq_some_iff] at ends
    rcases ends with ends | ⟨-, ends⟩
    · exact late.last token ends
    · exact early.last token ends

theorem Closed.flatMap {α : Type*} {parts : α → List Token} {elements : List α}
    (each : ∀ element ∈ elements, Closed (parts element)) : Closed (elements.flatMap parts) := by
  induction elements with
  | nil => exact .nil
  | cons element elements induction =>
      rw [List.forall_mem_cons] at each
      exact each.1.append (induction each.2)

end Markup
