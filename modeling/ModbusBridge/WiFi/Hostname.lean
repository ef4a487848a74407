import Mathlib.Tactic.Tauto
import ModbusBridge.Configuration.Config

/-!
# The hostname

The configured hostname is reduced to letters, digits and dashes, and loses one dash at either end.
-/

namespace ModbusBridge

/-- `-`. -/
abbrev dash : UInt8 := 45

/-- The bytes that a hostname may have: `a` to `z`, `0` to `9` and the dash. -/
def isHostnameByte (byte : UInt8) : Bool :=
  (97 ≤ byte && byte ≤ 122) || (48 ≤ byte && byte ≤ 57) || byte == dash

/-- The configured hostname in lower case, with dashes for blanks and underscores and without any
other character. -/
def cleanHostname (hostname : Bytes) : Bytes :=
  let hostname := toLowerCase hostname
  let hostname := hostname.map fun byte => if byte = 32 then dash else byte
  let hostname := hostname.map fun byte => if byte = 95 then dash else byte
  hostname.filter isHostnameByte

/-- Without the first character, if it is a dash. -/
def withoutFirstDash (hostname : Bytes) : Bytes :=
  if [dash].isPrefixOf hostname then hostname.drop 1 else hostname

/-- Without the last character, if it is a dash. -/
def withoutLastDash (hostname : Bytes) : Bytes :=
  if [dash].isSuffixOf hostname then hostname.take (hostname.length - 1) else hostname

/-- `WiFiManager::getHostname`. -/
def getHostname (lib : ArduinoJson) (config : Config) : Bytes :=
  let hostname := config.getString lib (ascii "hostname") (ascii "modbusbridge")
  let clean := cleanHostname hostname
  let clean := if clean = [] then ascii "modbusbridge" else clean
  withoutLastDash (withoutFirstDash clean)

/-- A label that DHCP and mDNS can use. -/
structure UsableLabel (label : Bytes) : Prop where
  nonempty : label ≠ []
  bytes : ∀ byte ∈ label, isHostnameByte byte = true
  first : label.head? ≠ some dash
  last : label.getLast? ≠ some dash

/-! ## The two cuts -/

section

variable {hostname : Bytes}

theorem withoutFirstDash_cons (byte : UInt8) (rest : Bytes) :
    withoutFirstDash (byte :: rest) = if byte = dash then rest else byte :: rest := by
  by_cases isDash : byte = dash
  · simp [withoutFirstDash, isDash]
  · simp [withoutFirstDash, isDash, Ne.symm isDash]

/-- The second cut is the first one from behind. -/
theorem withoutLastDash_eq (hostname : Bytes) :
    withoutLastDash hostname = (withoutFirstDash hostname.reverse).reverse := by
  rcases List.eq_nil_or_concat hostname with rfl | ⟨rest, byte, rfl⟩
  · rfl
  · rw [List.concat_eq_append, List.reverse_append, List.reverse_singleton, List.singleton_append,
      withoutFirstDash_cons]
    by_cases isDash : byte = dash
    · simp [withoutLastDash, List.isSuffixOf, isDash]
    · simp [withoutLastDash, List.isSuffixOf, isDash, Ne.symm isDash]

theorem withoutFirstDash_sublist (hostname : Bytes) :
    (withoutFirstDash hostname).Sublist hostname := by
  rw [withoutFirstDash]
  split_ifs
  · exact List.drop_sublist _ _
  · exact .refl _

theorem withoutLastDash_sublist (hostname : Bytes) :
    (withoutLastDash hostname).Sublist hostname := by
  rw [withoutLastDash]
  split_ifs
  · exact List.take_sublist _ _
  · exact .refl _

theorem withoutFirstDash_head : (withoutFirstDash hostname).head? = some dash ↔
    [dash, dash] <+: hostname := by
  cases hostname with
  | nil => simp [withoutFirstDash]
  | cons byte rest =>
      rw [withoutFirstDash_cons]
      split_ifs with isDash
      · cases rest <;> simp [isDash, eq_comm]
      · simp [isDash, eq_comm]

theorem withoutFirstDash_eq_nil : withoutFirstDash hostname = [] ↔
    hostname = [] ∨ hostname = [dash] := by
  cases hostname with
  | nil => simp [withoutFirstDash]
  | cons byte rest =>
      rw [withoutFirstDash_cons]
      split_ifs with isDash <;> simp [isDash]

/-- The first cut leaves two dashes at the end, unless there are no others. -/
theorem withoutFirstDash_suffix : [dash, dash] <:+ withoutFirstDash hostname ↔
    [dash, dash] <:+ hostname ∧ hostname ≠ [dash, dash] := by
  cases hostname with
  | nil => simp [withoutFirstDash]
  | cons byte rest =>
      rw [withoutFirstDash_cons]
      split_ifs with isDash
      · subst isDash
        constructor
        · intro ends
          refine ⟨ends.trans (List.suffix_cons _ _), ?_⟩
          rintro ⟨⟩
          exact absurd ends.length_le (by decide)
        · rintro ⟨ends, more⟩
          exact (List.suffix_cons_iff.mp ends).resolve_left (Ne.symm more)
      · refine ⟨fun ends => ⟨ends, ?_⟩, And.left⟩
        rintro ⟨⟩
        exact isDash rfl

theorem withoutFirstDash_getLast : (withoutFirstDash hostname).getLast? = some dash ↔
    hostname.getLast? = some dash ∧ hostname ≠ [dash] := by
  cases hostname with
  | nil => simp [withoutFirstDash]
  | cons byte rest =>
      rw [withoutFirstDash_cons]
      split_ifs with isDash
      · cases rest <;> simp [isDash]
      · simp [isDash]

theorem withoutLastDash_getLast : (withoutLastDash hostname).getLast? = some dash ↔
    [dash, dash] <:+ hostname := by
  rw [withoutLastDash_eq, List.getLast?_reverse, withoutFirstDash_head, ← List.reverse_suffix,
    List.reverse_reverse]
  rfl

theorem withoutLastDash_eq_nil : withoutLastDash hostname = [] ↔
    hostname = [] ∨ hostname = [dash] := by
  rw [withoutLastDash_eq, List.reverse_eq_nil_iff, withoutFirstDash_eq_nil,
    List.reverse_eq_nil_iff, List.reverse_eq_iff]
  rfl

theorem withoutLastDash_head : (withoutLastDash hostname).head? = some dash ↔
    hostname.head? = some dash ∧ hostname ≠ [dash] := by
  rw [withoutLastDash_eq, List.head?_reverse, withoutFirstDash_getLast, List.getLast?_reverse,
    ne_eq, List.reverse_eq_iff]
  rfl

/-- Both cuts leave a usable label of a text with bytes of hostnames, unless there are too many
dashes. -/
theorem usable_cut_iff (bytes : ∀ byte ∈ hostname, isHostnameByte byte = true)
    (nonempty : hostname ≠ []) :
    UsableLabel (withoutLastDash (withoutFirstDash hostname)) ↔
      hostname ≠ [dash] ∧ ¬[dash, dash] <+: hostname ∧ ¬[dash, dash] <:+ hostname := by
  have kept : ∀ byte ∈ withoutLastDash (withoutFirstDash hostname), isHostnameByte byte = true :=
    fun byte member => bytes byte
      (((withoutLastDash_sublist _).trans (withoutFirstDash_sublist _)).subset member)
  have parts : UsableLabel (withoutLastDash (withoutFirstDash hostname)) ↔
      ¬(hostname = [dash] ∨ withoutFirstDash hostname = [dash]) ∧
        ¬([dash, dash] <+: hostname ∧ withoutFirstDash hostname ≠ [dash]) ∧
        ¬([dash, dash] <:+ hostname ∧ hostname ≠ [dash, dash]) := by
    rw [← withoutFirstDash_head, ← withoutFirstDash_suffix, ← withoutLastDash_head,
      ← withoutLastDash_getLast]
    have empty : withoutLastDash (withoutFirstDash hostname) = [] ↔
        hostname = [dash] ∨ withoutFirstDash hostname = [dash] := by
      rw [withoutLastDash_eq_nil, withoutFirstDash_eq_nil]
      simp [nonempty]
    rw [← empty]
    exact ⟨fun usable => ⟨usable.nonempty, usable.first, usable.last⟩,
      fun ⟨notNil, first, last⟩ => ⟨notNil, kept, first, last⟩⟩
  have single : withoutFirstDash hostname = [dash] → [dash, dash] <+: hostname := by
    intro one
    rw [← withoutFirstDash_head, one]
    rfl
  have double : hostname = [dash, dash] → [dash, dash] <+: hostname :=
    fun two => two ▸ List.prefix_rfl
  rw [parts]
  tauto

end

/-! ## What the configured hostname decides -/

/-- A character that becomes a dash: `-`, a blank or `_`. -/
def isSeparator (byte : UInt8) : Bool := byte == dash || byte == 32 || byte == 95

/-- The letters, digits and separators of a configured hostname, told by which are separators. -/
def separators (hostname : Bytes) : List Bool :=
  (hostname.filter fun byte => isAlnum byte || isSeparator byte).map isSeparator

/-- What becomes of a single byte. -/
def hostnameByte (byte : UInt8) : UInt8 :=
  let byte := if 65 ≤ byte ∧ byte ≤ 90 then byte + 32 else byte
  let byte := if byte = 32 then dash else byte
  if byte = 95 then dash else byte

theorem hostnameByte_spec (byte : UInt8) :
    isHostnameByte (hostnameByte byte) = (isAlnum byte || isSeparator byte) ∧
      ((hostnameByte byte == dash) = isSeparator byte) := by
  have every : ∀ value < 256,
      isHostnameByte (hostnameByte (.ofNat value)) =
          (isAlnum (.ofNat value) || isSeparator (.ofNat value)) ∧
        ((hostnameByte (.ofNat value) == dash) = isSeparator (.ofNat value)) := by
    decide +kernel
  simpa using every byte.toNat byte.toNat_lt

theorem cleanHostname_eq (hostname : Bytes) :
    cleanHostname hostname = (hostname.map hostnameByte).filter isHostnameByte := by
  simp only [cleanHostname, toLowerCase, List.map_map]
  rfl

theorem cleanHostname_bytes (hostname : Bytes) :
    ∀ byte ∈ cleanHostname hostname, isHostnameByte byte = true :=
  fun _ member => (List.mem_filter.mp member).2

theorem cleanHostname_dashes (hostname : Bytes) :
    (cleanHostname hostname).map (· == dash) = separators hostname := by
  rw [cleanHostname_eq, separators, List.filter_map, List.map_map]
  have counts : isHostnameByte ∘ hostnameByte = fun byte => isAlnum byte || isSeparator byte :=
    funext fun byte => (hostnameByte_spec byte).1
  have dashes : (· == dash) ∘ hostnameByte = isSeparator :=
    funext fun byte => (hostnameByte_spec byte).2
  rw [counts, dashes]

theorem map_dashes_iff {bytes : Bytes} {count : Nat} :
    List.replicate count true = bytes.map (· == dash) ↔ bytes = List.replicate count dash := by
  rw [eq_comm, List.eq_replicate_iff, List.eq_replicate_iff]
  simp

theorem dashes_prefix_iff {bytes : Bytes} :
    [true, true] <+: bytes.map (· == dash) ↔ [dash, dash] <+: bytes := by
  rw [List.prefix_map_iff]
  constructor
  · rintro ⟨part, inside, dashes⟩
    rwa [map_dashes_iff.mp (show List.replicate 2 true = _ from dashes)] at inside
  · exact fun inside => ⟨_, inside, rfl⟩

theorem dashes_suffix_iff {bytes : Bytes} :
    [true, true] <:+ bytes.map (· == dash) ↔ [dash, dash] <:+ bytes := by
  rw [List.suffix_map_iff]
  constructor
  · rintro ⟨part, inside, dashes⟩
    rwa [map_dashes_iff.mp (show List.replicate 2 true = _ from dashes)] at inside
  · exact fun inside => ⟨_, inside, rfl⟩

/-- `getHostname` yields a usable label exactly when the configured hostname is no single separator
and neither starts nor ends with two, other characters than letters and digits not counted. -/
theorem getHostname_usable_iff (lib : ArduinoJson) (config : Config) :
    let found := separators (config.getString lib (ascii "hostname") (ascii "modbusbridge"))
    UsableLabel (getHostname lib config) ↔
      found ≠ [true] ∧ ¬[true, true] <+: found ∧ ¬[true, true] <:+ found := by
  dsimp only
  rw [getHostname]
  generalize config.getString lib (ascii "hostname") (ascii "modbusbridge") = hostname
  have single : [true] = (cleanHostname hostname).map (· == dash) ↔
      cleanHostname hostname = [dash] := @map_dashes_iff _ 1
  rw [← cleanHostname_dashes, ne_comm, ne_eq, single, dashes_prefix_iff, dashes_suffix_iff]
  by_cases empty : cleanHostname hostname = []
  · rw [if_pos empty, usable_cut_iff (by decide +kernel) (by decide), empty]
    decide
  · rw [if_neg empty, usable_cut_iff (cleanHostname_bytes hostname) empty]

/-- A hostname of one dash. -/
def dashed : Config :=
  ⟨ascii "/config.json", .object [(ascii "hostname", .string (ascii "-"))], true⟩

theorem getHostname_dashed : ¬UsableLabel (getHostname (flatJson []) dashed) :=
  fun usable => usable.nonempty (by decide)

end ModbusBridge
