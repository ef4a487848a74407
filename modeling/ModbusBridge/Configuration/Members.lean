import ModbusBridge.Configuration.Config

/-!
# Many members at once

What a configuration holds after several assignments, one after the other: the last assignment to a
key counts, members keep their places, and a document that takes no members stays as it is.
-/

namespace ModbusBridge

namespace Json

instance : (document : Json) → Decidable document.Writable
  | .null | .object _ => isTrue trivial
  | .boolean _ | .integer _ | .real .. | .string _ | .array _ => isFalse id

/-- `doc[key] = value` for several members, first to last. -/
def setMembers (document : Json) (sets : List (Bytes × Json)) : Json :=
  sets.foldl (fun document set => document.setMember set.1 set.2) document

theorem setMember_of_not_writable {document : Json} (closed : ¬ document.Writable) (key : Bytes)
    (value : Json) : document.setMember key value = document := by
  cases document with
  | null | object => exact absurd trivial closed
  | _ => rfl

theorem setMembers_of_not_writable {document : Json} (closed : ¬ document.Writable)
    (sets : List (Bytes × Json)) : document.setMembers sets = document := by
  induction sets with
  | nil => rfl
  | cons set sets induction =>
      rw [setMembers, List.foldl_cons, setMember_of_not_writable closed]
      exact induction

theorem writable_setMember {document : Json} (writable : document.Writable) (key : Bytes)
    (value : Json) : (document.setMember key value).Writable := by
  cases document with
  | null | object => trivial
  | _ => exact writable.elim

theorem member_of_not_writable {document : Json} (closed : ¬ document.Writable) (key : Bytes) :
    document.member key = null := by
  cases document with
  | null | object => exact absurd trivial closed
  | _ => rfl

/-- A document with a member takes members. -/
theorem writable_of_present {document : Json} {key : Bytes}
    (there : (document.member key).isNull = false) : document.Writable := by
  by_contra closed
  rw [member_of_not_writable closed] at there
  contradiction

/-- The last assignment to a key counts. -/
theorem member_setMembers {document : Json} (writable : document.Writable)
    (sets : List (Bytes × Json)) (key : Bytes) :
    (document.setMembers sets).member key =
      (sets.reverse.lookup key).getD (document.member key) := by
  induction sets generalizing document with
  | nil => rfl
  | cons set sets induction =>
      obtain ⟨name, value⟩ := set
      have later : (document.setMembers ((name, value) :: sets)).member key = _ :=
        induction (writable_setMember writable name value)
      rw [later, List.reverse_cons, List.lookup_append]
      cases sets.reverse.lookup key with
      | some value => rfl
      | none =>
          by_cases same : key = name
          · subst same
            simp [member_setMember_self writable]
          · have apart : (key == name) = false := by simpa using same
            simp [member_setMember_of_ne same, List.lookup_cons, apart]

/-- Nothing that was set to a value is missing. -/
theorem isNull_member_setMembers {document : Json} (writable : document.Writable)
    {sets : List (Bytes × Json)} (present : ∀ set ∈ sets, set.2.isNull = false)
    {set : Bytes × Json} (listed : set ∈ sets) :
    ((document.setMembers sets).member set.1).isNull = false := by
  rw [member_setMembers writable]
  cases found : sets.reverse.lookup set.1 with
  | none =>
      have absent := List.lookup_eq_none_iff.mp found set (List.mem_reverse.mpr listed)
      simp at absent
  | some value =>
      obtain ⟨later, earlier, split, -⟩ := List.lookup_eq_some_iff.mp found
      have member : (set.1, value) ∈ sets.reverse := split ▸ by simp
      exact present _ (List.mem_reverse.mp member)

/-! ## Places -/

/-- `assign` for several members, first to last. -/
def assignAll (members sets : List (Bytes × Json)) : List (Bytes × Json) :=
  sets.foldl (fun members set => assign set.1 set.2 members) members

theorem setMembers_object (members sets : List (Bytes × Json)) :
    (object members).setMembers sets = object (assignAll members sets) := by
  induction sets generalizing members with
  | nil => rfl
  | cons set sets induction => exact induction (assign set.1 set.2 members)

theorem setMembers_null {sets : List (Bytes × Json)} (nonempty : sets ≠ []) :
    null.setMembers sets = object (assignAll [] sets) := by
  obtain ⟨set, sets, rfl⟩ := List.exists_cons_of_ne_nil nonempty
  exact setMembers_object [set] sets

/-- An assignment keeps the members in their places. -/
theorem names_assign (key : Bytes) (value : Json) (members : List (Bytes × Json)) :
    (assign key value members).map Prod.fst =
      if key ∈ members.map Prod.fst then members.map Prod.fst
      else members.map Prod.fst ++ [key] := by
  induction members with
  | nil => rfl
  | cons entry members induction =>
      obtain ⟨name, old⟩ := entry
      rw [assign]
      by_cases same : name = key
      · subst same
        simp
      · rw [if_neg same, List.map_cons, induction]
        by_cases later : key ∈ members.map Prod.fst
        · simp [later]
        · simp [later, Ne.symm same]

theorem names_prefix_assignAll (members sets : List (Bytes × Json)) :
    members.map Prod.fst <+: (assignAll members sets).map Prod.fst := by
  induction sets generalizing members with
  | nil => exact List.prefix_rfl
  | cons set sets induction =>
      refine List.IsPrefix.trans ?_ (induction (assign set.1 set.2 members))
      rw [names_assign]
      split
      · exact List.prefix_rfl
      · exact List.prefix_append _ _

theorem assign_append {key : Bytes} {value : Json} {done : List (Bytes × Json)}
    (fresh : key ∉ done.map Prod.fst) (members : List (Bytes × Json)) :
    assign key value (done ++ members) = done ++ assign key value members := by
  induction done with
  | nil => rfl
  | cons entry done induction =>
      obtain ⟨name, old⟩ := entry
      rw [List.map_cons, List.mem_cons, not_or] at fresh
      rw [List.cons_append, assign, if_neg (Ne.symm fresh.1), induction fresh.2]
      rfl

/-- Members with the first names of some assignments become these assignments. -/
theorem assignAll_of_names {done members sets : List (Bytes × Json)}
    (distinct : ((done ++ sets).map Prod.fst).Nodup)
    (names : members.map Prod.fst <+: sets.map Prod.fst) :
    assignAll (done ++ members) sets = done ++ sets := by
  induction sets generalizing done members with
  | nil =>
      obtain rfl : members = [] := by simpa using names
      rfl
  | cons set sets induction =>
      obtain ⟨key, value⟩ := set
      have fresh : key ∉ done.map Prod.fst := by
        rw [List.map_append, List.map_cons, List.nodup_append] at distinct
        exact fun member => distinct.2.2 key member key List.mem_cons_self rfl
      have split : done ++ (key, value) :: sets = (done ++ [(key, value)]) ++ sets := by simp
      have first : ∃ rest, assign key value members = (key, value) :: rest ∧
          rest.map Prod.fst <+: sets.map Prod.fst := by
        cases members with
        | nil => exact ⟨[], rfl, List.nil_prefix⟩
        | cons entry members =>
            obtain ⟨name, old⟩ := entry
            obtain ⟨same, rest⟩ := List.cons_prefix_cons.mp names
            have same : name = key := same
            exact ⟨members, by rw [assign, if_pos same, same], rest⟩
      obtain ⟨rest, assigned, later⟩ := first
      rw [split] at distinct ⊢
      rw [← induction distinct later, assignAll, List.foldl_cons, assign_append fresh, assigned]
      simp [assignAll]

theorem assignAll_eq_iff {members sets : List (Bytes × Json)}
    (distinct : (sets.map Prod.fst).Nodup) :
    assignAll members sets = sets ↔ members.map Prod.fst <+: sets.map Prod.fst := by
  constructor
  · intro same
    have names := names_prefix_assignAll members sets
    rwa [same] at names
  · exact fun names => @assignAll_of_names [] members sets distinct names

end Json

namespace Config

variable {config other : Config}

/-- The setters for several keys, first to last. -/
def setAll (config : Config) (sets : List (Bytes × Json)) : Config :=
  sets.foldl (fun config set => config.set set.1 set.2) config

theorem setAll_append (config : Config) (early late : List (Bytes × Json)) :
    config.setAll (early ++ late) = (config.setAll early).setAll late := List.foldl_append

theorem setAll_eq (config : Config) (sets : List (Bytes × Json)) :
    config.setAll sets = { config with document := config.document.setMembers sets } := by
  induction sets generalizing config with
  | nil => rfl
  | cons set sets induction => exact induction (config.set set.1 set.2)

theorem setDefaults_eq (config : Config) :
    config.setDefaults = { config with document := config.document.setMembers defaults } :=
  config.setAll_eq defaults

theorem defaults_distinct : (defaults.map Prod.fst).Nodup := by decide +kernel

/-- A new document takes the defaults as they are. -/
theorem setMembers_null_defaults : Json.null.setMembers defaults = .object defaults := by
  rw [Json.setMembers_null (by simp [defaults])]
  exact congrArg _ ((Json.assignAll_eq_iff defaults_distinct).mpr List.nil_prefix)

/-! ## Configurations with the same values -/

/-- The two configurations read the same. -/
structure SameValues (config other : Config) : Prop where
  loaded : config.isLoaded = other.isLoaded
  members : ∀ key, config.document.member key = other.document.member key

theorem SameValues.getString (same : SameValues config other) (lib : ArduinoJson)
    (key default : Bytes) : config.getString lib key default = other.getString lib key default := by
  rw [Config.getString, Config.getString, same.loaded, same.members]

theorem SameValues.getInt (same : SameValues config other) (lib : ArduinoJson) (key : Bytes)
    (default : Int) : config.getInt lib key default = other.getInt lib key default := by
  rw [Config.getInt, Config.getInt, same.loaded, same.members]

theorem SameValues.getBool (same : SameValues config other) (key : Bytes) (default : Bool) :
    config.getBool key default = other.getBool key default := by
  rw [Config.getBool, Config.getBool, same.loaded, same.members]

theorem SameValues.validate (same : SameValues config other) (lib : ArduinoJson)
    (fs : LittleFS) : config.validate lib fs = other.validate lib fs := by
  simp only [Config.validate, validSettings, same.getString, same.getInt]

end Config

end ModbusBridge
