import Mathlib.Data.List.Forall2

/-!
# Computations that may fail

Where a checked computation has a result, every part of it has one. Loops are followed by a relation
between the states before and after, which adds up over the turns.
-/

namespace Fallible

universe u

variable {α β ε σ : Type*}

theorem bind_eq_ok {α β : Type u} {checked : Except ε α} {next : α → Except ε β} {result : β} :
    (checked >>= next) = .ok result ↔ ∃ value, checked = .ok value ∧ next value = .ok result := by
  cases checked with
  | error error => simp [bind, Except.bind]
  | ok value => simp [bind, Except.bind]

theorem mapError_eq_ok {checked : Except ε α} {describe : ε → β} {result : α} :
    checked.mapError describe = .ok result ↔ checked = .ok result := by
  cases checked <;> simp [Except.mapError]

/-- A result that passes a test is there. -/
theorem exists_ok {checked : Except ε α} {passes : α → Bool}
    (tested : checked.toOption.any passes = true) :
    ∃ value, checked = .ok value ∧ passes value = true := by
  cases checked with
  | error error => contradiction
  | ok value => exact ⟨value, rfl, tested⟩

/-- The results of a checked traversal are those of its elements, one by one. -/
theorem forall₂_of_mapM_eq_ok {check : α → Except ε β} {values : List α} {results : List β}
    (checked : values.mapM check = .ok results) :
    List.Forall₂ (fun value result => check value = .ok result) values results := by
  induction values generalizing results with
  | nil =>
      obtain rfl : [] = results := by simpa [pure, Except.pure] using checked
      exact .nil
  | cons value values induction =>
      rw [List.mapM_cons, bind_eq_ok] at checked
      obtain ⟨first, head, tail⟩ := checked
      obtain ⟨rest, traversed, same⟩ := bind_eq_ok.mp tail
      obtain rfl : first :: rest = results := Except.ok.inj same
      exact .cons head (induction traversed)

/-- Every result belongs to an element. -/
theorem exists_of_forall₂ {related : α → β → Prop} {values : List α} {results : List β}
    (traversed : List.Forall₂ related values results) {result : β} (member : result ∈ results) :
    ∃ value ∈ values, related value result := by
  induction traversed with
  | nil => exact absurd member List.not_mem_nil
  | cons head tail induction =>
      rcases List.mem_cons.mp member with rfl | later
      · exact ⟨_, List.mem_cons_self, head⟩
      · obtain ⟨value, listed, found⟩ := induction later
        exact ⟨value, List.mem_cons_of_mem _ listed, found⟩

/-- Every result of a checked traversal is the result of an element. -/
theorem mem_of_mapM_eq_ok {check : α → Except ε β} {values : List α} {results : List β}
    (checked : values.mapM check = .ok results) {result : β} (member : result ∈ results) :
    ∃ value ∈ values, check value = .ok result :=
  exists_of_forall₂ (forall₂_of_mapM_eq_ok checked) member

/-- Where a property of each result is a condition on its element, the results have the property if
and only if the elements meet the condition. -/
theorem forall₂_iff_of_forall₂ {checked holds : α → β → Prop} {condition : α → Prop}
    {values : List α} {results : List β} (traversed : List.Forall₂ checked values results)
    (each : ∀ value result, checked value result → (holds value result ↔ condition value)) :
    List.Forall₂ holds values results ↔ ∀ value ∈ values, condition value := by
  induction traversed with
  | nil => simp
  | cons head tail induction =>
      rw [List.forall₂_cons, induction, each _ _ head, List.forall_mem_cons]

/-- A traversal whose elements all have a result has the list of them. -/
theorem mapM_eq_some {look : α → Option β} {found : α → β} {values : List α}
    (each : ∀ value ∈ values, look value = some (found value)) :
    values.mapM look = some (values.map found) := by
  induction values with
  | nil => rfl
  | cons value values induction =>
      rw [List.mapM_cons, each value List.mem_cons_self,
        induction fun other listed => each other (List.mem_cons_of_mem _ listed)]
      rfl

/-- What holds of every turn of a loop adds up over the loop. -/
theorem foldlM_eq_some {turn : σ → α → Option σ} {Advance : List β → σ → σ → Prop}
    (refl : ∀ state, Advance [] state state)
    (trans : ∀ {early late before between after}, Advance early before between →
      Advance late between after → Advance (early ++ late) before after)
    {made : α → List β} {values : List α}
    (each : ∀ value ∈ values, ∀ state, ∃ after,
      turn state value = some after ∧ Advance (made value) state after) (state : σ) :
    ∃ after, values.foldlM turn state = some after ∧
      Advance (values.flatMap made) state after := by
  induction values generalizing state with
  | nil => exact ⟨state, rfl, refl state⟩
  | cons value values induction =>
      obtain ⟨between, first, early⟩ := each value List.mem_cons_self state
      obtain ⟨after, rest, late⟩ :=
        induction (fun other listed => each other (List.mem_cons_of_mem _ listed)) between
      refine ⟨after, ?_, ?_⟩
      · rw [List.foldlM_cons, first]
        exact rest
      · rw [List.flatMap_cons]
        exact trans early late

/-! ## Loops that store -/

/-- A loop that stores each result behind those that are there. When an element fails, what has been
stored before stays. -/
def collect (check : α → Except ε β) : List α → List β → List β × Except ε Unit
  | [], stored => (stored, .ok ())
  | value :: values, stored =>
      match check value with
      | .error error => (stored, .error error)
      | .ok result => collect check values (stored ++ [result])

/-- What is there beforehand stays in front, and has no part in the loop. -/
theorem collect_eq (check : α → Except ε β) (values : List α) (stored : List β) :
    collect check values stored =
      (stored ++ (collect check values []).1, (collect check values []).2) := by
  induction values generalizing stored with
  | nil => simp [collect]
  | cons value values induction =>
      rw [collect, collect]
      cases check value with
      | error error => simp
      | ok result =>
          dsimp only
          rw [induction, induction ([] ++ [result])]
          simp

/-- The loop ends well if the traversal does, and has then stored its results. -/
theorem collect_eq_ok_iff {check : α → Except ε β} {values : List α} {results : List β} :
    collect check values [] = (results, .ok ()) ↔ values.mapM check = .ok results := by
  induction values generalizing results with
  | nil => simp [collect, pure, Except.pure]
  | cons value values induction =>
      rw [collect, List.mapM_cons, bind_eq_ok]
      cases check value with
      | error error => simp
      | ok result =>
          dsimp only
          rw [collect_eq]
          constructor
          · intro stored
            obtain ⟨rfl, done⟩ := Prod.mk.inj stored
            refine ⟨result, rfl, bind_eq_ok.mpr ⟨_, induction.mp (Prod.ext rfl done), rfl⟩⟩
          · rintro ⟨_, same, rest⟩
            obtain rfl := Except.ok.inj same
            obtain ⟨others, traversed, same⟩ := bind_eq_ok.mp rest
            obtain rfl : result :: others = results := Except.ok.inj same
            rw [induction.mpr traversed]
            rfl

/-- Nothing is stored, if and only if there is no first element or it fails. -/
theorem collect_eq_nil_iff {check : α → Except ε β} {values : List α} :
    (collect check values []).1 = [] ↔ ∀ value ∈ values.head?, (check value).isOk = false := by
  cases values with
  | nil => simp [collect]
  | cons value values =>
      rw [collect]
      cases checked : check value with
      | error error => simp [checked, Except.isOk, Except.toBool]
      | ok result =>
          dsimp only
          rw [collect_eq]
          simp [checked, Except.isOk, Except.toBool]

/-- What is stored was there, or is the result of an element. -/
theorem mem_collect {check : α → Except ε β} {values : List α} {stored : List β} {result : β}
    (member : result ∈ (collect check values stored).1) :
    result ∈ stored ∨ ∃ value ∈ values, check value = .ok result := by
  induction values generalizing stored with
  | nil => exact .inl member
  | cons value values induction =>
      rw [collect] at member
      cases checked : check value with
      | error error =>
          rw [checked] at member
          exact .inl member
      | ok first =>
          rw [checked] at member
          rcases induction member with there | ⟨other, listed, found⟩
          · rcases List.mem_append.mp there with old | last
            · exact .inl old
            · obtain rfl := List.mem_singleton.mp last
              exact .inr ⟨value, List.mem_cons_self, checked⟩
          · exact .inr ⟨other, List.mem_cons_of_mem _ listed, found⟩

end Fallible
