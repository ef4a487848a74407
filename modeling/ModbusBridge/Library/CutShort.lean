import Mathlib.Data.List.Basic

/-!
# Runs that are cut short

A state is updated by a list of writes, one after the other, and the run may stop after any of
them. Some writes are torn: the state behind them is only good again after the next write.
`Survives` says that every cut that does not follow a torn write leaves a good state.
-/

namespace CutShort

variable {σ ω : Type*} {apply : σ → ω → σ} {torn : ω → Bool} {Good : σ → Prop}

/-- A list of writes does not stop behind a torn one. -/
def Untorn (torn : ω → Bool) (writes : List ω) : Prop := ∀ last ∈ writes.getLast?, torn last = false

instance (torn : ω → Bool) (writes : List ω) : Decidable (Untorn torn writes) :=
  match ending : writes.getLast? with
  | none => .isTrue (by simp [Untorn, ending])
  | some last => decidable_of_iff (torn last = false) (by simp [Untorn, ending])

/-- Every cut that does not follow a torn write leaves a good state. -/
def Survives (apply : σ → ω → σ) (torn : ω → Bool) (Good : σ → Prop) (start : σ)
    (writes : List ω) : Prop :=
  ∀ done rest, writes = done ++ rest → Untorn torn done → Good (done.foldl apply start)

theorem Untorn.tail {head : ω} {writes : List ω} (untorn : Untorn torn (head :: writes)) :
    Untorn torn writes :=
  fun last ending => untorn last (by simp [List.getLast?_cons, Option.mem_def.mp ending])

namespace Survives

variable {start : σ} {first second : ω} {writes left right : List ω}

theorem take (survives : Survives apply torn Good start writes) {count : Nat}
    (untorn : Untorn torn (writes.take count)) : Good ((writes.take count).foldl apply start) :=
  survives _ _ (List.take_append_drop count writes).symm untorn

theorem nil (good : Good start) : Survives apply torn Good start [] := by
  intro done rest split _
  obtain ⟨rfl, -⟩ := List.append_eq_nil_iff.mp split.symm
  exact good

theorem mono {Better : σ → Prop} (survives : Survives apply torn Better start writes)
    (weaken : ∀ state, Better state → Good state) : Survives apply torn Good start writes :=
  fun done rest split untorn => weaken _ (survives done rest split untorn)

theorem append (front : Survives apply torn Good start left)
    (back : Survives apply torn Good (left.foldl apply start) right) :
    Survives apply torn Good start (left ++ right) := by
  intro done rest split untorn
  rcases List.append_eq_append_iff.mp split with ⟨more, rfl, parts⟩ | ⟨more, parts, -⟩
  · rw [List.foldl_append]
    cases more with
    | nil =>
        rw [List.append_nil] at untorn
        exact front left [] (by simp) untorn
    | cons head tail =>
        refine back (head :: tail) rest parts fun last ending => untorn last ?_
        rwa [List.getLast?_append_of_ne_nil left (by simp)]
  · exact front done more parts untorn

/-- A first write that leaves a good state. -/
theorem cons (before : Good start) (rest : Survives apply torn Good (apply start first) writes) :
    Survives apply torn Good start (first :: writes) := by
  intro done left split untorn
  cases done with
  | nil => exact before
  | cons head more =>
      obtain ⟨rfl, parts⟩ : first = head ∧ writes = more ++ left := by simpa using split
      exact rest more left parts untorn.tail

/-- A torn first write that the next one repairs. -/
theorem skip (before : Good start) (isTorn : torn first = true)
    (rest : Survives apply torn Good (apply (apply start first) second) writes) :
    Survives apply torn Good start (first :: second :: writes) := by
  intro done left split untorn
  match done, split, untorn with
  | [], _, _ => exact before
  | [_], split, untorn =>
      obtain ⟨rfl, -⟩ : first = _ ∧ _ := by simpa using split
      simp [Untorn, isTorn] at untorn
  | _ :: _ :: more, split, untorn =>
      obtain ⟨rfl, rfl, parts⟩ : first = _ ∧ second = _ ∧ writes = more ++ left := by
        simpa using split
      exact rest more left parts untorn.tail.tail

/-- Writes that each keep a good state. -/
theorem of_forall (before : Good start)
    (step : ∀ state, Good state → ∀ write ∈ writes, Good (apply state write)) :
    Survives apply torn Good start writes := by
  induction writes generalizing start with
  | nil => exact nil before
  | cons head tail induction =>
      refine cons before (induction (step start before head List.mem_cons_self) ?_)
      exact fun state good write member => step state good write (List.mem_cons_of_mem head member)

end Survives

end CutShort
