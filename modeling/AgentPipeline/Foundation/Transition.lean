import Mathlib.Data.List.Basic

/-!
# Transition: guarded runs of a transition function

A system is given by a partial step function `step : σ → α → Option σ` on states and labels.
A *guard* `ok : σ → α → Prop` says in which states a label is admitted. This file defines:

* `exec step s as`: the state after the labels `as`, if every step is enabled;
* `Run step ok s as t`: the same, with every label admitted by the guard where it is taken;
* the invariant rule `Run.invariant`: what one admitted step preserves, a whole run preserves;
* `Run.exists_of_exec`, which turns the evaluation of a concrete run into a `Run`.
-/

universe u v

namespace Transition

variable {σ : Type u} {α : Type v}

/-! ## Execution -/

/-- Take the labels one after the other; `none` when one of them is not enabled. -/
def exec (step : σ → α → Option σ) : σ → List α → Option σ
  | s, [] => some s
  | s, a :: as =>
    match step s a with
    | some t => exec step t as
    | none => none

/-- A run in which every label is admitted by `ok` in the state where it is taken. -/
inductive Run (step : σ → α → Option σ) (ok : σ → α → Prop) : σ → List α → σ → Prop where
  | nil (s : σ) : Run step ok s [] s
  | cons {s t u : σ} {a : α} {as : List α} :
      ok s a → step s a = some t → Run step ok t as u → Run step ok s (a :: as) u

namespace Run

variable {step : σ → α → Option σ} {ok : σ → α → Prop}

/-! ## The invariant rule -/

variable {as : List α}

lemma invariant {I : σ → Prop} (hstep : ∀ s a t, ok s a → I s → step s a = some t → I t)
    {s t : σ} (h : Run step ok s as t) (hs : I s) : I t := by
  induction h with
  | nil s => exact hs
  | cons hok hst _ ih => exact ih (hstep _ _ _ hok hs hst)

lemma relation {I : σ → Prop} {R : σ → σ → Prop} (hrefl : ∀ s, R s s) (htrans : ∀ s t u, R s t → R t u → R s u)
    (hinv : ∀ s a t, ok s a → I s → step s a = some t → I t) (hstep : ∀ s a t, ok s a → I s → step s a = some t → R s t)
    {s t : σ} (h : Run step ok s as t) (hs : I s) : R s t := by
  induction h with
  | nil s => exact hrefl s
  | cons hok hst _ ih =>
    exact htrans _ _ _ (hstep _ _ _ hok hs hst) (ih (hinv _ _ _ hok hs hst))

/-! ## Concrete runs -/

/-- The step function that is stuck where the guard does not admit the label. -/
def guarded (step : σ → α → Option σ) (ok : σ → α → Prop) [∀ s a, Decidable (ok s a)]
    (s : σ) (a : α) : Option σ :=
  if ok s a then step s a else none

lemma of_exec [∀ s a, Decidable (ok s a)] {s t : σ}
    (h : exec (guarded step ok) s as = some t) : Run step ok s as t := by
  induction as generalizing s with
  | nil =>
    have hst : s = t := by simpa [exec] using h
    exact hst ▸ Run.nil s
  | cons a as ih =>
    by_cases hok : ok s a
    · cases hst : step s a with
      | none => simp [exec, guarded, hok, hst] at h
      | some u =>
        have hrest : exec (guarded step ok) u as = some t := by simpa [exec, guarded, hok, hst] using h
        exact Run.cons hok hst (ih hrest)
    · simp [exec, guarded, hok] at h

lemma exists_of_exec [∀ s a, Decidable (ok s a)] {s : σ} (P : σ → Prop)
    [DecidablePred P] (h : (exec (guarded step ok) s as).any (fun t => decide (P t)) = true) :
    ∃ t, Run step ok s as t ∧ P t := by
  cases ht : exec (guarded step ok) s as with
  | none => simp [ht] at h
  | some t =>
    have hP : P t := by simpa [ht] using h
    exact ⟨t, of_exec ht, hP⟩

end Run

end Transition
