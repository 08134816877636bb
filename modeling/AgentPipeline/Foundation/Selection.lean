import Mathlib.Data.List.Basic

/-!
# Selection: the best element of a list, kept by a loop

* `keepBest`: one turn of a loop that replaces the best element so far by a better one;
* `IsBest`: an element of the list that no other one beats;
* `isBest_foldl`: the loop ends with one, and `IsBest.unique` — where any two elements compare,
  there is only one, whatever the order of the list.
-/

namespace Selection

universe u

variable {α : Type u} {better : α → α → Prop}

def keepBest (better : α → α → Prop) [DecidableRel better] (best a : α) : α :=
  if better a best then a else best

/-- An element of the list that no element beats. -/
structure IsBest (better : α → α → Prop) (l : List α) (best : α) : Prop where
  mem : best ∈ l
  unbeaten : ∀ a ∈ l, ¬better a best

lemma IsBest.congr {l l' : List α} {best : α} (h : IsBest better l best)
    (hmem : ∀ a, a ∈ l ↔ a ∈ l') : IsBest better l' best :=
  ⟨(hmem best).1 h.mem, fun a ha => h.unbeaten a ((hmem a).2 ha)⟩

lemma IsBest.unique {l : List α} {a b : α} (ha : IsBest better l a) (hb : IsBest better l b)
    (htotal : ∀ x ∈ l, ∀ y ∈ l, x ≠ y → better x y ∨ better y x) : a = b := by
  by_contra hne
  rcases htotal a ha.mem b hb.mem hne with h | h
  · exact hb.unbeaten a ha.mem h
  · exact ha.unbeaten b hb.mem h

variable [DecidableRel better] (hasymm : ∀ a b, better a b → ¬better b a)
  (hunbeaten : ∀ a b c, ¬better a b → ¬better b c → ¬better a c)

include hasymm in
lemma isBest_keepBest (best a : α) : IsBest better [best, a] (keepBest better best a) := by
  have hirrefl : ∀ x, ¬better x x := fun x h => hasymm x x h h
  unfold keepBest
  split
  · next hbetter => exact ⟨by simp, by simp [hirrefl, hasymm _ _ hbetter]⟩
  · next hworse => exact ⟨by simp, by simp [hirrefl, hworse]⟩

include hasymm hunbeaten in
lemma isBest_foldl (best : α) (l : List α) : IsBest better (best :: l) (l.foldl (keepBest better) best) := by
  induction l generalizing best with
  | nil => exact ⟨by simp, by simpa using fun h => hasymm best best h h⟩
  | cons a l ih =>
    have hpair := isBest_keepBest hasymm best a
    have hrest := ih (keepBest better best a)
    rw [List.foldl_cons]
    constructor
    · rcases List.mem_cons.1 hrest.mem with heq | hmem
      · have hmem := hpair.mem
        rw [← heq] at hmem
        exact List.subset_def.1 (by simp) hmem
      · exact List.mem_cons_of_mem _ (List.mem_cons_of_mem _ hmem)
    · intro x hx
      rcases List.mem_cons.1 hx with rfl | hx
      -- the first two do not beat the better of them, which does not beat the last one
      · exact hunbeaten _ _ _ (hpair.unbeaten x (by simp)) (hrest.unbeaten _ (by simp))
      · rcases List.mem_cons.1 hx with rfl | hx
        · exact hunbeaten _ _ _ (hpair.unbeaten x (by simp)) (hrest.unbeaten _ (by simp))
        · exact hrest.unbeaten x (List.mem_cons_of_mem _ hx)

end Selection
