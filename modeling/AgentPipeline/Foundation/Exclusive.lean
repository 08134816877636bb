import Mathlib.Data.List.Basic

/-!
# Exclusive: one name, at most one live occupant

A lock file is a name that live processes rely on. `Exclusive live occ name` says that every
live occupant finds its own file at the name and that there is at most one live occupant. The
lemmas are the moves a lock protocol makes: a process dies or leaves, a process creates the file
where there was none, and a file that nobody alive occupies is removed.
-/

universe u

namespace LockName

variable {ι : Type u} {live live' : ι → Prop} {occ occ' : ι → Nat → Prop} {name : Option Nat}

structure Exclusive (live : ι → Prop) (occ : ι → Nat → Prop) (name : Option Nat) : Prop where
  present : ∀ p i, live p → occ p i → name = some i
  single : ∀ p q i j, live p → live q → occ p i → occ q j → p = q

lemma Exclusive.mono (h : Exclusive live occ name)
    (hsub : ∀ p i, live' p → occ' p i → live p ∧ occ p i) : Exclusive live' occ' name where
  present := by
    intro p i hp ho
    rcases hsub p i hp ho with ⟨hp', ho'⟩
    exact h.present p i hp' ho'
  single := by
    intro p q i j hp hq ho ho'
    rcases hsub p i hp ho with ⟨hp₁, ho₁⟩
    rcases hsub q j hq ho' with ⟨hq₂, ho₂⟩
    exact h.single p q i j hp₁ hq₂ ho₁ ho₂

lemma Exclusive.claim (h : Exclusive live occ none) {p : ι} {i : Nat}
    (hsub : ∀ q j, live' q → occ' q j → q = p ∧ j = i ∨ live q ∧ occ q j) :
    Exclusive live' occ' (some i) where
  present := by
    intro q j hq ho
    rcases hsub q j hq ho with ⟨_, rfl⟩ | ⟨hq', ho'⟩
    · rfl
    · cases h.present q j hq' ho'
  single := by
    intro q q' j j' hq hq' ho ho'
    rcases hsub q j hq ho with ⟨rfl, _⟩ | ⟨hq₁, ho₁⟩
    · rcases hsub q' j' hq' ho' with ⟨rfl, _⟩ | ⟨hq₂, ho₂⟩
      · rfl
      · cases h.present q' j' hq₂ ho₂
    · cases h.present q j hq₁ ho₁

lemma Exclusive.remove (h : Exclusive live occ name)
    (hfree : ∀ i, name = some i → ∀ p, live p → ¬ occ p i) : Exclusive live occ none where
  present := by
    intro p i hp ho
    exact absurd ho (hfree i (h.present p i hp ho) p hp)
  single := h.single

end LockName
