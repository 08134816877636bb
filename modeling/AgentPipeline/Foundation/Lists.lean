import Mathlib.Data.List.Basic

/-!
# Lists: a separator, and elements read one by one

A list is split in one way at a separator that stands in no left part, or in no right part. A list with one
more element at its end is split there or before it. When every element of a list is read with `mapM`, the
result lists what the elements read as.
-/

namespace Lists

open List

variable {α β : Type}

section Separator

variable {a : α} {p q s t : List α}

lemma append_cons_inj_left (hp : a ∉ p) (hq : a ∉ q) (h : p ++ a :: s = q ++ a :: t) : p = q ∧ s = t := by
  rcases append_eq_append_iff.1 h with ⟨c, rfl, hc⟩ | ⟨c, rfl, hc⟩
  · cases c with
    | nil => simpa using hc
    | cons x c =>
      obtain ⟨rfl, -⟩ := List.cons.inj hc
      simp at hq
  · cases c with
    | nil => simpa using hc.symm
    | cons x c =>
      obtain ⟨rfl, -⟩ := List.cons.inj hc
      simp at hp

lemma append_cons_inj_right (hs : a ∉ s) (ht : a ∉ t) (h : p ++ a :: s = q ++ a :: t) : p = q ∧ s = t := by
  have hreverse : s.reverse ++ a :: p.reverse = t.reverse ++ a :: q.reverse := by
    simpa using congrArg List.reverse h
  obtain ⟨hst, hpq⟩ := append_cons_inj_left (by simpa using hs) (by simpa using ht) hreverse
  exact ⟨reverse_injective hpq, reverse_injective hst⟩

end Separator

lemma exists_split_concat {l : List α} {x : α} {P : List α → α → List α → Prop} :
    (∃ pre a suf, l ++ [x] = pre ++ a :: suf ∧ P pre a suf) ↔
      P l x [] ∨ ∃ pre a suf, l = pre ++ a :: suf ∧ P pre a (suf ++ [x]) := by
  constructor
  · rintro ⟨pre, a, suf, hsplit, h⟩
    rcases eq_nil_or_concat suf with rfl | ⟨suf, y, rfl⟩
    · obtain ⟨rfl, hx⟩ := append_inj' hsplit rfl
      exact .inl ((List.cons.inj hx).1 ▸ h)
    · have hsplit' : l ++ [x] = (pre ++ a :: suf) ++ [y] := by simpa using hsplit
      obtain ⟨hl, hx⟩ := append_inj' hsplit' rfl
      exact .inr ⟨pre, a, suf, hl, by simpa [(List.cons.inj hx).1] using h⟩
  · rintro (h | ⟨pre, a, suf, rfl, h⟩)
    · exact ⟨l, x, [], rfl, h⟩
    · exact ⟨pre, a, suf ++ [x], by simp, h⟩

variable {f : α → Option β} {l : List α} {l' : List β}

lemma mapM_eq_some_iff : l.mapM f = some l' ↔ l.map f = l'.map some := by
  induction l generalizing l' with
  | nil => cases l' <;> simp
  | cons a l ih =>
    simp only [mapM_cons, Option.bind_eq_bind, Option.bind_eq_some_iff, Option.pure_def, Option.some.injEq,
      ih, map_cons]
    constructor
    · rintro ⟨b, hb, bs, hbs, rfl⟩
      rw [hb, hbs, map_cons]
    · intro h
      cases l' with
      | nil => cases h
      | cons b bs => exact ⟨b, (List.cons.inj h).1, bs, (List.cons.inj h).2, rfl⟩

lemma exists_mapM_iff : (∃ l', l.mapM f = some l') ↔ ∀ a ∈ l, (f a).isSome := by
  constructor
  · rintro ⟨l', h⟩ a ha
    have hmem := mem_map_of_mem (f := f) ha
    rw [mapM_eq_some_iff.1 h] at hmem
    obtain ⟨b, -, hb⟩ := mem_map.1 hmem
    rw [← hb]
    rfl
  · intro h
    induction l with
    | nil => exact ⟨[], rfl⟩
    | cons a l ih =>
      obtain ⟨b, hb⟩ := Option.isSome_iff_exists.1 (h a mem_cons_self)
      obtain ⟨l', hl'⟩ := ih fun a ha => h a (mem_cons_of_mem _ ha)
      exact ⟨b :: l', by rw [mapM_cons, hb, hl']; rfl⟩

lemma mem_iff_of_mapM (h : l.mapM f = some l') {b : β} : b ∈ l' ↔ ∃ a ∈ l, f a = some b := by
  have hmem : some b ∈ l'.map some ↔ b ∈ l' := by simp
  rw [← hmem, ← mapM_eq_some_iff.1 h, mem_map]

end Lists
