import AgentPipeline.Foundation.JsMatches
import Mathlib.Data.List.Infix

/-!
# JsLanguage: the language of a pattern, and replacements of a fixed text

A pattern that looks at nothing around its match is described by the set of texts it matches.

* `Spells r L`: the matches of `r` are the texts of `L`;
* `Spells.seq`, `Spells.alt`, … — the languages of the constructors;
* `test_whole`: `^r$` accepts the texts of the language;
* `replaceText`: `text.replace(/part/g, replacement)` for a fixed part.
-/

namespace JsRegExp

open List Regex

/-! ## Languages -/

/-- The matches of the pattern, from any place, are the texts of the language. -/
def Spells (r : Regex) (L : List Char → Prop) : Prop :=
  ∀ s e : Place, e ∈ ends r s ↔ e.groups = s.groups ∧ ∃ used, Spans s.cursor used e.cursor ∧ L used

namespace Spells

variable {a b : Regex} {L M : List Char → Prop} {p : Char → Bool}

lemma congr (h : Spells a L) (hiff : ∀ used, L used ↔ M used) : Spells a M := fun s e => by
  rw [h s e]
  simp only [hiff]

lemma empty : Spells (.plain .empty) (· = []) := fun s e => by
  rw [mem_ends_empty]
  constructor
  · rintro rfl
    exact ⟨rfl, [], .refl _, rfl⟩
  · rintro ⟨hgroups, used, hspans, rfl⟩
    exact Place.eq_of hgroups (spans_nil_iff.1 hspans)

lemma star : Spells (.star p) fun used => ∀ c ∈ used, p c = true := fun s e => by
  rw [Regex.star, mem_ends_many]
  simp

lemma lazyStar : Spells (.lazy p 0) fun used => ∀ c ∈ used, p c = true := fun s e => by
  rw [mem_ends_lazy]
  simp

lemma oneOf : Spells (.oneOf p) fun used => ∃ c, used = [c] ∧ p c = true := fun s e => by
  rw [mem_ends_oneOf]
  refine and_congr_right fun _ => ⟨?_, ?_⟩
  · rintro ⟨x, hx, hspans⟩
    exact ⟨[x], hspans, x, rfl, hx⟩
  · rintro ⟨used, hspans, x, rfl, hx⟩
    exact ⟨x, hx, hspans⟩

lemma many {least : Nat} {most : Option Nat} : Spells (.plain (.many p least most)) fun used =>
    (∀ c ∈ used, p c = true) ∧ least ≤ used.length ∧ ∀ m, most = some m → used.length ≤ m := fun _ _ => mem_ends_many

lemma text (t : String) : Spells (.text t) (· = t.toList) := fun s e => by
  rw [mem_ends_text]
  simp

lemma textAnyCase (t : String) :
    Spells (.textAnyCase t) fun used => used.map Char.toLower = t.toList.map Char.toLower :=
  fun _ _ => mem_ends_textAnyCase

lemma seq (ha : Spells a L) (hb : Spells b M) :
    Spells (.seq a b) fun used => ∃ u v, used = u ++ v ∧ L u ∧ M v := fun s e => by
  rw [mem_ends_seq]
  constructor
  · rintro ⟨m, hm, he⟩
    obtain ⟨hgroups, u, hu, hL⟩ := (ha s m).1 hm
    obtain ⟨hgroups', v, hv, hM⟩ := (hb m e).1 he
    exact ⟨hgroups'.trans hgroups, u ++ v, hu.trans hv, u, v, rfl, hL, hM⟩
  · rintro ⟨hgroups, used, hspans, u, v, rfl, hL, hM⟩
    obtain ⟨d, hu, hv⟩ := hspans.split
    exact ⟨⟨d, s.groups⟩, (ha s _).2 ⟨rfl, u, hu, hL⟩, (hb _ e).2 ⟨hgroups, v, hv, hM⟩⟩

lemma alt (ha : Spells a L) (hb : Spells b M) : Spells (.alt a b) fun used => L used ∨ M used := fun s e => by
  rw [mem_ends_alt, ha s e, hb s e, ← and_or_left]
  refine and_congr_right fun _ => ⟨?_, ?_⟩
  · rintro (⟨used, hspans, h⟩ | ⟨used, hspans, h⟩)
    · exact ⟨used, hspans, .inl h⟩
    · exact ⟨used, hspans, .inr h⟩
  · rintro ⟨used, hspans, h | h⟩
    · exact .inl ⟨used, hspans, h⟩
    · exact .inr ⟨used, hspans, h⟩

/-- A pattern matches at a place if a text of its language follows. -/
lemma ends_ne_nil (h : Spells a L) {s : Place} :
    ends a s ≠ [] ↔ ∃ used rest, s.cursor.rest = used ++ rest ∧ L used := by
  constructor
  · intro hne
    obtain ⟨e, he⟩ := exists_mem_of_ne_nil _ hne
    obtain ⟨-, used, hspans, hL⟩ := (h s e).1 he
    exact ⟨used, e.cursor.rest, hspans.rest, hL⟩
  · rintro ⟨used, rest, hrest, hL⟩
    exact ne_nil_of_mem ((h s ⟨⟨_, rest⟩, s.groups⟩).2 ⟨rfl, used, exists_spans hrest, hL⟩)

end Spells

/-- `/^r$/.test(text)`. -/
theorem test_whole {r : Regex} {L : List Char → Prop} (h : Spells r L) (text : List Char) :
    test (.sequence [.textStart, r, .plain .atEnd]) text = true ↔ L text := by
  have hend : ∀ s e : Place, e ∈ ends (.plain .atEnd) s ↔ e = s ∧ s.cursor.rest = [] := by
    intro s e
    rw [mem_ends_plain, matchAt]
    split
    · next hrest =>
      rw [List.isEmpty_iff] at hrest
      simp only [hrest, mem_singleton, and_true]
      exact ⟨fun h => Place.eq_of h.1 h.2, fun h => by rw [h]; exact ⟨rfl, rfl⟩⟩
    · next hrest =>
      rw [List.isEmpty_iff] at hrest
      simp [hrest]
  rw [test_eq_true_iff]
  constructor
  · rintro ⟨pre, c, e, hpre, he⟩
    obtain ⟨s₁, h₁, he⟩ := mem_ends_sequence_cons.1 he
    obtain ⟨s₂, h₂, he⟩ := mem_ends_sequence_cons.1 he
    obtain ⟨s₃, h₃, -⟩ := mem_ends_sequence_cons.1 he
    obtain ⟨rfl, hnone⟩ := mem_ends_textStart.1 h₁
    obtain ⟨-, used, hused, hL⟩ := (h _ s₂).1 h₂
    obtain ⟨-, hrest⟩ := (hend s₂ s₃).1 h₃
    have hstart : pre = [] := by
      have hbefore := hpre.before
      rw [hnone] at hbefore
      simpa using hbefore.symm
    subst hstart
    have htext := (hpre.trans hused).rest
    rw [hrest, append_nil, nil_append] at htext
    obtain rfl : text = used := htext
    exact hL
  · intro hL
    let stop : Place := ⟨⟨text.getLast?.or none, []⟩, []⟩
    have hbody : stop ∈ ends r { cursor := ⟨none, text⟩ } := (h _ stop).2 ⟨rfl, text, exists_spans (by simp), hL⟩
    refine ⟨[], ⟨none, text⟩, stop, .refl _, ?_⟩
    refine mem_ends_sequence_cons.2 ⟨_, mem_ends_textStart.2 ⟨rfl, rfl⟩, ?_⟩
    refine mem_ends_sequence_cons.2 ⟨stop, hbody, ?_⟩
    exact mem_ends_sequence_cons.2 ⟨stop, (hend _ _).2 ⟨rfl, rfl⟩, mem_ends_sequence_nil.2 rfl⟩

/-! ## Replacements -/

/-- `text.replace(/part/g, replacement)`, for a part without special characters; so many characters of the part
are still to be skipped. -/
def replaceFrom (part replacement : List Char) : Nat → List Char → List Char
  | _, [] => []
  | skipped + 1, _ :: cs => replaceFrom part replacement skipped cs
  | 0, c :: cs =>
    if part.isPrefixOf (c :: cs) then replacement ++ replaceFrom part replacement (part.length - 1) cs
    else c :: replaceFrom part replacement 0 cs

def replaceText (part replacement text : List Char) : List Char := replaceFrom part replacement 0 text

variable {part replacement : List Char}

lemma replaceFrom_eq (skipped : Nat) (text : List Char) :
    replaceFrom part replacement skipped text = replaceText part replacement (text.drop skipped) := by
  induction text generalizing skipped with
  | nil => cases skipped <;> rfl
  | cons c cs ih =>
    cases skipped with
    | zero => rfl
    | succ skipped => exact ih skipped

@[simp] lemma replaceText_nil : replaceText part replacement [] = [] := rfl

lemma replaceText_part (hne : part ≠ []) (text : List Char) :
    replaceText part replacement (part ++ text) = replacement ++ replaceText part replacement text := by
  obtain ⟨c, cs, rfl⟩ := exists_cons_of_ne_nil hne
  have hstarts : (c :: cs).isPrefixOf (c :: (cs ++ text)) = true :=
    isPrefixOf_iff_prefix.2 (prefix_append (c :: cs) text)
  rw [cons_append, replaceText, replaceFrom, if_pos hstarts, replaceFrom_eq]
  simp

lemma replaceText_cons {c : Char} {cs : List Char} (h : ¬ part <+: c :: cs) :
    replaceText part replacement (c :: cs) = c :: replaceText part replacement cs := by
  rw [replaceText, replaceFrom, if_neg (by rwa [List.isPrefixOf_iff_prefix])]
  rfl

lemma not_prefix_of_head_ne {c d : Char} {part cs : List Char} (h : c ≠ d) : ¬ (d :: part) <+: c :: cs := by
  intro hstarts
  exact h (cons_prefix_cons.1 hstarts).1.symm

lemma replaceText_append_of_ne {d : Char} {rest used : List Char} (h : ∀ c ∈ used, c ≠ d) (text : List Char) :
    replaceText (d :: rest) replacement (used ++ text) = used ++ replaceText (d :: rest) replacement text := by
  induction used with
  | nil => rfl
  | cons c used ih =>
    rw [cons_append, replaceText_cons (not_prefix_of_head_ne (h c (by simp))),
      ih fun x hx => h x (mem_cons_of_mem _ hx)]
    rfl

lemma replaceText_of_absent {text : List Char} (h : ¬ part <:+: text) : replaceText part replacement text = text := by
  induction text with
  | nil => rfl
  | cons c cs ih =>
    rw [replaceText_cons fun hstarts => h hstarts.isInfix,
      ih fun hwithin => h (hwithin.trans (suffix_cons _ _).isInfix)]

lemma count_replaceText_le {x : Char} (hx : x ∉ replacement) (hne : part ≠ []) (text : List Char) :
    (replaceText part replacement text).count x ≤ text.count x := by
  induction hlength : text.length using Nat.strong_induction_on generalizing text with
  | _ n ih =>
    cases text with
    | nil => simp
    | cons c cs =>
      by_cases hstarts : part <+: c :: cs
      · obtain ⟨rest, hrest⟩ := hstarts
        have hpart : 0 < part.length := length_pos_iff.2 hne
        have hshort : rest.length < n := by
          rw [← hlength, ← hrest, length_append]
          omega
        rw [← hrest, replaceText_part hne, count_append, count_append, count_eq_zero_of_not_mem hx, Nat.zero_add]
        exact (ih _ hshort rest rfl).trans (Nat.le_add_left _ _)
      · rw [replaceText_cons hstarts, count_cons, count_cons]
        exact Nat.add_le_add_right (ih _ (by rw [← hlength]; simp) cs rfl) _

lemma count_replaceText_lt {x : Char} {text : List Char} (hx : x ∉ replacement) (hmem : x ∈ part)
    (h : part <:+: text) : (replaceText part replacement text).count x < text.count x := by
  have hne : part ≠ [] := ne_nil_of_mem hmem
  induction hlength : text.length using Nat.strong_induction_on generalizing text with
  | _ n ih =>
    cases text with
    | nil => exact absurd (eq_nil_of_infix_nil h) hne
    | cons c cs =>
      by_cases hstarts : part <+: c :: cs
      · obtain ⟨rest, hrest⟩ := hstarts
        have hpart : 0 < part.count x := count_pos_iff.2 hmem
        have hle := count_replaceText_le hx hne rest
        rw [← hrest, replaceText_part hne, count_append, count_append, count_eq_zero_of_not_mem hx]
        omega
      · have hrest : part <:+: cs := (infix_cons_iff.1 h).resolve_left hstarts
        rw [replaceText_cons hstarts, count_cons, count_cons]
        exact Nat.add_lt_add_right (ih _ (by rw [← hlength]; simp) hrest rfl) _

end JsRegExp
