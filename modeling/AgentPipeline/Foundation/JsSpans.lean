import AgentPipeline.Foundation.JsExec

/-!
# JsSpans: what a match spans

Membership in `ends`, constructor by constructor. A position is described by what lies between it
and the start: `Spans c used c'` says that `c'` comes after `c`, with `used` between them.

* `mem_matchAt_many`, `mem_matchAt_literal`, `mem_lazyEnds`: the repetitions and texts;
* `mem_ends_seq`, `mem_ends_group`, … — the pattern constructors;
* `head?_ends_star`: the best match of a repetition is the longest;
* `execFrom_eq_some`, `execFrom_eq_none_iff`: the first place that matches.
-/

namespace JsRegExp

open List

/-- The second position comes after the first, with this text between them. -/
structure Spans (c : Cursor) (used : List Char) (c' : Cursor) : Prop where
  rest : c.rest = used ++ c'.rest
  before : c'.before = used.getLast?.or c.before

lemma Spans.refl (c : Cursor) : Spans c [] c := ⟨rfl, rfl⟩

variable {c c' : Cursor}

lemma spans_nil_iff : Spans c [] c' ↔ c' = c := by
  constructor
  · rintro ⟨hrest, hbefore⟩
    cases c
    cases c'
    simp_all
  · rintro rfl
    exact .refl _

variable {u v : List Char}

lemma Spans.trans {c₁ c₂ c₃ : Cursor} (h : Spans c₁ u c₂)
    (h' : Spans c₂ v c₃) : Spans c₁ (u ++ v) c₃ where
  rest := by rw [h.rest, h'.rest, append_assoc]
  before := by
    rw [h'.before, h.before, getLast?_append, Option.or_assoc]

lemma Spans.split (h : Spans c (u ++ v) c') : ∃ d, Spans c u d ∧ Spans d v c' := by
  refine ⟨⟨u.getLast?.or c.before, v ++ c'.rest⟩, ⟨by rw [h.rest, append_assoc], rfl⟩, rfl, ?_⟩
  rw [h.before, getLast?_append, Option.or_assoc]

variable {used : List Char}

lemma Spans.unique {c₁ c₂ : Cursor} (h₁ : Spans c used c₁) (h₂ : Spans c used c₂) : c₁ = c₂ := by
  have hrest : c₁.rest = c₂.rest := append_cancel_left (h₁.rest.symm.trans h₂.rest)
  have hbefore : c₁.before = c₂.before := h₁.before.trans h₂.before.symm
  cases c₁
  cases c₂
  simp_all

lemma Spans.factor {d e : Cursor} (h : Spans c u d) (h' : Spans c v e)
    (hle : u.length ≤ v.length) : ∃ w, v = u ++ w ∧ Spans d w e := by
  have hprefix : u <+: v :=
    prefix_of_prefix_length_le (h.rest ▸ prefix_append u d.rest)
      (h'.rest ▸ prefix_append v e.rest) hle
  obtain ⟨w, rfl⟩ := hprefix
  obtain ⟨d', hd, hw⟩ := h'.split
  exact ⟨w, rfl, h.unique hd ▸ hw⟩

lemma exists_spans {c : Cursor} {used rest : List Char} (h : c.rest = used ++ rest) :
    Spans c used ⟨used.getLast?.or c.before, rest⟩ := ⟨h, rfl⟩

lemma spans_cons_iff {x : Char} :
    Spans c (x :: used) c' ↔ ∃ rest, c.rest = x :: rest ∧ Spans ⟨some x, rest⟩ used c' := by
  constructor
  · rintro ⟨hrest, hbefore⟩
    refine ⟨used ++ c'.rest, by simpa using hrest, rfl, ?_⟩
    rw [hbefore, getLast?_cons]
    cases used.getLast? <;> rfl
  · rintro ⟨rest, hc, hrest, hbefore⟩
    refine ⟨by rw [hc, show rest = used ++ c'.rest from hrest]; rfl, ?_⟩
    rw [hbefore, getLast?_cons]
    cases used.getLast? <;> rfl

lemma between_of_spans (h : Spans c used c') : between c c' = used := by
  simp [between, h.rest]

/-! ## Repetitions and texts -/

lemma spans_advance {n : Nat} (h : n ≤ c.rest.length) :
    Spans c (c.rest.take n) (c.advance n) where
  rest := (take_append_drop n c.rest).symm
  before := by
    unfold Cursor.advance
    by_cases hn : n = 0
    · simp [hn]
    · have hne : c.rest.take n ≠ [] := by
        intro hnil
        have hlength := congrArg List.length hnil
        simp only [length_take, length_nil] at hlength
        omega
      rw [if_neg hn, getLast?_eq_some_getLast hne]
      rfl

variable {least : Nat}

lemma mem_advances (longest : Nat) :
    c' ∈ (List.range (longest + 1 - least)).map (fun i => c.advance (longest - i)) ↔
      ∃ n, least ≤ n ∧ n ≤ longest ∧ c.advance n = c' := by
  simp only [mem_map, mem_range]
  constructor
  · rintro ⟨i, hi, rfl⟩
    exact ⟨longest - i, by omega, by omega, rfl⟩
  · rintro ⟨n, hleast, hlongest, rfl⟩
    refine ⟨longest - n, by omega, ?_⟩
    rw [Nat.sub_sub_self hlongest]

variable {p : Char → Bool} {cs : List Char}

lemma le_takeWhile_iff {n : Nat} : n ≤ (cs.takeWhile p).length ↔ n ≤ cs.length ∧ ∀ x ∈ cs.take n, p x = true := by
  induction cs generalizing n with
  | nil => simp
  | cons c cs ih =>
    cases n with
    | zero => simp
    | succ n =>
      by_cases hc : p c = true
      · simp [hc, ih]
      · simp [hc]

lemma mem_matchAt_many {most : Option Nat} : c' ∈ matchAt (.many p least most) c ↔
      ∃ used, Spans c used c' ∧ (∀ x ∈ used, p x = true) ∧ least ≤ used.length ∧
        ∀ m, most = some m → used.length ≤ m := by
  have hrun : c' ∈ matchAt (.many p least most) c ↔
      ∃ n, least ≤ n ∧ ((n ≤ c.rest.length ∧ ∀ x ∈ c.rest.take n, p x = true) ∧
        ∀ m, most = some m → n ≤ m) ∧ c.advance n = c' := by
    simp only [← le_takeWhile_iff]
    cases most with
    | none =>
      refine (mem_advances (c.rest.takeWhile p).length).trans ?_
      simp
    | some most =>
      refine (mem_advances (min (c.rest.takeWhile p).length most)).trans ?_
      simp only [Nat.le_min, Option.some.injEq, forall_eq']
  rw [hrun]
  constructor
  · rintro ⟨n, hleast, ⟨⟨hlength, hall⟩, hmost⟩, rfl⟩
    have hn : (c.rest.take n).length = n := length_take_of_le hlength
    exact ⟨c.rest.take n, spans_advance hlength, hall, by rwa [hn], by rwa [hn]⟩
  · rintro ⟨used, hspans, hall, hleast, hmost⟩
    have hlength : used.length ≤ c.rest.length := by simp [hspans.rest]
    have htake : c.rest.take used.length = used := by simp [hspans.rest]
    refine ⟨used.length, hleast, ⟨⟨hlength, by rwa [htake]⟩, hmost⟩, ?_⟩
    have hadvance := spans_advance hlength
    rw [htake] at hadvance
    exact hadvance.unique hspans

variable {text : String}

lemma mem_matchAt_literal : c' ∈ matchAt (.literal text) c ↔ Spans c text.toList c' := by
  unfold Pattern.literal
  induction text.toList generalizing c with
  | nil =>
    rw [spans_nil_iff]
    simp [matchAt]
  | cons x xs ih =>
    simp only [foldr_cons, matchAt, mem_flatMap, ih]
    constructor
    · rintro ⟨m, hm, hspans⟩
      obtain ⟨used, hused, hall, hleast, hmost⟩ := mem_matchAt_many.1 hm
      -- exactly one character
      have hlength : used.length = 1 := le_antisymm (hmost 1 rfl) hleast
      obtain ⟨y, rfl⟩ := length_eq_one_iff.1 hlength
      obtain rfl : y = x := by simpa using hall y (by simp)
      simpa using hused.trans hspans
    · intro hspans
      obtain ⟨rest, hc, hspans⟩ := spans_cons_iff.1 hspans
      refine ⟨⟨some x, rest⟩, mem_matchAt_many.2 ⟨[x], ⟨by simp [hc], rfl⟩, ?_⟩, hspans⟩
      simp

variable {before : Option Char}

lemma mem_lazyEnds {rest : List Char} {due : Nat} : c' ∈ lazyEnds p rest due before ↔
      ∃ used, Spans ⟨before, rest⟩ used c' ∧ (∀ x ∈ used, p x = true) ∧ due ≤ used.length := by
  induction rest generalizing due before with
  | nil =>
    have hnil : ∀ used, Spans ⟨before, []⟩ used c' → used = [] := by
      intro used h
      have hrest := h.rest
      simp at hrest
      exact hrest.1
    cases due with
    | zero =>
      simp only [lazyEnds, mem_singleton]
      constructor
      · rintro rfl
        exact ⟨[], .refl _, by simp⟩
      · rintro ⟨used, h, -⟩
        obtain rfl := hnil used h
        exact spans_nil_iff.1 h
    | succ due =>
      simp only [lazyEnds, not_mem_nil, false_iff, not_exists]
      rintro used ⟨h, -, hdue⟩
      obtain rfl := hnil used h
      simp at hdue
  | cons x xs ih =>
    have hmore : ∀ due, (∃ used, Spans ⟨before, x :: xs⟩ used c' ∧ (∀ x ∈ used, p x = true) ∧
          due + 1 ≤ used.length) ↔ p x = true ∧ c' ∈ lazyEnds p xs due (some x) := by
      intro due
      rw [ih]
      constructor
      · rintro ⟨used, h, hall, hdue⟩
        cases used with
        | nil => simp at hdue
        | cons y used =>
          obtain ⟨rest, hrest, h⟩ := spans_cons_iff.1 h
          obtain ⟨rfl, rfl⟩ := List.cons.inj hrest
          exact ⟨hall x (by simp), used, h, fun z hz => hall z (by simp [hz]), by simpa using hdue⟩
      · rintro ⟨hx, used, h, hall, hdue⟩
        refine ⟨x :: used, spans_cons_iff.2 ⟨xs, rfl, h⟩, ?_, by simpa using hdue⟩
        simpa [hx] using hall
    cases due with
    | succ due =>
      rw [hmore]
      by_cases hx : p x = true <;> simp [lazyEnds, hx]
    | zero =>
      have hzero : (∃ used, Spans ⟨before, x :: xs⟩ used c' ∧ (∀ x ∈ used, p x = true) ∧
          0 ≤ used.length) ↔ c' = ⟨before, x :: xs⟩ ∨ p x = true ∧ c' ∈ lazyEnds p xs 0 (some x) := by
        rw [← hmore]
        constructor
        · rintro ⟨used, h, hall, -⟩
          cases used with
          | nil => exact .inl (spans_nil_iff.1 h)
          | cons y used => exact .inr ⟨y :: used, h, hall, by simp⟩
        · rintro (rfl | ⟨used, h, hall, -⟩)
          · exact ⟨[], .refl _, by simp⟩
          · exact ⟨used, h, hall, by simp⟩
      rw [hzero]
      by_cases hx : p x = true <;> simp [lazyEnds, hx]

/-! ## Patterns -/

variable {a b : Regex} {s e : Place}

lemma mem_ends_seq : e ∈ ends (.seq a b) s ↔ ∃ m ∈ ends a s, e ∈ ends b m := by
  rw [ends_seq, mem_flatMap]

lemma mem_ends_plain {p : Pattern} : e ∈ ends (.plain p) s ↔ e.groups = s.groups ∧ e.cursor ∈ matchAt p s.cursor := by
  rw [ends_plain, mem_map]
  constructor
  · rintro ⟨c, hc, rfl⟩
    exact ⟨rfl, hc⟩
  · rintro ⟨hgroups, hc⟩
    exact ⟨e.cursor, hc, by rw [← hgroups]⟩

lemma mem_ends_text : e ∈ ends (.text text) s ↔ e.groups = s.groups ∧ Spans s.cursor text.toList e.cursor := by
  rw [Regex.text, mem_ends_plain, mem_matchAt_literal]

lemma mem_ends_many {most : Option Nat} : e ∈ ends (.plain (.many p least most)) s ↔
      e.groups = s.groups ∧ ∃ used, Spans s.cursor used e.cursor ∧ (∀ x ∈ used, p x = true) ∧
        least ≤ used.length ∧ ∀ m, most = some m → used.length ≤ m := by
  rw [mem_ends_plain, mem_matchAt_many]

lemma mem_ends_lazy : e ∈ ends (.lazy p least) s ↔
      e.groups = s.groups ∧ ∃ used, Spans s.cursor used e.cursor ∧ (∀ x ∈ used, p x = true) ∧ least ≤ used.length := by
  simp only [ends, mem_map]
  constructor
  · rintro ⟨c, hc, rfl⟩
    exact ⟨rfl, mem_lazyEnds.1 hc⟩
  · rintro ⟨hgroups, h⟩
    exact ⟨e.cursor, mem_lazyEnds.2 h, by rw [← hgroups]⟩

lemma mem_ends_alt : e ∈ ends (.alt a b) s ↔ e ∈ ends a s ∨ e ∈ ends b s := by
  simp [ends]

lemma mem_ends_empty : e ∈ ends (.plain .empty) s ↔ e = s := by
  simp [ends, matchAt]

variable {r : Regex}

lemma mem_ends_group {i : Nat} : e ∈ ends (.group i r) s ↔
      ∃ m ∈ ends r s, e = { m with groups := (i, between s.cursor m.cursor) :: m.groups } := by
  simp only [ends, mem_map, eq_comm]

lemma mem_ends_lineStart : e ∈ ends .lineStart s ↔ e = s ∧ s.cursor.before.all isLineTerminator = true := by
  simp only [ends]
  split <;> simp_all

lemma mem_ends_lineEnd : e ∈ ends .lineEnd s ↔ e = s ∧ s.cursor.rest.head?.all isLineTerminator = true := by
  simp only [ends]
  split <;> simp_all

lemma mem_ends_sequence_nil : e ∈ ends (.sequence []) s ↔ e = s := by
  simp [Regex.sequence, ends, matchAt]

lemma mem_ends_sequence_cons {rs : List Regex} :
    e ∈ ends (.sequence (r :: rs)) s ↔ ∃ m ∈ ends r s, e ∈ ends (.sequence rs) m := by
  rw [← mem_ends_seq]
  rfl

lemma mem_ends_sequence_text : e ∈ ends (.sequence [.text text]) s ↔
      e.groups = s.groups ∧ Spans s.cursor text.toList e.cursor := by
  simp [mem_ends_sequence_cons, mem_ends_sequence_nil, mem_ends_text]

lemma mem_ends_anything :
    e ∈ ends (.star fun _ => true) s ↔ e.groups = s.groups ∧ ∃ used, Spans s.cursor used e.cursor := by
  simp [Regex.star, mem_ends_many]

/-! ## The best match -/

lemma head?_flatMap {α β : Type} {l : List α} {f : α → List β} {e : β} (h : (l.flatMap f).head? = some e) :
    ∃ (i : Nat) (m : α), l[i]? = some m ∧ (f m).head? = some e ∧ ∀ j < i, ∀ x, l[j]? = some x → f x = [] := by
  induction l with
  | nil => simp at h
  | cons a l ih =>
    rw [flatMap_cons, head?_append] at h
    cases ha : f a with
    | nil =>
      rw [ha] at h
      obtain ⟨i, m, hm, hhead, hfirst⟩ := ih (by simpa using h)
      refine ⟨i + 1, m, by simpa using hm, hhead, ?_⟩
      rintro (_ | j) hj x hx
      · obtain rfl : a = x := by simpa using hx
        exact ha
      · exact hfirst j (by omega) x (by simpa using hx)
    | cons b bs =>
      refine ⟨0, a, rfl, by simpa [ha] using h, ?_⟩
      intro j hj
      omega

lemma head?_ends_seq (h : (ends (.seq a b) s).head? = some e) : ∃ m ∈ ends a s, (ends b m).head? = some e := by
  obtain ⟨i, m, hm, hhead, -⟩ := head?_flatMap h
  exact ⟨m, mem_of_getElem? hm, hhead⟩

lemma getElem?_ends_star {m : Place} {i : Nat} : (ends (.star p) s)[i]? = some m ↔
      i ≤ (s.cursor.rest.takeWhile p).length ∧
        { s with cursor := s.cursor.advance ((s.cursor.rest.takeWhile p).length - i) } = m := by
  simp only [Regex.star, ends, matchAt, getElem?_map, Option.map_eq_some_iff, Nat.sub_zero]
  constructor
  · rintro ⟨c, ⟨j, hj, rfl⟩, rfl⟩
    obtain ⟨hlt, rfl⟩ := List.getElem?_eq_some_iff.1 hj
    simp only [length_range, getElem_range] at hlt ⊢
    exact ⟨by omega, trivial⟩
  · rintro ⟨hi, rfl⟩
    refine ⟨_, ⟨i, ?_, rfl⟩, rfl⟩
    rw [getElem?_range]
    omega

lemma head?_ends_star (h : (ends (.seq (.star p) r) s).head? = some e) :
    ∃ used c, Spans s.cursor used c ∧ (∀ x ∈ used, p x = true) ∧ (ends r { s with cursor := c }).head? = some e ∧
      ∀ used' c', Spans s.cursor used' c' → (∀ x ∈ used', p x = true) →
        used.length < used'.length → ends r { s with cursor := c' } = [] := by
  obtain ⟨i, m, hm, hhead, hfirst⟩ := head?_flatMap h
  obtain ⟨hi, rfl⟩ := getElem?_ends_star.1 hm
  generalize hrun : (s.cursor.rest.takeWhile p).length = run at *
  have htaken : run - i ≤ (s.cursor.rest.takeWhile p).length := by omega
  obtain ⟨hlength, hall⟩ := le_takeWhile_iff.1 htaken
  refine ⟨_, _, spans_advance hlength, hall, hhead, ?_⟩
  intro used c hspans hused hlt
  rw [length_take_of_le hlength] at hlt
  have htake : s.cursor.rest.take used.length = used := by simp [hspans.rest]
  have hle : used.length ≤ s.cursor.rest.length := by simp [hspans.rest]
  have hwithin : used.length ≤ run := by
    rw [← hrun, le_takeWhile_iff, htake]
    exact ⟨hle, hused⟩
  -- the longer repetition stands before the one that was taken
  refine hfirst (run - used.length) (by omega) _ (getElem?_ends_star.2 ⟨by omega, ?_⟩)
  have hadvance := spans_advance hle
  rw [htake] at hadvance
  rw [hrun, Nat.sub_sub_self hwithin, hadvance.unique hspans]

/-! ## Searching -/

lemma execFrom_eq_some {m : Found} (h : execFrom r before cs = some m) :
    ∃ pre, Spans ⟨before, cs⟩ pre m.start ∧ (ends r { cursor := m.start }).head? = some m.stop ∧
      ∀ pre' c, Spans ⟨before, cs⟩ pre' c → pre'.length < pre.length → ends r { cursor := c } = [] := by
  induction cs generalizing before with
  | nil =>
    obtain ⟨stop, hstop, rfl⟩ := Option.map_eq_some_iff.1 h
    exact ⟨[], .refl _, hstop, by simp⟩
  | cons x xs ih =>
    unfold execFrom at h
    split at h
    · next stop hstop =>
      obtain rfl := Option.some.inj h
      exact ⟨[], .refl _, hstop, by simp⟩
    · next hnone =>
      obtain ⟨pre, hpre, hstop, hfirst⟩ := ih h
      refine ⟨x :: pre, spans_cons_iff.2 ⟨xs, rfl, hpre⟩, hstop, ?_⟩
      intro pre' c hpre' hlt
      cases pre' with
      | nil =>
        obtain rfl := spans_nil_iff.1 hpre'
        simpa using hnone
      | cons y pre' =>
        obtain ⟨rest, hrest, hpre'⟩ := spans_cons_iff.1 hpre'
        obtain ⟨rfl, rfl⟩ := List.cons.inj hrest
        exact hfirst pre' c hpre' (by simpa using hlt)

lemma execFrom_eq_none_iff : execFrom r before cs = none ↔
      ∀ pre c, Spans ⟨before, cs⟩ pre c → ends r { cursor := c } = [] := by
  induction cs generalizing before with
  | nil =>
    have honly : ∀ pre c, Spans ⟨before, []⟩ pre c → c = ⟨before, []⟩ := by
      intro pre c h
      obtain rfl : pre = [] := (append_eq_nil_iff.1 h.rest.symm).1
      exact spans_nil_iff.1 h
    simp only [execFrom, Option.map_eq_none_iff, head?_eq_none_iff]
    constructor
    · intro h pre c hpre
      rw [honly pre c hpre]
      exact h
    · intro h
      exact h [] _ (.refl _)
  | cons x xs ih =>
    unfold execFrom
    cases hends : (ends r { cursor := ⟨before, x :: xs⟩ }).head? with
    | some stop =>
      simp only [reduceCtorEq, false_iff, not_forall]
      refine ⟨[], _, .refl _, fun hnil => ?_⟩
      simp [hnil] at hends
    | none =>
      simp only [ih]
      constructor
      · intro h pre c hpre
        cases pre with
        | nil =>
          obtain rfl := spans_nil_iff.1 hpre
          simpa using hends
        | cons y pre =>
          obtain ⟨rest, hrest, hpre⟩ := spans_cons_iff.1 hpre
          obtain ⟨rfl, rfl⟩ := List.cons.inj hrest
          exact h pre c hpre
      · intro h pre c hpre
        exact h (x :: pre) c (spans_cons_iff.2 ⟨xs, rfl, hpre⟩)

end JsRegExp
