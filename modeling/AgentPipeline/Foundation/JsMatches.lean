import AgentPipeline.Foundation.JsSpans

/-!
# JsMatches: the matches of a search, from what the pattern spans

A pattern whose ends are known as a set has a best match that is known too, wherever the set has one element or its
parts are searched in a known order.

* `spans_of_mem_ends`: every end comes after the start;
* `head?_eq_of_unique`, `head?_flatMap_of`: the best match;
* `exec_anchored`: a search for a pattern that begins with `^`;
* `mem_matchAll`, `matchAll_eq_nil`, `matchAll_eq_singleton`: the matches of the global flag.
-/

namespace JsRegExp

open List Regex

variable {s e : Place}

lemma mem_ends_textStart : e ∈ ends .textStart s ↔ e = s ∧ s.cursor.before = none := by
  simp only [ends]
  split <;> simp_all

variable {r : Regex}

lemma mem_ends_lookahead : e ∈ ends (.lookahead r) s ↔ e = s ∧ ∃ f, f ∈ ends r s := by
  have hsome : (∃ f, f ∈ ends r s) ↔ ends r s ≠ [] := by
    constructor
    · rintro ⟨f, hf⟩ hnil
      rw [hnil] at hf
      cases hf
    · exact exists_mem_of_ne_nil _
  simp only [ends, hsome]
  split <;> simp_all

lemma mem_ends_oneOf {p : Char → Bool} :
    e ∈ ends (.oneOf p) s ↔ e.groups = s.groups ∧ ∃ x, p x = true ∧ Spans s.cursor [x] e.cursor := by
  rw [Regex.oneOf, Pattern.char, mem_ends_many]
  refine and_congr_right fun _ => ⟨?_, ?_⟩
  · rintro ⟨used, hspans, hall, hleast, hmost⟩
    obtain ⟨x, rfl⟩ := length_eq_one_iff.1 (le_antisymm (hmost 1 rfl) hleast)
    exact ⟨x, hall x (by simp), hspans⟩
  · rintro ⟨x, hx, hspans⟩
    exact ⟨[x], hspans, by simpa using hx, by simp, by simp⟩

variable {c : Cursor}

lemma mem_matchAt_letters {letters : List Char} {c' : Cursor} :
    c' ∈ matchAt (Pattern.sequence (letters.map Pattern.letter)) c ↔
      ∃ used, Spans c used c' ∧ used.map Char.toLower = letters.map Char.toLower := by
  induction letters generalizing c with
  | nil =>
    have hempty : c' ∈ matchAt (Pattern.sequence ([].map Pattern.letter)) c ↔ c' = c := by
      simp [Pattern.sequence, matchAt]
    rw [hempty, ← spans_nil_iff]
    constructor
    · exact fun h => ⟨[], h, rfl⟩
    · rintro ⟨used, hspans, hlower⟩
      obtain rfl : used = [] := by simpa using hlower
      exact hspans
  | cons letter letters ih =>
    have hstep : c' ∈ matchAt (Pattern.sequence ((letter :: letters).map Pattern.letter)) c ↔
        ∃ m ∈ matchAt (Pattern.letter letter) c, c' ∈ matchAt (Pattern.sequence (letters.map Pattern.letter)) m := by
      simp [Pattern.sequence, matchAt]
    rw [hstep]
    constructor
    · rintro ⟨m, hm, hrest⟩
      obtain ⟨used, hused, hall, hleast, hmost⟩ := mem_matchAt_many.1 hm
      obtain ⟨x, rfl⟩ := length_eq_one_iff.1 (le_antisymm (hmost 1 rfl) hleast)
      obtain ⟨rest, hspans, hlower⟩ := ih.1 hrest
      have hx : x.toLower = letter.toLower := by simpa using hall x (by simp)
      exact ⟨x :: rest, hused.trans hspans, by simp [hx, hlower]⟩
    · rintro ⟨used, hspans, hlower⟩
      cases used with
      | nil => simp at hlower
      | cons x used =>
        obtain ⟨hx, hrest⟩ := List.cons.inj (show x.toLower :: used.map Char.toLower =
          letter.toLower :: letters.map Char.toLower from hlower)
        obtain ⟨m, hfirst, hsecond⟩ := Spans.split (u := [x]) hspans
        exact ⟨m, mem_matchAt_many.2 ⟨[x], hfirst, by simpa using hx, by simp, by simp⟩, ih.2 ⟨used, hsecond, hrest⟩⟩

lemma mem_ends_textAnyCase {text : String} : e ∈ ends (.textAnyCase text) s ↔ e.groups = s.groups ∧
      ∃ used, Spans s.cursor used e.cursor ∧ used.map Char.toLower = text.toList.map Char.toLower := by
  rw [Regex.textAnyCase, mem_ends_plain, mem_matchAt_letters]

lemma mem_ends_wordBoundary : e ∈ ends (.plain .wordBoundary) s ↔
    e = s ∧ s.cursor.before.any isWordChar ≠ s.cursor.rest.head?.any isWordChar := by
  simp only [ends, matchAt]
  split <;> simp_all

/-! ## Ends come after the start -/

lemma spans_of_mem_matchAt {p : Pattern} {c' : Cursor} (h : c' ∈ matchAt p c) : ∃ used, Spans c used c' := by
  induction p generalizing c c' with
  | empty =>
    obtain rfl : c' = c := by simpa [matchAt] using h
    exact ⟨[], .refl _⟩
  | seq first second ihFirst ihSecond =>
    simp only [matchAt, mem_flatMap] at h
    obtain ⟨m, hm, hrest⟩ := h
    obtain ⟨used, hused⟩ := ihFirst hm
    obtain ⟨used', hused'⟩ := ihSecond hrest
    exact ⟨used ++ used', hused.trans hused'⟩
  | alt first second ihFirst ihSecond =>
    simp only [matchAt, mem_append] at h
    exact h.elim ihFirst ihSecond
  | many p least most =>
    obtain ⟨used, hspans, -⟩ := mem_matchAt_many.1 h
    exact ⟨used, hspans⟩
  | wordBoundary =>
    simp only [matchAt] at h
    split at h
    · cases h
    · obtain rfl := mem_singleton.1 h
      exact ⟨[], .refl _⟩
  | atEnd =>
    simp only [matchAt] at h
    split at h
    · obtain rfl := mem_singleton.1 h
      exact ⟨[], .refl _⟩
    · cases h

lemma spans_of_mem_ends (h : e ∈ ends r s) : ∃ used, Spans s.cursor used e.cursor := by
  induction r generalizing s e with
  | plain p => exact spans_of_mem_matchAt (mem_ends_plain.1 h).2
  | seq first second ihFirst ihSecond =>
    obtain ⟨m, hm, hrest⟩ := mem_ends_seq.1 h
    obtain ⟨used, hused⟩ := ihFirst hm
    obtain ⟨used', hused'⟩ := ihSecond hrest
    exact ⟨used ++ used', hused.trans hused'⟩
  | alt first second ihFirst ihSecond => exact (mem_ends_alt.1 h).elim ihFirst ihSecond
  | lazy p least =>
    obtain ⟨-, used, hspans, -⟩ := mem_ends_lazy.1 h
    exact ⟨used, hspans⟩
  | textStart =>
    rw [(mem_ends_textStart.1 h).1]
    exact ⟨[], .refl _⟩
  | lineStart =>
    rw [(mem_ends_lineStart.1 h).1]
    exact ⟨[], .refl _⟩
  | lineEnd =>
    rw [(mem_ends_lineEnd.1 h).1]
    exact ⟨[], .refl _⟩
  | lookahead r _ =>
    rw [(mem_ends_lookahead.1 h).1]
    exact ⟨[], .refl _⟩
  | group index r ih =>
    obtain ⟨m, hm, rfl⟩ := mem_ends_group.1 h
    exact ih (e := m) hm

/-! ## The best match -/

lemma head?_eq_of_unique {α : Type} {l : List α} {a : α} (h : a ∈ l) (hunique : ∀ b ∈ l, b = a) : l.head? = some a := by
  cases l with
  | nil => cases h
  | cons b l => rw [head?_cons, hunique b mem_cons_self]

lemma head?_flatMap_of {α β : Type} {l : List α} {f : α → List β} {a : α} {b : β} (ha : l.head? = some a)
    (hb : (f a).head? = some b) : (l.flatMap f).head? = some b := by
  cases l with
  | nil => cases ha
  | cons a' l =>
    obtain rfl : a' = a := Option.some.inj ha
    rw [flatMap_cons, head?_append, hb]
    rfl

lemma head?_ends_seq_of {a b : Regex} {m : Place} (ha : (ends a s).head? = some m)
    (hb : (ends b m).head? = some e) : (ends (.seq a b) s).head? = some e := head?_flatMap_of ha hb

lemma Place.eq_of (hgroups : e.groups = s.groups) (hcursor : e.cursor = s.cursor) : e = s := by
  cases e
  cases s
  simp_all

lemma head?_ends_text {text : String} (h : Spans s.cursor text.toList c) :
    (ends (.text text) s).head? = some { s with cursor := c } := by
  refine head?_eq_of_unique (mem_ends_text.2 ⟨rfl, h⟩) fun e he => ?_
  obtain ⟨hgroups, hspans⟩ := mem_ends_text.1 he
  exact Place.eq_of hgroups (hspans.unique h)

lemma head?_ends_textAnyCase {text : String} {used : List Char} {s : Place} {c : Cursor}
    (h : Spans s.cursor used c) (hlower : used.map Char.toLower = text.toList.map Char.toLower) :
    (ends (.textAnyCase text) s).head? = some { s with cursor := c } := by
  refine head?_eq_of_unique (mem_ends_textAnyCase.2 ⟨rfl, used, h, hlower⟩) fun e he => ?_
  obtain ⟨hgroups, used', hspans, hlower'⟩ := mem_ends_textAnyCase.1 he
  -- both cover as many characters as the text has
  have hlength : used'.length = used.length := by simpa using congrArg List.length (hlower'.trans hlower.symm)
  obtain rfl : used' = used := (append_inj (hspans.rest.symm.trans h.rest) hlength).1
  exact Place.eq_of hgroups (hspans.unique h)

lemma head?_ends_lineStart (h : s.cursor.before.all isLineTerminator = true) : (ends .lineStart s).head? = some s := by
  simp [ends, h]

lemma head?_ends_many {p : Char → Bool} {least : Nat} {s : Place} {used : List Char} {c : Cursor}
    (hspans : Spans s.cursor used c) (hall : ∀ x ∈ used, p x = true) (hleast : least ≤ used.length)
    (hstop : ∀ x, c.rest.head? = some x → p x = false) :
    (ends (.plain (.many p least none)) s).head? = some { s with cursor := c } := by
  have hrun : s.cursor.rest.takeWhile p = used := by
    rw [hspans.rest, takeWhile_append_of_pos hall]
    cases hrest : c.rest with
    | nil => simp
    | cons x rest =>
      rw [takeWhile_cons_of_neg (by simpa using hstop x (by rw [hrest]; rfl)), append_nil]
  have hlength : used.length ≤ s.cursor.rest.length := by simp [hspans.rest]
  have htake : s.cursor.rest.take used.length = used := by simp [hspans.rest]
  have hadvance : s.cursor.advance used.length = c := by
    have hspans' := spans_advance hlength
    rw [htake] at hspans'
    exact hspans'.unique hspans
  obtain ⟨more, hmore⟩ : ∃ more, used.length + 1 - least = more + 1 := ⟨used.length - least, by omega⟩
  simp only [ends, matchAt, hrun, hmore, range_succ_eq_map, map_cons, head?_cons, Nat.sub_zero, hadvance]

/-! ## Searching -/

lemma ends_textStart_of_some {x : Char} {rest : List Char} :
    ends (.seq .textStart r) { cursor := ⟨some x, rest⟩ } = [] := by
  simp [ends]

lemma ends_textStart_of_none {rest : List Char} :
    ends (.seq .textStart r) { cursor := ⟨none, rest⟩ } = ends r { cursor := ⟨none, rest⟩ } := by
  simp [ends]

variable {text : List Char}

lemma exec_anchored : exec (.seq .textStart r) text =
    (ends r { cursor := ⟨none, text⟩ }).head?.map fun stop => ⟨⟨none, text⟩, stop⟩ := by
  have hlater : ∀ (x : Char) (rest : List Char), execFrom (.seq .textStart r) (some x) rest = none := by
    intro x rest
    refine execFrom_eq_none_iff.2 fun pre c hpre => ?_
    obtain ⟨before, rest'⟩ := c
    have hbefore : before = pre.getLast?.or (some x) := hpre.before
    cases hlast : pre.getLast? with
    | none => rw [hbefore, hlast]; exact ends_textStart_of_some
    | some y => rw [hbefore, hlast]; exact ends_textStart_of_some
  cases text with
  | nil =>
    rw [exec, execFrom, ends_textStart_of_none]
  | cons x rest =>
    rw [exec, execFrom, ends_textStart_of_none]
    cases hends : (ends r { cursor := ⟨none, x :: rest⟩ }).head? with
    | some stop => rfl
    | none => exact hlater x rest

lemma mem_matchFrom {fuel : Nat} {m : Found} (h : m ∈ matchFrom r fuel c) :
    ∃ pre, Spans c pre m.start ∧ (ends r { cursor := m.start }).head? = some m.stop := by
  induction fuel generalizing c with
  | zero => cases h
  | succ fuel ih =>
    unfold matchFrom at h
    split at h
    · cases h
    · next first hfirst =>
      obtain ⟨pre, hpre, hstop, -⟩ := execFrom_eq_some hfirst
      rcases mem_cons.1 h with rfl | hrest
      · exact ⟨pre, hpre, hstop⟩
      · obtain ⟨used, hused⟩ := spans_of_mem_ends (mem_of_head? hstop)
        obtain ⟨pre', hpre', hstop'⟩ := ih hrest
        exact ⟨pre ++ used ++ pre', (hpre.trans hused).trans hpre', hstop'⟩

lemma mem_matchAll {m : Found} (h : m ∈ matchAll r text) :
    ∃ pre, Spans ⟨none, text⟩ pre m.start ∧ (ends r { cursor := m.start }).head? = some m.stop := mem_matchFrom h

lemma matchAll_eq_nil (h : ∀ pre c, Spans ⟨none, text⟩ pre c → ends r { cursor := c } = []) : matchAll r text = [] := by
  rw [matchAll, matchFrom, execFrom_eq_none_iff.2 h]

lemma test_eq_true_iff : test r text = true ↔ ∃ pre c e, Spans ⟨none, text⟩ pre c ∧ e ∈ ends r { cursor := c } := by
  constructor
  · intro h
    obtain ⟨m, hm⟩ := Option.isSome_iff_exists.1 h
    obtain ⟨pre, hpre, hhead, -⟩ := execFrom_eq_some hm
    exact ⟨pre, m.start, m.stop, hpre, mem_of_mem_head? hhead⟩
  · rintro ⟨pre, c, e, hpre, he⟩
    rw [test, exec, Option.isSome_iff_ne_none, Ne, execFrom_eq_none_iff]
    intro hnone
    rw [hnone pre c hpre] at he
    cases he

variable {start : Cursor} {pre : List Char} {stop : Place}

lemma execFrom_of_first (hpre : Spans c pre start) (hstop : (ends r { cursor := start }).head? = some stop)
    (hfirst : ∀ pre' c', Spans c pre' c' → pre'.length < pre.length → ends r { cursor := c' } = []) :
    execFrom r c.before c.rest = some ⟨start, stop⟩ := by
  have hmatches : ends r { cursor := start } ≠ [] := by
    intro hnil
    rw [hnil] at hstop
    cases hstop
  cases hexec : execFrom r c.before c.rest with
  | none => exact absurd (execFrom_eq_none_iff.1 hexec pre start hpre) hmatches
  | some m =>
    obtain ⟨pre', hpre', hstop', hfirst'⟩ := execFrom_eq_some hexec
    have hlt : ¬ pre'.length < pre.length := by
      intro hlt
      rw [hfirst pre' m.start hpre' hlt] at hstop'
      cases hstop'
    have hgt : ¬ pre.length < pre'.length := fun hgt => hmatches (hfirst' pre start hpre hgt)
    have hsame : pre' = pre := by
      have hsplit : pre' ++ m.start.rest = pre ++ start.rest := hpre'.rest.symm.trans hpre.rest
      exact (append_inj hsplit (by omega)).1
    subst hsame
    have hcursor : m.start = start := hpre'.unique hpre
    obtain ⟨mstart, mstop⟩ := m
    simp only at hcursor hstop'
    subst hcursor
    rw [hstop] at hstop'
    rw [Option.some.inj hstop']

lemma exec_of_head (h : (ends r { cursor := ⟨none, text⟩ }).head? = some stop) :
    exec r text = some ⟨⟨none, text⟩, stop⟩ :=
  execFrom_of_first (.refl ⟨none, text⟩) h fun _ _ _ hlt => absurd hlt (Nat.not_lt_zero _)

lemma matchAll_eq_singleton
    (hpre : Spans ⟨none, text⟩ pre start) (hstop : (ends r { cursor := start }).head? = some stop)
    (hmoves : stop.cursor.rest.length < start.rest.length)
    (honly : ∀ pre' c, Spans ⟨none, text⟩ pre' c → ends r { cursor := c } ≠ [] → pre'.length = pre.length) :
    matchAll r text = [⟨start, stop⟩] := by
  have hlength : 0 < text.length := by
    have hrest : text = pre ++ start.rest := hpre.rest
    rw [hrest, length_append]
    omega
  obtain ⟨fuel, hfuel⟩ : ∃ fuel, text.length = fuel + 1 := ⟨text.length - 1, by omega⟩
  have hexec : execFrom r none text = some ⟨start, stop⟩ := execFrom_of_first hpre hstop fun pre' c hpre' hlt => by
    by_contra hne
    exact absurd (honly pre' c hpre' hne) (by omega)
  -- no further match
  obtain ⟨used, hused⟩ := spans_of_mem_ends (mem_of_head? hstop)
  have hafter : execFrom r stop.cursor.before stop.cursor.rest = none := by
    refine execFrom_eq_none_iff.2 fun pre' c hpre' => ?_
    by_contra hne
    have hsame := honly (pre ++ used ++ pre') c ((hpre.trans hused).trans hpre') hne
    have hrest : start.rest = used ++ stop.cursor.rest := hused.rest
    rw [hrest, length_append] at hmoves
    rw [length_append, length_append] at hsame
    omega
  rw [matchAll, hfuel, matchFrom]
  simp only [hexec, matchFrom, hafter]

lemma getLast?_matchFrom {fuel : Nat} (hpre : Spans c pre start)
    (hstop : (ends r { cursor := start }).head? = some stop) (hend : stop.cursor.rest = [])
    (hempty : ∀ before, ends r { cursor := ⟨before, []⟩ } = [])
    (hbefore : ∀ pre' c' e, Spans c pre' c' → pre'.length < pre.length → e ∈ ends r { cursor := c' } →
        start.rest.length ≤ e.cursor.rest.length ∧ e.cursor.rest.length < c'.rest.length)
    (hfuel : pre.length < fuel) :
    (matchFrom r fuel c).getLast? = some ⟨start, stop⟩ := by
  have hmatches : ends r { cursor := start } ≠ [] := by
    intro hnil
    rw [hnil] at hstop
    cases hstop
  induction fuel generalizing c pre with
  | zero => omega
  | succ fuel ih =>
    unfold matchFrom
    cases hexec : execFrom r c.before c.rest with
    | none => exact absurd (execFrom_eq_none_iff.1 hexec pre start hpre) hmatches
    | some m =>
      obtain ⟨pre', hpre', hstop', hfirst⟩ := execFrom_eq_some hexec
      have hle : pre'.length ≤ pre.length := by
        by_contra hgt
        exact hmatches (hfirst pre start hpre (by omega))
      rcases Nat.lt_or_eq_of_le hle with hlt | heq
      · -- a match before it; the search goes on where that one ends
        obtain ⟨hreach, hmoves⟩ := hbefore pre' m.start m.stop hpre' hlt (mem_of_head? hstop')
        obtain ⟨used, hused⟩ := spans_of_mem_ends (mem_of_head? hstop')
        have hstart : m.start.rest.length = used.length + m.stop.cursor.rest.length := by
          rw [hused.rest, length_append]
        have hrest := congrArg List.length (hpre.rest.symm.trans (hpre'.trans hused).rest)
        simp only [length_append] at hrest
        obtain ⟨w, rfl, hw⟩ := (hpre'.trans hused).factor hpre (by
          simp only [length_append]
          omega)
        simp only [length_append] at hfuel
        have hlast := ih hw (fun pre'' c' e hc' hlt' he => by
          refine hbefore _ c' e ((hpre'.trans hused).trans hc') ?_ he
          simp only [length_append]
          omega) (by omega)
        rw [getLast?_cons, hlast]
        rfl
      · obtain ⟨w, hw, hspans⟩ := hpre'.factor hpre hle
        obtain rfl : w = [] := by
          have hlength := congrArg List.length hw
          simp only [length_append] at hlength
          exact eq_nil_of_length_eq_zero (by omega)
        obtain ⟨mstart, mstop⟩ := m
        obtain rfl : start = mstart := spans_nil_iff.1 hspans
        obtain rfl : mstop = stop := Option.some.inj (hstop'.symm.trans hstop)
        have hafter : matchFrom r fuel mstop.cursor = [] := by
          cases fuel with
          | zero => rfl
          | succ fuel =>
            unfold matchFrom
            rw [hend, execFrom, hempty]
            rfl
        change (⟨start, mstop⟩ :: matchFrom r fuel mstop.cursor).getLast? = _
        rw [hafter]
        rfl

end JsRegExp
