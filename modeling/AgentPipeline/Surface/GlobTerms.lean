import AgentPipeline.Surface.Glob

/-!
# Surface.GlobTerms: what the terms of a translated glob accept

* `termsLanguage`: the texts of a list of terms;
* `matchesGlob_iff`: a glob accepts the texts of its terms;
* `turns_le_of_terms`: no list of terms accepts a text with more line ends before a slash than it has terms;
* `leastWord`: the shortest text of a list of terms; it holds no `?`, and no more characters than the source.
-/

namespace AgentPipeline.Surface

open List Option JsRegExp

section Language

variable (fold : Canonicalize)

/-! ## Languages of terms -/

def atomLanguage : Atom → List Char → Prop
  | .directory, used => ∃ u, used = u ++ ['/'] ∧ ∀ c ∈ u, isDot c = true
  | atom, used => ∃ p c, atomClass fold atom = some p ∧ used = [c] ∧ p c = true

def termLanguage : Term → List Char → Prop
  | (atom, .once), used => atomLanguage fold atom used
  | (atom, .star), used | (atom, .starLazy), used =>
    ∃ p, atomClass fold atom = some p ∧ ∀ c ∈ used, p c = true
  | (atom, .optional), used | (atom, .optionalLazy), used => atomLanguage fold atom used ∨ used = []

def termsLanguage : List Term → List Char → Prop
  | [], used => used = []
  | term :: terms, used => ∃ u v, used = u ++ v ∧ termLanguage fold term u ∧ termsLanguage terms v

end Language

variable {fold : Canonicalize}

lemma spells_throughSlash : Spells (throughSlash fold) (atomLanguage fold .directory) := by
  refine (Spells.star.seq Spells.oneOf).congr fun used => ?_
  constructor
  · rintro ⟨u, v, rfl, hu, x, rfl, hx⟩
    obtain rfl : x = '/' := fold.alone '/' (by simp) x (by simpa using hx)
    exact ⟨u, rfl, hu⟩
  · rintro ⟨u, rfl, hu⟩
    exact ⟨u, ['/'], rfl, hu, '/', rfl, by simp⟩

variable {atom : Atom}

lemma spells_class {p : Char → Bool} (h : atomClass fold atom = some p) :
    Spells (.oneOf p) (atomLanguage fold atom) := by
  refine Spells.oneOf.congr fun used => ?_
  cases atom with
  | directory => cases h
  | char c | dot | notSlash =>
    simp only [atomLanguage, h, Option.some.injEq]
    constructor
    · rintro ⟨x, rfl, hx⟩
      exact ⟨p, x, rfl, rfl, hx⟩
    · rintro ⟨p, x, rfl, rfl, hx⟩
      exact ⟨x, rfl, hx⟩

variable {term : Term}

lemma spells_term {r : Regex} (h : termRegex fold term = some r) : Spells r (termLanguage fold term) := by
  obtain ⟨atom, quantifier⟩ := term
  cases hclass : atomClass fold atom with
  | some p =>
    have hatom := spells_class hclass
    have hstar : ∀ used : List Char, (∀ c ∈ used, p c = true) ↔
        ∃ p, atomClass fold atom = some p ∧ ∀ c ∈ used, p c = true := by
      simp [hclass]
    cases quantifier <;> simp only [termRegex, hclass, Option.some.injEq] at h <;> subst h
    · exact hatom
    · exact Spells.star.congr hstar
    · exact Spells.lazyStar.congr hstar
    · exact hatom.alt .empty
    · exact (Spells.empty.alt hatom).congr fun _ => or_comm
  | none =>
    obtain rfl : atom = .directory := by cases atom <;> simp [atomClass] at hclass ⊢
    cases quantifier <;> simp only [termRegex, hclass, Option.some.injEq, reduceCtorEq] at h <;> subst h
    · exact spells_throughSlash
    · exact spells_throughSlash.alt .empty
    · exact (Spells.empty.alt spells_throughSlash).congr fun _ => or_comm

variable {terms : List Term}

lemma spells_terms {rs : List Regex} (h : terms.mapM (termRegex fold) = some rs) :
    Spells (.sequence rs) (termsLanguage fold terms) := by
  induction terms generalizing rs with
  | nil =>
    obtain rfl : rs = [] := by simpa using h.symm
    exact .empty
  | cons term terms ih =>
    simp only [mapM_cons, bind_eq_bind, bind_eq_some_iff, Option.pure_def, Option.some.injEq] at h
    obtain ⟨r, hr, rs', hrs, rfl⟩ := h
    exact (spells_term hr).seq (ih hrs)

lemma matchesGlob_iff {pattern path : List Char} : matchesGlob fold pattern path = true ↔ ∃ terms rs,
      readTerms (regexSource pattern).length (regexSource pattern) = some terms ∧
        terms.mapM (termRegex fold) = some rs ∧ termsLanguage fold terms path := by
  have hany : matchesGlob fold pattern path = true ↔ ∃ r, globToRegExp fold pattern = some r ∧ test r path = true := by
    cases hregex : globToRegExp fold pattern <;> simp [matchesGlob, hregex]
  rw [hany]
  constructor
  · rintro ⟨r, hr, htest⟩
    obtain ⟨rs, hrs, rfl⟩ := map_eq_some_iff.1 hr
    obtain ⟨terms, hterms, hmap⟩ := bind_eq_some_iff.1 hrs
    exact ⟨terms, rs, hterms, hmap, (test_whole (spells_terms hmap) path).1 htest⟩
  · rintro ⟨terms, rs, hterms, hmap, hpath⟩
    exact ⟨_, map_eq_some_iff.2 ⟨rs, bind_eq_some_iff.2 ⟨terms, hterms, hmap⟩, rfl⟩,
      (test_whole (spells_terms hmap) path).2 hpath⟩

/-! ## Line ends before slashes -/

/-- How often a line end stands right before a slash. -/
def turns : List Char → Nat
  | [] => 0
  | c :: cs => (decide (c = '\n') && decide (cs.head? = some '/')).toNat + turns cs

lemma turns_append_le (u v : List Char) : turns (u ++ v) ≤ turns u + turns v + 1 := by
  induction u with
  | nil => simp [turns]
  | cons c u ih =>
    cases u with
    | nil =>
      have hle := Bool.toNat_le (decide (c = '\n') && decide (v.head? = some '/'))
      simp only [turns, singleton_append]
      omega
    | cons d u =>
      have hhead : ((d :: u) ++ v).head? = (d :: u).head? := rfl
      rw [cons_append, turns, turns, hhead]
      omega

lemma le_turns_append (u v : List Char) : turns v ≤ turns (u ++ v) := by
  induction u with
  | nil => exact le_refl _
  | cons c u ih =>
    rw [cons_append, turns]
    omega

/-- A run of line ends and slashes. -/
def turnRun (n : Nat) : List Char := (List.replicate n ['\n', '/']).flatten

lemma turns_turnRun_append (n : Nat) (rest : List Char) : turns (turnRun n ++ rest) = n + turns rest := by
  induction n with
  | zero => simp [turnRun]
  | succ n ih =>
    have hrun : turnRun (n + 1) ++ rest = '\n' :: '/' :: (turnRun n ++ rest) := by
      simp [turnRun, replicate_succ]
    rw [hrun, turns, turns, ih]
    simp
    omega

variable {used : List Char}

lemma turns_eq_zero (h : (∀ c ∈ used, c ≠ '\n') ∨ ∀ c ∈ used, c ≠ '/') : turns used = 0 := by
  induction used with
  | nil => rfl
  | cons c cs ih =>
    have hrest : turns cs = 0 := ih (h.imp (fun h x hx => h x (by simp [hx])) fun h x hx => h x (by simp [hx]))
    have hhere : (decide (c = '\n') && decide (cs.head? = some '/')) = false := by
      rcases h with h | h
      · simp [h c (by simp)]
      · have hhead : cs.head? ≠ some '/' := fun hhead =>
          h '/' (mem_cons_of_mem _ (mem_of_mem_head? hhead)) rfl
        simp [hhead]
    rw [turns, hrest, hhere]
    rfl

lemma turns_of_class {p : Char → Bool} (h : atomClass fold atom = some p)
    (hused : ∀ c ∈ used, p c = true) : turns used = 0 := by
  apply turns_eq_zero
  cases atom with
  | directory => cases h
  | dot =>
    obtain rfl := some.inj h
    refine .inl fun c hc => ?_
    rintro rfl
    exact absurd (hused _ hc) (by decide)
  | notSlash =>
    obtain rfl := some.inj h
    refine .inr fun c hc => ?_
    rintro rfl
    simpa using hused _ hc
  | char d =>
    obtain rfl := some.inj h
    by_cases hslash : '/' ∈ used
    · refine .inl fun c hc => ?_
      rintro rfl
      have hsame : fold.canonical '\n' = fold.canonical '/' := by
        have h₁ := hused _ hc
        have h₂ := hused _ hslash
        simp only [decide_eq_true_eq] at h₁ h₂
        rw [h₁, h₂]
      exact absurd (fold.alone '/' (by simp) _ hsame) (by decide)
    · exact .inr fun c hc hcs => hslash (hcs ▸ hc)

lemma turns_of_atom (h : atomLanguage fold atom used) : turns used = 0 := by
  cases atom with
  | directory =>
    obtain ⟨u, rfl, hu⟩ := h
    refine turns_eq_zero (.inl fun c hc => ?_)
    rintro rfl
    rcases mem_append.1 hc with hc | hc
    · exact absurd (hu _ hc) (by decide)
    · simp at hc
  | char c | dot | notSlash =>
    obtain ⟨p, c, hp, rfl, hc⟩ := h
    exact turns_of_class hp (by simpa using hc)

lemma turns_of_term (h : termLanguage fold term used) : turns used = 0 := by
  obtain ⟨atom, quantifier⟩ := term
  cases quantifier with
  | once => exact turns_of_atom h
  | star | starLazy =>
    obtain ⟨p, hp, hused⟩ := h
    exact turns_of_class hp hused
  | optional | optionalLazy =>
    rcases h with h | rfl
    · exact turns_of_atom h
    · rfl

lemma turns_le_of_terms (h : termsLanguage fold terms used) : turns used ≤ terms.length := by
  induction terms generalizing used with
  | nil =>
    obtain rfl : used = [] := h
    exact Nat.zero_le _
  | cons term terms ih =>
    obtain ⟨u, v, rfl, hu, hv⟩ := h
    have happend := turns_append_le u v
    have hrest := ih hv
    rw [turns_of_term hu] at happend
    rw [length_cons]
    omega

/-! ## The least text -/

/-- A text of a term: one character where the term must take one. -/
def leastTerm : Term → List Char
  | (.char c, .once) => [c]
  | (.dot, .once) => ['x']
  | (.notSlash, .once) => ['x']
  | (.directory, .once) => ['/']
  | _ => []

lemma leastTerm_of_repeated {quantifier : Quantifier} (h : quantifier ≠ .once) (atom : Atom) :
    leastTerm (atom, quantifier) = [] := by
  cases quantifier with
  | once => exact absurd rfl h
  | star | starLazy | optional | optionalLazy => cases atom <;> rfl

lemma mem_leastTerm_of_class (h : atom = .dot ∨ atom = .notSlash ∨ atom = .directory)
    {quantifier : Quantifier} {x : Char} (hx : x ∈ leastTerm (atom, quantifier)) : x = 'x' ∨ x = '/' := by
  by_cases hquantifier : quantifier = .once
  · subst hquantifier
    rcases h with rfl | rfl | rfl
    · exact .inl (mem_singleton.1 hx)
    · exact .inl (mem_singleton.1 hx)
    · exact .inr (mem_singleton.1 hx)
  · rw [leastTerm_of_repeated hquantifier] at hx
    exact absurd hx not_mem_nil

def leastWord (terms : List Term) : List Char := terms.flatMap leastTerm

lemma termLanguage_leastTerm {r : Regex} (h : termRegex fold term = some r) :
    termLanguage fold term (leastTerm term) := by
  obtain ⟨atom, quantifier⟩ := term
  cases quantifier with
  | once =>
    cases atom with
    | char c => exact ⟨_, c, rfl, rfl, by simp⟩
    | dot => exact ⟨_, 'x', rfl, rfl, by decide⟩
    | notSlash =>
      refine ⟨_, 'x', rfl, rfl, ?_⟩
      simp only [decide_eq_true_eq]
      exact fun hsame => absurd (fold.alone '/' (by simp) 'x' hsame) (by decide)
    | directory => exact ⟨[], rfl, by simp⟩
  | star | starLazy =>
    cases hclass : atomClass fold atom with
    | none => simp [termRegex, hclass] at h
    | some p => exact ⟨p, hclass, by rw [leastTerm_of_repeated (by decide)]; simp⟩
  | optional | optionalLazy => exact .inr (leastTerm_of_repeated (by decide) atom)

lemma termsLanguage_leastWord {rs : List Regex}
    (h : terms.mapM (termRegex fold) = some rs) : termsLanguage fold terms (leastWord terms) := by
  induction terms generalizing rs with
  | nil => rfl
  | cons term terms ih =>
    simp only [mapM_cons, bind_eq_bind, bind_eq_some_iff, Option.pure_def, Option.some.injEq] at h
    obtain ⟨r, hr, rs', hrs, rfl⟩ := h
    exact ⟨_, _, flatMap_cons, termLanguage_leastTerm hr, ih hrs⟩

/-! ## Sources -/

/-- In a source a backslash stands before a special character. -/
inductive Source : List Char → Prop
  | nil : Source []
  | escape {c : Char} {rest : List Char} (hc : c ∈ regexMeta) (hrest : Source rest) : Source ('\\' :: c :: rest)
  | plain {c : Char} {rest : List Char} (hc : c ≠ '\\') (hrest : Source rest) : Source (c :: rest)

variable {u : List Char}

lemma Source.append {v : List Char} (hu : Source u) (hv : Source v) : Source (u ++ v) := by
  induction hu with
  | nil => exact hv
  | escape hc _ ih => exact .escape hc ih
  | plain hc _ ih => exact .plain hc ih

lemma Source.of_plain (h : ∀ c ∈ u, c ≠ '\\') : Source u := by
  induction u with
  | nil => exact .nil
  | cons c u ih => exact .plain (h c (by simp)) (ih fun x hx => h x (by simp [hx]))

lemma Source.drop {v : List Char} (h : Source (u ++ v)) (hu : ∀ c ∈ u, c ≠ '\\') : Source v := by
  induction u with
  | nil => exact h
  | cons c u ih =>
    rw [cons_append] at h
    generalize hrest : u ++ v = rest at h
    cases h with
    | escape _ _ => exact absurd rfl (hu _ (by simp))
    | plain _ h =>
      rw [← hrest] at h
      exact ih h fun x hx => hu x (by simp [hx])

lemma source_escapeMeta (c : Char) : Source (escapeMeta c) := by
  unfold escapeMeta
  split
  · next h => exact .escape (contains_iff_mem.1 h) .nil
  · next h =>
    refine .plain ?_ .nil
    rintro rfl
    exact h (by decide)

lemma source_flatMap_escapeMeta (pattern : List Char) : Source (pattern.flatMap escapeMeta) := by
  induction pattern with
  | nil => exact .nil
  | cons c pattern ih => exact (source_escapeMeta c).append ih

lemma Source.replaceText {part replacement text : List Char} (h : Source text) (hne : part ≠ [])
    (hpart : ∀ c ∈ part, c ≠ '\\' ∧ c ∉ regexMeta) (hreplacement : ∀ c ∈ replacement, c ≠ '\\') :
    Source (JsRegExp.replaceText part replacement text) := by
  obtain ⟨d, ds, rfl⟩ := exists_cons_of_ne_nil hne
  have hd := hpart d (by simp)
  induction hlength : text.length using Nat.strong_induction_on generalizing text with
  | _ n ih =>
    cases h with
    | nil => exact .nil
    | @escape c rest hc hrest =>
      have hcd : c ≠ d := by
        rintro rfl
        exact hd.2 hc
      rw [replaceText_cons (not_prefix_of_head_ne hd.1.symm), replaceText_cons (not_prefix_of_head_ne hcd)]
      exact .escape hc (ih _ (by rw [← hlength, length_cons, length_cons]; omega) hrest rfl)
    | @plain c rest hc hrest =>
      by_cases hstarts : (d :: ds) <+: c :: rest
      · obtain ⟨tail, htail⟩ := hstarts
        have hleft : Source tail := by
          have hwhole : Source ((d :: ds) ++ tail) := htail ▸ .plain hc hrest
          exact hwhole.drop fun x hx => (hpart x hx).1
        have hshort : tail.length < n := by
          rw [← hlength, ← htail, length_append, length_cons]
          omega
        rw [← htail, replaceText_part hne]
        exact (Source.of_plain hreplacement).append (ih _ hshort hleft rfl)
      · rw [replaceText_cons hstarts]
        exact .plain hc (ih _ (by rw [← hlength, length_cons]; omega) hrest rfl)

lemma source_regexSource (pattern : List Char) : Source (regexSource pattern) := by
  unfold regexSource
  have hescaped := source_flatMap_escapeMeta pattern
  have hdirectories : Source (JsRegExp.replaceText ['*', '*', '/'] directoryMark _) :=
    hescaped.replaceText (by simp) (by simp [regexMeta]) (by simp [directoryMark])
  have hanythings : Source (JsRegExp.replaceText ['*', '*'] anythingMark _) :=
    hdirectories.replaceText (by simp) (by simp [regexMeta]) (by simp [anythingMark])
  have hstars : Source (JsRegExp.replaceText ['*'] ['[', '^', '/', ']', '*'] _) :=
    hanythings.replaceText (by simp) (by simp [regexMeta]) (by simp)
  have hmarks : Source (JsRegExp.replaceText directoryMark ['(', '?', ':', '.', '*', '/', ')', '?'] _) :=
    hstars.replaceText (by simp [directoryMark]) (by simp [directoryMark, regexMeta]) (by simp)
  exact hmarks.replaceText (by simp [anythingMark]) (by simp [anythingMark, regexMeta]) (by simp)

/-! ## What is read from a source -/

variable {source : List Char}

lemma readAtom_cases {rest : List Char} (h : readAtom source = some (atom, rest)) :
    (∃ c, source = '\\' :: c :: rest ∧ atom = .char c) ∨ (source = '.' :: rest ∧ atom = .dot) ∨
    (source = '[' :: '^' :: '/' :: ']' :: rest ∧ atom = .notSlash) ∨
    (source = '(' :: '?' :: ':' :: '.' :: '*' :: '/' :: ')' :: rest ∧ atom = .directory) ∨
    ∃ c, source = c :: rest ∧ isSyntaxChar c = false ∧ atom = .char c := by
  unfold readAtom at h
  split at h
  · obtain ⟨rfl, rfl⟩ := Prod.mk.inj (some.inj h)
    exact .inl ⟨_, rfl, rfl⟩
  · obtain ⟨rfl, rfl⟩ := Prod.mk.inj (some.inj h)
    exact .inr (.inl ⟨rfl, rfl⟩)
  · obtain ⟨rfl, rfl⟩ := Prod.mk.inj (some.inj h)
    exact .inr (.inr (.inl ⟨rfl, rfl⟩))
  · obtain ⟨rfl, rfl⟩ := Prod.mk.inj (some.inj h)
    exact .inr (.inr (.inr (.inl ⟨rfl, rfl⟩)))
  · next c rest' _ _ _ _ =>
    split at h
    · cases h
    · next hc =>
      obtain ⟨rfl, rfl⟩ := Prod.mk.inj (some.inj h)
      exact .inr (.inr (.inr (.inr ⟨c, rfl, by simpa using hc, rfl⟩)))
  · cases h

lemma readQuantifier_cases (source : List Char) :
    ∃ used, source = used ++ (readQuantifier source).2 ∧ ∀ c ∈ used, c = '*' ∨ c = '?' := by
  unfold readQuantifier
  split
  · exact ⟨['*', '?'], rfl, by simp⟩
  · exact ⟨['*'], rfl, by simp⟩
  · exact ⟨['?', '?'], rfl, by simp⟩
  · exact ⟨['?'], rfl, by simp⟩
  · exact ⟨[], rfl, by simp⟩

variable {fuel : Nat}

lemma readTerms_succ (h : readTerms fuel source = some (term :: terms)) :
    ∃ fuel' rest, readAtom source = some (term.1, rest) ∧ readTerms fuel' (readQuantifier rest).2 = some terms := by
  cases source with
  | nil => simp [readTerms] at h
  | cons c cs =>
    cases fuel with
    | zero => simp [readTerms] at h
    | succ fuel =>
      simp only [readTerms] at h
      split at h
      · cases h
      · next atom rest hatom =>
        obtain ⟨terms', hterms, hcons⟩ := map_eq_some_iff.1 h
        obtain ⟨rfl, rfl⟩ := List.cons.inj hcons
        exact ⟨fuel, rest, hatom, hterms⟩

lemma leastTerm_char (c : Char) (quantifier : Quantifier) :
    leastTerm (.char c, quantifier) = [c] ∨ leastTerm (.char c, quantifier) = [] := by
  cases quantifier
  · exact .inl rfl
  · exact .inr rfl
  · exact .inr rfl
  · exact .inr rfl
  · exact .inr rfl

lemma count_leastWord_le {x : Char} (h : readTerms fuel source = some terms) (hx : x ≠ 'x' ∧ x ≠ '/') :
    (leastWord terms).count x ≤ source.count x := by
  induction terms generalizing fuel source with
  | nil => simp [leastWord]
  | cons term terms ih =>
    obtain ⟨fuel', rest, hatom, hterms⟩ := readTerms_succ h
    have hrest := ih hterms
    obtain ⟨used, hused, -⟩ := readQuantifier_cases rest
    have hquantifier : (readQuantifier rest).2.count x ≤ rest.count x := by
      conv => rhs; rw [hused]
      rw [count_append]
      omega
    rw [leastWord, flatMap_cons, ← leastWord, count_append]
    obtain ⟨atom, quantifier⟩ := term
    have hclass : ∀ atom, atom = .dot ∨ atom = .notSlash ∨ atom = .directory →
        (leastTerm (atom, quantifier)).count x = 0 := by
      intro atom hatom
      refine count_eq_zero_of_not_mem fun hmem => ?_
      rcases mem_leastTerm_of_class hatom hmem with rfl | rfl
      · exact hx.1 rfl
      · exact hx.2 rfl
    rcases readAtom_cases hatom with ⟨c, rfl, hc⟩ | ⟨rfl, hc⟩ | ⟨rfl, hc⟩ | ⟨rfl, hc⟩ | ⟨c, rfl, -, hc⟩ <;>
      subst hc
    · rcases leastTerm_char c quantifier with heq | heq <;> rw [heq] <;> simp [count_cons] <;> omega
    · rw [hclass _ (by simp)]
      simp only [count_cons]
      omega
    · rw [hclass _ (by simp)]
      simp only [count_cons]
      omega
    · rw [hclass _ (by simp)]
      simp only [count_cons]
      omega
    · rcases leastTerm_char c quantifier with heq | heq <;> rw [heq] <;> simp [count_cons] <;> omega

/-- No least text of a source holds the quantifier `?`. -/
lemma question_not_mem_leastWord
    (hsource : Source source) (h : readTerms fuel source = some terms) : '?' ∉ leastWord terms := by
  induction terms generalizing fuel source with
  | nil => simp [leastWord]
  | cons term terms ih =>
    obtain ⟨fuel', rest, hatom, hterms⟩ := readTerms_succ h
    obtain ⟨used, hused, hchars⟩ := readQuantifier_cases rest
    have hplain : ∀ c ∈ used, c ≠ '\\' := by
      intro c hc
      rcases hchars c hc with rfl | rfl <;> decide
    have hstep : Source rest → '?' ∉ leastWord terms := fun hrest => by
      rw [hused] at hrest
      exact ih (hrest.drop hplain) hterms
    obtain ⟨atom, quantifier⟩ := term
    rw [leastWord, flatMap_cons, ← leastWord, mem_append, not_or]
    have hclass : ∀ atom, atom = .dot ∨ atom = .notSlash ∨ atom = .directory → '?' ∉ leastTerm (atom, quantifier) := by
      intro atom hatom hmem
      rcases mem_leastTerm_of_class hatom hmem with h | h <;> exact absurd h (by decide)
    have hchar : ∀ c, c ≠ '?' → '?' ∉ leastTerm (.char c, quantifier) := by
      intro c hc
      rcases leastTerm_char c quantifier with heq | heq <;> rw [heq] <;> simp [hc.symm]
    rcases readAtom_cases hatom with ⟨c, rfl, hc⟩ | ⟨rfl, hc⟩ | ⟨rfl, hc⟩ | ⟨rfl, hc⟩ | ⟨c, rfl, hsyntax, hc⟩ <;>
      subst hc
    · cases hsource with
      | escape hmeta hrest =>
        refine ⟨hchar c ?_, hstep hrest⟩
        rintro rfl
        exact absurd hmeta (by decide)
      | plain hne _ => exact absurd rfl hne
    · exact ⟨hclass _ (by simp), hstep (hsource.drop (u := ['.']) (by simp))⟩
    · exact ⟨hclass _ (by simp), hstep (hsource.drop (u := ['[', '^', '/', ']']) (by simp))⟩
    · exact ⟨hclass _ (by simp), hstep (hsource.drop (u := ['(', '?', ':', '.', '*', '/', ')']) (by simp))⟩
    · refine ⟨hchar c ?_, hstep (hsource.drop (u := [c]) ?_)⟩
      · rintro rfl
        cases hsyntax
      · intro x hx
        obtain rfl : x = c := by simpa using hx
        rintro rfl
        exact absurd hsyntax (by decide)

end AgentPipeline.Surface
