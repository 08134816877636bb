import AgentPipeline.Surface.GlobTerms

/-!
# Surface.GlobExact: globs against their reference meaning

A glob is read as tokens: literal characters, `*`, `**` and `**/`, of which `**/` is read first.

* `readGlob`, `GlobMatches`: the tokens of a glob, and the paths that they mean;
* `regexSource_eq`: the replacements translate token by token;
* `glob_exact_iff`: which globs accept exactly the paths that they mean;
* `matchesGlob_iff_of_oneLine`: on paths of one line all globs do that hold neither `?` nor a placeholder.
-/

namespace AgentPipeline.Surface

open List JsRegExp

/-! ## The reference -/

inductive GlobToken where
  | literal (c : Char)
  /-- `*` -/
  | star
  /-- `**` -/
  | anything
  /-- `**/` -/
  | directories
deriving DecidableEq, Repr

/-- The tokens of a glob; the last two stars of a run before a slash belong to it. -/
def readGlob : List Char → List GlobToken
  | '*' :: '*' :: '/' :: rest => .directories :: readGlob rest
  | '*' :: '*' :: '*' :: '/' :: rest => .star :: .directories :: readGlob rest
  | '*' :: '*' :: rest => .anything :: readGlob rest
  | '*' :: rest => .star :: readGlob rest
  | c :: rest => .literal c :: readGlob rest
  | [] => []

section Reference

variable (fold : Canonicalize)

/-- A literal matches itself in any case, `*` what holds no slash, `**` anything, and `**/` nothing or what ends
in a slash. -/
inductive GlobMatches : List GlobToken → List Char → Prop
  | nil : GlobMatches [] []
  | literal {c x : Char} {tokens : List GlobToken} {path : List Char}
      (hx : fold.canonical x = fold.canonical c) (hrest : GlobMatches tokens path) :
      GlobMatches (.literal c :: tokens) (x :: path)
  | star {tokens : List GlobToken} {used path : List Char} (hused : ∀ x ∈ used, x ≠ '/')
      (hrest : GlobMatches tokens path) : GlobMatches (.star :: tokens) (used ++ path)
  | anything {tokens : List GlobToken} {used path : List Char} (hrest : GlobMatches tokens path) :
      GlobMatches (.anything :: tokens) (used ++ path)
  | here {tokens : List GlobToken} {path : List Char} (hrest : GlobMatches tokens path) :
      GlobMatches (.directories :: tokens) path
  | within {tokens : List GlobToken} {used path : List Char} (hrest : GlobMatches tokens path) :
      GlobMatches (.directories :: tokens) (used ++ '/' :: path)

end Reference

/-! ## Token by token -/

/-- A token, with texts for the three kinds of stars. -/
def tokenText (directories anything star : List Char) : GlobToken → List Char
  | .literal c => escapeMeta c
  | .star => star
  | .anything => anything
  | .directories => directories

variable {c : Char}

lemma escapeMeta_of_not_mem (h : c ∉ regexMeta) : escapeMeta c = [c] := by
  rw [escapeMeta, if_neg (by simpa using h)]

variable {x d : Char}

lemma ne_of_mem_escapeMeta (hx : x ∈ escapeMeta c) (hc : c ≠ d) (hd : d ≠ '\\') : x ≠ d := by
  unfold escapeMeta at hx
  split at hx
  · simp only [mem_cons, not_mem_nil, or_false] at hx
    rcases hx with rfl | rfl
    · exact hd.symm
    · exact hc
  · obtain rfl : x = c := by simpa using hx
    exact hc

variable {pattern : List Char}

lemma ne_star_of_literal (h : GlobToken.literal c ∈ readGlob pattern) : c ≠ '*' := by
  fun_induction readGlob pattern with
  | case1 rest ih => exact ih (by simpa using h)
  | case2 rest ih => exact ih (by simpa using h)
  | case3 rest _ _ ih => exact ih (by simpa using h)
  | case4 rest _ _ _ ih => exact ih (by simpa using h)
  | case5 d rest _ _ _ hd ih =>
    rcases mem_cons.1 h with h | h
    · obtain rfl := GlobToken.literal.inj h
      rintro rfl
      exact hd rfl
    · exact ih h
  | case6 => simp at h

lemma readGlob_cons (h : c ≠ '*') (rest : List Char) : readGlob (c :: rest) = .literal c :: readGlob rest := by
  rw [readGlob.eq_def]
  split <;> simp_all

lemma flatMap_escapeMeta_cons {rest : List Char} (hd : d ∉ regexMeta) (h : pattern.flatMap escapeMeta = d :: rest) :
    ∃ tail, pattern = d :: tail ∧ rest = tail.flatMap escapeMeta := by
  cases pattern with
  | nil => simp at h
  | cons c tail =>
    rw [flatMap_cons] at h
    unfold escapeMeta at h
    split at h
    · obtain ⟨rfl, -⟩ := List.cons.inj h
      exact absurd (by decide) hd
    · obtain ⟨rfl, hrest⟩ := List.cons.inj h
      exact ⟨tail, rfl, hrest.symm⟩

/-- `.replace(/\*\*\//g, "§§§")`. -/
lemma replace_directories (pattern : List Char) :
    replaceText ['*', '*', '/'] directoryMark (pattern.flatMap escapeMeta) =
      (readGlob pattern).flatMap (tokenText directoryMark ['*', '*'] ['*']) := by
  have hstar : escapeMeta '*' = ['*'] := by decide
  have hslash : escapeMeta '/' = ['/'] := by decide
  fun_induction readGlob pattern with
  | case1 rest ih =>
    simp only [flatMap_cons, hstar, hslash, cons_append, nil_append, tokenText]
    rw [← ih]
    exact replaceText_part (by simp) _
  | case2 rest ih =>
    simp only [flatMap_cons, hstar, hslash, cons_append, nil_append, tokenText]
    rw [← ih, replaceText_cons (by simp)]
    exact congrArg (List.cons '*') (replaceText_part (by simp) _)
  | case3 rest hdirectories hrun ih =>
    simp only [flatMap_cons, hstar, cons_append, nil_append, tokenText]
    have hfirst : ¬ ['*', '*', '/'] <+: '*' :: '*' :: rest.flatMap escapeMeta := by
      rintro ⟨tail, htail⟩
      obtain ⟨_, rfl, -⟩ := flatMap_escapeMeta_cons (d := '/') (by decide)
        (List.cons.inj (List.cons.inj htail).2).2.symm
      exact hdirectories _ rfl
    have hsecond : ¬ ['*', '*', '/'] <+: '*' :: rest.flatMap escapeMeta := by
      rintro ⟨tail, htail⟩
      obtain ⟨_, rfl, hrest⟩ := flatMap_escapeMeta_cons (d := '*') (by decide) (List.cons.inj htail).2.symm
      obtain ⟨_, rfl, -⟩ := flatMap_escapeMeta_cons (d := '/') (by decide) hrest.symm
      exact hrun _ rfl
    rw [replaceText_cons hfirst, replaceText_cons hsecond, ih]
  | case4 rest _ _ hstars ih =>
    simp only [flatMap_cons, hstar, cons_append, nil_append, tokenText]
    have hfirst : ¬ ['*', '*', '/'] <+: '*' :: rest.flatMap escapeMeta := by
      rintro ⟨tail, htail⟩
      obtain ⟨_, rfl, -⟩ := flatMap_escapeMeta_cons (d := '*') (by decide) (List.cons.inj htail).2.symm
      exact hstars _ rfl
    rw [replaceText_cons hfirst, ih]
  | case5 d rest _ _ _ hd ih =>
    have hne : d ≠ '*' := by
      rintro rfl
      exact hd rfl
    rw [flatMap_cons, flatMap_cons, tokenText,
      replaceText_append_of_ne (fun x hx => ne_of_mem_escapeMeta hx hne (by decide)), ih]
  | case6 => rfl

/-- `.replace(/\*\*/g, "¶¶¶")`. -/
lemma replace_anythings (pattern : List Char) : replaceText ['*', '*'] anythingMark
        ((readGlob pattern).flatMap (tokenText directoryMark ['*', '*'] ['*'])) =
      (readGlob pattern).flatMap (tokenText directoryMark anythingMark ['*']) := by
  fun_induction readGlob pattern with
  | case1 rest ih =>
    rw [flatMap_cons, flatMap_cons, tokenText, tokenText, replaceText_append_of_ne (by simp [directoryMark]), ih]
  | case2 rest ih =>
    simp only [flatMap_cons, tokenText, cons_append, nil_append]
    rw [replaceText_cons (by simp [directoryMark]), replaceText_append_of_ne (by simp [directoryMark]), ih]
  | case3 rest _ _ ih =>
    rw [flatMap_cons, flatMap_cons, tokenText, tokenText, replaceText_part (by simp), ih]
  | case4 rest _ _ hstars ih =>
    simp only [flatMap_cons, tokenText, cons_append, nil_append]
    have hfirst : ¬ ['*', '*'] <+: '*' :: (readGlob rest).flatMap (tokenText directoryMark ['*', '*'] ['*']) := by
      cases rest with
      | nil => simp [readGlob]
      | cons c rest =>
        have hc : c ≠ '*' := by
          rintro rfl
          exact hstars _ rfl
        rw [readGlob_cons hc, flatMap_cons, tokenText]
        rintro ⟨tail, htail⟩
        unfold escapeMeta at htail
        split at htail
        · simp at htail
        · exact hc (List.cons.inj (List.cons.inj htail).2).1.symm
    rw [replaceText_cons hfirst, ih]
  | case5 d rest _ _ _ hd ih =>
    have hne : d ≠ '*' := by
      rintro rfl
      exact hd rfl
    rw [flatMap_cons, flatMap_cons, tokenText, tokenText,
      replaceText_append_of_ne (fun x hx => ne_of_mem_escapeMeta hx hne (by decide)), ih]
  | case6 => rfl

variable {tokens : List GlobToken}

lemma replace_tokens {part replacement : List Char} {f g : GlobToken → List Char}
    (h : ∀ t ∈ tokens, (f t = d :: part ∧ g t = replacement) ∨ (g t = f t ∧ ∀ c ∈ f t, c ≠ d)) :
    replaceText (d :: part) replacement (tokens.flatMap f) = tokens.flatMap g := by
  induction tokens with
  | nil => rfl
  | cons t tokens ih =>
    have hrest := ih fun t ht => h t (mem_cons_of_mem _ ht)
    rw [flatMap_cons, flatMap_cons]
    rcases h t (by simp) with ⟨hf, hg⟩ | ⟨hg, hne⟩
    · rw [hf, hg, replaceText_part (by simp), hrest]
    · rw [hg, replaceText_append_of_ne hne, hrest]

def starSource : List Char := ['[', '^', '/', ']', '*']

def directorySource : List Char := ['(', '?', ':', '.', '*', '/', ')', '?']

def anythingSource : List Char := ['.', '*']

/-- `.replace(/\*/g, "[^/]*")`. -/
lemma replace_stars (pattern : List Char) :
    replaceText ['*'] starSource ((readGlob pattern).flatMap (tokenText directoryMark anythingMark ['*'])) =
      (readGlob pattern).flatMap (tokenText directoryMark anythingMark starSource) := by
  refine replace_tokens fun t ht => ?_
  cases t with
  | star => exact .inl ⟨rfl, rfl⟩
  | anything | directories => exact .inr ⟨rfl, by simp [tokenText, directoryMark, anythingMark]⟩
  | literal c =>
    exact .inr ⟨rfl, fun x hx => ne_of_mem_escapeMeta hx (ne_star_of_literal ht) (by decide)⟩

/-! ## Placeholders -/

/-- A glob without `**`, read character by character. -/
def charToken (c : Char) : GlobToken := if c = '*' then .star else .literal c

lemma readGlob_of_single (h : ¬ ['*', '*'] <:+: pattern) : readGlob pattern = pattern.map charToken := by
  fun_induction readGlob pattern with
  | case1 rest _ => exact absurd (prefix_append ['*', '*'] _).isInfix h
  | case2 rest _ => exact absurd (prefix_append ['*', '*'] _).isInfix h
  | case3 rest _ _ _ => exact absurd (prefix_append ['*', '*'] _).isInfix h
  | case4 rest _ _ _ ih =>
    rw [ih fun hwithin => h (hwithin.trans (suffix_cons _ _).isInfix)]
    rfl
  | case5 d rest _ _ _ hd ih =>
    have hne : d ≠ '*' := by
      rintro rfl
      exact hd rfl
    rw [ih fun hwithin => h (hwithin.trans (suffix_cons _ _).isInfix), map_cons, charToken, if_neg hne]
  | case6 => rfl

variable {f : Char → List Char} {n : Nat}

lemma replicate_prefix_flatMap (hx : f x = [x]) (hf : ∀ c, c ≠ x → ∃ d rest, f c = d :: rest ∧ d ≠ x)
    (h : List.replicate n x <+: pattern.flatMap f) : List.replicate n x <+: pattern := by
  induction pattern generalizing n with
  | nil => exact h
  | cons c pattern ih =>
    cases n with
    | zero => exact nil_prefix
    | succ n =>
      rw [replicate_succ, flatMap_cons] at *
      by_cases hc : c = x
      · rw [hc, hx, singleton_append, cons_prefix_cons] at h
        rw [hc, cons_prefix_cons]
        exact ⟨rfl, ih h.2⟩
      · obtain ⟨d, rest, hd, hne⟩ := hf c hc
        rw [hd, cons_append, cons_prefix_cons] at h
        exact absurd h.1.symm hne

lemma replicate_infix_flatMap (hx : f x = [x]) (hf : ∀ c, c ≠ x → x ∉ f c ∧ f c ≠ []) (hn : n ≠ 0)
    (h : List.replicate n x <:+: pattern.flatMap f) : List.replicate n x <:+: pattern := by
  have hheads : ∀ c, c ≠ x → ∃ d rest, f c = d :: rest ∧ d ≠ x := by
    intro c hc
    obtain ⟨hmem, hne⟩ := hf c hc
    obtain ⟨d, rest, hd⟩ := exists_cons_of_ne_nil hne
    refine ⟨d, rest, hd, ?_⟩
    rintro rfl
    exact hmem (by rw [hd]; simp)
  induction pattern with
  | nil => exact h
  | cons c pattern ih =>
    by_cases hc : c = x
    · subst hc
      rw [flatMap_cons, hx, singleton_append, infix_cons_iff] at h
      rcases h with h | h
      · have hstarts : List.replicate n c <+: c :: pattern := replicate_prefix_flatMap hx hheads
          (by rwa [flatMap_cons, hx, singleton_append])
        exact hstarts.isInfix
      · exact (ih h).trans (suffix_cons _ _).isInfix
    · have hskip : ∀ used : List Char, x ∉ used → List.replicate n x <:+: used ++ pattern.flatMap f →
          List.replicate n x <:+: pattern.flatMap f := by
        intro used hused hwithin
        induction used with
        | nil => exact hwithin
        | cons y used ih' =>
          rw [mem_cons, not_or] at hused
          rw [cons_append, infix_cons_iff] at hwithin
          rcases hwithin with hstarts | hwithin
          · obtain ⟨k, rfl⟩ := Nat.exists_eq_succ_of_ne_zero hn
            rw [replicate_succ, cons_prefix_cons] at hstarts
            exact absurd hstarts.1 hused.1
          · exact ih' hused.2 hwithin
      rw [flatMap_cons] at h
      exact (ih (hskip _ (hf c hc).1 h)).trans (suffix_cons _ _).isInfix

/-- The placeholders of a glob are those of its stars: none of its own characters are taken for one. -/
def PlaceholderFree (pattern : List Char) : Prop :=
  ('§' ∉ pattern ∧ '¶' ∉ pattern) ∨
    (¬ ['*', '*'] <:+: pattern ∧ ¬ directoryMark <:+: pattern ∧ ¬ anythingMark <:+: pattern)

lemma mem_of_literal (h : GlobToken.literal c ∈ readGlob pattern) : c ∈ pattern := by
  fun_induction readGlob pattern with
  | case1 rest ih => exact mem_append_right ['*', '*', '/'] (ih (by simpa using h))
  | case2 rest ih => exact mem_append_right ['*', '*', '*', '/'] (ih (by simpa using h))
  | case3 rest _ _ ih => exact mem_append_right ['*', '*'] (ih (by simpa using h))
  | case4 rest _ _ _ ih => exact mem_cons_of_mem _ (ih (by simpa using h))
  | case5 d rest _ _ _ _ ih =>
    rcases mem_cons.1 h with h | h
    · rw [GlobToken.literal.inj h]
      simp
    · exact mem_cons_of_mem _ (ih h)
  | case6 => simp at h

/-- A run of placeholder characters in a translated glob without `**` is one of the glob. -/
lemma mark_infix_of_single (hx : x ∉ regexMeta ∧ x ∉ starSource ∧ x ≠ '*')
    {directories anything : List Char} (hsingle : ¬ ['*', '*'] <:+: pattern)
    (h : List.replicate 3 x <:+: (readGlob pattern).flatMap (tokenText directories anything starSource)) :
    List.replicate 3 x <:+: pattern := by
  rw [readGlob_of_single hsingle, flatMap_map] at h
  refine replicate_infix_flatMap ?_ (fun c hc => ?_) (by simp) h
  · rw [charToken, if_neg hx.2.2]
    exact escapeMeta_of_not_mem hx.1
  · unfold charToken
    split
    · exact ⟨hx.2.1, by simp [tokenText, starSource]⟩
    · constructor
      · intro hmem
        have hnot : x ≠ '\\' := by
          rintro rfl
          exact hx.1 (by decide)
        exact ne_of_mem_escapeMeta hmem hc hnot rfl
      · change escapeMeta c ≠ []
        unfold escapeMeta
        split <;> simp

lemma regexSource_eq (h : PlaceholderFree pattern) : regexSource pattern =
      (readGlob pattern).flatMap (tokenText directorySource anythingSource starSource) := by
  have hstars : regexSource pattern = replaceText anythingMark anythingSource (replaceText directoryMark
      directorySource ((readGlob pattern).flatMap (tokenText directoryMark anythingMark starSource))) := by
    rw [← replace_stars, ← replace_anythings, ← replace_directories]
    rfl
  rw [hstars]
  rcases h with ⟨hdirectory, hanything⟩ | ⟨hsingle, hdirectory, hanything⟩
  · have hdirectories : replaceText directoryMark directorySource
        ((readGlob pattern).flatMap (tokenText directoryMark anythingMark starSource)) =
          (readGlob pattern).flatMap (tokenText directorySource anythingMark starSource) := by
      refine replace_tokens fun t ht => ?_
      cases t with
      | directories => exact .inl ⟨rfl, rfl⟩
      | anything | star => exact .inr ⟨rfl, by simp [tokenText, anythingMark, starSource]⟩
      | literal c =>
        refine .inr ⟨rfl, fun x hx => ne_of_mem_escapeMeta hx ?_ (by decide)⟩
        rintro rfl
        exact hdirectory (mem_of_literal ht)
    rw [hdirectories]
    refine replace_tokens fun t ht => ?_
    cases t with
    | anything => exact .inl ⟨rfl, rfl⟩
    | directories | star => exact .inr ⟨rfl, by simp [tokenText, directorySource, starSource]⟩
    | literal c =>
      refine .inr ⟨rfl, fun x hx => ne_of_mem_escapeMeta hx ?_ (by decide)⟩
      rintro rfl
      exact hanything (mem_of_literal ht)
  · have hkinds : ∀ directories anything directories' anything' : List Char,
        (readGlob pattern).flatMap (tokenText directories anything starSource) =
          (readGlob pattern).flatMap (tokenText directories' anything' starSource) := by
      intro directories anything directories' anything'
      rw [readGlob_of_single hsingle, flatMap_map, flatMap_map]
      refine congrArg (List.flatMap · pattern) (funext fun c => ?_)
      unfold charToken
      split <;> rfl
    rw [replaceText_of_absent
        fun hwithin : directoryMark <:+: _ => hdirectory (mark_infix_of_single (x := '§') (by decide) hsingle hwithin),
      replaceText_of_absent
        fun hwithin : anythingMark <:+: _ => hanything (mark_infix_of_single (x := '¶') (by decide) hsingle hwithin)]
    exact hkinds _ _ _ _

/-! ## The terms of the tokens -/

/-- What a token is translated into. -/
def tokenTerm : GlobToken → Term
  | .literal c => (.char c, .once)
  | .star => (.notSlash, .star)
  | .anything => (.dot, .star)
  | .directories => (.directory, .optional)

/-- The source of some tokens. -/
def tokensSource (tokens : List GlobToken) : List Char :=
  tokens.flatMap (tokenText directorySource anythingSource starSource)

lemma readQuantifier_tokens (h : ∀ c, GlobToken.literal c ∈ tokens → c ≠ '*' ∧ c ≠ '?') :
    readQuantifier (tokensSource tokens) = (.once, tokensSource tokens) ∧
      readQuantifier ('*' :: tokensSource tokens) = (.star, tokensSource tokens) ∧
      readQuantifier ('?' :: tokensSource tokens) = (.optional, tokensSource tokens) := by
  have hhead : ∀ c rest, tokensSource tokens = c :: rest → c ≠ '*' ∧ c ≠ '?' := by
    intro c rest hsource
    cases tokens with
    | nil => simp [tokensSource] at hsource
    | cons t tokens =>
      rw [tokensSource, flatMap_cons] at hsource
      cases t with
      | literal d =>
        have hd := h d (by simp)
        change escapeMeta d ++ _ = _ at hsource
        unfold escapeMeta at hsource
        split at hsource
        · obtain ⟨rfl, -⟩ := List.cons.inj hsource
          decide
        · obtain ⟨rfl, -⟩ := List.cons.inj hsource
          exact hd
      | star | anything | directories =>
        obtain ⟨rfl, -⟩ := List.cons.inj hsource
        decide
  cases hsource : tokensSource tokens with
  | nil => exact ⟨rfl, rfl, rfl⟩
  | cons c rest =>
    obtain ⟨hstar, hquestion⟩ := hhead c rest hsource
    refine ⟨?_, ?_, ?_⟩
    · rw [readQuantifier.eq_def]
      split <;> simp_all
    · rw [readQuantifier.eq_def]
      split <;> simp_all
    · rw [readQuantifier.eq_def]
      split <;> simp_all

lemma readAtom_escapeMeta (hstar : c ≠ '*') (hquestion : c ≠ '?') (rest : List Char) :
    readAtom (escapeMeta c ++ rest) = some (.char c, rest) := by
  unfold escapeMeta
  split
  · rfl
  · next hmeta =>
    have hsyntax : isSyntaxChar c = false := by
      simp only [isSyntaxChar, Bool.or_eq_false_iff, decide_eq_false_iff_not]
      exact ⟨⟨by simpa using hmeta, hstar⟩, hquestion⟩
    rw [singleton_append, readAtom.eq_def]
    split <;> simp_all [regexMeta]

lemma readTerms_tokens (h : ∀ c, GlobToken.literal c ∈ tokens → c ≠ '*' ∧ c ≠ '?') {fuel : Nat}
    (hfuel : tokens.length ≤ fuel) : readTerms fuel (tokensSource tokens) = some (tokens.map tokenTerm) := by
  induction tokens generalizing fuel with
  | nil => cases fuel <;> rfl
  | cons t tokens ih =>
    have htail : ∀ c, GlobToken.literal c ∈ tokens → c ≠ '*' ∧ c ≠ '?' := fun c hc => h c (by simp [hc])
    obtain ⟨fuel, rfl⟩ : ∃ n, fuel = n + 1 := ⟨fuel - 1, by rw [length_cons] at hfuel; omega⟩
    have hrest : readTerms fuel (tokensSource tokens) = some (tokens.map tokenTerm) := ih htail (by simpa using hfuel)
    obtain ⟨hnone, hstar, hoptional⟩ := readQuantifier_tokens htail
    have hstep : ∀ {source rest : List Char} {atom : Atom} {quantifier : Quantifier}, source ≠ [] →
        readAtom source = some (atom, rest) → readQuantifier rest = (quantifier, tokensSource tokens) →
        readTerms (fuel + 1) source = some ((atom, quantifier) :: tokens.map tokenTerm) := by
      intro source rest atom quantifier hne hatom hquantifier
      obtain ⟨c, cs, rfl⟩ := exists_cons_of_ne_nil hne
      simp only [readTerms, hatom, hquantifier, hrest, Option.map_some]
    rw [tokensSource, flatMap_cons, map_cons, ← tokensSource]
    cases t with
    | literal c =>
      obtain ⟨hc, hc'⟩ := h c (by simp)
      refine hstep ?_ (readAtom_escapeMeta hc hc' _) hnone
      change escapeMeta c ++ _ ≠ []
      unfold escapeMeta
      split <;> simp
    | star => exact hstep (by simp [tokenText, starSource]) rfl hstar
    | anything => exact hstep (by simp [tokenText, anythingSource]) rfl hstar
    | directories => exact hstep (by simp [tokenText, directorySource]) rfl hoptional

lemma length_le_tokensSource (tokens : List GlobToken) : tokens.length ≤ (tokensSource tokens).length := by
  induction tokens with
  | nil => simp
  | cons t tokens ih =>
    have hpos : 0 < (tokenText directorySource anythingSource starSource t).length := by
      cases t with
      | literal c =>
        change 0 < (escapeMeta c).length
        unfold escapeMeta
        split <;> simp
      | star | anything | directories => simp [tokenText, starSource, anythingSource, directorySource]
    rw [tokensSource, flatMap_cons, ← tokensSource, length_append, length_cons]
    omega

section Meaning

variable {fold : Canonicalize}

lemma mapM_tokenTerm (tokens : List GlobToken) : ∃ rs, (tokens.map tokenTerm).mapM (termRegex fold) = some rs := by
  rw [Lists.exists_mapM_iff]
  intro term hterm
  obtain ⟨t, -, rfl⟩ := mem_map.1 hterm
  cases t <;> rfl

variable {path : List Char}

/-- A path that a glob means, without line ends in what `**` stands for, is a text of its terms. -/
lemma termsLanguage_of_globMatches
    (hline : (∀ c ∈ path, isDot c = true) ∨ ∀ t ∈ tokens, t ≠ .anything ∧ t ≠ .directories)
    (h : GlobMatches fold tokens path) : termsLanguage fold (tokens.map tokenTerm) path := by
  induction h with
  | nil => rfl
  | @literal c x tokens path hx _ ih =>
    refine ⟨[x], path, rfl, ⟨_, x, rfl, rfl, by simpa using hx⟩, ih ?_⟩
    exact hline.imp (fun h y hy => h y (by simp [hy])) fun h t ht => h t (by simp [ht])
  | @star tokens used path hused _ ih =>
    refine ⟨used, path, rfl, ⟨_, rfl, fun c hc => ?_⟩, ih ?_⟩
    · simp only [decide_eq_true_eq]
      exact fun hsame => hused c hc (fold.alone '/' (by simp) c hsame)
    · exact hline.imp (fun h y hy => h y (by simp [hy])) fun h t ht => h t (by simp [ht])
  | @anything tokens used path _ ih =>
    have hpath := hline.resolve_right fun h => (h .anything (by simp)).1 rfl
    exact ⟨used, path, rfl, ⟨_, rfl, fun c hc => hpath c (by simp [hc])⟩, ih (.inl fun c hc => hpath c (by simp [hc]))⟩
  | @here tokens path _ ih =>
    have hpath := hline.resolve_right fun h => (h .directories (by simp)).2 rfl
    exact ⟨[], path, rfl, .inr rfl, ih (.inl hpath)⟩
  | @within tokens used path _ ih =>
    have hpath := hline.resolve_right fun h => (h .directories (by simp)).2 rfl
    exact ⟨used ++ ['/'], path, by simp, .inl ⟨used, rfl, fun c hc => hpath c (by simp [hc])⟩,
      ih (.inl fun c hc => hpath c (by simp [hc]))⟩

lemma globMatches_of_termsLanguage
    (h : termsLanguage fold (tokens.map tokenTerm) path) : GlobMatches fold tokens path := by
  induction tokens generalizing path with
  | nil =>
    obtain rfl : path = [] := h
    exact .nil
  | cons t tokens ih =>
    obtain ⟨u, v, rfl, hu, hv⟩ := h
    cases t with
    | literal c =>
      obtain ⟨p, x, hp, rfl, hx⟩ := hu
      obtain rfl := Option.some.inj hp
      exact .literal (by simpa using hx) (ih hv)
    | star =>
      obtain ⟨p, hp, hused⟩ := hu
      obtain rfl := Option.some.inj hp
      refine .star (fun x hx => ?_) (ih hv)
      rintro rfl
      simpa using hused _ hx
    | anything => exact .anything (ih hv)
    | directories =>
      rcases hu with ⟨w, rfl, -⟩ | rfl
      · rw [append_assoc, singleton_append]
        exact .within (ih hv)
      · exact .here (ih hv)

/-- A glob whose placeholders are its own and that holds no `?` accepts the texts of its tokens' terms. -/
lemma matchesGlob_iff_terms (hfree : PlaceholderFree pattern)
    (hquestion : '?' ∉ pattern) : matchesGlob fold pattern path = true ↔
      termsLanguage fold ((readGlob pattern).map tokenTerm) path := by
  have hliterals : ∀ c, GlobToken.literal c ∈ readGlob pattern → c ≠ '*' ∧ c ≠ '?' := by
    intro c hc
    refine ⟨ne_star_of_literal hc, ?_⟩
    rintro rfl
    exact hquestion (mem_of_literal hc)
  have hread := readTerms_tokens hliterals (length_le_tokensSource _)
  obtain ⟨rs, hrs⟩ : ∃ rs, ((readGlob pattern).map tokenTerm).mapM (termRegex fold) = some rs := mapM_tokenTerm _
  rw [matchesGlob_iff, regexSource_eq hfree]
  constructor
  · rintro ⟨terms, rs, hterms, -, hpath⟩
    obtain rfl := Option.some.inj (hread.symm.trans hterms)
    exact hpath
  · exact fun hpath => ⟨_, rs, hread, hrs, hpath⟩

/-! ## What the reference accepts -/

/-- The literals of some tokens: their shortest path. -/
def leastPath (tokens : List GlobToken) : List Char :=
  tokens.flatMap fun
    | .literal c => [c]
    | _ => []

lemma globMatches_leastPath (tokens : List GlobToken) : GlobMatches fold tokens (leastPath tokens) := by
  induction tokens with
  | nil => exact .nil
  | cons t tokens ih =>
    cases t with
    | literal c => exact .literal rfl ih
    | star => exact @GlobMatches.star fold tokens [] _ (by simp) ih
    | anything => exact @GlobMatches.anything fold tokens [] _ ih
    | directories => exact .here ih

lemma GlobMatches.append {tokens' : List GlobToken} {path' : List Char}
    (h : GlobMatches fold tokens path) (h' : GlobMatches fold tokens' path') :
    GlobMatches fold (tokens ++ tokens') (path ++ path') := by
  induction h with
  | nil => exact h'
  | literal hx _ ih => exact .literal hx ih
  | star hused _ ih =>
    rw [append_assoc]
    exact .star hused ih
  | anything _ ih =>
    rw [append_assoc]
    exact .anything ih
  | here _ ih => exact .here ih
  | within _ ih =>
    rw [append_assoc, cons_append]
    exact .within ih

lemma count_le_of_globMatches (hx : x ∈ ['/', '?', '§', '¶']) (h : GlobMatches fold tokens path) :
    tokens.count (.literal x) ≤ path.count x := by
  induction h with
  | nil => exact le_refl _
  | @literal c y tokens path hy _ ih =>
    by_cases hc : c = x
    · subst hc
      obtain rfl := fold.alone c hx y hy
      simpa using ih
    · have hne : GlobToken.literal c ≠ .literal x := fun heq => hc (GlobToken.literal.inj heq)
      rw [count_cons_of_ne hne]
      exact ih.trans count_le_count_cons
  | star _ _ ih | anything _ ih =>
    rw [count_cons_of_ne (by simp), count_append]
    omega
  | here _ ih => rwa [count_cons_of_ne (by simp)]
  | within _ ih =>
    rw [count_cons_of_ne (by simp), count_append]
    exact (ih.trans count_le_count_cons).trans (Nat.le_add_left _ _)

lemma count_readGlob (hx : x ≠ '*' ∧ x ≠ '/') (pattern : List Char) :
    (readGlob pattern).count (.literal x) = pattern.count x := by
  fun_induction readGlob pattern with
  | case1 rest ih => simpa [count_cons, hx.1.symm, hx.2.symm] using ih
  | case2 rest ih => simpa [count_cons, hx.1.symm, hx.2.symm] using ih
  | case3 rest _ _ ih => simpa [count_cons, hx.1.symm] using ih
  | case4 rest _ _ _ ih => simpa [count_cons, hx.1.symm] using ih
  | case5 d rest _ _ _ _ ih => simpa [count_cons] using ih
  | case6 => rfl

lemma exists_anything_of_stars (h : ['*', '*'] <:+: pattern) :
    GlobToken.anything ∈ readGlob pattern ∨ GlobToken.directories ∈ readGlob pattern := by
  have hcons : ∀ {c : Char} {rest : List Char}, c ≠ '*' → ['*', '*'] <:+: c :: rest → ['*', '*'] <:+: rest := by
    intro c rest hc hwithin
    rcases infix_cons_iff.1 hwithin with hstarts | hwithin
    · exact absurd (cons_prefix_cons.1 hstarts).1.symm hc
    · exact hwithin
  fun_induction readGlob pattern with
  | case1 rest _ => simp
  | case2 rest _ => simp
  | case3 rest _ _ _ => simp
  | case4 rest _ _ hstars ih =>
    rcases infix_cons_iff.1 h with hstarts | hwithin
    · obtain ⟨tail, htail⟩ := hstarts
      exact absurd (List.cons.inj htail).2.symm (hstars _)
    · simpa using ih hwithin
  | case5 d rest _ _ _ hd ih =>
    have hne : d ≠ '*' := by
      rintro rfl
      exact hd rfl
    simpa using ih (hcons hne h)
  | case6 => simp at h

lemma exists_turns (h : ['*', '*'] <:+: pattern) (n : Nat) :
    ∃ path, GlobMatches fold (readGlob pattern) path ∧ n < turns path := by
  obtain ⟨t, ht, hkind⟩ : ∃ t ∈ readGlob pattern, t = .anything ∨ t = .directories := by
    rcases exists_anything_of_stars h with h | h
    · exact ⟨_, h, .inl rfl⟩
    · exact ⟨_, h, .inr rfl⟩
  obtain ⟨before, after, hsplit⟩ := append_of_mem ht
  have hmatch : GlobMatches fold (t :: after) (turnRun (n + 1) ++ leastPath after) := by
    rcases hkind with rfl | rfl
    · exact .anything (globMatches_leastPath after)
    · have hlast : turnRun (n + 1) ++ leastPath after = (turnRun n ++ ['\n']) ++ '/' :: leastPath after := by
        rw [turnRun, replicate_succ', flatten_append]
        simp [turnRun]
      rw [hlast]
      exact .within (globMatches_leastPath after)
  refine ⟨leastPath before ++ (turnRun (n + 1) ++ leastPath after), ?_, ?_⟩
  · rw [hsplit]
    exact (globMatches_leastPath before).append hmatch
  · refine lt_of_lt_of_le ?_ (le_turns_append _ _)
    rw [turns_turnRun_append]
    omega

/-! ## Placeholders that a glob holds itself -/

/-- The glob after the third replacement, when it has no two stars in a row. -/
def singleText (pattern : List Char) : List Char :=
  pattern.flatMap fun c => tokenText directoryMark anythingMark starSource (charToken c)

lemma regexSource_of_single (h : ¬ ['*', '*'] <:+: pattern) :
    regexSource pattern = replaceText anythingMark anythingSource
      (replaceText directoryMark directorySource (singleText pattern)) := by
  have hsingle : (readGlob pattern).flatMap (tokenText directoryMark anythingMark starSource) = singleText pattern := by
    rw [readGlob_of_single h, flatMap_map]
    rfl
  rw [← hsingle, ← replace_stars, ← replace_anythings, ← replace_directories]
  rfl

lemma singleText_mark (hx : x = '§' ∨ x = '¶') :
    tokenText directoryMark anythingMark starSource (charToken x) = [x] := by
  rcases hx with rfl | rfl <;> decide

lemma count_singleText (hx : x = '§' ∨ x = '¶') (pattern : List Char) :
    (singleText pattern).count x = pattern.count x := by
  have hchar : ∀ c, (tokenText directoryMark anythingMark starSource (charToken c)).count x = [c].count x := by
    intro c
    unfold charToken
    split
    · rcases hx with rfl | rfl <;> simp_all [tokenText, starSource]
    · change (escapeMeta c).count x = _
      unfold escapeMeta
      split
      · next hmeta =>
        rcases hx with rfl | rfl <;> simp
      · rfl
  induction pattern with
  | nil => rfl
  | cons c pattern ih =>
    rw [singleText, flatMap_cons, count_append, hchar, ← singleText, ih, ← count_append]
    rfl

lemma singleText_within (hx : x = '§' ∨ x = '¶') (h : [x, x, x] <:+: pattern) : [x, x, x] <:+: singleText pattern := by
  obtain ⟨before, after, rfl⟩ := h
  refine ⟨singleText before, singleText after, ?_⟩
  simp [singleText, singleText_mark hx]

/-- A placeholder in a glob without `**` is lost in its source. -/
lemma count_regexSource_lt (hsingle : ¬ ['*', '*'] <:+: pattern)
    (h : directoryMark <:+: pattern ∨ anythingMark <:+: pattern) :
    ∃ x, (x = '§' ∨ x = '¶') ∧ (regexSource pattern).count x < pattern.count x := by
  rw [regexSource_of_single hsingle]
  by_cases hdirectory : directoryMark <:+: pattern
  · refine ⟨'§', .inl rfl, ?_⟩
    have hlost : (replaceText directoryMark directorySource (singleText pattern)).count '§' < _ :=
      count_replaceText_lt (by decide) (by decide)
      (singleText_within (.inl rfl) hdirectory)
    rw [count_singleText (.inl rfl)] at hlost
    exact lt_of_le_of_lt (count_replaceText_le (by decide) (by decide) _) hlost
  · refine ⟨'¶', .inr rfl, ?_⟩
    have hnone : ¬ directoryMark <:+: singleText pattern := by
      intro hwithin
      rw [singleText, ← flatMap_map, ← readGlob_of_single hsingle] at hwithin
      exact hdirectory (mark_infix_of_single (x := '§') (by decide) hsingle hwithin)
    have hlost : (replaceText anythingMark anythingSource (singleText pattern)).count '¶' < _ :=
      count_replaceText_lt (by decide) (by decide)
      (singleText_within (.inr rfl) (h.resolve_left hdirectory))
    rw [count_singleText (.inr rfl)] at hlost
    rwa [replaceText_of_absent hnone]

/-! ## Exact globs -/

/-- On paths of one line a glob is exact that holds neither `?` nor a placeholder of its own. -/
theorem matchesGlob_iff_of_oneLine (hfree : PlaceholderFree pattern)
    (hquestion : '?' ∉ pattern) (hline : ∀ c ∈ path, isDot c = true) :
    matchesGlob fold pattern path = true ↔ GlobMatches fold (readGlob pattern) path := by
  rw [matchesGlob_iff_terms hfree hquestion]
  exact ⟨globMatches_of_termsLanguage, termsLanguage_of_globMatches (.inl hline)⟩

variable (fold) in
/-- A glob accepts exactly the paths that it means, if and only if it holds no `?`, no two stars in a row and no
placeholder. -/
lemma glob_agrees_iff (pattern : List Char) :
    (∀ path, matchesGlob fold pattern path = true ↔ GlobMatches fold (readGlob pattern) path) ↔
      '?' ∉ pattern ∧ ¬ ['*', '*'] <:+: pattern ∧ ¬ directoryMark <:+: pattern ∧ ¬ anythingMark <:+: pattern := by
  constructor
  · intro hagree
    -- the glob means its shortest path, so its source has terms
    obtain ⟨terms, rs, hterms, hrs, -⟩ := matchesGlob_iff.1 ((hagree _).2 (globMatches_leastPath _))
    have hleast : GlobMatches fold (readGlob pattern) (leastWord terms) :=
      (hagree _).1 (matchesGlob_iff.2 ⟨terms, rs, hterms, hrs, termsLanguage_leastWord hrs⟩)
    have hsingle : ¬ ['*', '*'] <:+: pattern := by
      intro hstars
      obtain ⟨path, hpath, hturns⟩ : ∃ path, GlobMatches fold (readGlob pattern) path ∧ terms.length < turns path :=
        exists_turns hstars _
      obtain ⟨terms', rs', hterms', -, haccepted⟩ := matchesGlob_iff.1 ((hagree _).2 hpath)
      obtain rfl := Option.some.inj (hterms.symm.trans hterms')
      exact absurd (turns_le_of_terms haccepted) (Nat.not_le.2 hturns)
    have hcount : ∀ x ∈ ['?', '§', '¶'], pattern.count x ≤ (leastWord terms).count x := by
      intro x hx
      have hne : x ≠ '*' ∧ x ≠ '/' := by
        simp only [mem_cons, not_mem_nil, or_false] at hx
        rcases hx with rfl | rfl | rfl <;> decide
      rw [← count_readGlob hne]
      exact count_le_of_globMatches (mem_cons_of_mem _ hx) hleast
    have hmarks : ¬ (directoryMark <:+: pattern ∨ anythingMark <:+: pattern) := by
      intro hmark
      obtain ⟨x, hx, hlost⟩ := count_regexSource_lt hsingle hmark
      have hmem : x ∈ ['?', '§', '¶'] := by rcases hx with rfl | rfl <;> simp
      have hne : x ≠ 'x' ∧ x ≠ '/' := by rcases hx with rfl | rfl <;> decide
      have hword := count_leastWord_le hterms hne
      have hleft := hcount x hmem
      omega
    refine ⟨fun hquestion => ?_, hsingle, fun h => hmarks (.inl h), fun h => hmarks (.inr h)⟩
    have hone := count_pos_iff.2 hquestion
    have hnone := count_eq_zero_of_not_mem (question_not_mem_leastWord (source_regexSource pattern) hterms)
    have hleft := hcount '?' (by simp)
    omega
  · rintro ⟨hquestion, hsingle, hdirectory, hanything⟩ path
    rw [matchesGlob_iff_terms (.inr ⟨hsingle, hdirectory, hanything⟩) hquestion]
    refine ⟨globMatches_of_termsLanguage, termsLanguage_of_globMatches (.inr fun t ht => ?_)⟩
    rw [readGlob_of_single hsingle] at ht
    obtain ⟨c, -, rfl⟩ := mem_map.1 ht
    unfold charToken
    split <;> simp

/-! ## Built-in globs -/

variable {id : TrustedSurfaceClassId} {glob : String}

/-- The built-in globs hold neither `?` nor a placeholder character. -/
lemma builtinClassGlobs_plain (h : glob ∈ builtinClassGlobs id) :
    glob ≠ "" ∧ '?' ∉ glob.toList ∧ PlaceholderFree glob.toList := by
  have hall : ∀ g ∈ builtinClassGlobs id,
      (g ≠ "" && !g.toList.contains '?' && !g.toList.contains '§' && !g.toList.contains '¶') = true :=
    all_eq_true.1 (by cases id <;> decide)
  have hglob := hall glob h
  simp only [Bool.and_eq_true, decide_eq_true_eq, Bool.not_eq_true', contains_eq_mem, decide_eq_false_iff_not] at hglob
  exact ⟨hglob.1.1.1, hglob.1.1.2, .inl ⟨hglob.1.2, hglob.2⟩⟩

variable {extraPaths : List TrustedSurfaceExtraPath}

lemma mem_classesOf_of_matches (hglob : glob ∈ builtinClassGlobs id)
    (hmatch : matchesGlob fold glob.toList (normalizePath path) = true) : id ∈ classesOf fold extraPaths path := by
  refine mem_filter.2 ⟨by cases id <;> decide, ?_⟩
  rw [pathMatchesAnyGlob, globsForClass, find?_append]
  have hsome : ((builtinClassGlobs id).find? fun glob => matchesGlob fold glob.toList (normalizePath path)).isSome :=
    find?_isSome.2 ⟨glob, hglob, hmatch⟩
  obtain ⟨first, hfirst⟩ := Option.isSome_iff_exists.1 hsome
  have hne := (builtinClassGlobs_plain (mem_of_find?_eq_some hfirst)).1
  simp [hfirst, hne]

lemma exists_matches_of_mem_classesOf (h : id ∈ classesOf fold [] path) :
    ∃ glob ∈ builtinClassGlobs id, matchesGlob fold glob.toList (normalizePath path) = true := by
  have hany := (mem_filter.1 h).2
  obtain ⟨glob, hglob, -⟩ := (Option.any_eq_true _ _).1 hany
  rw [pathMatchesAnyGlob, globsForClass] at hglob
  have hmem := mem_of_find?_eq_some hglob
  simp only [filter_nil, flatMap_nil, append_nil] at hmem
  have haccepts := find?_some hglob
  exact ⟨glob, hmem, haccepts⟩

lemma mem_classesOf_iff (hline : ∀ c ∈ normalizePath path, isDot c = true) : id ∈ classesOf fold [] path ↔
      ∃ glob ∈ builtinClassGlobs id, GlobMatches fold (readGlob glob.toList) (normalizePath path) := by
  constructor
  · intro h
    obtain ⟨glob, hglob, hmatch⟩ := exists_matches_of_mem_classesOf h
    obtain ⟨-, hquestion, hfree⟩ := builtinClassGlobs_plain hglob
    exact ⟨glob, hglob, (matchesGlob_iff_of_oneLine hfree hquestion hline).1 hmatch⟩
  · rintro ⟨glob, hglob, hmeans⟩
    obtain ⟨-, hquestion, hfree⟩ := builtinClassGlobs_plain hglob
    exact mem_classesOf_of_matches hglob ((matchesGlob_iff_of_oneLine hfree hquestion hline).2 hmeans)

lemma classifyPaths_reports {candidatePaths : List String} {raw : String} (hraw : raw ∈ candidatePaths)
    (hblank : JsText.nonBlank raw = true) (hline : ∀ c ∈ normalizePath (normalizePath raw.toList), isDot c = true)
    (hmeans : ∃ glob ∈ builtinClassGlobs id,
      GlobMatches fold (readGlob glob.toList) (normalizePath (normalizePath raw.toList))) :
    ∃ found ∈ classifyPaths fold candidatePaths extraPaths,
      found.path = normalizePath raw.toList ∧ id ∈ found.classIds := by
  obtain ⟨glob, hglob, hglobMeans⟩ := hmeans
  obtain ⟨-, hquestion, hfree⟩ := builtinClassGlobs_plain hglob
  have hclass : id ∈ classesOf fold extraPaths (normalizePath raw.toList) := mem_classesOf_of_matches hglob
    ((matchesGlob_iff_of_oneLine hfree hquestion hline).2 hglobMeans)
  refine ⟨⟨normalizePath raw.toList, classesOf fold extraPaths (normalizePath raw.toList)⟩, ?_, rfl, hclass⟩
  refine mem_filterMap.2 ⟨raw, hraw, ?_⟩
  have hne : (classesOf fold extraPaths (normalizePath raw.toList)).isEmpty = false := by
    rw [isEmpty_eq_false_iff]
    exact ne_nil_of_mem hclass
  simp [hblank, hne]

/-- The globs that accept exactly the paths that they mean hold no `?`, no two stars in a row and no placeholder;
on paths of one line a glob need only hold no `?` and no character of a placeholder, and then the built-in classes
are exact and no path under one of their globs escapes. -/
theorem glob_exact_iff (fold : Canonicalize) :
    (∀ pattern, (∀ path, matchesGlob fold pattern path = true ↔ GlobMatches fold (readGlob pattern) path) ↔
      '?' ∉ pattern ∧ ¬ ['*', '*'] <:+: pattern ∧ ¬ directoryMark <:+: pattern ∧ ¬ anythingMark <:+: pattern) ∧
    (∀ pattern path, '?' ∉ pattern → '§' ∉ pattern → '¶' ∉ pattern → (∀ c ∈ path, isDot c = true) →
      (matchesGlob fold pattern path = true ↔ GlobMatches fold (readGlob pattern) path)) ∧
    (∀ path id, (∀ c ∈ normalizePath path, isDot c = true) → (id ∈ classesOf fold [] path ↔
        ∃ glob ∈ builtinClassGlobs id, GlobMatches fold (readGlob glob.toList) (normalizePath path))) ∧
    (∀ candidatePaths extraPaths, ∀ raw ∈ candidatePaths, ∀ id, JsText.nonBlank raw = true →
      (∀ c ∈ normalizePath (normalizePath raw.toList), isDot c = true) →
      (∃ glob ∈ builtinClassGlobs id,
        GlobMatches fold (readGlob glob.toList) (normalizePath (normalizePath raw.toList))) →
      ∃ found ∈ classifyPaths fold candidatePaths extraPaths,
        found.path = normalizePath raw.toList ∧ id ∈ found.classIds) := by
  refine ⟨glob_agrees_iff fold, ?_, fun _ _ hline => mem_classesOf_iff hline, ?_⟩
  · intro pattern path hquestion hdirectory hanything hline
    exact matchesGlob_iff_of_oneLine (.inl ⟨hdirectory, hanything⟩) hquestion hline
  · intro candidatePaths extraPaths raw hraw id hblank hline hmeans
    exact classifyPaths_reports hraw hblank hline hmeans

end Meaning

/-! ## A path of two lines -/

lemma toUpper_alone (hc : c ∈ ['/', '?', '§', '¶']) (h : x.toUpper = c.toUpper) : x = c := by
  have hself : c.toUpper = c := by
    simp only [mem_cons, not_mem_nil, or_false] at hc
    rcases hc with rfl | rfl | rfl | rfl <;> rfl
  rw [hself] at h
  unfold Char.toUpper at h
  split at h
  · next hlower =>
    subst h
    have hfirst := UInt32.le_iff_toNat_le.1 hlower.1
    have hlast := UInt32.le_iff_toNat_le.1 hlower.2
    simp only [mem_cons, not_mem_nil, or_false, Char.ext_iff, ← UInt32.toNat_inj] at hc
    simp at hc hfirst hlast
    omega
  · exact h

/-- The flag `i` on the letters of ASCII. -/
def asciiCase : Canonicalize := ⟨Char.toUpper, fun _ hc _ => toUpper_alone hc⟩

theorem glob_exact_asciiCase :
    (matchesGlob asciiCase ['*', '.', 't', 's'] ['A', '.', 'T', 'S'] = true ↔
      GlobMatches asciiCase (readGlob ['*', '.', 't', 's']) ['A', '.', 'T', 'S']) :=
  ((glob_exact_iff asciiCase).1 ['*', '.', 't', 's']).2 (by decide) ['A', '.', 'T', 'S']

/-- A file under `core/scripts` whose name holds a line end is in no class. -/
theorem lineEnd_escapes : classifyPaths asciiCase ["core/scripts/a\nb.ts"] [] = [] ∧
    "core/scripts/**" ∈ builtinClassGlobs .engineCore ∧
    GlobMatches asciiCase (readGlob "core/scripts/**".toList) "core/scripts/a\nb.ts".toList ∧
    matchesGlob asciiCase "core/scripts/**".toList "core/scripts/a\nb.ts".toList = false := by
  refine ⟨by decide +kernel, by decide, ?_, by decide +kernel⟩
  change GlobMatches asciiCase [.literal 'c', .literal 'o', .literal 'r', .literal 'e', .literal '/', .literal 's',
    .literal 'c', .literal 'r', .literal 'i', .literal 'p', .literal 't', .literal 's', .literal '/', .anything]
    ("core/scripts/".toList ++ ("a\nb.ts".toList ++ []))
  repeat refine .literal rfl ?_
  exact @GlobMatches.anything _ [] "a\nb.ts".toList [] .nil

end AgentPipeline.Surface
