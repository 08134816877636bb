import AgentPipeline.Worktree.Dirt

/-!
# Porcelain: what the readers of a status see of the real names

Git prints a row as a status code and a path, or as a status code and two paths with an arrow between
them. A path with a space or a special character stands in quotes, with escapes.

* `escapeName`, `StatusRow.line`, `render`: the rows as they are printed;
* `StatusRow.shown`: what a row reads as: escapes stay, and a name is cut at an arrow inside of it;
* `parsePorcelainPaths_render`: the reader sees just that;
* `shown_of_plain`: names without escapes and arrows are shown as they are;
* `noWaiver_iff`: when no product dirt is waived, by the names and the patterns.
-/

namespace AgentPipeline.Worktree

open List Option JsText

/-! ## Printing -/

def octalDigit (n : Nat) : Char := Char.ofNat (48 + n % 8)

def octalEscape (b : UInt8) : Text :=
  ['\\', octalDigit (b.toNat / 64), octalDigit (b.toNat / 8), octalDigit b.toNat]

def isPrintable (c : Char) : Bool := 32 ≤ c.toNat && c.toNat < 127

/-- A character of a name, as git prints it between quotes. -/
def escapeChar (c : Char) : Text :=
  if c = '"' then ['\\', '"']
  else if c = '\\' then ['\\', '\\']
  else if isPrintable c then [c]
  else
    match c.toNat with
    | 7 => ['\\', 'a']
    | 8 => ['\\', 'b']
    | 9 => ['\\', 't']
    | 10 => ['\\', 'n']
    | 11 => ['\\', 'v']
    | 12 => ['\\', 'f']
    | 13 => ['\\', 'r']
    | _ => (String.utf8EncodeChar c).flatMap octalEscape

def escapeName (name : Text) : Text := name.flatMap escapeChar

/-- A name with a space or an escape stands in quotes. -/
def needsQuotes (name : Text) : Bool := name.any fun c => c = ' ' || escapeChar c ≠ [c]

def printName (name : Text) : Text :=
  if needsQuotes name then '"' :: escapeName name ++ ['"'] else name

/-- A path of the worktree. -/
structure GitPath where
  text : Text
  nonempty : text ≠ []

def statusLetters : List Char := [' ', 'M', 'T', 'A', 'D', 'R', 'C', 'U', '?', '!']

/-- The status columns of a row. -/
structure StatusCode where
  x : Char
  y : Char
  xLetter : x ∈ statusLetters
  yLetter : y ∈ statusLetters

def StatusCode.text (xy : StatusCode) : Text := [xy.x, xy.y]

/-- One column says that the file was renamed or copied. -/
def StatusCode.moves (xy : StatusCode) : Bool := [xy.x, xy.y].any fun c => c = 'R' || c = 'C'

inductive StatusRow where
  | single (xy : StatusCode) (path : GitPath)
  | renamed (xy : StatusCode) (source target : GitPath) (moves : xy.moves = true)

namespace StatusRow

def xy : StatusRow → StatusCode
  | single xy _ => xy
  | renamed xy _ _ _ => xy

/-- The real names of a row. -/
def paths : StatusRow → List Text
  | single _ path => [path.text]
  | renamed _ source target _ => [source.text, target.text]

def body : StatusRow → Text
  | single _ path => printName path.text
  | renamed _ source target _ => printName source.text ++ arrow ++ printName target.text

def line (row : StatusRow) : Text := row.xy.text ++ ' ' :: row.body

/-- The row is of a file that git does not track. -/
def isUntracked (row : StatusRow) : Bool := row.xy.text = "??".toList

end StatusRow

/-- `git status --porcelain`. -/
def render (rows : List StatusRow) : Text := rows.flatMap fun row => row.line ++ ['\n']

/-! ## Reading -/

/-- What a row reads as. A name keeps its escapes; the arrow of a rename is the first one of the row,
also when it stands inside of the first name. -/
def StatusRow.shown : StatusRow → List Text
  | single _ path =>
    match cutArrow (escapeName path.text) with
    | none => [escapeName path.text]
    | some (before, after) =>
      [unquotePorcelainPath ('"' :: before), unquotePorcelainPath (after ++ ['"'])]
  | renamed _ source target _ =>
    match cutArrow (escapeName source.text) with
    | none => [escapeName source.text, escapeName target.text]
    | some (before, after) =>
      [unquotePorcelainPath ('"' :: before), unquotePorcelainPath (after ++ '"' :: (arrow ++ printName target.text))]

/-- The first name of a row. -/
def StatusRow.source : StatusRow → Text
  | single _ path => path.text
  | renamed _ source _ _ => source.text

/-- The last name of a row. -/
def StatusRow.target : StatusRow → Text
  | single _ path => path.text
  | renamed _ _ target _ => target.text

/-- What is printed behind the first name. -/
def StatusRow.behind : StatusRow → Text
  | single _ _ => []
  | renamed _ _ target _ => arrow ++ printName target.text

/-- The first and the last text that a row reads as: the spellings of its names, or, where an arrow is inside
of the first name, what that arrow cuts off. -/
inductive StatusRow.Reads (row : StatusRow) : Text → Text → Prop where
  | whole (h : ¬arrow <:+: escapeName row.source) : row.Reads (escapeName row.source) (escapeName row.target)
  | cut {before after : Text} (h : escapeName row.source = before ++ (arrow ++ after))
      (hfirst : ¬arrow <:+: before ++ " ->".toList) :
      row.Reads (unquotePorcelainPath ('"' :: before)) (unquotePorcelainPath (after ++ '"' :: row.behind))

/-- Git prints the name as it is, but for quotes around a space. -/
structure IsPlain (name : Text) : Prop where
  printable : ∀ c ∈ name, isPrintable c = true ∧ c ≠ '"' ∧ c ≠ '\\'
  noArrow : ¬arrow <:+: name

/-! ## Arrows -/

variable {part u : Text}

lemma infix_of_not_mem {v : Text} {x : Char} (hx : x ∉ part) (h : part <:+: u ++ x :: v) :
    part <:+: u ∨ part <:+: v := by
  obtain ⟨s, t, hst⟩ := h
  rw [append_assoc] at hst
  rcases append_eq_append_iff.1 hst with ⟨w, hu, hrest⟩ | ⟨w, hs, hrest⟩
  · -- the part begins in front of the character
    rcases append_eq_append_iff.1 hrest with ⟨w', hw, -⟩ | ⟨w', hpart, hxs⟩
    · exact .inl ⟨s, w', by rw [hu, hw, append_assoc]⟩
    · cases w' with
      | nil => exact .inl ⟨s, [], by rw [hu, hpart]; simp⟩
      | cons y w' =>
        have hy : x = y := (List.cons.inj hxs).1
        exact absurd (by rw [hpart, hy]; simp) hx
  · cases w with
    | nil =>
      cases part with
      | nil => exact .inl (List.nil_infix)
      | cons y part =>
        have hy : y = x := (List.cons.inj hrest).1.symm
        exact absurd (by rw [hy]; simp) hx
    | cons y w => exact .inr ⟨w, t, by rw [append_assoc]; exact (List.cons.inj hrest).2.symm⟩

variable {cs : Text}

lemma indexOf_eq_none_iff : indexOf part cs = none ↔ ¬part <:+: cs := by
  induction cs with
  | nil =>
    cases part with
    | nil => simp [indexOf]
    | cons c part => simp [indexOf]
  | cons c cs ih =>
    unfold indexOf
    split
    · next hprefix =>
      have hinside := (List.isPrefixOf_iff_prefix.1 hprefix).isInfix
      simp [hinside]
    · next hprefix =>
      rw [map_eq_none_iff, ih, infix_cons_iff, not_or]
      simp [List.isPrefixOf_iff_prefix.not.1 hprefix]

lemma indexOf_append {v : Text} (hfirst : ∀ s t, u = s ++ t → t ≠ [] → ¬part <+: t ++ (part ++ v)) :
    indexOf part (u ++ (part ++ v)) = some u.length := by
  induction u with
  | nil =>
    rw [nil_append]
    cases hcs : part ++ v with
    | nil => simp_all [indexOf]
    | cons c cs =>
      unfold indexOf
      rw [← hcs, if_pos (List.isPrefixOf_iff_prefix.2 (prefix_append _ _))]
      rfl
  | cons c u ih =>
    have hrest := ih fun s t hst hne => hfirst (c :: s) t (by rw [hst]; rfl) hne
    rw [cons_append, indexOf, if_neg, hrest]
    · rfl
    · intro hprefix
      exact hfirst [] (c :: u) rfl (by simp) (List.isPrefixOf_iff_prefix.1 hprefix)

lemma cutArrow_eq_none_iff : cutArrow cs = none ↔ ¬arrow <:+: cs := by
  rw [cutArrow, map_eq_none_iff, indexOf_eq_none_iff]

variable {before after : Text}

lemma cutArrow_append (h : ¬arrow <:+: before ++ " ->".toList) :
    cutArrow (before ++ (arrow ++ after)) = some (before, after) := by
  have hindex : indexOf arrow (before ++ (arrow ++ after)) = some before.length := by
    refine indexOf_append fun s t hst hne hprefix => h ?_
    -- an arrow that begins inside of the text ends before the last character of the next one
    obtain ⟨c, t, rfl⟩ := exists_cons_of_ne_nil hne
    have hlength : arrow.length ≤ (c :: t ++ " ->".toList).length := by simp [arrow]
    have hshort : arrow <+: c :: t ++ " ->".toList := by
      refine prefix_of_prefix_length_le hprefix ⟨' ' :: after, ?_⟩ hlength
      simp [arrow]
    rw [hst, append_assoc]
    exact (hshort.isInfix).trans (suffix_append _ _).isInfix
  simp [cutArrow, hindex]

lemma of_indexOf_eq_some {i : Nat} (h : indexOf part cs = some i) :
    part <+: cs.drop i ∧ ∀ j < i, ¬part <+: cs.drop j := by
  induction cs generalizing i with
  | nil =>
    cases part with
    | nil =>
      cases h
      exact ⟨by simp, by simp⟩
    | cons c part => simp [indexOf] at h
  | cons c cs ih =>
    unfold indexOf at h
    split at h
    · next hprefix =>
      cases h
      exact ⟨List.isPrefixOf_iff_prefix.1 hprefix, by simp⟩
    · next hprefix =>
      obtain ⟨k, hk, rfl⟩ := map_eq_some_iff.1 h
      obtain ⟨hfound, hfirst⟩ := ih hk
      refine ⟨hfound, fun j hj => ?_⟩
      cases j with
      | zero => exact isPrefixOf_iff_prefix.not.1 hprefix
      | succ j => exact hfirst j (by omega)

lemma of_cutArrow_eq_some (h : cutArrow cs = some (before, after)) :
    cs = before ++ (arrow ++ after) ∧ ¬arrow <:+: before ++ " ->".toList := by
  obtain ⟨i, hi, hcut⟩ := map_eq_some_iff.1 h
  obtain ⟨hbefore, hafter⟩ := Prod.mk.inj hcut
  obtain ⟨⟨rest, hrest⟩, hfirst⟩ := of_indexOf_eq_some hi
  have hcs : cs = before ++ (arrow ++ after) := by
    have hdrop : cs.drop (i + arrow.length) = rest := by rw [← drop_drop, ← hrest, drop_left]
    rw [← hbefore, ← hafter, hdrop, hrest, take_append_drop]
  refine ⟨hcs, fun hinside => ?_⟩
  obtain ⟨s, t, hst⟩ := hinside
  -- an earlier arrow
  have hlength : s.length + arrow.length + t.length = before.length + 3 := by
    have hlengths := congrArg List.length hst
    simp only [length_append] at hlengths
    exact hlengths
  have harrow : arrow.length = 4 := by decide
  have htake : before.length ≤ i := by
    rw [← hbefore, length_take]
    omega
  refine hfirst s.length (by omega) ⟨t ++ ' ' :: after, ?_⟩
  have hwhole : cs = s ++ (arrow ++ (t ++ ' ' :: after)) := by
    have hspace : arrow ++ after = " ->".toList ++ (' ' :: after) := by simp [arrow]
    rw [hcs, hspace, ← append_assoc, ← hst]
    simp
  rw [hwhole, drop_left]

/-! ## Names -/

lemma escapeChar_ne_nil (c : Char) : escapeChar c ≠ [] := by
  unfold escapeChar
  split
  · simp
  split
  · simp
  split
  · simp
  split
  all_goals try simp
  obtain ⟨b, hb⟩ := exists_mem_of_ne_nil _ (String.utf8EncodeChar_ne_nil (c := c))
  exact ⟨b, hb, by simp [octalEscape]⟩

lemma isPrintable_octalDigit (n : Nat) :
    isPrintable (octalDigit n) = true ∧ octalDigit n ≠ ' ' ∧ octalDigit n ≠ '"' := by
  have hdigits : ∀ k < 8, isPrintable (Char.ofNat (48 + k)) = true ∧ Char.ofNat (48 + k) ≠ ' ' ∧
      Char.ofNat (48 + k) ≠ '"' := by
    decide
  exact hdigits (n % 8) (Nat.mod_lt _ (by decide))

variable {c d : Char}

lemma mem_escapeChar (h : d ∈ escapeChar c) : isPrintable d = true ∧ (d = ' ' → c = ' ') ∧ (d = '"' → c = '"') := by
  have hletters : ∀ e : Char, d ∈ ['\\', e] → isPrintable e = true ∧ e ≠ ' ' ∧ (e = '"' → c = '"') →
      isPrintable d = true ∧ (d = ' ' → c = ' ') ∧ (d = '"' → c = '"') := by
    intro e hd he
    rcases mem_cons.1 hd with rfl | hd
    · exact ⟨by decide, fun h => absurd h (by decide), fun h => absurd h (by decide)⟩
    · rw [mem_singleton.1 hd]
      exact ⟨he.1, fun h => absurd h he.2.1, he.2.2⟩
  unfold escapeChar at h
  split at h
  · next hquote => exact hletters '"' h ⟨by decide, by decide, fun _ => hquote⟩
  split at h
  · exact hletters '\\' h ⟨by decide, by decide, fun h => absurd h (by decide)⟩
  split at h
  · next hprintable =>
    rw [mem_singleton.1 h]
    exact ⟨hprintable, fun h => h, fun h => h⟩
  split at h
  · exact hletters 'a' h ⟨by decide, by decide, fun h => absurd h (by decide)⟩
  · exact hletters 'b' h ⟨by decide, by decide, fun h => absurd h (by decide)⟩
  · exact hletters 't' h ⟨by decide, by decide, fun h => absurd h (by decide)⟩
  · exact hletters 'n' h ⟨by decide, by decide, fun h => absurd h (by decide)⟩
  · exact hletters 'v' h ⟨by decide, by decide, fun h => absurd h (by decide)⟩
  · exact hletters 'f' h ⟨by decide, by decide, fun h => absurd h (by decide)⟩
  · exact hletters 'r' h ⟨by decide, by decide, fun h => absurd h (by decide)⟩
  · obtain ⟨b, -, hd⟩ := mem_flatMap.1 h
    simp only [octalEscape, mem_cons, not_mem_nil, or_false] at hd
    rcases hd with rfl | rfl | rfl | rfl
    · exact ⟨by decide, fun h => absurd h (by decide), fun h => absurd h (by decide)⟩
    all_goals
      obtain ⟨hprintable, hspace, hquote⟩ := isPrintable_octalDigit _
      exact ⟨hprintable, fun h => absurd h hspace, fun h => absurd h hquote⟩

variable {name : Text}

lemma mem_escapeName (h : d ∈ escapeName name) :
    isPrintable d = true ∧ (d = ' ' → ' ' ∈ name) ∧ (d = '"' → '"' ∈ name) := by
  obtain ⟨c, hc, hd⟩ := mem_flatMap.1 h
  obtain ⟨hprintable, hspace, hquote⟩ := mem_escapeChar hd
  exact ⟨hprintable, fun h => hspace h ▸ hc, fun h => hquote h ▸ hc⟩

lemma escapeName_ne_nil (h : name ≠ []) : escapeName name ≠ [] := by
  obtain ⟨c, cs, rfl⟩ := exists_cons_of_ne_nil h
  simp [escapeName, escapeChar_ne_nil]

lemma getLast?_before_quote (name before : Text) (h : escapeName name = before ++ '"' :: after) :
    before.getLast? = some '\\' := by
  induction name generalizing before with
  | nil => simp [escapeName] at h
  | cons c name ih =>
    have hcons : escapeChar c ++ escapeName name = before ++ '"' :: after := h
    rcases append_eq_append_iff.1 hcons with ⟨w, hbefore, hrest⟩ | ⟨w, hchar, hrest⟩
    · rw [hbefore, getLast?_append, ih _ hrest]
      rfl
    · cases w with
      | nil =>
        have hempty := ih [] hrest.symm
        simp at hempty
      | cons d w =>
        have hd : d = '"' := (List.cons.inj hrest).1.symm
        have hc : c = '"' := (mem_escapeChar (by rw [hchar, hd]; simp)).2.2 rfl
        rw [hc, hd] at hchar
        match before, hchar with
        | [e], hchar =>
          have he : '\\' = e := (List.cons.inj hchar).1
          rw [← he]
          rfl
        | [], hchar =>
          have hfalse : '\\' = '"' := (List.cons.inj hchar).1
          exact absurd hfalse (by decide)
        | e :: f :: before, hchar =>
          have hnil : [] = before ++ '"' :: w := (List.cons.inj (List.cons.inj hchar).2).2
          simp at hnil

lemma escapeName_of_not_needsQuotes (h : needsQuotes name = false) :
    escapeName name = name ∧ ' ' ∉ name ∧ '"' ∉ name := by
  have hchars : ∀ c ∈ name, c ≠ ' ' ∧ escapeChar c = [c] := by
    intro c hc
    have hplain := any_eq_false.1 h c hc
    simpa using hplain
  refine ⟨?_, fun hspace => (hchars ' ' hspace).1 rfl, fun hquote => ?_⟩
  · clear h
    induction name with
    | nil => rfl
    | cons c name ih =>
      have hrest := ih fun d hd => hchars d (mem_cons_of_mem _ hd)
      calc escapeName (c :: name) = escapeChar c ++ escapeName name := rfl
        _ = c :: name := by rw [(hchars c mem_cons_self).2, hrest]; rfl
  · exact absurd (hchars '"' hquote).2 (by decide)

/-! ## Reading names -/

lemma not_isSpace_of_isPrintable (h : isPrintable c = true) (hc : c ≠ ' ') : isSpace c = false := by
  have hcode : c.toNat ≠ 32 := fun hcode => hc (Char.toNat_inj.1 hcode)
  have hbounds : 32 ≤ c.toNat ∧ c.toNat < 127 := by simpa [isPrintable] using h
  simp [isSpace]
  omega

lemma trimText_of_ends (hfirst : ∀ a ∈ cs.head?, isSpace a = false)
    (hlast : ∀ b ∈ cs.getLast?, isSpace b = false) : trimText cs = cs := trimEnd_trimStart_eq_self_iff.2 ⟨hfirst, hlast⟩

lemma not_isSpace_of_mem_escapeName (h : d ∈ escapeName name) (hd : d ≠ ' ') : isSpace d = false :=
  not_isSpace_of_isPrintable (mem_escapeName h).1 hd

lemma unquotePorcelainPath_quoted (cs : Text) : unquotePorcelainPath ('"' :: cs ++ ['"']) = cs := by
  have htrim : trimText ('"' :: cs ++ ['"']) = '"' :: cs ++ ['"'] :=
    trimText_of_ends (by simp [show isSpace '"' = false by decide])
      fun b hb => by
        have hquote : '"' = b := by simpa only [getLast?_concat, mem_some_iff] using hb
        rw [← hquote]
        decide
  have hends : endsWith ('"' :: cs ++ ['"']) ['"'] = true := by simp [endsWith]
  simp only [unquotePorcelainPath, htrim]
  rw [if_pos ⟨by simp, by simp [startsWith], hends⟩]
  simp

lemma unquotePorcelainPath_printName (name : Text) : unquotePorcelainPath (printName name) = escapeName name := by
  unfold printName
  cases hquotes : needsQuotes name with
  | true => exact unquotePorcelainPath_quoted (escapeName name)
  | false =>
    obtain ⟨hspelling, hspace, hquote⟩ := escapeName_of_not_needsQuotes hquotes
    have hplain : ∀ c ∈ name, isSpace c = false := fun c hc =>
      not_isSpace_of_mem_escapeName (hspelling.symm ▸ hc) fun h => hspace (h ▸ hc)
    have htrim : trimText name = name :=
      trimText_of_ends (fun a ha => hplain a (mem_of_mem_head? ha))
        fun b hb => hplain b (mem_of_mem_getLast? hb)
    simp only [unquotePorcelainPath, Bool.false_eq_true, if_false, htrim]
    rw [if_neg, hspelling]
    rintro ⟨-, hstart, -⟩
    exact hquote ((List.isPrefixOf_iff_prefix.1 hstart).subset (by simp))

lemma trimText_spec (cs : Text) : ∃ u v : Text, cs = u ++ (trimText cs ++ v) ∧
    (∀ c ∈ u, isSpace c = true) ∧ ∀ c ∈ v, isSpace c = true := by
  refine ⟨cs.takeWhile isSpace, ((trimStart cs).reverse.takeWhile isSpace).reverse, ?_, ?_, ?_⟩
  · have hend : trimText cs ++ ((trimStart cs).reverse.takeWhile isSpace).reverse = trimStart cs := by
      rw [trimText, trimEnd, ← reverse_append, takeWhile_append_dropWhile, reverse_reverse]
    rw [hend, trimStart, takeWhile_append_dropWhile]
  · exact fun c hc => mem_takeWhile_imp hc
  · exact fun c hc => mem_takeWhile_imp (mem_reverse.1 hc)

lemma mem_trimText (h : c ∈ cs) (hc : isSpace c = false) : c ∈ trimText cs := by
  obtain ⟨u, v, hcs, hu, hv⟩ := trimText_spec cs
  rw [hcs] at h
  rcases mem_append.1 h with h | h
  · exact absurd (hu c h) (by simp [hc])
  rcases mem_append.1 h with h | h
  · exact h
  · exact absurd (hv c h) (by simp [hc])

lemma unquotePorcelainPath_ne_nil (hquote : '"' ∈ cs) (hpair : trimText cs ≠ ['"', '"']) :
    unquotePorcelainPath cs ≠ [] := by
  have hmem : '"' ∈ trimText cs := mem_trimText hquote (by decide)
  unfold unquotePorcelainPath
  dsimp only
  split
  · next hends =>
    obtain ⟨hlength, hstart, hend⟩ := hends
    intro hempty
    obtain ⟨rest, hrest⟩ := isPrefixOf_iff_prefix.1 hstart
    rw [← hrest] at hempty hlength hpair hend
    match rest, hempty, hlength, hpair, hend with
    | [b], _, _, hpair, hend =>
      -- the second character is the closing quote
      have hb : '"' = b := by
        obtain ⟨w, hw⟩ := isSuffixOf_iff_suffix.1 hend
        have hlast := congrArg List.getLast? hw
        simpa using hlast
      exact hpair (by rw [hb]; rfl)
    | [], _, hlength, _, _ => simp at hlength
    | b :: c :: rest, hempty, _, _, _ => simp at hempty
  · exact ne_nil_of_mem hmem

/-! ## Arrows of a row -/

lemma not_arrow_infix_of_one_space (h : cs.count ' ' ≤ 1) : ¬arrow <:+: cs := by
  intro hinside
  have hcount := hinside.sublist.count_le ' '
  have harrow : arrow.count ' ' = 2 := by decide
  omega

lemma not_arrow_infix_printName (h : ¬arrow <:+: escapeName name) : ¬arrow <:+: printName name ++ " ->".toList := by
  unfold printName
  cases hquotes : needsQuotes name with
  | true =>
    intro hinside
    have hquote : '"' ∉ arrow := by decide
    have hsplit : '"' :: escapeName name ++ ['"'] ++ " ->".toList =
        [] ++ '"' :: (escapeName name ++ '"' :: " ->".toList) := by simp
    rw [if_pos rfl, hsplit] at hinside
    rcases infix_of_not_mem hquote hinside with hinside | hinside
    · exact absurd hinside.length_le (by decide)
    rcases infix_of_not_mem hquote hinside with hinside | hinside
    · exact h hinside
    · exact absurd hinside.length_le (by decide)
  | false =>
    obtain ⟨-, hspace, -⟩ := escapeName_of_not_needsQuotes hquotes
    refine not_arrow_infix_of_one_space ?_
    have hcount : name.count ' ' = 0 := count_eq_zero.2 hspace
    simp only [Bool.false_eq_true, if_false, count_append, hcount]
    decide

lemma cutArrow_printName (h : cutArrow (escapeName name) = none) : cutArrow (printName name) = none := by
  rw [cutArrow_eq_none_iff] at h ⊢
  exact fun hinside => not_arrow_infix_printName h (hinside.trans (prefix_append _ _).isInfix)

lemma cutArrow_printName_append (rest : Text) (h : cutArrow (escapeName name) = none) :
    cutArrow (printName name ++ (arrow ++ rest)) = some (printName name, rest) :=
  cutArrow_append (not_arrow_infix_printName (cutArrow_eq_none_iff.1 h))

lemma cutArrow_printName_inside (rest : Text) (h : cutArrow (escapeName name) = some (before, after)) :
    cutArrow (printName name ++ rest) = some ('"' :: before, after ++ '"' :: rest) := by
  obtain ⟨hname, hfirst⟩ := of_cutArrow_eq_some h
  have hquotes : needsQuotes name = true := by
    by_contra hplain
    obtain ⟨hspelling, hspace, -⟩ := escapeName_of_not_needsQuotes (Bool.eq_false_iff.2 hplain)
    refine hspace ?_
    rw [← hspelling, hname]
    simp [arrow]
  have hprinted : printName name ++ rest = '"' :: before ++ (arrow ++ (after ++ '"' :: rest)) := by
    simp only [printName, hquotes, if_true, hname]
    simp
  rw [hprinted]
  refine cutArrow_append fun hinside => ?_
  rcases infix_of_not_mem (u := []) (by decide) hinside with hinside | hinside
  · exact absurd hinside.length_le (by decide)
  · exact hfirst hinside

/-! ## Rows read back -/

lemma quote_mem_printed (rest : Text) (h : cutArrow (escapeName name) = some (before, after)) :
    unquotePorcelainPath ('"' :: before) ≠ [] ∧
      (rest = [] ∨ '-' ∈ rest → unquotePorcelainPath (after ++ '"' :: rest) ≠ []) := by
  obtain ⟨hname, -⟩ := of_cutArrow_eq_some h
  constructor
  · refine unquotePorcelainPath_ne_nil (by simp) fun hpair => ?_
    obtain ⟨u, v, hcs, hu, -⟩ := trimText_spec ('"' :: before)
    rw [hpair] at hcs
    cases u with
    | cons c u =>
      have hc : '"' = c := (List.cons.inj hcs).1
      exact absurd (hu c (by simp)) (by rw [← hc]; decide)
    | nil =>
      -- a name does not begin with a bare quote
      have hbefore : before = '"' :: v := (List.cons.inj hcs).2
      have hlast := getLast?_before_quote name [] (by rw [hname, hbefore]; rfl)
      simp at hlast
  · intro hrest
    refine unquotePorcelainPath_ne_nil (by simp) fun hpair => ?_
    rcases hrest with rfl | hdash
    · obtain ⟨u, v, hcs, hu, hv⟩ := trimText_spec (after ++ ['"'])
      rw [hpair] at hcs
      have hnil : v = [] := by
        rcases eq_nil_or_concat v with hv' | ⟨w, c, hw⟩
        · exact hv'
        · have hlast : (after ++ ['"']).getLast? = (u ++ ['"', '"'] ++ w ++ [c]).getLast? := by
            rw [hcs, hw]
            simp
          have hc : '"' = c := by simpa only [getLast?_concat, some_inj] using hlast
          exact absurd (hv c (by rw [hw]; simp)) (by rw [← hc]; decide)
      have hafter : after = u ++ ['"'] := by
        have hcut : after ++ ['"'] = (u ++ ['"']) ++ ['"'] := by
          rw [hcs, hnil]
          simp
        exact append_cancel_right hcut
      -- the quote would come after a blank
      have hlast := getLast?_before_quote name (before ++ (arrow ++ u)) (show _ = _ ++ '"' :: [] by
        rw [hname, hafter]
        simp)
      rw [getLast?_append, getLast?_append] at hlast
      rcases eq_nil_or_concat u with rfl | ⟨w, c, rfl⟩
      · simp [arrow] at hlast
      · have hc : c = '\\' := by simpa using hlast
        exact absurd (hu c (by simp)) (by rw [hc]; decide)
    · have hmem : '-' ∈ trimText (after ++ '"' :: rest) := mem_trimText (by simp [hdash]) (by decide)
      rw [hpair] at hmem
      exact absurd hmem (by decide)

variable {p : Text}

lemma ne_nil_of_mem_shown (row : StatusRow) (h : p ∈ row.shown) : p ≠ [] := by
  cases row with
  | single xy path =>
    simp only [StatusRow.shown] at h
    split at h
    · next hcut =>
      rw [mem_singleton.1 h]
      exact escapeName_ne_nil path.nonempty
    · next before after hcut =>
      obtain ⟨hsource, htarget⟩ := quote_mem_printed [] hcut
      rcases mem_pair.1 h with rfl | rfl
      · exact hsource
      · exact htarget (.inl rfl)
  | renamed xy source target moves =>
    simp only [StatusRow.shown] at h
    split at h
    · next hcut =>
      rcases mem_pair.1 h with rfl | rfl
      · exact escapeName_ne_nil source.nonempty
      · exact escapeName_ne_nil target.nonempty
    · next before after hcut =>
      obtain ⟨hsource, htarget⟩ := quote_mem_printed (arrow ++ printName target.text) hcut
      rcases mem_pair.1 h with rfl | rfl
      · exact hsource
      · exact htarget (.inr (by simp [arrow]))

lemma shown_eq (row : StatusRow) :
    row.shown = match cutArrow row.body with
      | some (source, target) => [unquotePorcelainPath source, unquotePorcelainPath target]
      | none => [unquotePorcelainPath row.body] := by
  cases row with
  | single xy path =>
    simp only [StatusRow.shown, StatusRow.body]
    split
    · next hcut => rw [cutArrow_printName hcut, unquotePorcelainPath_printName]
    · next before after hcut =>
      have hinside := cutArrow_printName_inside [] hcut
      rw [append_nil] at hinside
      rw [hinside]
  | renamed xy source target moves =>
    simp only [StatusRow.shown, StatusRow.body]
    rw [append_assoc]
    split
    · next hcut =>
      rw [cutArrow_printName_append _ hcut]
      simp only [unquotePorcelainPath_printName]
    · next before after hcut => rw [cutArrow_printName_inside _ hcut]

lemma cutArrow_eq_some_iff : cutArrow cs = some (before, after) ↔
    cs = before ++ (arrow ++ after) ∧ ¬arrow <:+: before ++ " ->".toList := by
  refine ⟨of_cutArrow_eq_some, ?_⟩
  rintro ⟨rfl, hfirst⟩
  exact cutArrow_append hfirst

lemma StatusRow.exists_reads (row : StatusRow) : ∃ first last, row.Reads first last := by
  cases hcut : cutArrow (escapeName row.source) with
  | none => exact ⟨_, _, .whole (cutArrow_eq_none_iff.1 hcut)⟩
  | some parts =>
    obtain ⟨h, hfirst⟩ := of_cutArrow_eq_some hcut
    exact ⟨_, _, .cut h hfirst⟩

lemma StatusRow.Reads.shown {row : StatusRow} {first last : Text} (h : row.Reads first last) :
    (∀ p, p ∈ row.shown ↔ p = first ∨ p = last) ∧ row.shown.getLast? = some last := by
  cases h with
  | whole h =>
    rw [← cutArrow_eq_none_iff] at h
    cases row <;> simp_all [StatusRow.shown, StatusRow.source, StatusRow.target]
  | cut h hfirst =>
    have hcut := cutArrow_eq_some_iff.2 ⟨h, hfirst⟩
    cases row <;> simp_all [StatusRow.shown, StatusRow.source, StatusRow.behind]

lemma IsPlain.escapeName_eq (h : IsPlain name) : escapeName name = name := by
  have hchars : ∀ c ∈ name, escapeChar c = [c] := fun c hc => by
    obtain ⟨hprintable, hquote, hbackslash⟩ := h.printable c hc
    simp [escapeChar, hquote, hbackslash, hprintable]
  rw [escapeName, flatMap_congr hchars, flatMap_singleton']

lemma shown_of_plain {row : StatusRow} (h : ∀ name ∈ row.paths, IsPlain name) : row.shown = row.paths := by
  have hname : ∀ name ∈ row.paths, escapeName name = name ∧ cutArrow name = none := fun name hmem =>
    ⟨(h name hmem).escapeName_eq, cutArrow_eq_none_iff.2 (h name hmem).noArrow⟩
  cases row <;> simp_all [StatusRow.shown, StatusRow.paths]

lemma StatusRow.ne_nil_of_mem_paths (row : StatusRow) (h : p ∈ row.paths) : p ≠ [] := by
  cases row with
  | single xy path =>
    rw [mem_singleton.1 h]
    exact path.nonempty
  | renamed xy source target moves =>
    rcases mem_pair.1 h with rfl | rfl
    · exact source.nonempty
    · exact target.nonempty

lemma StatusCode.length_text (xy : StatusCode) : xy.text.length = 2 := rfl

lemma StatusRow.line_parts (row : StatusRow) :
    ¬row.line.length < 3 ∧ row.line.take 2 = row.xy.text ∧ row.line.drop 3 = row.body := by
  refine ⟨?_, rfl, rfl⟩
  simp only [StatusRow.line, length_append, StatusCode.length_text, length_cons]
  omega

lemma parseLine_line (row : StatusRow) :
    parseLine row.line = row.shown.map fun path => ⟨path, row.xy.text⟩ := by
  obtain ⟨hlength, hxy, hbody⟩ := row.line_parts
  have hkeep : row.shown.filter (fun p => !p.isEmpty) = row.shown := by
    refine filter_eq_self.2 fun p hp => ?_
    simpa using ne_nil_of_mem_shown row hp
  unfold parseLine
  rw [if_neg hlength, hxy, hbody]
  rw [shown_eq row] at hkeep ⊢
  exact congrArg (List.map fun path => PorcelainEntry.mk path row.xy.text) hkeep

lemma splitLines_append (h : '\n' ∉ u) (v : Text) :
    JsRegExp.splitLines (u ++ '\n' :: v) = u :: JsRegExp.splitLines v := by
  induction u with
  | nil => rfl
  | cons c u ih =>
    obtain ⟨hc, hu⟩ := not_or.1 (mem_cons.not.1 h)
    rw [cons_append, JsRegExp.splitLines, if_neg (Ne.symm hc), ih hu]

lemma newline_not_mem_printName (name : Text) : '\n' ∉ printName name := by
  have hprintable : isPrintable '\n' = false := by decide
  unfold printName
  split
  · intro h
    rcases mem_append.1 h with h | h
    · rcases mem_cons.1 h with h | h
      · exact absurd h (by decide)
      · exact absurd (mem_escapeName h).1 (by simp [hprintable])
    · exact absurd h (by decide)
  · next hquotes =>
    intro h
    rw [← (escapeName_of_not_needsQuotes (Bool.eq_false_iff.2 hquotes)).1] at h
    exact absurd (mem_escapeName h).1 (by simp [hprintable])

lemma newline_not_mem_line (row : StatusRow) : '\n' ∉ row.line := by
  have hletters : '\n' ∉ statusLetters := by decide
  have hcode : '\n' ∉ row.xy.text := by
    intro h
    rcases mem_pair.1 h with h | h
    · exact hletters (h ▸ row.xy.xLetter)
    · exact hletters (h ▸ row.xy.yLetter)
  have hbody : '\n' ∉ row.body := by
    cases row with
    | single xy path => exact newline_not_mem_printName _
    | renamed xy source target moves =>
      simp only [StatusRow.body, mem_append, not_or]
      exact ⟨⟨newline_not_mem_printName _, by decide⟩, newline_not_mem_printName _⟩
  simp only [StatusRow.line, mem_append, mem_cons, not_or]
  exact ⟨hcode, by decide, hbody⟩

lemma splitLines_render (rows : List StatusRow) :
    JsRegExp.splitLines (render rows) = rows.map StatusRow.line ++ [[]] := by
  induction rows with
  | nil => rfl
  | cons row rows ih =>
    have hrender : render (row :: rows) = row.line ++ '\n' :: render rows := by simp [render]
    rw [hrender, splitLines_append (newline_not_mem_line row), ih]
    rfl

lemma parsePorcelainPaths_render (rows : List StatusRow) :
    parsePorcelainPaths (render rows) = rows.flatMap StatusRow.shown := by
  have hlast : parseLine [] = [] := rfl
  rw [parsePorcelainPaths, parsePorcelainEntries, splitLines_render, flatMap_append]
  simp [hlast, parseLine_line, map_flatMap, flatMap_map, Function.comp_def]

variable {row : StatusRow}

/-! ## The second reader -/

variable {globs : List Text}

lemma mem_product_of_shown (hshown : p ∈ row.shown)
    (hproduct : isNonProductScratchPath p globs = false) : p ∈ (recoverLine globs row.line).product := by
  obtain ⟨hlength, hxy, hbody⟩ := row.line_parts
  have hshape := shown_eq row
  unfold recoverLine
  rw [if_neg hlength, hxy, hbody]
  dsimp only
  split at hshape
  · next source target hcut =>
    have htarget : unquotePorcelainPath target ≠ [] := ne_nil_of_mem_shown row (by simp [hshape])
    simp only [hcut, map_some, getD_some, List.isEmpty_iff, htarget, if_false, toList_some]
    rw [hshape] at hshown
    rcases mem_pair.1 hshown with rfl | rfl
    · have hsource : unquotePorcelainPath source ≠ [] := ne_nil_of_mem_shown row (by simp [hshape])
      split <;> simp [hsource, hproduct]
    · simp [hproduct]
  · next hcut =>
    have hpath : unquotePorcelainPath row.body ≠ [] := ne_nil_of_mem_shown row (by simp [hshape])
    simp only [hcut, map_none, getD_none, List.isEmpty_iff, hpath, if_false, toList_none]
    rw [hshape] at hshown
    rw [mem_singleton.1 hshown] at hproduct ⊢
    simp [hproduct]

lemma mem_untrackedScratch_of_path {path xy q : Text} {source : List Text} :
    q ∈ (if (isNonProductScratchPath path globs && xy = "??".toList) = true
        then (⟨source, [path]⟩ : ScratchRecovery) else ⟨source ++ [path], []⟩).untrackedScratch ↔
      xy = "??".toList ∧ path = q ∧ isNonProductScratchPath q globs = true := by
  split
  · next h =>
    obtain ⟨hscratch, hxy⟩ : isNonProductScratchPath path globs = true ∧ xy = "??".toList := by
      simpa only [Bool.and_eq_true, decide_eq_true_eq] using h
    rw [mem_singleton]
    exact ⟨fun hq => ⟨hxy, hq.symm, hq ▸ hscratch⟩, fun hq => hq.2.1.symm⟩
  · next h =>
    simp only [Bool.and_eq_true, decide_eq_true_eq, not_and] at h
    simp only [not_mem_nil, false_iff]
    rintro ⟨hxy, rfl, hscratch⟩
    exact h hscratch hxy

lemma mem_untrackedScratch_iff {q : Text} : q ∈ (recoverLine globs row.line).untrackedScratch ↔
      row.isUntracked = true ∧ row.shown.getLast? = some q ∧ isNonProductScratchPath q globs = true := by
  obtain ⟨hlength, hxy, hbody⟩ := row.line_parts
  have hshape := shown_eq row
  have hcode : row.isUntracked = true ↔ row.xy.text = "??".toList := by simp [StatusRow.isUntracked]
  unfold recoverLine
  rw [if_neg hlength, hxy, hbody, hcode]
  dsimp only
  split at hshape
  · next source target hcut =>
    have htarget : unquotePorcelainPath target ≠ [] := ne_nil_of_mem_shown row (by simp [hshape])
    simp only [hcut, map_some, getD_some, List.isEmpty_iff, htarget, if_false]
    rw [hshape, mem_untrackedScratch_of_path, getLast?_cons_cons, getLast?_singleton, some_inj]
  · next hcut =>
    have hpath : unquotePorcelainPath row.body ≠ [] := ne_nil_of_mem_shown row (by simp [hshape])
    simp only [hcut, map_none, getD_none, List.isEmpty_iff, hpath, if_false]
    rw [hshape, mem_untrackedScratch_of_path, getLast?_singleton, some_inj]

lemma classifyPorcelainForScratchRecover_render (rows : List StatusRow) (globs : List Text) :
    classifyPorcelainForScratchRecover (render rows) globs =
      ⟨rows.flatMap fun row => (recoverLine globs row.line).product,
        rows.flatMap fun row => (recoverLine globs row.line).untrackedScratch⟩ := by
  have hlast : recoverLine globs [] = ⟨[], []⟩ := rfl
  unfold classifyPorcelainForScratchRecover
  rw [splitLines_render]
  simp [hlast, flatMap_map]

/-! ## Waivers -/

/-- A scratch pattern matches: the engine's, or a safe one of the extension. -/
def matchesScratch (globs : List Text) (p : Text) : Bool :=
  engineNonProductScratchGlobs.any (matchScratchGlob p) ||
    globs.any fun glob => isSafeScratchExtensionGlob glob && matchScratchGlob p glob

/-- The path has to be reported. -/
def Required (globs : List Text) (p : Text) : Prop :=
  isAlwaysProductPath p = true ∨ matchesScratch globs p = false

/-- No product dirt is waived: both readers report a required path under its name, and what the second one
takes for scratch is an untracked path that is. -/
structure NoWaiver (globs : List Text) (rows : List StatusRow) : Prop where
  reported : ∀ row ∈ rows, ∀ p ∈ row.paths, Required globs p →
    p ∈ productDirtyPaths (parsePorcelainPaths (render rows)) globs ∧
      p ∈ (classifyPorcelainForScratchRecover (render rows) globs).product
  scratch : ∀ q ∈ (classifyPorcelainForScratchRecover (render rows) globs).untrackedScratch,
    ∃ row ∈ rows, row.isUntracked = true ∧ q ∈ row.paths ∧ matchesScratch globs q = true

/-- The normalized name is empty, or no engine pattern matches it and it has to be reported. -/
def Unwaived (globs : List Text) (p : Text) : Prop :=
  normalizeRepoPath p = [] ∨
    (∀ glob ∈ engineNonProductScratchGlobs, matchScratchGlob (normalizeRepoPath p) glob = false) ∧
      Required globs (normalizeRepoPath p)

/-- A required name is unwaived and some row reads as it, and what an untracked row reads as last is unwaived,
or it is the name of an untracked path and a scratch pattern matches it. -/
structure ReadsTrue (globs : List Text) (rows : List StatusRow) : Prop where
  unwaived : ∀ row ∈ rows, ∀ p ∈ row.paths, Required globs p → Unwaived globs p
  spelled : ∀ row ∈ rows, ∀ p ∈ row.paths, Required globs p →
    ∃ spelling ∈ rows, ∃ first last, spelling.Reads first last ∧ (p = first ∨ p = last)
  untracked : ∀ row ∈ rows, row.isUntracked = true → ∀ first last, row.Reads first last →
    Unwaived globs last ∨ matchesScratch globs last = true ∧
      ∃ spelled ∈ rows, spelled.isUntracked = true ∧ last ∈ spelled.paths

lemma trimText_toSlashes_trimText (glob : Text) : trimText (toSlashes (trimText glob)) = trimText (toSlashes glob) := by
  have hspace : (isSpace ∘ fun c => if c = '\\' then '/' else c) = isSpace := by
    funext c
    by_cases hc : c = '\\'
    · simp only [Function.comp_apply, hc]
      decide
    · simp [hc]
  have hmap : ∀ cs, trimText (toSlashes cs) = toSlashes (trimText cs) := fun cs => by
    simp only [trimText, trimStart, trimEnd, toSlashes, dropWhile_map, ← map_reverse, hspace]
  have htrim : trimText (trimText glob) = trimText glob := by
    simpa only [trimText, trim, ← String.toList_inj, String.toList_ofList] using trim_trim (String.ofList glob)
  rw [hmap, htrim, hmap]

lemma isNonProductScratchPath_eq_false_iff : isNonProductScratchPath p globs = false ↔ Unwaived globs p := by
  -- a glob is tested without the white space around it
  have hglob : ∀ n glob, (!(trimText glob).isEmpty && isSafeScratchExtensionGlob (trimText glob) &&
      matchScratchGlob n (trimText glob)) = (isSafeScratchExtensionGlob glob && matchScratchGlob n glob) := by
    intro n glob
    have hsafe : isSafeScratchExtensionGlob (trimText glob) = isSafeScratchExtensionGlob glob := by
      simp only [isSafeScratchExtensionGlob, trimText_toSlashes_trimText]
    have hmatch : matchScratchGlob n (trimText glob) = matchScratchGlob n glob := by
      simp only [matchScratchGlob, trimText_toSlashes_trimText]
    rw [hsafe, hmatch]
    cases hnil : trimText glob with
    | nil =>
      have hrefused : isSafeScratchExtensionGlob glob = false := by rw [← hsafe, hnil]; decide +kernel
      simp [hrefused]
    | cons c cs => simp
  unfold isNonProductScratchPath Unwaived Required matchesScratch
  simp only [hglob]
  cases normalizeRepoPath p <;> cases isAlwaysProductPath _ <;> simp

lemma mem_productDirtyPaths_iff {rows : List StatusRow} :
    p ∈ productDirtyPaths (parsePorcelainPaths (render rows)) globs ↔
      (∃ row ∈ rows, p ∈ row.shown) ∧ Unwaived globs p := by
  rw [parsePorcelainPaths_render, productDirtyPaths, mem_filter, mem_flatMap, Bool.not_eq_true',
    isNonProductScratchPath_eq_false_iff]

/-- No product dirt is waived just when the rows read true. -/
theorem noWaiver_iff (globs : List Text) (rows : List StatusRow) :
    NoWaiver globs rows ↔ ReadsTrue globs rows := by
  constructor
  · intro h
    refine ⟨fun row hrow p hp hrequired => ?_, fun row hrow p hp hrequired => ?_,
      fun row hrow huntracked first last hreads => ?_⟩
    · exact (mem_productDirtyPaths_iff.1 (h.reported row hrow p hp hrequired).1).2
    · obtain ⟨⟨spelling, hspelling, hshown⟩, -⟩ := mem_productDirtyPaths_iff.1 (h.reported row hrow p hp hrequired).1
      obtain ⟨first, last, hreads⟩ := spelling.exists_reads
      exact ⟨spelling, hspelling, first, last, hreads, (hreads.shown.1 p).1 hshown⟩
    · -- what an untracked row reads as last is listed when the test accepts it
      refine Classical.or_iff_not_imp_left.2 fun hwaived => ?_
      have hscratch : isNonProductScratchPath last globs = true := by
        simpa [← isNonProductScratchPath_eq_false_iff] using hwaived
      have hlisted : last ∈ (classifyPorcelainForScratchRecover (render rows) globs).untrackedScratch := by
        rw [classifyPorcelainForScratchRecover_render]
        exact mem_flatMap.2 ⟨row, hrow, mem_untrackedScratch_iff.2 ⟨huntracked, hreads.shown.2, hscratch⟩⟩
      obtain ⟨spelled, hspelled, hcode, hpath, hmatches⟩ := h.scratch last hlisted
      exact ⟨hmatches, spelled, hspelled, hcode, hpath⟩
  · intro h
    refine ⟨fun row hrow p hp hrequired => ?_, fun q hq => ?_⟩
    · have hunwaived := h.unwaived row hrow p hp hrequired
      obtain ⟨spelling, hspelling, first, last, hreads, hend⟩ := h.spelled row hrow p hp hrequired
      have hshown := (hreads.shown.1 p).2 hend
      refine ⟨mem_productDirtyPaths_iff.2 ⟨⟨spelling, hspelling, hshown⟩, hunwaived⟩, ?_⟩
      rw [classifyPorcelainForScratchRecover_render]
      exact mem_flatMap.2
        ⟨spelling, hspelling, mem_product_of_shown hshown (isNonProductScratchPath_eq_false_iff.2 hunwaived)⟩
    · rw [classifyPorcelainForScratchRecover_render] at hq
      obtain ⟨row, hrow, hlisted⟩ := mem_flatMap.1 hq
      obtain ⟨huntracked, hlast, hscratch⟩ := mem_untrackedScratch_iff.1 hlisted
      obtain ⟨first, last, hreads⟩ := row.exists_reads
      obtain rfl : last = q := some.inj (hreads.shown.2.symm.trans hlast)
      rcases h.untracked row hrow huntracked first last hreads with hunwaived | ⟨hmatches, spelled, hspelled, hcode, hpath⟩
      · simp [isNonProductScratchPath_eq_false_iff.2 hunwaived] at hscratch
      · exact ⟨spelled, hspelled, hcode, hpath, hmatches⟩

/-- For plain names in normal form that is: no engine pattern matches a protected path. -/
lemma readsTrue_iff_of_plain {rows : List StatusRow}
    (hplain : ∀ row ∈ rows, ∀ p ∈ row.paths, IsPlain p ∧ normalizeRepoPath p = p) :
    ReadsTrue globs rows ↔ ∀ row ∈ rows, ∀ p ∈ row.paths, isAlwaysProductPath p = true →
      ∀ glob ∈ engineNonProductScratchGlobs, matchScratchGlob p glob = false := by
  constructor
  · intro h row hrow p hp hproduct
    have hunwaived := h.unwaived row hrow p hp (.inl hproduct)
    rw [Unwaived, (hplain row hrow p hp).2] at hunwaived
    exact (hunwaived.resolve_left (row.ne_nil_of_mem_paths hp)).1
  · intro h
    have hunwaived : ∀ row ∈ rows, ∀ p ∈ row.paths, Required globs p → Unwaived globs p := by
      intro row hrow p hp hrequired
      rw [Unwaived, (hplain row hrow p hp).2]
      refine .inr ⟨?_, hrequired⟩
      rcases hrequired with hproduct | hnone
      · exact h row hrow p hp hproduct
      · simp_all [matchesScratch]
    have hshown : ∀ row ∈ rows, row.shown = row.paths := fun row hrow =>
      shown_of_plain fun p hp => (hplain row hrow p hp).1
    refine ⟨hunwaived, fun row hrow p hp _ => ?_, fun row hrow huntracked first last hreads => ?_⟩
    · obtain ⟨first, last, hreads⟩ := row.exists_reads
      exact ⟨row, hrow, first, last, hreads, (hreads.shown.1 p).1 (hshown row hrow ▸ hp)⟩
    · have hlast : last ∈ row.paths := hshown row hrow ▸ mem_of_getLast? hreads.shown.2
      by_cases hrequired : Required globs last
      · exact .inl (hunwaived row hrow last hlast hrequired)
      · simp only [Required, not_or, Bool.not_eq_false] at hrequired
        exact .inr ⟨hrequired.2, row, hrow, huntracked, hlast⟩

def untrackedRow (text : String) (nonempty : text.toList ≠ []) : StatusRow :=
  .single ⟨'?', '?', by decide, by decide⟩ ⟨text.toList, nonempty⟩

/-- A lockfile under an engine pattern is waived, and a name outside of ASCII is not reported as it is. -/
theorem lockfile_in_tasks_waived :
    ¬NoWaiver [] [untrackedRow "tasks/package-lock.json" (by decide)] ∧
      ¬NoWaiver [] [untrackedRow "core/café.ts" (by decide)] := by
  constructor
  · intro h
    have hreported := (h.reported _ mem_cons_self "tasks/package-lock.json".toList
      (by simp [untrackedRow, StatusRow.paths]) (.inl (by decide +kernel))).1
    exact absurd hreported (by decide +kernel)
  · intro h
    have hreported := (h.reported _ mem_cons_self "core/café.ts".toList
      (by simp [untrackedRow, StatusRow.paths]) (.inl (by decide +kernel))).1
    exact absurd hreported (by decide +kernel)

end AgentPipeline.Worktree
