import AgentPipeline.Loop.DependencyLists

/-!
# GrammarExact: the ids that a text declares

* `phraseHead_at`, `phrase_of_match`: where the pattern of a phrase matches, and what it leaves;
* `heading_of_match`, `sectionReference_of_mem`: dependency sections;
* `grammar_exact`: a rendered phrase is parsed to its ids, and every id that is returned was declared.
-/

namespace AgentPipeline.Loop

open List JsRegExp JsRegExp.Regex

/-! ## Phrases -/

/-- The words of the pattern, in lower case. -/
def phraseWords : List (List Char) :=
  ["depends on", "requires", "blocked by", "needs"].map fun phrase => phrase.toList.map Char.toLower

variable {word : List Char}

lemma isPhrase_iff : IsPhrase word ↔ word.map Char.toLower ∈ phraseWords := by
  simp only [IsPhrase, AnyCase, phraseWords, map_cons, map_nil, mem_cons, not_mem_nil, or_false]

variable {rest : List Char}

lemma phrase_unique {word' rest' : List Char} (h : IsPhrase word) (h' : IsPhrase word')
    (hsame : word ++ rest = word' ++ rest') : word = word' := by
  have hapart : ∀ w ∈ phraseWords, ∀ w' ∈ phraseWords, w <+: w' → w = w' := by decide
  have hlower : word.map Char.toLower ++ rest.map Char.toLower = word'.map Char.toLower ++ rest'.map Char.toLower := by
    rw [← map_append, hsame, map_append]
  have hequal : word.map Char.toLower = word'.map Char.toLower := by
    rcases prefix_or_prefix_of_prefix (prefix_append _ (rest.map Char.toLower))
      (hlower ▸ prefix_append (word'.map Char.toLower) (rest'.map Char.toLower)) with hprefix | hprefix
    · exact hapart _ (isPhrase_iff.1 h) _ (isPhrase_iff.1 h') hprefix
    · exact (hapart _ (isPhrase_iff.1 h') _ (isPhrase_iff.1 h) hprefix).symm
  have hlength : word.length = word'.length := by simpa using congrArg List.length hequal
  exact (append_inj hsame hlength).1

def phraseRegex : Regex :=
  alt (textAnyCase "depends on") (alt (textAnyCase "requires") (alt (textAnyCase "blocked by") (textAnyCase "needs")))

lemma spells_phraseRegex : Spells phraseRegex IsPhrase :=
  (Spells.textAnyCase _).alt ((Spells.textAnyCase _).alt ((Spells.textAnyCase _).alt (.textAnyCase _)))

variable {c : Cursor}

lemma head?_ends_phraseRegex {c' : Cursor} (hword : IsPhrase word) (hspans : Spans c word c') :
    (ends phraseRegex { cursor := c }).head? = some { cursor := c' } := by
  refine head?_eq_of_unique ((spells_phraseRegex _ _).2 ⟨rfl, word, hspans, hword⟩) fun e he => ?_
  obtain ⟨hgroups, word', hspans', hword'⟩ := (spells_phraseRegex _ _).1 he
  obtain rfl := phrase_unique hword' hword (hspans'.rest.symm.trans hspans.rest)
  obtain ⟨cursor, groups⟩ := e
  simp only at hgroups hspans'
  rw [hspans'.unique hspans, hgroups]

lemma phraseHead_at {c : Cursor} {word ws rest after : List Char} (hword : IsPhrase word) (hws : Spaces ws)
    (hrest : c.rest = word ++ (ws ++ rest))
    (hnext : (∃ x more, rest = x :: more ∧ JsText.isSpace x = false ∧ x ≠ ':' ∧ after = rest) ∨ rest = ':' :: after) :
    ∃ stop, (ends phraseHead { cursor := c }).head? = some stop ∧ stop.cursor.rest = after ∧
      stop.cursor.rest.length < c.rest.length := by
  have hnonempty : 0 < word.length := by
    have hlengths : ∀ w ∈ phraseWords, 0 < w.length := by decide
    simpa using hlengths _ (isPhrase_iff.1 hword)
  obtain ⟨c₁, hspans₁, hrest₁⟩ : ∃ c₁, Spans c word c₁ ∧ c₁.rest = ws ++ rest := ⟨_, exists_spans hrest, rfl⟩
  obtain ⟨c₂, hspans₂, hrest₂⟩ : ∃ c₂, Spans c₁ ws c₂ ∧ c₂.rest = rest := ⟨_, exists_spans hrest₁, rfl⟩
  have hstop : ∀ x, c₂.rest.head? = some x → JsText.isSpace x = false := by
    intro x hx
    rw [hrest₂] at hx
    rcases hnext with ⟨y, more, rfl, hy, -, -⟩ | rfl
    · obtain rfl : y = x := by simpa using hx
      exact hy
    · obtain rfl : ':' = x := by simpa using hx
      decide
  have hspaces : (ends (star JsText.isSpace) { cursor := c₁ }).head? = some { cursor := c₂ } :=
    head?_ends_many hspans₂ hws (Nat.zero_le _) hstop
  obtain ⟨c₃, hcolon, hrest₃⟩ : ∃ c₃, (ends (optional (text ":")) { cursor := c₂ }).head? = some { cursor := c₃ } ∧
      c₃.rest = after := by
    rcases hnext with ⟨x, more, rfl, -, hx, rfl⟩ | rfl
    · refine ⟨c₂, ?_, hrest₂⟩
      have hnone : ends (text ":") { cursor := c₂ } = [] := by
        rw [eq_nil_iff_forall_not_mem]
        intro e he
        have hrest := (mem_ends_text.1 he).2.rest
        rw [hrest₂] at hrest
        exact hx (List.cons.inj hrest).1
      simp [Regex.optional, ends, hnone, matchAt]
    · obtain ⟨c₃, hspans₃, hrest₃⟩ : ∃ c₃, Spans c₂ [':'] c₃ ∧ c₃.rest = after := ⟨_, exists_spans hrest₂, rfl⟩
      refine ⟨c₃, ?_, hrest₃⟩
      have hhead : (ends (text ":") { cursor := c₂ }).head? = some { cursor := c₃ } := by
        refine head?_eq_of_unique (mem_ends_text.2 ⟨rfl, hspans₃⟩) fun e he => ?_
        obtain ⟨hgroups, hspans⟩ := mem_ends_text.1 he
        obtain ⟨cursor, groups⟩ := e
        simp only at hgroups hspans
        rw [hspans.unique hspans₃, hgroups]
      simp only [Regex.optional, ends] at hhead ⊢
      rw [head?_append, hhead]
      rfl
  have hend : (ends (plain .empty) { cursor := c₃ }).head? = some { cursor := c₃ } := rfl
  refine ⟨{ cursor := c₃ }, head?_ends_seq_of (head?_ends_phraseRegex hword hspans₁)
    (head?_ends_seq_of hspaces (head?_ends_seq_of hcolon hend)), hrest₃, ?_⟩
  have hshorter : after.length ≤ rest.length := by rcases hnext with ⟨x, more, -, -, -, rfl⟩ | rfl <;> simp
  rw [hrest₃, hrest, length_append, length_append]
  omega

variable {e : Place}

lemma phrase_of_match (h : e ∈ ends phraseHead { cursor := c }) :
    ∃ word ws, IsPhrase word ∧ Spaces ws ∧ (c.rest = word ++ (ws ++ e.cursor.rest) ∨
      c.rest = word ++ (ws ++ (':' :: e.cursor.rest))) := by
  have hspells := spells_phraseRegex.seq (spells_spaces.seq (((Spells.text ":").alt .empty).seq .empty))
  obtain ⟨-, used, hspans, word, _, rfl, hword, ws, _, rfl, hws, _, _, rfl, rfl | rfl, rfl⟩ := (hspells _ e).1 h
  · exact ⟨word, ws, hword, hws, .inr (by simpa using hspans.rest)⟩
  · exact ⟨word, ws, hword, hws, .inl (by simpa using hspans.rest)⟩

/-! ## Sections -/

variable {text pre : List Char}

lemma heading_of_match (hpre : Spans ⟨none, text⟩ pre c) (h : e ∈ ends depSectionHeading { cursor := c }) :
    ∃ heading, Spans c heading e.cursor ∧ DependencyHeading pre heading e.cursor.rest := by
  obtain ⟨m₀, h₀, h⟩ := mem_ends_sequence_cons.1 h
  obtain ⟨m₁, h₁, h⟩ := mem_ends_sequence_cons.1 h
  obtain ⟨m₂, h₂, h⟩ := mem_ends_sequence_cons.1 h
  obtain ⟨m₃, h₃, h⟩ := mem_ends_sequence_cons.1 h
  obtain ⟨m₄, h₄, h⟩ := mem_ends_sequence_cons.1 h
  obtain ⟨m₅, h₅, h⟩ := mem_ends_sequence_cons.1 h
  obtain ⟨m₆, h₆, h⟩ := mem_ends_sequence_cons.1 h
  obtain ⟨m₇, h₇, h⟩ := mem_ends_sequence_cons.1 h
  obtain rfl := mem_ends_sequence_nil.1 h
  obtain ⟨rfl, hstart⟩ := mem_ends_lineStart.1 h₀
  obtain ⟨-, hashes, hspans₁, hhashes, hleast, hmost⟩ := mem_ends_many.1 h₁
  obtain ⟨-, ws, hspans₂, hws, hwsne⟩ := (spells_someSpaces _ _).1 h₂
  obtain ⟨-, stem, hspans₃, hstem⟩ := mem_ends_textAnyCase.1 h₃
  obtain ⟨rfl, hboundary⟩ := mem_ends_wordBoundary.1 h₅
  obtain ⟨-, line, hspans₆, hline, -⟩ := mem_ends_many.1 h₆
  obtain ⟨rfl, hstop⟩ := mem_ends_lineEnd.1 h₇
  -- the ending of the word, of which the last letter is a word character
  obtain ⟨ending, last, hspans₄, hending, hlast, hlower⟩ : ∃ ending last, Spans m₃.cursor ending m₅.cursor ∧
      (AnyCase "dependency" (stem ++ ending) ∨ AnyCase "dependencies" (stem ++ ending)) ∧
      ending.getLast? = some last ∧ last.toLower.isAlpha = true := by
    rcases mem_ends_alt.1 h₄ with hy | hies
    · obtain ⟨-, ending, hspans, hending⟩ := mem_ends_textAnyCase.1 hy
      refine ⟨ending, ?_⟩
      obtain ⟨y, rfl⟩ : ∃ y, ending = [y] := length_eq_one_iff.1 (by simpa using congrArg List.length hending)
      refine ⟨y, hspans, .inl (AnyCase.append (s := "dependenc") (t := "y") hstem hending), rfl, ?_⟩
      have hy : y.toLower = 'y' := by simpa using hending
      rw [hy]
      decide
    · obtain ⟨-, ending, hspans, hending⟩ := mem_ends_textAnyCase.1 hies
      have hlength : ending.length = 3 := by simpa using congrArg List.length hending
      obtain ⟨i, e, s, rfl⟩ := length_eq_three.1 hlength
      refine ⟨[i, e, s], s, hspans, .inr (AnyCase.append (s := "dependenc") (t := "ies") hstem hending), rfl, ?_⟩
      have hs : s.toLower = 's' := by
        have hall : [i.toLower, e.toLower, s.toLower] = ['i', 'e', 's'] := by simpa using hending
        exact (List.cons.inj (List.cons.inj (List.cons.inj hall).2).2).1
      rw [hs]
      decide
  have hword : m₅.cursor.before.any isWordChar = true := by
    rw [hspans₄.before, hlast, Option.some_or, Option.any_some]
    exact isWordChar_of_toLower hlower
  have hnext : m₅.cursor.rest.head?.any isWordChar = false := by
    rw [hword] at hboundary
    simpa using hboundary
  refine ⟨hashes ++ (ws ++ ((stem ++ ending) ++ line)), ?_, ?_, ⟨hashes, ws, stem ++ ending, line, rfl, ?_, ⟨hwsne, hws⟩,
    hending, ?_, ?_⟩, hstop⟩
  · have hspans := hspans₁.trans (hspans₂.trans ((hspans₃.trans hspans₄).trans hspans₆))
    exact hspans
  · rw [← hstart, hpre.before]
    simp
  · exact ⟨ne_nil_of_length_pos hleast, hmost 6 rfl, fun x hx => by simpa using hhashes x hx⟩
  · rw [← hspans₆.rest]
    exact hnext
  · intro x hx
    simpa using hline x hx

lemma beginsHeading_iff : ends nextHeading { cursor := c } ≠ [] ↔ BeginsHeading c.rest := by
  have hspells : Spells nextHeading _ := (Spells.text "\n").seq (Spells.many.seq (spells_someSpaces.seq (Spells.oneOf.seq .empty)))
  refine hspells.ends_ne_nil.trans ⟨?_, ?_⟩
  · rintro ⟨used, rest, hrest, _, _, rfl, rfl, hashes, _, rfl, ⟨hhashes, hleast, hmost⟩, ws, _, rfl, ⟨hws, hwsne⟩, _, _,
      rfl, ⟨x, rfl, hx⟩, rfl⟩
    exact ⟨hashes, ws, x, rest, hrest.trans (by simp), ⟨ne_nil_of_length_pos hleast, hmost 6 rfl,
      fun x hx => by simpa using hhashes x hx⟩, ⟨hwsne, hws⟩, by simpa using hx⟩
  · rintro ⟨hashes, ws, x, rest, hrest, ⟨hne, hmost, hhashes⟩, ⟨hwsne, hws⟩, hx⟩
    refine ⟨['\n'] ++ (hashes ++ (ws ++ [x])), rest, by simpa using hrest, ['\n'], _, rfl, rfl, hashes, _, rfl,
      ⟨fun x hx => by simpa using hhashes x hx, length_pos_iff.2 hne, fun m hm => ?_⟩, ws, _, rfl, ⟨hws, hwsne⟩,
      [x], [], rfl, ⟨x, rfl, by simpa using hx⟩, rfl⟩
    obtain rfl : 6 = m := Option.some.inj hm
    exact hmost

lemma sectionBody (rest : List Char) : ∃ body post, rest = body ++ post ∧ (match exec nextHeading rest with
      | none => rest
      | some heading => between ⟨none, rest⟩ heading.start) = body ∧
    (∀ u v, rest = u ++ v → u.length < body.length → ¬ BeginsHeading v) ∧ (post = [] ∨ BeginsHeading post) := by
  have hplace : ∀ u v : List Char, rest = u ++ v → ∃ c, Spans ⟨none, rest⟩ u c ∧ c.rest = v := fun u v h =>
    ⟨_, exists_spans h, rfl⟩
  cases hexec : exec nextHeading rest with
  | none =>
    refine ⟨rest, [], by simp, rfl, fun u v hsplit _ hheading => ?_, .inl rfl⟩
    obtain ⟨c, hspans, rfl⟩ := hplace u v hsplit
    exact beginsHeading_iff.2 hheading (execFrom_eq_none_iff.1 hexec u c hspans)
  | some heading =>
    obtain ⟨pre, hpre, hstop, hfirst⟩ := execFrom_eq_some hexec
    refine ⟨pre, heading.start.rest, hpre.rest, between_of_spans hpre, fun u v hsplit hlt hheading => ?_, .inr ?_⟩
    · obtain ⟨c, hspans, rfl⟩ := hplace u v hsplit
      exact beginsHeading_iff.2 hheading (hfirst u c hspans hlt)
    · refine beginsHeading_iff.1 fun hnil => ?_
      rw [hnil] at hstop
      cases hstop

variable {id : String}

lemma mem_sectionReferences (h : id ∈ sectionReferences rest) :
    ∃ body post, rest = body ++ post ∧ (∀ u v, rest = u ++ v → u.length < body.length → ¬ BeginsHeading v) ∧
      (post = [] ∨ BeginsHeading post) ∧
      ∃ u v, body = u ++ ('#' :: (id.toList ++ v)) ∧ ∀ d rest, v = d :: rest → d.isDigit = false := by
  obtain ⟨body, post, hsplit, hbody, hfirst, hpost⟩ := sectionBody rest
  refine ⟨body, post, hsplit, hfirst, hpost, ?_⟩
  have hids : sectionReferences rest = (matchAll issueRef body).flatMap fun m => (m.group 1).toList := by
    rw [← hbody]
    rfl
  rw [hids, mem_flatMap] at h
  obtain ⟨m, hm, hid⟩ := h
  obtain ⟨pre, hpre, hstop⟩ := mem_matchAll hm
  obtain ⟨ds, hspans, hgroups, -, -, hend⟩ := ends_issueRef hstop
  have hgroup : m.group 1 = some (String.ofList ds) := by
    rw [Found.group, hgroups]
    rfl
  rw [hgroup, Option.toList_some, mem_singleton] at hid
  subst hid
  refine ⟨pre, m.stop.cursor.rest, ?_, hend⟩
  have hbodyRest : body = pre ++ m.start.rest := hpre.rest
  rw [hbodyRest, hspans.rest, String.toList_ofList]
  rfl

variable {m : Found}

lemma sectionReference_of_mem (hm : m ∈ matchAll depSectionHeading text)
    (hid : id ∈ sectionReferences m.after) : SectionReference text id := by
  obtain ⟨pre, hpre, hstop⟩ := mem_matchAll hm
  obtain ⟨heading, hspans, hheading⟩ := heading_of_match hpre (mem_of_head? hstop)
  obtain ⟨body, post, hsplit, hfirst, hpost, href⟩ := mem_sectionReferences hid
  have hafter : m.stop.cursor.rest = body ++ post := hsplit
  refine ⟨pre, heading, body, post, ?_, hafter ▸ hheading, fun u v h => hfirst u v (hsplit.trans h), hpost, href⟩
  have htext : text = pre ++ m.start.rest := hpre.rest
  rw [htext, hspans.rest, hafter]

lemma phraseList_of_mem (hm : m ∈ matchAll phraseHead text)
    (hid : id ∈ consumeReferenceList m.after) : PhraseList text id := by
  obtain ⟨pre, hpre, hstop⟩ := mem_matchAll hm
  obtain ⟨word, ws, hword, hws, hrest⟩ := phrase_of_match (mem_of_head? hstop)
  obtain ⟨ws', list, tail, ids, hafter, hws', hlist, htail, hmem⟩ := consumeReferenceList_spec hid
  have htext : text = pre ++ m.start.rest := hpre.rest
  have hstopRest : m.stop.cursor.rest = ws' ++ (list ++ tail) := hafter
  rcases hrest with hrest | hrest
  · refine ⟨pre, word, ws ++ ws', list, tail, ids, ?_, hword, .space (spaces_append.2 ⟨hws, hws'⟩), hlist, htail, hmem⟩
    rw [htext, hrest, hstopRest]
    simp
  · refine ⟨pre, word, ws ++ (':' :: ws'), list, tail, ids, ?_, hword, .colon hws hws', hlist, htail, hmem⟩
    rw [htext, hrest, hstopRest]
    simp

/-! ## What is returned -/

variable {ids : List String}

lemma foldl_addDeclared {selfId : String} {out : List String}
    (hcanonical : ∀ id ∈ ids, isCanonicalIssueId id = true) :
    ids.foldl (addDeclared selfId) out =
      out ++ ((ids.filter (· ≠ selfId)).filter fun id => !out.contains id).eraseDups := by
  induction ids generalizing out with
  | nil => simp
  | cons id ids ih =>
    have hrest : ∀ id' ∈ ids, isCanonicalIssueId id' = true := fun id' h => hcanonical id' (mem_cons_of_mem _ h)
    rw [foldl_cons, ih hrest]
    unfold addDeclared
    rw [if_neg (by simp [hcanonical id mem_cons_self])]
    by_cases hself : id = selfId
    · simp [hself]
    · by_cases hseen : id ∈ out
      · simp [hself, hseen]
      · rw [if_neg hself, if_neg hseen, filter_cons_of_pos (by simpa using hself),
          filter_cons_of_pos (by simpa using hseen), eraseDups_cons, append_assoc, singleton_append]
        congr 3
        rw [filter_filter, filter_filter, filter_filter]
        refine filter_congr fun id' _ => ?_
        rw [Bool.eq_iff_iff]
        simp [and_comm]

lemma foldl_addDeclared_spec {selfId : String} (ids : List String) {out : List String} (hout : out.Nodup) :
    (ids.foldl (addDeclared selfId) out).Nodup ∧ ∀ id ∈ ids.foldl (addDeclared selfId) out, id ∈ out ∨
      (id ∈ ids ∧ isCanonicalIssueId id = true ∧ id ≠ selfId) := by
  induction ids generalizing out with
  | nil => exact ⟨hout, fun id hid => .inl hid⟩
  | cons raw ids ih =>
    rw [foldl_cons]
    have hold : (ids.foldl (addDeclared selfId) out).Nodup ∧ ∀ id ∈ ids.foldl (addDeclared selfId) out, id ∈ out ∨
        (id ∈ raw :: ids ∧ isCanonicalIssueId id = true ∧ id ≠ selfId) :=
      ⟨(ih hout).1, fun id hid => ((ih hout).2 id hid).imp_right fun h => ⟨mem_cons_of_mem _ h.1, h.2⟩⟩
    unfold addDeclared
    by_cases hcanonical : isCanonicalIssueId raw = true
    · rw [if_neg (by simp [hcanonical])]
      by_cases hself : raw = selfId
      · rw [if_pos hself]
        exact hold
      · by_cases hseen : raw ∈ out
        · rw [if_neg hself, if_pos hseen]
          exact hold
        · rw [if_neg hself, if_neg hseen]
          have hnodup : (out ++ [raw]).Nodup := by
            rw [nodup_append]
            refine ⟨hout, by simp, fun a ha b hb heq => hseen ?_⟩
            rw [← mem_singleton.1 hb, ← heq]
            exact ha
          refine ⟨(ih hnodup).1, fun id hid => ?_⟩
          rcases (ih hnodup).2 id hid with hmem | ⟨hmem, hid⟩
          · rcases mem_append.1 hmem with hmem | hmem
            · exact .inl hmem
            · obtain rfl := mem_singleton.1 hmem
              exact .inr ⟨mem_cons_self, hcanonical, hself⟩
          · exact .inr ⟨mem_cons_of_mem _ hmem, hid⟩
    · rw [if_pos (by simpa using hcanonical)]
      exact hold

/-- A rendered phrase with its list, in a text without another phrase and without a dependency section. -/
structure RenderedPhrase (pre word sep refs tail : List Char) (ids : List String) : Prop where
  phrase : IsPhrase word
  gap : PhraseGap sep
  list : ReferenceList refs ids
  canonical : ∀ id ∈ ids, isCanonicalIssueId id = true
  ended : ¬ ContinuesList tail
  alone : ∀ pre' word' post', pre ++ (word ++ (sep ++ (refs ++ tail))) = pre' ++ (word' ++ post') → IsPhrase word' →
    pre'.length = pre.length
  noSection : ∀ pre' heading post', pre ++ (word ++ (sep ++ (refs ++ tail))) = pre' ++ (heading ++ post') →
    ¬ DependencyHeading pre' heading post'

lemma parse_rendered {sep refs tail : List Char} (h : RenderedPhrase pre word sep refs tail ids) (selfId : String) :
    parseDeclaredDependencyIds (String.ofList (pre ++ (word ++ (sep ++ (refs ++ tail))))) selfId =
      (ids.filter (· ≠ selfId)).eraseDups := by
  generalize htext : pre ++ (word ++ (sep ++ (refs ++ tail))) = chars
  have halone := h.alone
  have hnoSection := h.noSection
  rw [htext] at halone hnoSection
  obtain ⟨c, hpre, hrest⟩ : ∃ c, Spans ⟨none, chars⟩ pre c ∧ c.rest = word ++ (sep ++ (refs ++ tail)) :=
    ⟨_, exists_spans htext.symm, rfl⟩
  -- the match of the phrase, and the whitespace that is left before the list
  obtain ⟨stop, ws, hstop, hafter, hws, hshorter⟩ : ∃ stop ws, (ends phraseHead { cursor := c }).head? = some stop ∧
      stop.cursor.rest = ws ++ (refs ++ tail) ∧ Spaces ws ∧ stop.cursor.rest.length < c.rest.length := by
    obtain ⟨ds, more, hlist, -, -⟩ := h.list.starts
    cases h.gap with
    | space hws =>
      obtain ⟨stop, hstop, hafter, hshorter⟩ := @phraseHead_at _ _ _ _ (refs ++ tail) h.phrase hws hrest
        (.inl ⟨'#', ds ++ (more ++ tail), by rw [hlist]; simp, by decide, by decide, rfl⟩)
      exact ⟨stop, [], hstop, hafter, fun c hc => absurd hc not_mem_nil, hshorter⟩
    | @colon ws ws' hws hws' =>
      obtain ⟨stop, hstop, hafter, hshorter⟩ := @phraseHead_at _ _ _ (':' :: (ws' ++ (refs ++ tail))) _ h.phrase hws
        (by rw [hrest]; simp) (.inr rfl)
      exact ⟨stop, ws', hstop, hafter, hws', hshorter⟩
  have hphrases : matchAll phraseHead chars = [⟨c, stop⟩] := by
    refine matchAll_eq_singleton hpre hstop hshorter fun pre' c' hpre' hne => ?_
    obtain ⟨e, he⟩ := exists_mem_of_ne_nil _ hne
    obtain ⟨word', ws', hword', -, hrest'⟩ := phrase_of_match he
    have hchars : chars = pre' ++ c'.rest := hpre'.rest
    rcases hrest' with hrest' | hrest'
    · exact halone pre' word' _ (by rw [hchars, hrest']) hword'
    · exact halone pre' word' _ (by rw [hchars, hrest']) hword'
  have hsections : matchAll depSectionHeading chars = [] := by
    refine matchAll_eq_nil fun pre' c' hpre' => ?_
    rw [eq_nil_iff_forall_not_mem]
    intro e he
    obtain ⟨heading, hspans, hheading⟩ := heading_of_match hpre' he
    have hchars : chars = pre' ++ c'.rest := hpre'.rest
    exact hnoSection pre' heading _ (by rw [hchars, hspans.rest]) hheading
  have hids : consumeReferenceList (Found.after ⟨c, stop⟩) = ids := by
    rw [Found.after, hafter]
    exact consumeReferenceList_eq hws h.list h.ended
  rw [parseDeclaredDependencyIds, String.toList_ofList]
  simp only [hphrases, hsections, flatMap_cons, flatMap_nil, append_nil, hids]
  rw [foldl_addDeclared h.canonical, nil_append]
  congr 1
  exact filter_eq_self.2 fun id _ => rfl

/-- A rendered phrase is parsed to its ids, each once in the order of the list, without the issue itself; and every id
that is returned for any text is canonical, not the issue itself, returned once, and declared there. A call without
`selfId` is the one with the empty text, which is no canonical id. -/
theorem grammar_exact (selfId : String) :
    (∀ pre word sep refs tail ids, RenderedPhrase pre word sep refs tail ids →
      parseDeclaredDependencyIds (String.ofList (pre ++ (word ++ (sep ++ (refs ++ tail))))) selfId =
        (ids.filter (· ≠ selfId)).eraseDups) ∧
    ∀ text : String, (parseDeclaredDependencyIds text selfId).Nodup ∧
      ∀ id ∈ parseDeclaredDependencyIds text selfId, isCanonicalIssueId id = true ∧ id ≠ selfId ∧
        (PhraseList text.toList id ∨ SectionReference text.toList id) := by
  refine ⟨fun pre word sep refs tail ids h => parse_rendered h selfId, fun text => ?_⟩
  obtain ⟨hnodup, hmem⟩ := @foldl_addDeclared_spec selfId
    ((matchAll phraseHead text.toList).flatMap (fun m => consumeReferenceList m.after) ++
      (matchAll depSectionHeading text.toList).flatMap fun m => sectionReferences m.after) [] nodup_nil
  refine ⟨hnodup, fun id hid => ?_⟩
  rcases hmem id hid with hnil | ⟨hlisted, hcanonical, hself⟩
  · cases hnil
  · refine ⟨hcanonical, hself, ?_⟩
    rcases mem_append.1 hlisted with hphrase | hsection
    · obtain ⟨m, hm, hid⟩ := mem_flatMap.1 hphrase
      exact .inl (phraseList_of_mem hm hid)
    · obtain ⟨m, hm, hid⟩ := mem_flatMap.1 hsection
      exact .inr (sectionReference_of_mem hm hid)

lemma renderedPhrase_dependsOn :
    RenderedPhrase "".toList "Depends on".toList ": ".toList "#12, and #13".toList ".".toList ["12", "13"] where
  phrase := .inl (by decide)
  gap := by
    have hspace : Spaces [' '] := by decide
    exact @PhraseGap.colon [] _ (fun _ h => absurd h not_mem_nil) hspace
  list := by
    have hsep : ReferenceSeparator [',', ' ', 'a', 'n', 'd', ' '] :=
      @ReferenceSeparator.commaAnd [] _ _ _ (fun _ h => absurd h not_mem_nil) (by decide : Spaces [' '])
        (by decide : AnyCase "and" ['a', 'n', 'd']) (by decide : Spaces [' ']) (by decide)
    have hlast : ReferenceList ['#', '1', '3'] ["13"] := .last (by decide) (all_eq_true.1 (by decide))
    exact .cons (by decide : ['1', '2'] ≠ []) (all_eq_true.1 (by decide)) hsep hlast
  canonical := by decide
  ended := by
    rintro (⟨d, rest, h, hd⟩ | ⟨sep, d, rest, hsep, -, h⟩)
    · obtain ⟨rfl, -⟩ := cons_eq_cons.1 h
      exact absurd hd (by decide)
    · have hmem : '#' ∈ ".".toList := by rw [h]; simp
      exact absurd hmem (by decide)
  alone := by
    intro pre' word' post' h hword
    have hall : ∀ n ≤ 25, n ≠ 0 → ∀ w ∈ phraseWords,
        ¬ w <+: ("Depends on: #12, and #13.".toList.drop n).map Char.toLower := by decide +kernel
    have htext : "Depends on: #12, and #13.".toList = pre' ++ (word' ++ post') := h
    by_contra hne
    refine hall pre'.length ?_ hne _ (isPhrase_iff.1 hword) ?_
    · have hlength := congrArg List.length htext
      rw [length_append] at hlength
      exact Nat.le_trans (Nat.le_add_right _ _) (Nat.le_of_eq hlength.symm)
    · rw [htext, drop_left, map_append]
      exact prefix_append _ _
  noSection := by
    intro pre' heading post' h hheading
    have hall : ∀ n ≤ 25, "Depends on: #12, and #13.".toList[n]? = some '#' →
        ("Depends on: #12, and #13.".toList.take n).getLast?.all isLineTerminator = false := by decide +kernel
    have htext : "Depends on: #12, and #13.".toList = pre' ++ (heading ++ post') := h
    obtain ⟨hashes, ws, word, line, rfl, ⟨hne, -, hhashes⟩, -⟩ := hheading.shape
    obtain ⟨c, hashes, rfl⟩ := exists_cons_of_ne_nil hne
    have hstart := hall pre'.length ?_ ?_
    · rw [htext, take_left, hheading.start] at hstart
      cases hstart
    · have hlength := congrArg List.length htext
      rw [length_append] at hlength
      exact Nat.le_trans (Nat.le_add_right _ _) (Nat.le_of_eq hlength.symm)
    · rw [htext, hhashes c mem_cons_self]
      simp

theorem grammar_exact_dependsOn : parseDeclaredDependencyIds "Depends on: #12, and #13." "13" = ["12"] := by
  have hparsed := (grammar_exact "13").1 _ _ _ _ _ _ renderedPhrase_dependsOn
  have htext : String.ofList ("".toList ++ ("Depends on".toList ++ (": ".toList ++
      ("#12, and #13".toList ++ ".".toList)))) = "Depends on: #12, and #13." := by decide
  rw [htext] at hparsed
  rw [hparsed]
  decide

end AgentPipeline.Loop
