import AgentPipeline.Foundation.JsLanguage
import AgentPipeline.Loop.DependencyGrammar

/-!
# DependencyLists: the language of dependency lists

What the patterns of `declared-dependency-grammar.ts` accept, as relations on texts, and that the scanner reads
exactly this language.

* `ReferenceSeparator`, `ReferenceList`: references `#N` and what may stand between two of them;
* `PhraseList`, `SectionReference`: where a text declares an id;
* `consumeReferenceList_eq`, `consumeReferenceList_spec`: the scanner of a list, both directions;
* `grammar_exact`: a rendered phrase is parsed to its ids, and every id that is returned was declared.
-/

namespace AgentPipeline.Loop

open List Option JsRegExp JsRegExp.Regex

/-! ## The language -/

def Spaces (cs : List Char) : Prop := ∀ c ∈ cs, JsText.isSpace c = true

/-- A word in any letter case. -/
def AnyCase (text : String) (word : List Char) : Prop := word.map Char.toLower = text.toList.map Char.toLower

instance Spaces.decidable (cs : List Char) : Decidable (Spaces cs) :=
  decidable_of_iff (cs.all JsText.isSpace = true) all_eq_true

instance AnyCase.decidable (text : String) (word : List Char) : Decidable (AnyCase text word) :=
  inferInstanceAs (Decidable (_ = _))

/-- What stands between two references: whitespace, a comma, `and`, or a comma and `and`. -/
inductive ReferenceSeparator : List Char → Prop
  | space {ws : List Char} (hws : Spaces ws) (hne : ws ≠ []) : ReferenceSeparator ws
  | comma {ws ws' : List Char} (hws : Spaces ws) (hws' : Spaces ws') : ReferenceSeparator (ws ++ (',' :: ws'))
  | and {ws word ws' : List Char} (hws : Spaces ws) (hne : ws ≠ []) (hword : AnyCase "and" word) (hws' : Spaces ws')
      (hne' : ws' ≠ []) : ReferenceSeparator (ws ++ (word ++ ws'))
  | commaAnd {ws ws' word ws'' : List Char} (hws : Spaces ws) (hws' : Spaces ws') (hword : AnyCase "and" word)
      (hws'' : Spaces ws'') (hne : ws'' ≠ []) : ReferenceSeparator (ws ++ (',' :: (ws' ++ (word ++ ws''))))

/-- A reference list and its numbers. -/
inductive ReferenceList : List Char → List String → Prop
  | last {ds : List Char} (hne : ds ≠ []) (hdigits : ∀ c ∈ ds, c.isDigit = true) :
      ReferenceList ('#' :: ds) [String.ofList ds]
  | cons {ds sep text : List Char} {ids : List String} (hne : ds ≠ []) (hdigits : ∀ c ∈ ds, c.isDigit = true)
      (hsep : ReferenceSeparator sep) (hrest : ReferenceList text ids) :
      ReferenceList ('#' :: (ds ++ (sep ++ text))) (String.ofList ds :: ids)

/-- A text that goes on with a list: a digit of the last number, or a separator with a further reference. -/
def ContinuesList (tail : List Char) : Prop :=
  (∃ d rest, tail = d :: rest ∧ d.isDigit = true) ∨
    ∃ sep d rest, ReferenceSeparator sep ∧ d.isDigit = true ∧ tail = sep ++ ('#' :: d :: rest)

def IsPhrase (word : List Char) : Prop :=
  AnyCase "depends on" word ∨ AnyCase "requires" word ∨ AnyCase "blocked by" word ∨ AnyCase "needs" word

/-- What may stand between a phrase and its list: whitespace with at most one colon. -/
inductive PhraseGap : List Char → Prop
  | space {ws : List Char} (hws : Spaces ws) : PhraseGap ws
  | colon {ws ws' : List Char} (hws : Spaces ws) (hws' : Spaces ws') : PhraseGap (ws ++ (':' :: ws'))

/-- The id is in the reference list of a phrase, and the list is read to its end. -/
def PhraseList (text : List Char) (id : String) : Prop :=
  ∃ pre word gap list tail ids, text = pre ++ (word ++ (gap ++ (list ++ tail))) ∧ IsPhrase word ∧ PhraseGap gap ∧
    ReferenceList list ids ∧ ¬ ContinuesList tail ∧ id ∈ ids

/-- A heading of a dependency section. -/
structure DependencyHeading (pre heading post : List Char) : Prop where
  start : pre.getLast?.all isLineTerminator = true
  shape : ∃ hashes ws word line, heading = hashes ++ (ws ++ (word ++ line)) ∧
    (hashes ≠ [] ∧ hashes.length ≤ 6 ∧ ∀ c ∈ hashes, c = '#') ∧ (ws ≠ [] ∧ Spaces ws) ∧
    (AnyCase "dependency" word ∨ AnyCase "dependencies" word) ∧
    (line ++ post).head?.any isWordChar = false ∧ ∀ c ∈ line, c ≠ '\n'
  stop : post.head?.all isLineTerminator = true

/-- The next heading of any kind begins here, with its line break. -/
def BeginsHeading (cs : List Char) : Prop :=
  ∃ hashes ws c rest, cs = '\n' :: (hashes ++ (ws ++ (c :: rest))) ∧
    (hashes ≠ [] ∧ hashes.length ≤ 6 ∧ ∀ c ∈ hashes, c = '#') ∧ (ws ≠ [] ∧ Spaces ws) ∧ JsText.isSpace c = false

/-- The id is referred to in a dependency section, which ends at the next heading. -/
def SectionReference (text : List Char) (id : String) : Prop :=
  ∃ pre heading body post, text = pre ++ (heading ++ (body ++ post)) ∧ DependencyHeading pre heading (body ++ post) ∧
    (∀ u v, body ++ post = u ++ v → u.length < body.length → ¬ BeginsHeading v) ∧ (post = [] ∨ BeginsHeading post) ∧
    ∃ u v, body = u ++ ('#' :: (id.toList ++ v)) ∧ ∀ d rest, v = d :: rest → d.isDigit = false

/-! ## Words and separators -/

variable {u v : List Char}

lemma spaces_append : Spaces (u ++ v) ↔ Spaces u ∧ Spaces v := by
  simp only [Spaces, mem_append, or_imp, forall_and]

lemma AnyCase.append {s t : String} (hu : AnyCase s u) (hv : AnyCase t v) : AnyCase (s ++ t) (u ++ v) := by
  unfold AnyCase at *
  rw [map_append, hu, hv, String.toList_append, map_append]

lemma toLower_hash : ('#').toLower = '#' := by decide

lemma not_hash_of_isSpace {c : Char} (h : JsText.isSpace c = true) : c ≠ '#' := by
  rintro rfl
  exact absurd h (by decide)

lemma not_hash_of_anyCase {text : String} {word : List Char} (h : AnyCase text word)
    (htext : '#' ∉ text.toList.map Char.toLower) : '#' ∉ word := by
  intro hmem
  have hlower := mem_map_of_mem (f := Char.toLower) hmem
  rw [toLower_hash, show word.map Char.toLower = _ from h] at hlower
  exact htext hlower

variable {sep : List Char}

lemma ReferenceSeparator.no_hash (h : ReferenceSeparator sep) : '#' ∉ sep := by
  have hspaces : ∀ {ws : List Char}, Spaces ws → '#' ∉ ws := fun hws hmem => not_hash_of_isSpace (hws _ hmem) rfl
  have hand : ∀ {word : List Char}, AnyCase "and" word → '#' ∉ word := fun hword =>
    not_hash_of_anyCase hword (by decide)
  cases h with
  | space hws hne => exact hspaces hws
  | comma hws hws' => simp [hspaces hws, hspaces hws']
  | and hws hne hword hws' hne' => simp [hspaces hws, hspaces hws', hand hword]
  | commaAnd hws hws' hword hws'' hne => simp [hspaces hws, hspaces hws', hspaces hws'', hand hword]

lemma isWordChar_of_toLower {c : Char} (h : c.toLower.isAlpha = true) : isWordChar c = true := by
  have halpha : c.isAlpha = true := by
    unfold Char.toLower at h
    split at h
    · next hupper =>
      have hisUpper : c.isUpper = true := by
        delta Char.isUpper
        simpa using hupper
      exact Bool.or_eq_true_iff.2 (.inl hisUpper)
    · exact h
  exact Bool.or_eq_true_iff.2 (.inl (Bool.or_eq_true_iff.2 (.inl halpha)))

lemma ReferenceSeparator.head_not_digit (h : ReferenceSeparator sep) :
    ∃ c rest, sep = c :: rest ∧ c.isDigit = false := by
  have hspace : ∀ {c : Char}, JsText.isSpace c = true → c.isDigit = false := by
    intro c hc
    cases hdigit : c.isDigit with
    | false => rfl
    | true => rw [JsText.not_isSpace_of_isDigit hdigit] at hc; cases hc
  cases h with
  | @space ws hws hne =>
    obtain ⟨c, rest, rfl⟩ := exists_cons_of_ne_nil hne
    exact ⟨c, rest, rfl, hspace (hws c (by simp))⟩
  | @comma ws ws' hws hws' =>
    cases ws with
    | nil => exact ⟨',', ws', rfl, by decide⟩
    | cons c ws => exact ⟨c, _, rfl, hspace (hws c (by simp))⟩
  | @and ws word ws' hws hne hword hws' hne' =>
    obtain ⟨c, rest, rfl⟩ := exists_cons_of_ne_nil hne
    exact ⟨c, _, rfl, hspace (hws c (by simp))⟩
  | @commaAnd ws ws' word ws'' hws hws' hword hws'' hne =>
    cases ws with
    | nil => exact ⟨',', _, rfl, by decide⟩
    | cons c ws => exact ⟨c, _, rfl, hspace (hws c (by simp))⟩

/-! ## One reference -/

variable {c : Cursor}

lemma head?_ends_issueRef {c' : Cursor} {ds : List Char} (hspans : Spans c ('#' :: ds) c') (hne : ds ≠ [])
    (hdigits : ∀ d ∈ ds, d.isDigit = true) (hstop : ∀ d rest, c'.rest = d :: rest → d.isDigit = false) :
    (ends issueRef { cursor := c }).head? = some ⟨c', [(1, ds)]⟩ := by
  obtain ⟨m, hhash, hdigitSpan⟩ := Spans.split (u := ['#']) hspans
  have hfirst : (ends (text "#") { cursor := c }).head? = some { cursor := m } := by
    refine head?_eq_of_unique (mem_ends_text.2 ⟨rfl, hhash⟩) fun e he => ?_
    obtain ⟨hgroups, he⟩ := mem_ends_text.1 he
    obtain ⟨cursor, groups⟩ := e
    simp only at hgroups he
    rw [he.unique hhash, hgroups]
  have hrun : (ends (plus Char.isDigit) { cursor := m }).head? = some { cursor := c' } := by
    refine head?_ends_many hdigitSpan hdigits (length_pos_iff.2 hne) fun d hd => ?_
    cases hrest : c'.rest with
    | nil => rw [hrest] at hd; cases hd
    | cons d' rest =>
      obtain rfl : d' = d := by simpa [hrest] using hd
      exact hstop d' rest hrest
  have hgroup : (ends (group 1 (plus Char.isDigit)) { cursor := m }).head? = some ⟨c', [(1, ds)]⟩ := by
    have hbetween : between m c' = ds := between_of_spans hdigitSpan
    simp only [ends] at hrun ⊢
    rw [head?_map, hrun, map_some, hbetween]
  refine head?_ends_seq_of hfirst (head?_ends_seq_of hgroup ?_)
  simp [ends, matchAt]

variable {cs rest : List Char}

lemma head?_not_digit_of_dropWhile {d : Char} (h : cs.dropWhile Char.isDigit = d :: rest) : d.isDigit = false := by
  have hnot := head?_dropWhile_not Char.isDigit cs
  rw [h] at hnot
  simpa using hnot

variable {e : Place}

lemma ends_issueRef (h : (ends issueRef { cursor := c }).head? = some e) :
    ∃ ds, Spans c ('#' :: ds) e.cursor ∧ e.groups = [(1, ds)] ∧ ds ≠ [] ∧ (∀ d ∈ ds, d.isDigit = true) ∧
      ∀ d rest, e.cursor.rest = d :: rest → d.isDigit = false := by
  obtain ⟨m, hm, hgroup⟩ := mem_ends_sequence_cons.1 (mem_of_head? h)
  obtain ⟨m', hm', -⟩ := mem_ends_sequence_cons.1 hgroup
  obtain ⟨m'', hm'', -⟩ := mem_ends_group.1 hm'
  have hhash := (mem_ends_text.1 hm).2
  obtain ⟨-, used, hused, hall, hleast, -⟩ := mem_ends_many.1 hm''
  have hrest : c.rest = '#' :: m.cursor.rest := hhash.rest
  -- the whole run of digits, of which the match is known
  have hsplit : m.cursor.rest = m.cursor.rest.takeWhile Char.isDigit ++ m.cursor.rest.dropWhile Char.isDigit :=
    takeWhile_append_dropWhile.symm
  have hne : m.cursor.rest.takeWhile Char.isDigit ≠ [] := by
    obtain ⟨d, used', rfl⟩ := exists_cons_of_ne_nil (ne_nil_of_length_pos hleast)
    rw [hused.rest, cons_append, takeWhile_cons_of_pos (hall d (by simp))]
    exact cons_ne_nil _ _
  have hspans : Spans c ('#' :: m.cursor.rest.takeWhile Char.isDigit) _ :=
    @exists_spans _ _ (m.cursor.rest.dropWhile Char.isDigit) (by rw [hrest, cons_append, ← hsplit])
  have hdigits : ∀ d ∈ m.cursor.rest.takeWhile Char.isDigit, d.isDigit = true := fun d hd =>
    (mem_takeWhile_imp hd)
  have hhead := head?_ends_issueRef hspans hne hdigits fun d rest => head?_not_digit_of_dropWhile
  rw [h] at hhead
  obtain rfl := some.inj hhead
  exact ⟨_, hspans, rfl, hne, hdigits, fun d rest => head?_not_digit_of_dropWhile⟩

lemma exec_leadingRef (cs : List Char) :
    exec leadingRef cs = (ends issueRef { cursor := ⟨none, cs⟩ }).head?.map fun stop => ⟨⟨none, cs⟩, stop⟩ := by
  have hseq : ∀ s, ends (sequence [issueRef]) s = ends issueRef s := by
    intro s
    simp [Regex.sequence, ends, matchAt]
  rw [← hseq]
  exact exec_anchored

lemma exec_leadingRef_of {ds rest : List Char} (hne : ds ≠ []) (hdigits : ∀ d ∈ ds, d.isDigit = true)
    (hstop : ∀ d rest', rest = d :: rest' → d.isDigit = false) :
    ∃ m, exec leadingRef ('#' :: (ds ++ rest)) = some m ∧ m.group 1 = some (String.ofList ds) ∧ m.after = rest := by
  have hspans : Spans ⟨none, '#' :: (ds ++ rest)⟩ ('#' :: ds) _ := @exists_spans _ _ rest rfl
  have hexec := exec_leadingRef ('#' :: (ds ++ rest))
  rw [head?_ends_issueRef hspans hne hdigits hstop, map_some] at hexec
  exact ⟨_, hexec, rfl, rfl⟩

variable {m : Found}

lemma exec_leadingRef_eq_some (h : exec leadingRef cs = some m) :
    ∃ ds, cs = '#' :: (ds ++ m.after) ∧ m.group 1 = some (String.ofList ds) ∧ ds ≠ [] ∧
      (∀ d ∈ ds, d.isDigit = true) ∧ ∀ d rest, m.after = d :: rest → d.isDigit = false := by
  rw [exec_leadingRef] at h
  obtain ⟨stop, hstop, rfl⟩ := map_eq_some_iff.1 h
  obtain ⟨ds, hspans, hgroups, hne, hdigits, hend⟩ := ends_issueRef hstop
  refine ⟨ds, hspans.rest, ?_, hne, hdigits, hend⟩
  simp [Found.group, hgroups]

/-! ## Separators -/

/-- The part of `referenceSeparator` after its anchor. -/
def separatorBody : Regex :=
  sequence [alt (sequence [star JsText.isSpace, text ",", star JsText.isSpace, textAnyCase "and", plus JsText.isSpace])
      (alt (sequence [star JsText.isSpace, text ",", star JsText.isSpace])
        (alt (sequence [plus JsText.isSpace, textAnyCase "and", plus JsText.isSpace]) (plus JsText.isSpace))),
    lookahead (sequence [text "#", oneOf Char.isDigit])]

lemma spells_spaces : Spells (star JsText.isSpace) Spaces := .star

lemma spells_someSpaces : Spells (plus JsText.isSpace) fun ws => Spaces ws ∧ ws ≠ [] :=
  Spells.many.congr fun ws => and_congr_right fun _ => by simp [Nat.one_le_iff_ne_zero]

lemma spells_separators : Spells
    (alt (sequence [star JsText.isSpace, text ",", star JsText.isSpace, textAnyCase "and", plus JsText.isSpace])
      (alt (sequence [star JsText.isSpace, text ",", star JsText.isSpace])
        (alt (sequence [plus JsText.isSpace, textAnyCase "and", plus JsText.isSpace]) (plus JsText.isSpace))))
    ReferenceSeparator := by
  have hcomma := Spells.text ","
  have hand := Spells.textAnyCase "and"
  have hcommaAnd := spells_spaces.seq (hcomma.seq (spells_spaces.seq (hand.seq (spells_someSpaces.seq .empty))))
  have hcommaOnly := spells_spaces.seq (hcomma.seq (spells_spaces.seq .empty))
  have handOnly := spells_someSpaces.seq (hand.seq (spells_someSpaces.seq .empty))
  refine (hcommaAnd.alt (hcommaOnly.alt (handOnly.alt spells_someSpaces))).congr fun sep => ⟨?_, ?_⟩
  · rintro (⟨ws, _, rfl, hws, _, _, rfl, rfl, ws', _, rfl, hws', word, _, rfl, hword, ws'', _, rfl, ⟨hws'', hne⟩, rfl⟩ |
      ⟨ws, _, rfl, hws, _, _, rfl, rfl, ws', _, rfl, hws', rfl⟩ |
      ⟨ws, _, rfl, ⟨hws, hne⟩, word, _, rfl, hword, ws', _, rfl, ⟨hws', hne'⟩, rfl⟩ | ⟨hws, hne⟩)
    · simpa using ReferenceSeparator.commaAnd hws hws' hword hws'' hne
    · simpa using ReferenceSeparator.comma hws hws'
    · simpa using ReferenceSeparator.and hws hne hword hws' hne'
    · exact .space hws hne
  · intro hsep
    cases hsep with
    | space hws hne => exact .inr (.inr (.inr ⟨hws, hne⟩))
    | comma hws hws' => exact .inr (.inl ⟨_, _, rfl, hws, [','], _, rfl, rfl, _, [], by simp, hws', rfl⟩)
    | and hws hne hword hws' hne' =>
      exact .inr (.inr (.inl ⟨_, _, rfl, ⟨hws, hne⟩, _, _, rfl, hword, _, [], by simp, ⟨hws', hne'⟩, rfl⟩))
    | commaAnd hws hws' hword hws'' hne =>
      exact .inl ⟨_, _, rfl, hws, [','], _, rfl, rfl, _, _, rfl, hws', _, _, rfl, hword, _, [], by simp, ⟨hws'', hne⟩, rfl⟩

lemma mem_ends_separatorBody {s : Place} : e ∈ ends separatorBody s ↔ e.groups = s.groups ∧
    ∃ sep d rest, ReferenceSeparator sep ∧ d.isDigit = true ∧ Spans s.cursor sep e.cursor ∧
      e.cursor.rest = '#' :: d :: rest := by
  have hahead : ∀ m : Place, (∃ f, f ∈ ends (sequence [text "#", oneOf Char.isDigit]) m) ↔
      ∃ d rest, d.isDigit = true ∧ m.cursor.rest = '#' :: d :: rest := by
    intro m
    have hspells := ((Spells.text "#").seq ((Spells.oneOf (p := Char.isDigit)).seq .empty)).ends_ne_nil (s := m)
    constructor
    · rintro ⟨f, hf⟩
      obtain ⟨used, rest, hrest, _, _, rfl, rfl, _, _, rfl, ⟨d, rfl, hd⟩, rfl⟩ := hspells.1 (ne_nil_of_mem hf)
      exact ⟨d, rest, hd, hrest⟩
    · rintro ⟨d, rest, hd, hrest⟩
      exact exists_mem_of_ne_nil _
        (hspells.2 ⟨['#', d], rest, hrest, ['#'], [d], rfl, rfl, [d], [], rfl, ⟨d, rfl, hd⟩, rfl⟩)
  constructor
  · intro h
    obtain ⟨m, hm, h⟩ := mem_ends_sequence_cons.1 h
    obtain ⟨m', hm', h⟩ := mem_ends_sequence_cons.1 h
    obtain rfl := mem_ends_sequence_nil.1 h
    obtain ⟨rfl, hnext⟩ := mem_ends_lookahead.1 hm'
    obtain ⟨hgroups, sep, hspans, hsep⟩ := (spells_separators _ _).1 hm
    obtain ⟨d, rest, hd, hrest⟩ := (hahead _).1 hnext
    exact ⟨hgroups, sep, d, rest, hsep, hd, hspans, hrest⟩
  · rintro ⟨hgroups, sep, d, rest, hsep, hd, hspans, hrest⟩
    exact mem_ends_sequence_cons.2 ⟨e, (spells_separators _ _).2 ⟨hgroups, sep, hspans, hsep⟩,
      mem_ends_sequence_cons.2 ⟨e, mem_ends_lookahead.2 ⟨rfl, (hahead e).2 ⟨d, rest, hd, hrest⟩⟩,
        mem_ends_sequence_nil.2 rfl⟩⟩

lemma exec_referenceSeparator (cs : List Char) : exec referenceSeparator cs =
    (ends separatorBody { cursor := ⟨none, cs⟩ }).head?.map fun stop => ⟨⟨none, cs⟩, stop⟩ := exec_anchored

lemma exec_separator_eq_some (h : exec referenceSeparator cs = some m) :
    ∃ sep d rest, ReferenceSeparator sep ∧ d.isDigit = true ∧ cs = sep ++ m.after ∧ m.after = '#' :: d :: rest := by
  rw [exec_referenceSeparator] at h
  obtain ⟨stop, hstop, rfl⟩ := map_eq_some_iff.1 h
  obtain ⟨-, sep, d, rest, hsep, hd, hspans, hrest⟩ := mem_ends_separatorBody.1 (mem_of_head? hstop)
  exact ⟨sep, d, rest, hsep, hd, hspans.rest, hrest⟩

lemma exec_separator_of {sep rest : List Char} {d : Char} (hsep : ReferenceSeparator sep) (hd : d.isDigit = true) :
    ∃ m, exec referenceSeparator (sep ++ ('#' :: d :: rest)) = some m ∧ m.after = '#' :: d :: rest := by
  obtain ⟨c, hspans, hrest⟩ : ∃ c, Spans ⟨none, sep ++ ('#' :: d :: rest)⟩ sep c ∧ c.rest = '#' :: d :: rest :=
    ⟨_, exists_spans rfl, rfl⟩
  have hmem : (⟨c, []⟩ : Place) ∈ ends separatorBody { cursor := ⟨none, sep ++ ('#' :: d :: rest)⟩ } :=
    mem_ends_separatorBody.2 ⟨rfl, sep, d, rest, hsep, hd, hspans, hrest⟩
  cases hexec : exec referenceSeparator (sep ++ ('#' :: d :: rest)) with
  | none =>
    rw [exec_referenceSeparator, map_eq_none_iff, head?_eq_none_iff] at hexec
    rw [hexec] at hmem
    cases hmem
  | some m =>
    obtain ⟨sep', d', rest', hsep', -, hsplit, hafter⟩ := exec_separator_eq_some hexec
    rw [hafter] at hsplit
    obtain ⟨-, hsame⟩ := Lists.append_cons_inj_left hsep.no_hash hsep'.no_hash hsplit
    exact ⟨m, rfl, by rw [hafter, hsame]⟩

/-! ## The list -/

variable {text : List Char} {ids : List String}

lemma ReferenceList.starts (h : ReferenceList text ids) :
    ∃ ds tail, text = '#' :: (ds ++ tail) ∧ ds ≠ [] ∧ ∀ c ∈ ds, c.isDigit = true := by
  cases h with
  | last hne hdigits => exact ⟨_, [], by simp, hne, hdigits⟩
  | cons hne hdigits hsep hrest => exact ⟨_, _, rfl, hne, hdigits⟩

/-- What comes after the first reference of a list. -/
def AfterReference (rest : List Char) (ids : List String) (tail : List Char) : Prop :=
  (ids = [] ∧ rest = tail) ∨ ∃ sep text, ReferenceSeparator sep ∧ ReferenceList text ids ∧ rest = sep ++ (text ++ tail)

variable {tail : List Char}

lemma AfterReference.head_not_digit (h : AfterReference rest ids tail)
    (htail : ¬ ContinuesList tail) : ∀ d rest', rest = d :: rest' → d.isDigit = false := by
  intro d rest' hrest
  rcases h with ⟨-, rfl⟩ | ⟨sep, text, hsep, -, rfl⟩
  · by_contra hd
    exact htail (.inl ⟨d, rest', hrest, by simpa using hd⟩)
  · obtain ⟨c, more, rfl, hc⟩ := hsep.head_not_digit
    obtain ⟨rfl, -⟩ := List.cons.inj hrest
    exact hc

lemma ReferenceList.uncons (h : ReferenceList text ids) (tail : List Char) :
    ∃ ds ids' after, ids = String.ofList ds :: ids' ∧ text ++ tail = '#' :: (ds ++ after) ∧ ds ≠ [] ∧
      (∀ c ∈ ds, c.isDigit = true) ∧ AfterReference after ids' tail := by
  cases h with
  | last hne hdigits => exact ⟨_, [], tail, rfl, rfl, hne, hdigits, .inl ⟨rfl, rfl⟩⟩
  | @cons ds sep text ids' hne hdigits hsep hrest =>
    exact ⟨ds, ids', sep ++ (text ++ tail), rfl, by simp, hne, hdigits, .inr ⟨sep, text, hsep, hrest, rfl⟩⟩

variable {fuel : Nat}

lemma continueReferenceList_eq
    (h : AfterReference rest ids tail) (htail : ¬ ContinuesList tail) (hfuel : ids.length < fuel) :
    continueReferenceList fuel rest = ids := by
  induction fuel generalizing rest ids with
  | zero => omega
  | succ fuel ih =>
    rcases h with ⟨rfl, rfl⟩ | ⟨sep, text, hsep, hlist, rfl⟩
    · -- no separator follows
      cases hexec : exec referenceSeparator rest with
      | none => rw [continueReferenceList, hexec]
      | some m =>
        obtain ⟨sep, d, after, hsep, hd, hsplit, hafter⟩ := exec_separator_eq_some hexec
        exact absurd (.inr ⟨sep, d, after, hsep, hd, by rw [hsplit, hafter]⟩) htail
    · obtain ⟨ds, ids', after, rfl, htext, hne, hdigits, hnext⟩ := hlist.uncons tail
      obtain ⟨d, ds', rfl⟩ := exists_cons_of_ne_nil hne
      obtain ⟨m, hexec, hafter⟩ := @exec_separator_of _ (ds' ++ after) _ hsep (hdigits d (by simp))
      obtain ⟨m', hexec', hgroup, hafter'⟩ := exec_leadingRef_of hne hdigits (hnext.head_not_digit htail)
      have hsep : exec referenceSeparator (sep ++ (text ++ tail)) = some m := by rw [htext, ← hexec]; rfl
      have href : exec leadingRef m.after = some m' := by rw [hafter, ← hexec']; rfl
      rw [continueReferenceList, hsep]
      simp only [href, hgroup, toList_some, singleton_append, hafter']
      rw [ih hnext (by simpa using hfuel)]

lemma ReferenceList.length_lt (h : ReferenceList text ids) : ids.length < text.length := by
  induction h with
  | last hne hdigits =>
    have hpos := length_pos_iff.2 hne
    simp only [length_cons, length_nil]
    omega
  | cons hne hdigits hsep hrest ih =>
    simp only [length_cons, length_append]
    omega

variable {ws : List Char}

lemma trimStart_of_spaces (hws : Spaces ws) : JsText.trimStart (ws ++ cs) = JsText.trimStart cs := by
  rw [JsText.trimStart, dropWhile_append_of_pos hws]
  rfl

lemma trimStart_hash (cs : List Char) : JsText.trimStart ('#' :: cs) = '#' :: cs := by
  rw [JsText.trimStart, dropWhile_cons_of_neg (by decide)]

lemma consumeReferenceList_eq (hws : Spaces ws)
    (hlist : ReferenceList text ids) (htail : ¬ ContinuesList tail) : consumeReferenceList (ws ++ (text ++ tail)) = ids := by
  obtain ⟨ds, ids', after, rfl, htext, hne, hdigits, hnext⟩ := hlist.uncons tail
  obtain ⟨m, hexec, hgroup, hafter⟩ := exec_leadingRef_of hne hdigits (hnext.head_not_digit htail)
  have hlength := hlist.length_lt
  rw [consumeReferenceList, trimStart_of_spaces hws, htext, trimStart_hash, hexec]
  simp only [hgroup, toList_some, singleton_append, hafter]
  rw [continueReferenceList_eq hnext htail]
  have hcons : ids'.length + 1 < text.length := by simpa using hlength
  have htotal := congrArg List.length htext
  simp only [length_append, length_cons] at htotal hcons ⊢
  omega

lemma continueReferenceList_spec (hfuel : rest.length < fuel)
    (hstop : ∀ d rest', rest = d :: rest' → d.isDigit = false) :
    ∃ tail, AfterReference rest (continueReferenceList fuel rest) tail ∧ ¬ ContinuesList tail := by
  induction fuel generalizing rest with
  | zero => omega
  | succ fuel ih =>
    cases hexec : exec referenceSeparator rest with
    | none =>
      refine ⟨rest, .inl ⟨by rw [continueReferenceList, hexec], rfl⟩, ?_⟩
      rintro (⟨d, rest', hrest, hd⟩ | ⟨sep, d, rest', hsep, hd, hrest⟩)
      · rw [hstop d rest' hrest] at hd
        cases hd
      · obtain ⟨m, hsome, -⟩ := @exec_separator_of _ rest' _ hsep hd
        rw [hrest, hsome] at hexec
        cases hexec
    | some m =>
      obtain ⟨sep, d, after, hsep, hd, hsplit, hafter⟩ := exec_separator_eq_some hexec
      -- the reference after the separator
      obtain ⟨m', hexec'⟩ : ∃ m', exec leadingRef m.after = some m' := by
        have hrun : d :: after = (d :: after).takeWhile Char.isDigit ++ (d :: after).dropWhile Char.isDigit :=
          takeWhile_append_dropWhile.symm
        have hne : (d :: after).takeWhile Char.isDigit ≠ [] := by
          rw [takeWhile_cons_of_pos hd]
          exact cons_ne_nil _ _
        obtain ⟨m', hm', -⟩ := @exec_leadingRef_of _ ((d :: after).dropWhile Char.isDigit) hne
          (fun c hc => mem_takeWhile_imp hc) fun d rest => head?_not_digit_of_dropWhile
        rw [← hrun] at hm'
        exact ⟨m', by rw [hafter, hm']⟩
      obtain ⟨ds, htext, hgroup, hne, hdigits, hstop'⟩ := exec_leadingRef_eq_some hexec'
      have hlength : m'.after.length < fuel := by
        have htotal := congrArg List.length hsplit
        rw [htext] at htotal
        simp only [length_append, length_cons] at htotal
        omega
      obtain ⟨tail, hrest, htail⟩ := ih hlength hstop'
      refine ⟨tail, .inr ⟨sep, ?_⟩, htail⟩
      have hids : continueReferenceList (fuel + 1) rest = String.ofList ds :: continueReferenceList fuel m'.after := by
        rw [continueReferenceList, hexec]
        simp only [hexec', hgroup, toList_some, singleton_append]
      rw [hids]
      rcases hrest with ⟨hnil, htail'⟩ | ⟨sep', text, hsep', hlist, hafter'⟩
      · exact ⟨'#' :: ds, hsep, hnil ▸ .last hne hdigits, by rw [hsplit, htext, htail']; simp⟩
      · exact ⟨_, hsep, .cons hne hdigits hsep' hlist, by rw [hsplit, htext, hafter']; simp⟩

lemma consumeReferenceList_spec {id : String} (h : id ∈ consumeReferenceList rest) :
    ∃ ws text tail ids, rest = ws ++ (text ++ tail) ∧ Spaces ws ∧ ReferenceList text ids ∧ ¬ ContinuesList tail ∧
      id ∈ ids := by
  have hsplit : rest = rest.takeWhile JsText.isSpace ++ JsText.trimStart rest := takeWhile_append_dropWhile.symm
  rw [consumeReferenceList] at h
  cases hexec : exec leadingRef (JsText.trimStart rest) with
  | none => simp [hexec] at h
  | some m =>
    obtain ⟨ds, htext, hgroup, hne, hdigits, hstop⟩ := exec_leadingRef_eq_some hexec
    simp only [hexec, hgroup, toList_some, singleton_append] at h
    have hlength : m.after.length < rest.length := by
      have htotal := congrArg List.length hsplit
      rw [htext] at htotal
      simp only [length_append, length_cons] at htotal
      omega
    obtain ⟨tail, hrest, htail⟩ := continueReferenceList_spec hlength hstop
    have hws : Spaces (rest.takeWhile JsText.isSpace) := fun c hc => mem_takeWhile_imp hc
    rcases hrest with ⟨hnil, htail'⟩ | ⟨sep, text, hsep, hlist, hafter⟩
    · refine ⟨_, '#' :: ds, tail, _, ?_, hws, hnil ▸ .last hne hdigits, htail, h⟩
      rw [← htail', cons_append, ← htext]
      exact hsplit
    · refine ⟨_, '#' :: (ds ++ (sep ++ text)), tail, _, ?_, hws, .cons hne hdigits hsep hlist, htail, h⟩
      rw [cons_append, append_assoc, append_assoc, ← hafter, ← htext]
      exact hsplit

end AgentPipeline.Loop
