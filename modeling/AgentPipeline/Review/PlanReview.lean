import AgentPipeline.Foundation.JsMatches
import AgentPipeline.Review.Routing

/-!
# PlanReview: merging plan reviews and reading the verdict back

`mergePlanReviewOutputs` writes one document from the outputs of several reviewers, their whole texts
at its end, and `parsePlanReviewVerdictToken` reads a verdict from a document.

* the merged document has its own verdict section first, and the reader takes the first one, so no
  text of a reviewer can shadow it (`planVerdict_merge`);
* the merge looks for the words in the raw text of a reviewer, while the reader looks at one line of
  it without its emphasis and with more kinds of white space.

`merge_strict_iff` says when the merged verdict is at least as strict as every reviewer.
-/

namespace AgentPipeline.Review

open List Option JsRegExp

inductive PlanVerdict where
  | approve | needsRevision
deriving DecidableEq, Repr

/-- The word of the verdict line. -/
def PlanVerdict.word : PlanVerdict → String
  | .approve => "APPROVE"
  | .needsRevision => "NEEDS_REVISION"

/-! ## Sections -/

/-- `^##\s+heading\s*$` with the flags `im`. -/
def headingRe (heading : String) : Regex :=
  .sequence [.lineStart, .text "##", .plus JsText.isSpace, .textAnyCase heading, .star JsText.isSpace, .lineEnd]

/-- `/^##\s+/m`. -/
def nextHeadingRe : Regex := .sequence [.lineStart, .text "##", .plus JsText.isSpace]

def extractMarkdownSection (text : List Char) (heading : String) : Option (List Char) :=
  (exec (headingRe heading) text).map fun m =>
    let rest := m.after
    match exec nextHeadingRe rest with
    | none => trimmed rest
    | some next => trimmed (rest.take (rest.length - next.start.rest.length))

/-- `/^\s*[-*]\s+/`. -/
def bulletRe : Regex :=
  .sequence [.textStart, .star JsText.isSpace, .oneOf fun c => c = '-' || c = '*', .plus JsText.isSpace]

/-- `/^none\.?$/i`. -/
def noneRe : Regex :=
  .sequence [.textStart, .textAnyCase "none", .optional (.text "."), .plain .atEnd]

/-- One line of `splitBullets(section)`. -/
def bulletText (raw : List Char) : List Char :=
  match exec bulletRe raw with
  | none => trimmed raw
  | some m => trimmed m.after

def splitBullets (section? : Option (List Char)) : List (List Char) :=
  match section?.filter (· ≠ []) with
  | none => []
  | some text =>
    ((splitLines text).map bulletText).filter fun line => line ≠ [] && !test noneRe line

/-! ## The verdict of a document -/

/-- The character of a backtick or of an asterisk. -/
def isLightEmphasis (c : Char) : Bool := c = '*' || c = backtick

/-- `/^VERDICT\s*:\s*(APPROVE|NEEDS[_\s]REVISION)\s*$/`. -/
def verdictLineRe : Regex :=
  .sequence [.textStart, .text "VERDICT", .star JsText.isSpace, .text ":", .star JsText.isSpace,
    .group 1 (.alt (.text "APPROVE")
      (.sequence [.text "NEEDS", .oneOf fun c => c = '_' || JsText.isSpace c, .text "REVISION"])),
    .star JsText.isSpace, .plain .atEnd]

/-- The verdict that a verdict line says. -/
def planVerdictOfLine (token : String) : Option PlanVerdict :=
  if token = "NEEDS_REVISION" ∨ token = "NEEDS REVISION" then some .needsRevision
  else if token = "APPROVE" then some .approve
  else
    (exec verdictLineRe token.toList).map fun m =>
      if m.group 1 = some "APPROVE" then .approve else .needsRevision

section Host

variable (host : NodeHost)

/-- The line that the verdict is read from, without light emphasis and in capitals. -/
def verdictToken (firstLine : List Char) : String :=
  host.toUpperCase (String.ofList (trimmed (firstLine.filter fun c => !isLightEmphasis c)))

def parsePlanReviewVerdictToken (output : List Char) : Option PlanVerdict :=
  if trimmed output = [] then none
  else if !test (headingRe "Plan Review Verdict") output then none
  else
    match (extractMarkdownSection output "Plan Review Verdict").filter (trimmed · ≠ []) with
    | none => none
    | some body =>
      (((splitLines body).map trimmed).find? (· ≠ [])).bind fun firstLine =>
        planVerdictOfLine (verdictToken host firstLine)

/-! ## The merge -/

structure PlanOutput where
  agentIndex : Nat
  harness : String
  text : List Char
deriving DecidableEq, Repr

/-- `upper.includes("NEEDS_REVISION") || upper.includes("NEEDS REVISION")`. -/
def mentionsRevision (text : List Char) : Bool :=
  let upper := (host.toUpperCase (String.ofList text)).toList
  includes upper "NEEDS_REVISION".toList || includes upper "NEEDS REVISION".toList

/-- The bullets of a section of all outputs, each once. -/
def unionBullets (bullets : PlanOutput → List (List Char)) (outputs : List PlanOutput) :
    List (List Char) :=
  (outputs.flatMap bullets).foldl
    (fun lines line => if lines.contains line then lines else lines ++ [line]) []

def changesOf (o : PlanOutput) : List (List Char) :=
  splitBullets (extractMarkdownSection o.text "Required Changes")

def risksOf (o : PlanOutput) : List (List Char) :=
  splitBullets ((extractMarkdownSection o.text "Risks / Checks").or
    (extractMarkdownSection o.text "Risks"))

/-- `lines.join("\n")`. -/
def joinLines (lines : List (List Char)) : List Char := ['\n'].intercalate lines

def bulletBody (bullets : List (List Char)) : List Char :=
  if bullets.isEmpty then "- None".toList
  else joinLines (bullets.map fun b => '-' :: ' ' :: b)

def agentNote (o : PlanOutput) : List Char :=
  "### Agent ".toList ++ (toString o.agentIndex).toList ++ [' ', '(', backtick] ++
    o.harness.toList ++ [backtick, ')', '\n', '\n'] ++ trimmed o.text

/-- The verdict of the merge. -/
def mergedVerdict (outputs : List PlanOutput) : PlanVerdict :=
  if outputs.any fun o => mentionsRevision host o.text then .needsRevision else .approve

/-- `mergePlanReviewOutputs(agentOutputs)`. -/
def mergePlanReviewOutputs (outputs : List PlanOutput) : List Char :=
  joinLines
    (["## Plan Review Verdict".toList, (mergedVerdict host outputs).word.toList, [],
      "## Required Changes".toList, bulletBody (unionBullets changesOf outputs), [],
      "## Risks / Checks".toList, bulletBody (unionBullets risksOf outputs), [],
      "## Ensemble agent outputs".toList] ++ outputs.map agentNote)

end Host

/-! ## Reading the first section -/

lemma ends_nextHeadingRe_eq_nil {c : Cursor} {x : Char} {rest : List Char}
    (hrest : c.rest = x :: rest) (hx : x ≠ '#') : ends nextHeadingRe { cursor := c } = [] := by
  rw [eq_nil_iff_forall_not_mem]
  intro e he
  obtain ⟨s, hs, he⟩ := mem_ends_sequence_cons.1 he
  obtain ⟨rfl, -⟩ := mem_ends_lineStart.1 hs
  obtain ⟨m, hm, -⟩ := mem_ends_sequence_cons.1 he
  have hspans := (mem_ends_text.1 hm).2.rest
  have hhash : "##".toList = ['#', '#'] := by decide
  rw [hhash, hrest] at hspans
  exact hx (List.cons.inj hspans).1

lemma exec_nextHeadingRe (pre rest : List Char) (hpre : ∀ c ∈ pre, c ≠ '#') (hlast : pre.getLast? = some '\n') :
    ∃ stop, exec nextHeadingRe (pre ++ '#' :: '#' :: ' ' :: rest) =
      some ⟨⟨some '\n', '#' :: '#' :: ' ' :: rest⟩, stop⟩ := by
  have hspans : Spans ⟨none, pre ++ '#' :: '#' :: ' ' :: rest⟩ pre
      ⟨some '\n', '#' :: '#' :: ' ' :: rest⟩ := ⟨rfl, by simp [hlast]⟩
  have hmatches : ends nextHeadingRe { cursor := ⟨some '\n', '#' :: '#' :: ' ' :: rest⟩ } ≠ [] := by
    have hhash : "##".toList = ['#', '#'] := by decide
    have hmem : (⟨⟨some ' ', rest⟩, []⟩ : Place) ∈
        ends nextHeadingRe { cursor := ⟨some '\n', '#' :: '#' :: ' ' :: rest⟩ } := by
      refine mem_ends_sequence_cons.2 ⟨_, mem_ends_lineStart.2 ⟨rfl, rfl⟩, ?_⟩
      refine mem_ends_sequence_cons.2 ⟨⟨⟨some '#', ' ' :: rest⟩, []⟩, ?_, ?_⟩
      · exact mem_ends_text.2 ⟨rfl, by rw [hhash]; rfl, by rw [hhash]; rfl⟩
      · refine mem_ends_sequence_cons.2 ⟨_, ?_, mem_ends_sequence_nil.2 rfl⟩
        exact mem_ends_many.2 ⟨rfl, [' '], ⟨rfl, rfl⟩, all_eq_true.1 (by decide), by decide, by simp⟩
    exact ne_nil_of_mem hmem
  obtain ⟨stop, hstop⟩ := ne_none_iff_exists'.1 (mt head?_eq_none_iff.1 hmatches)
  refine ⟨stop, execFrom_of_first hspans hstop fun pre' c hc hlt => ?_⟩
  -- an earlier place is within the text without a hash sign
  obtain ⟨x, later, hlater⟩ : ∃ x later, pre.drop pre'.length = x :: later :=
    exists_cons_of_length_pos (by simpa using hlt)
  have hrest : c.rest = pre.drop pre'.length ++ '#' :: '#' :: ' ' :: rest := by
    have hdrop := congrArg (List.drop pre'.length) hc.rest
    rw [drop_left] at hdrop
    rw [← hdrop, drop_append_of_le_length hlt.le]
  rw [hlater, cons_append] at hrest
  refine ends_nextHeadingRe_eq_nil hrest (hpre x ?_)
  exact drop_subset pre'.length pre (hlater ▸ mem_cons_self)

lemma head?_ends_lineEnd {before : Option Char} {w : Char} {rest : List Char} (hw : JsText.isSpace w = false) :
    (ends (.sequence [.star JsText.isSpace, .lineEnd]) { cursor := ⟨before, '\n' :: w :: rest⟩ }).head? =
        some { cursor := ⟨before, '\n' :: w :: rest⟩ } := by
  have hbreak : JsText.isSpace '\n' = true := by decide
  have hterminator : isLineTerminator w = false := by
    by_contra h
    have hspace : ∀ c, isLineTerminator c = true → JsText.isSpace c = true := by
      intro c hc
      simp only [isLineTerminator, JsText.isSpace, Bool.or_eq_true, decide_eq_true_eq, beq_iff_eq] at hc ⊢
      rcases hc with ((rfl | rfl) | hc) | hc
      · decide
      · decide
      · simp [hc]
      · simp [hc]
    rw [hspace w (by simpa using h)] at hw
    cases hw
  have hreturn : isLineTerminator '\n' = true := by decide
  simp [Regex.sequence, Regex.star, ends, matchAt, hbreak, hw, hterminator, hreturn, range_succ, Cursor.advance]

lemma exec_headingRe {heading : String} {h w : Char} {letters : List Char} (rest : List Char)
    (hheading : heading.toList = h :: letters) (hspace : JsText.isSpace h = false) (hw : JsText.isSpace w = false) :
    ∃ m, exec (headingRe heading) ('#' :: '#' :: ' ' :: heading.toList ++ '\n' :: w :: rest) =
      some m ∧ m.after = '\n' :: w :: rest := by
  have hhash : "##".toList = ['#', '#'] := by decide
  have hlead : (ends (.text "##")
      { cursor := ⟨none, '#' :: '#' :: ' ' :: heading.toList ++ '\n' :: w :: rest⟩ }).head? =
        some { cursor := ⟨some '#', ' ' :: heading.toList ++ '\n' :: w :: rest⟩ } :=
    head?_ends_text ⟨by rw [hhash]; rfl, by rw [hhash]; rfl⟩
  have hblank : (ends (.plus JsText.isSpace)
      { cursor := ⟨some '#', ' ' :: heading.toList ++ '\n' :: w :: rest⟩ }).head? =
        some { cursor := ⟨some ' ', heading.toList ++ '\n' :: w :: rest⟩ } := by
    refine @head?_ends_many _ _ _ [' '] _ ⟨rfl, rfl⟩ (all_eq_true.1 (by decide)) (by decide) ?_
    intro x hx
    rw [hheading, cons_append, head?_cons, Option.some.injEq] at hx
    rw [← hx, hspace]
  have htitle := @head?_ends_textAnyCase heading _
    { cursor := ⟨some ' ', heading.toList ++ '\n' :: w :: rest⟩ } _
    (exists_spans rfl : Spans ⟨some ' ', heading.toList ++ '\n' :: w :: rest⟩ heading.toList _) rfl
  refine ⟨_, exec_of_head (head?_ends_seq_of (head?_ends_lineStart rfl) (head?_ends_seq_of hlead
    (head?_ends_seq_of hblank (head?_ends_seq_of htitle (head?_ends_lineEnd hw))))), rfl⟩

lemma trimmed_between {w : Char} {word : List Char} (hword : ∀ c ∈ w :: word, JsText.isSpace c = false) :
    trimmed ('\n' :: w :: word ++ ['\n', '\n']) = w :: word := by
  have hbreak : JsText.isSpace '\n' = true := by decide
  have hstart : JsText.trimStart ('\n' :: w :: word ++ ['\n', '\n']) = w :: word ++ ['\n', '\n'] := by
    simp [JsText.trimStart, hbreak, hword w mem_cons_self]
  rw [trimmed, hstart, JsText.trimEnd, reverse_append]
  have hback : (['\n', '\n'].reverse ++ (w :: word).reverse).dropWhile JsText.isSpace =
      (w :: word).reverse.dropWhile JsText.isSpace := by
    simp [hbreak]
  rw [hback, dropWhile_eq_self_iff.2, reverse_reverse]
  intro hpos
  have hmem : (w :: word).reverse[0] ∈ w :: word := mem_reverse.1 (getElem_mem _)
  simpa using hword _ hmem

lemma extractMarkdownSection_first {heading : String} {h w : Char} {letters word : List Char}
    (rest : List Char) (hheading : heading.toList = h :: letters) (hspace : JsText.isSpace h = false)
    (hword : ∀ c ∈ w :: word, JsText.isSpace c = false ∧ c ≠ '#') :
    extractMarkdownSection ('#' :: '#' :: ' ' :: heading.toList ++
        '\n' :: w :: (word ++ '\n' :: '\n' :: '#' :: '#' :: ' ' :: rest)) heading = some (w :: word) := by
  obtain ⟨m, hexec, hafter⟩ := exec_headingRe
    (word ++ '\n' :: '\n' :: '#' :: '#' :: ' ' :: rest) hheading hspace
    (hword w mem_cons_self).1
  obtain ⟨stop, hnext⟩ := exec_nextHeadingRe ('\n' :: w :: word ++ ['\n', '\n']) rest (by
      intro c hc
      simp only [cons_append, mem_cons, mem_append, not_mem_nil, or_false] at hc
      obtain rfl | rfl | hc | rfl | rfl := hc
      · decide
      · exact (hword _ mem_cons_self).2
      · exact (hword _ (mem_cons_of_mem _ hc)).2
      · decide
      · decide) (by rw [getLast?_append]; rfl)
  have hshape : '\n' :: w :: (word ++ '\n' :: '\n' :: '#' :: '#' :: ' ' :: rest) =
      ('\n' :: w :: word ++ ['\n', '\n']) ++ '#' :: '#' :: ' ' :: rest := by simp
  unfold extractMarkdownSection
  rw [hexec, map_some, hafter, hshape]
  dsimp only
  rw [hnext]
  dsimp only
  rw [length_append, Nat.add_sub_cancel_right, take_left, trimmed_between fun c hc => (hword c hc).1]

/-! ## The merged verdict -/

section Merged

variable {host : NodeHost}

/-- `toUpperCase` leaves the two verdict words as they are. -/
def KeepsCapitals (host : NodeHost) : Prop := ∀ v : PlanVerdict, host.toUpperCase v.word = v.word

lemma joinLines_cons (line line' : List Char) (lines : List (List Char)) :
    joinLines (line :: line' :: lines) = line ++ '\n' :: joinLines (line' :: lines) := by
  simp [joinLines, List.intercalate]

variable (host) in
lemma mergePlanReviewOutputs_eq (outputs : List PlanOutput) : ∃ rest, mergePlanReviewOutputs host outputs =
      '#' :: '#' :: ' ' :: "Plan Review Verdict".toList ++ '\n' :: ((mergedVerdict host outputs).word.toList ++
          '\n' :: '\n' :: '#' :: '#' :: ' ' :: rest) := by
  have htitle : "## Plan Review Verdict".toList = '#' :: '#' :: ' ' :: "Plan Review Verdict".toList := by decide
  have hnext : "## Required Changes".toList = '#' :: '#' :: ' ' :: "Required Changes".toList := by decide
  unfold mergePlanReviewOutputs
  simp only [cons_append, nil_append]
  rw [joinLines_cons, joinLines_cons, joinLines_cons, joinLines_cons, htitle, hnext]
  exact ⟨_, by simp only [cons_append, nil_append]; rfl⟩

lemma trimmed_ne_nil {c : Char} {text : List Char} (hc : JsText.isSpace c = false) : trimmed (c :: text) ≠ [] := by
  have hstart : JsText.trimStart (c :: text) = c :: text := by simp [JsText.trimStart, hc]
  rw [trimmed, hstart, JsText.trimEnd, ne_eq, reverse_eq_nil_iff, dropWhile_eq_nil_iff]
  intro hall
  have hspace := hall c (by simp)
  rw [hc] at hspace
  cases hspace

lemma planVerdict_merge (hcapitals : KeepsCapitals host) (outputs : List PlanOutput) :
    parsePlanReviewVerdictToken host (mergePlanReviewOutputs host outputs) = some (mergedVerdict host outputs) := by
  obtain ⟨rest, hmerged⟩ := mergePlanReviewOutputs_eq host outputs
  generalize mergedVerdict host outputs = v at hmerged ⊢
  have hheading : "Plan Review Verdict".toList = 'P' :: "lan Review Verdict".toList := by decide
  obtain ⟨w, word, hword, hclear⟩ : ∃ w word, v.word.toList = w :: word ∧
      ∀ c ∈ w :: word, JsText.isSpace c = false ∧ c ≠ '#' := by
    cases v with
    | approve => exact ⟨'A', "PPROVE".toList, by decide, by simp; decide⟩
    | needsRevision => exact ⟨'N', "EEDS_REVISION".toList, by decide, by simp; decide⟩
  have hdocument : mergePlanReviewOutputs host outputs = '#' :: '#' :: ' ' :: "Plan Review Verdict".toList ++
        '\n' :: w :: (word ++ '\n' :: '\n' :: '#' :: '#' :: ' ' :: rest) := by
    rw [hmerged, hword]
    rfl
  have hsection := extractMarkdownSection_first rest hheading (by decide) hclear
  obtain ⟨m, hexec, -⟩ := exec_headingRe
    (word ++ '\n' :: '\n' :: '#' :: '#' :: ' ' :: rest) hheading (by decide)
    (hclear w mem_cons_self).1
  -- the section is the verdict word, alone on its line
  have htoken : (((splitLines v.word.toList).map trimmed).find? (· ≠ [])).map (verdictToken host) =
      some (host.toUpperCase v.word) := by
    cases v with
    | approve =>
      have hline : ((splitLines PlanVerdict.approve.word.toList).map trimmed).find? (· ≠ []) =
          some "APPROVE".toList := by decide
      have hword : String.ofList (trimmed ("APPROVE".toList.filter fun c => !isLightEmphasis c)) =
          "APPROVE" := by decide
      rw [hline, map_some, verdictToken, hword]
      rfl
    | needsRevision =>
      have hline : ((splitLines PlanVerdict.needsRevision.word.toList).map trimmed).find? (· ≠ []) =
          some "NEEDS_REVISION".toList := by decide
      have hword : String.ofList
          (trimmed ("NEEDS_REVISION".toList.filter fun c => !isLightEmphasis c)) = "NEEDS_REVISION" := by decide
      rw [hline, map_some, verdictToken, hword]
      rfl
  unfold parsePlanReviewVerdictToken
  have hlead : trimmed ('#' :: '#' :: ' ' :: "Plan Review Verdict".toList ++
      '\n' :: w :: (word ++ '\n' :: '\n' :: '#' :: '#' :: ' ' :: rest)) ≠ [] :=
    trimmed_ne_nil (by decide)
  have hfound : test (headingRe "Plan Review Verdict") ('#' :: '#' :: ' ' :: "Plan Review Verdict".toList ++
        '\n' :: w :: (word ++ '\n' :: '\n' :: '#' :: '#' :: ' ' :: rest)) = true := by
    rw [test, hexec]
    rfl
  rw [hdocument, hsection, if_neg hlead, hfound, if_neg (by decide), filter_some,
    if_pos (by simpa using trimmed_ne_nil (hclear w mem_cons_self).1)]
  dsimp only
  rw [← hword]
  cases hline : ((splitLines v.word.toList).map trimmed).find? (· ≠ []) with
  | none =>
    rw [hline] at htoken
    cases htoken
  | some line =>
    rw [hline, map_some, Option.some.injEq] at htoken
    rw [bind_some, htoken, hcapitals v]
    cases v <;> decide

/-- The merged document has a verdict, which asks for a revision when a reviewer does. -/
def StrictMerge (host : NodeHost) (outputs : List PlanOutput) : Prop :=
  parsePlanReviewVerdictToken host (mergePlanReviewOutputs host outputs) ≠ none ∧
    ((∃ o ∈ outputs, parsePlanReviewVerdictToken host o.text = some .needsRevision) →
      parsePlanReviewVerdictToken host (mergePlanReviewOutputs host outputs) = some .needsRevision)

lemma mergedVerdict_eq_needsRevision_iff {outputs : List PlanOutput} :
    mergedVerdict host outputs = .needsRevision ↔ ∃ o ∈ outputs, mentionsRevision host o.text = true := by
  unfold mergedVerdict
  split
  · next h => simpa using h
  · next h => simpa using h

/-- The spellings of a verdict line that ask for a revision. -/
def SaysRevision (token : String) : Prop :=
  token = "NEEDS_REVISION" ∨ token = "NEEDS REVISION" ∨
    ∃ m, exec verdictLineRe token.toList = some m ∧ m.group 1 ≠ some "APPROVE"

/-- The first line of the verdict section, without light emphasis and in capitals, asks for a
revision. -/
def AsksRevision (host : NodeHost) (text : List Char) : Prop :=
  trimmed text ≠ [] ∧ ∃ body line, extractMarkdownSection text "Plan Review Verdict" = some body ∧
    trimmed body ≠ [] ∧ ((splitLines body).map trimmed).find? (· ≠ []) = some line ∧
    SaysRevision (verdictToken host line)

lemma planVerdictOfLine_eq_needsRevision_iff {token : String} :
    planVerdictOfLine token = some .needsRevision ↔ SaysRevision token := by
  unfold planVerdictOfLine SaysRevision
  split
  · next h => exact ⟨fun _ => h.imp_right .inl, fun _ => rfl⟩
  · next hwords =>
    obtain ⟨hunderscore, hblank⟩ := not_or.1 hwords
    split
    · next happrove =>
      subst happrove
      have hnone : exec verdictLineRe "APPROVE".toList = none := by
        rw [← not_isSome_iff_eq_none]
        decide
      refine iff_of_false (by decide) ?_
      rintro (heq | heq | ⟨m, hm, -⟩)
      · exact hunderscore heq
      · exact hblank heq
      · rw [hnone] at hm
        cases hm
    · cases hexec : exec verdictLineRe token.toList with
      | none => simp [hunderscore, hblank]
      | some m => simp [hunderscore, hblank]

lemma parse_eq_needsRevision_iff {text : List Char} :
    parsePlanReviewVerdictToken host text = some .needsRevision ↔ AsksRevision host text := by
  unfold parsePlanReviewVerdictToken AsksRevision
  split
  · next hblank => simp [hblank]
  · next hblank =>
    cases hexec : exec (headingRe "Plan Review Verdict") text with
    | none => simp [test, hexec, extractMarkdownSection]
    | some m =>
      rw [if_neg (by simp [test, hexec])]
      cases hsection : extractMarkdownSection text "Plan Review Verdict" with
      | none => simp
      | some body =>
        by_cases hbody : trimmed body = []
        · rw [filter_some, if_neg (by simpa using hbody)]
          simp [hbody]
        · rw [filter_some, if_pos (by simpa using hbody)]
          dsimp only
          rw [bind_eq_some_iff]
          simp only [planVerdictOfLine_eq_needsRevision_iff]
          constructor
          · rintro ⟨line, hline, hsays⟩
            exact ⟨hblank, body, line, rfl, hbody, hline, hsays⟩
          · rintro ⟨-, body', line, hsame, -, hline, hsays⟩
            obtain rfl := some.inj hsame
            exact ⟨line, hline, hsays⟩

/-- The merge is as strict as its reviewers when the raw text of one of them has the words, or the
verdict line of none asks for a revision. -/
theorem merge_strict_iff (hcapitals : KeepsCapitals host) (outputs : List PlanOutput) :
    StrictMerge host outputs ↔ (∃ o ∈ outputs, mentionsRevision host o.text = true) ∨
        ∀ o ∈ outputs, ¬AsksRevision host o.text := by
  unfold StrictMerge
  simp only [parse_eq_needsRevision_iff.symm]
  rw [planVerdict_merge hcapitals, Option.some.injEq, mergedVerdict_eq_needsRevision_iff]
  constructor
  · rintro ⟨-, h⟩
    by_cases hasks : ∃ o ∈ outputs, parsePlanReviewVerdictToken host o.text = some .needsRevision
    · exact .inl (h hasks)
    · exact .inr fun o ho hasked => hasks ⟨o, ho, hasked⟩
  · rintro (hmentions | hnone)
    · exact ⟨by simp, fun _ => hmentions⟩
    · refine ⟨by simp, ?_⟩
      rintro ⟨o, ho, hasked⟩
      exact absurd hasked (hnone o ho)

end Merged

/-! ## An emphasised verdict -/

lemma keepsCapitals_onFirstDay : KeepsCapitals (.onFirstDay [] []) := by
  intro v
  cases v <;> decide +kernel

def approvingOutput : PlanOutput where
  agentIndex := 0
  harness := "claude"
  text := "## Plan Review Verdict\nAPPROVE\n".toList

def revisingOutput : PlanOutput where
  agentIndex := 1
  harness := "codex"
  text := "## Plan Review Verdict\n**NEEDS_REVISION**\n\n## Required Changes\n- Add a test.\n".toList

theorem revising_output_wins : StrictMerge (.onFirstDay [] []) [approvingOutput, revisingOutput] :=
  (merge_strict_iff keepsCapitals_onFirstDay _).2
    (.inl ⟨revisingOutput, by simp, by decide +kernel⟩)

/-- The emphasis ends between the words. -/
def splitWordOutput : PlanOutput where
  agentIndex := 0
  harness := "claude"
  text := "## Plan Review Verdict\n**NEEDS**_REVISION\n".toList

/-- The reader takes the emphasis out before it compares, the merge does not. -/
theorem split_word_approved :
    ¬∀ (host : NodeHost) (outputs : List PlanOutput), outputs ≠ [] → KeepsCapitals host →
      StrictMerge host outputs := by
  intro h
  have hstrict := (h (.onFirstDay [] []) [splitWordOutput] (by decide) keepsCapitals_onFirstDay).2
  have hasks : parsePlanReviewVerdictToken (.onFirstDay [] []) splitWordOutput.text =
      some .needsRevision := by decide +kernel
  have hmerged := hstrict ⟨splitWordOutput, by simp, hasks⟩
  rw [planVerdict_merge keepsCapitals_onFirstDay, Option.some.injEq] at hmerged
  exact absurd hmerged (by decide +kernel)

end AgentPipeline.Review
