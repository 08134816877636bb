import AgentPipeline.Foundation.JsonGrammar
import AgentPipeline.Foundation.JsSpans
import AgentPipeline.Review.Artifacts

/-!
# VerdictParsing: a verdict out of what the reviewer printed

Two parsers look for a JSON object in the output, in a fence first and then between the first and
the last brace.

* `parseStrictVerdict`: the object has every field of the schema, and an approval that lists
  findings counts as a request for changes;
* `parseStructuredVerdict`: the object has a verdict token; what it lists is passed on unchecked,
  and without an object the prose of the output is read.

When the object in the fence has a token, the two places hold the same object (`inline_of_fence`).
-/

namespace AgentPipeline.Review

open List
open JsRegExp (Regex)

/-! ## Values that are no text -/

section Coercions

variable (host : NodeHost)

mutual

/-- `String(value)`. -/
def display : Json → String
  | .null => "null"
  | .bool b => if b then "true" else "false"
  | .num n => host.textOf n
  | .str text => text
  | .arr elems => String.intercalate "," (displayElems elems)
  | .obj _ => "[object Object]"

/-- The parts of a list that is printed; `null` prints as nothing there. -/
def displayElems : List Json → List String
  | [] => []
  | value :: elems => displayElem value :: displayElems elems

def displayElem : Json → String
  | .null => ""
  | .bool b => if b then "true" else "false"
  | .num n => host.textOf n
  | .str text => text
  | .arr elems => String.intercalate "," (displayElems elems)
  | .obj _ => "[object Object]"

end

mutual

/-- Whether a value can be printed: an object whose `toString` is a field of its own cannot. -/
def prints : Json → Bool
  | .arr elems => printsAll elems
  | .obj fields => !(fields.map (·.1)).contains "toString"
  | _ => true

def printsAll : List Json → Bool
  | [] => true
  | value :: elems => prints value && printsAll elems

end

/-- `Number(value)`. -/
def toNumber : Json → JsNumber
  | .null => .finite 0
  | .bool b => .finite (if b then 1 else 0)
  | .num n => n
  | .str text => host.numberOf text
  | .arr elems => host.numberOf (display host (.arr elems))
  | .obj _ => .nan

/-- A line of a finding, whatever it is. -/
def lineField (f : Json) (key : String) : Option LineField :=
  match f.get? key with
  | none | some .null => none
  | some value => some ⟨toNumber host value, display host value⟩

/-- The severity of a finding; `toUpperCase` throws on what is neither absent nor a text. -/
def severityField (f : Json) : Option SeverityField :=
  match f.get? "severity" with
  | none => some (.missing "undefined")
  | some .null => some (.missing "null")
  | some (.str text) => some (.word text)
  | some _ => none

/-- A value that is neither absent nor a text. -/
def isLoose (f : Json) (key : String) : Bool := (nullableText f key).isNone

/-- A finding as it is passed on. Of the fields that only some of the readers ask for a text, it is
noted whether they hold one. -/
structure LooseFinding where
  finding : ReviewFinding
  looseCategory : Bool
  looseAcknowledgment : Bool
deriving DecidableEq, Repr

def categoryText (f : Json) : Option String :=
  match f.get? "category" with
  | none | some .null => none
  | some value => some (display host value)

/-- The fields of a finding that are printed, whatever they are. -/
def printedFields : List String := ["line_start", "line_end", "confidence", "category"]

/-- `projectReviewFinding(f)`. Of `null`, or with a value in place of a text, the keys of the
finding cannot be computed. -/
def projectReviewFinding (raw : Json) : Option LooseFinding :=
  match raw with
  | .null => none
  | f => do
      guard (printedFields.all fun key => (f.get? key).all prints)
      let severity ← severityField f
      let title ← nullableText f "title"
      let body ← nullableText f "body"
      let file ← nullableText f "file"
      let recommendation ← nullableText f "recommendation"
      return {
        finding := {
          severity, title, body, file, recommendation
          lineStart := lineField host f "line_start"
          lineEnd := lineField host f "line_end"
          confidence := (f.get? "confidence").bind Json.number?
          category := categoryText host f
          blocking := (f.get? "blocking").bind Json.bool?
          priorRoundAcknowledgment := f.textAt "prior_round_acknowledgment"
          rejectedAlternatives := (f.get? "rejected_alternatives").bind textList? }
        looseCategory := isLoose f "category"
        looseAcknowledgment := isLoose f "prior_round_acknowledgment" }

end Coercions

/-! ## The JSON object -/

/-- A verdict as the routing reads it; a finding that is `none` throws when it is read. -/
structure ParsedVerdict where
  verdict : VerdictToken
  findings : List (Option LooseFinding)
  /-- The summary and the next steps can be printed. -/
  prints : Bool := true
deriving DecidableEq, Repr

def isBacktick (c : Char) : Bool := c = backtick

/-- A fence, with what is inside of it. -/
def verdictFenceRe : Regex :=
  .sequence
    [.plain (.repeated isBacktick 3), .optional (.text "json"), .star JsText.isSpace, .text "\n",
      .group 1 (.lazy (fun _ => true) 0), .text "\n", .plain (.repeated isBacktick 3)]

/-- From a brace to a brace, with the word between them. -/
def verdictInlineRe : Regex :=
  .sequence
    [.text "\x7b", .star fun _ => true, .text "\"verdict\"", .star fun _ => true, .text "\x7d"]

def fenceCandidate (output : List Char) : Option (List Char) :=
  (JsRegExp.exec verdictFenceRe output).bind fun m => m.stop.groups.lookup 1

def inlineCandidate (output : List Char) : Option (List Char) :=
  (JsRegExp.exec verdictInlineRe output).map JsRegExp.Found.text

/-- The texts that are tried, in order. -/
def verdictCandidates (output : List Char) : List (List Char) :=
  (fenceCandidate output).toList ++ (inlineCandidate output).toList

def verdictToken? (data : Json) : Option VerdictToken :=
  match data.textAt "verdict" with
  | some "approve" => some .approve
  | some "needs-attention" => some .needsAttention
  | _ => none

section Parsers

variable (host : NodeHost)

/-- What the local parser makes of a candidate that has a verdict token. -/
def readStructured (data : Json) : Option ParsedVerdict :=
  (verdictToken? data).map fun token =>
    { verdict := token
      findings :=
        (((data.get? "findings").bind Json.elems?).getD []).map (projectReviewFinding host)
      prints :=
        (data.get? "summary").all prints && (((data.get? "next_steps").bind Json.elems?).getD []).all prints }

/-- An optional field of a finding of the schema. -/
def isOptional (f : Json) (key : String) (ok : Json → Bool) : Bool :=
  (f.get? key).all ok

/-- The checks of `validateStrictFinding(candidate)`. -/
def isStrictFinding (f : Json) : Bool :=
  ((f.textAt "severity").bind severityOfWord).isSome && (f.textAt "title").isSome &&
    (f.textAt "body").isSome && (f.rationalAt "confidence").any (fun q => 0 ≤ q ∧ q ≤ 1) &&
    (f.textAt "recommendation").isSome && isOptional f "file" (·.text?.isSome) &&
    isOptional f "line_start" (·.number?.isSome) && isOptional f "line_end" (·.number?.isSome) &&
    isOptional f "category" (·.text?.isSome) &&
    isOptional f "spec_divergence_direction" (fun v => v.text?.any fun text =>
      text = "code-behind-spec" || text = "spec-behind-code") &&
    isOptional f "blocking" (·.bool?.isSome) &&
    isOptional f "prior_round_acknowledgment" (·.text?.isSome) &&
    isOptional f "rejected_alternatives" (fun v => (textList? v).isSome)

/-- What the strict parser makes of a candidate that has the schema. -/
def readStrict (data : Json) : Option ParsedVerdict := do
  let token ← verdictToken? data
  guard (data.textAt "summary").isSome
  let findings ← (data.get? "findings").bind Json.elems?
  guard (findings.all isStrictFinding)
  guard ((data.get? "next_steps").bind textList?).isSome
  return {
    -- an approval with findings contradicts itself
    verdict := if token = .approve ∧ !findings.isEmpty then .needsAttention else token
    findings := findings.map (projectReviewFinding host) }

/-- The verdict of the first candidate that has one. -/
def firstVerdict (read : Json → Option ParsedVerdict) (output : List Char) : Option ParsedVerdict :=
  (verdictCandidates output).findSome? fun candidate =>
    (JsonText.parse host.numberOf candidate).bind read

def parseStrictVerdict (output : List Char) : Option ParsedVerdict :=
  firstVerdict host (readStrict host) output

end Parsers

/-! ## Prose -/

/-- `#{1,6}\s*Codex\b.*\bReview\b` at a line start, in either case. -/
def codexHeadingRe : Regex :=
  .sequence
    [.lineStart, .plain (.many (· = '#') 1 (some 6)), .star JsText.isSpace, .textAnyCase "Codex",
      .plain .wordBoundary, .star JsRegExp.isDot, .plain .wordBoundary, .textAnyCase "Review",
      .plain .wordBoundary]

/-- A label at a line start, in either case, with its colon. -/
def labelRe (label : Regex) : Regex :=
  .sequence [.lineStart, .star JsText.isSpace, label, .star JsText.isSpace, .text ":"]

def findingsLabelRe : Regex := labelRe (.alt (.textAnyCase "Review comment") (.textAnyCase "Findings"))

def verdictLabelRe : Regex := labelRe (.textAnyCase "Verdict")

def approveLabelRe : Regex :=
  .sequence
    [verdictLabelRe, .star JsText.isSpace, .textAnyCase "approve", .plain .wordBoundary]

def noIssuesRe : Regex :=
  .sequence
    [.plain .wordBoundary, .textAnyCase "no ", .optional (.textAnyCase "material "),
      .alt (.textAnyCase "issues") (.alt (.textAnyCase "findings")
        (.alt (.textAnyCase "concerns") (.textAnyCase "blocking"))),
      .plain .wordBoundary]

def looksGoodRe : Regex :=
  .sequence
    [.plain .wordBoundary, .alt (.textAnyCase "looks good") (.alt (.textAnyCase "lgtm")
        (.alt (.seq (.textAnyCase "approve") (.optional (.textAnyCase "d")))
          (.textAnyCase "no problems found"))),
      .plain .wordBoundary]

def isBullet (c : Char) : Bool := c = '-' || c = '*'

def isDash (c : Char) : Bool := c = '—' || c = '–' || c = '-'

def isInk (c : Char) : Bool := !JsText.isSpace c

/-- `headerRe`: a bullet with the severity of a finding and its title. -/
def headerRe : Regex :=
  .sequence
    [.textStart, .star JsText.isSpace, .oneOf isBullet, .star JsText.isSpace, .text "[", .star JsText.isSpace, .group 1
        (.alt (.seq (.textAnyCase "P") (.oneOf fun c => '0' ≤ c && c ≤ '3'))
          (.alt (.textAnyCase "critical") (.alt (.textAnyCase "high")
            (.alt (.textAnyCase "medium") (.textAnyCase "low"))))),
      .star JsText.isSpace, .text "]", .star JsText.isSpace, .group 2 (.lazy JsRegExp.isDot 1),
      .star JsText.isSpace, .plain .atEnd]

/-- A file with a line or two, from its first character on. -/
def locationRe : List Regex :=
  [.group 2 (.seq (.oneOf isInk) (.lazy JsRegExp.isDot 0)), .text ":", .group 3 (.plus Char.isDigit),
    .optional (.sequence
      [.star JsText.isSpace, .text "-", .star JsText.isSpace, .group 4 (.plus Char.isDigit)])]

/-- The title in front of a location. -/
def locatedTitleRe : List Regex :=
  [.textStart, .group 1 (.seq (.star JsRegExp.isDot) (.oneOf isInk)), .plus JsText.isSpace]

def locDash : Regex :=
  .sequence
    (locatedTitleRe ++ [.oneOf isDash, .plus JsText.isSpace] ++ locationRe ++ [.star JsText.isSpace, .plain .atEnd])

def locParen : Regex :=
  .sequence
    (locatedTitleRe ++ [.text "("] ++ locationRe ++ [.text ")", .star JsText.isSpace, .plain .atEnd])

/-- `SEVERITY_BY_PRIORITY`, and then the word itself. -/
def severityOfTag (tag : String) : Severity :=
  match tag with
  | "p0" => .critical
  | "p1" => .high
  | "p2" => .medium
  | "p3" => .low
  | word => (severityOfWord word).getD .medium

section Prose

variable (host : NodeHost)

def lineOfNumeral (text : String) : LineField :=
  ⟨host.numberOf text, host.textOf (host.numberOf text)⟩

/-- The finding that a header opens. -/
def findingOfHeader (tag title : String) : ReviewFinding :=
  let title := JsText.trim title
  let located := (JsRegExp.exec locDash title.toList).or (JsRegExp.exec locParen title.toList)
  let group := fun i => located.bind fun m => m.group i
  let lineStart := (group 3).map (lineOfNumeral host)
  { severity := .word (severityOfTag (host.toLowerCase tag)).name
    title := some (((group 1).map JsText.trim).getD title)
    body := some ""
    file := (group 2).map JsText.trim
    lineStart := lineStart
    lineEnd := ((group 4).map (lineOfNumeral host)).or lineStart
    confidence := some (.finite (7 / 10))
    recommendation := some "" }

/-- The findings that are complete, and the one whose body is being read. -/
structure ProseState where
  findings : List ReviewFinding := []
  current : Option ReviewFinding := none

def ProseState.flush (s : ProseState) : ProseState :=
  match s.current with
  | none => s
  | some f => { findings := s.findings ++ [{ f with body := f.body.map JsText.trim }] }

/-- One line of the review. -/
def ProseState.readLine (s : ProseState) (line : List Char) : ProseState :=
  match JsRegExp.exec headerRe line with
  | some h =>
    let opened := findingOfHeader host ((h.group 1).getD "") ((h.group 2).getD "")
    { s.flush with current := some opened }
  | none =>
    match s.current with
    | none => s
    | some f =>
      let trimmed := JsText.trim (String.ofList line)
      if trimmed = "" then s
      else if line.head?.any JsText.isSpace then
        let body := f.body.getD ""
        let longer := body ++ (if body = "" then "" else "\n") ++ trimmed
        { s with current := some { f with body := some longer } }
      else s.flush

def proseFindings (output : List Char) : List ReviewFinding :=
  let start : ProseState := { }
  ((JsRegExp.splitLines output).foldl (ProseState.readLine host) start).flush.findings

def parseProseReview (output : List Char) : Option ParsedVerdict :=
  if !JsRegExp.test codexHeadingRe output ∧ !JsRegExp.test findingsLabelRe output ∧
      !JsRegExp.test verdictLabelRe output then
    none
  else
    let findings := proseFindings host output
    if !findings.isEmpty then
      some { verdict := .needsAttention, findings := findings.map fun f => some ⟨f, false, false⟩ }
    else if JsRegExp.test approveLabelRe output ∨ JsRegExp.test noIssuesRe output ∨
        JsRegExp.test looksGoodRe output then
      some { verdict := .approve, findings := [] }
    else none

/-! ## Text without a form -/

def mentions (text : List Char) (part : String) : Bool :=
  text.tails.any fun rest => part.toList.isPrefixOf rest

/-- What one of the first lines, in upper case, says. -/
def verdictOfLine (line : List Char) : Option VerdictToken :=
  if mentions line "NEEDS-ATTENTION" ∨ mentions line "NEEDS_ATTENTION" then some .needsAttention
  else if mentions line "REQUEST_CHANGES" ∨ mentions line "REQUEST CHANGES" then
    some .needsAttention
  else if mentions line "APPROVE" ∧ !mentions line "NEEDS" ∧ !mentions line "REQUEST" then
    some .approve
  else none

def parseTextVerdict (output : List Char) : VerdictToken :=
  let upper := (host.toUpperCase (String.ofList output)).toList
  let firstLines := ((JsRegExp.splitLines output).take 15).map fun line =>
    (host.toUpperCase (JsText.trim (String.ofList line))).toList
  match firstLines.findSome? verdictOfLine with
  | some token => token
  | none =>
    if mentions upper "NEEDS-ATTENTION" ∨ mentions upper "REQUEST_CHANGES" ∨ mentions upper "REQUEST CHANGES" then
      .needsAttention
    else if mentions upper "NO MATERIAL FINDINGS" ∨ mentions upper "NO FINDINGS" ∨
        mentions upper "NO ISSUES FOUND" ∨ mentions upper "LOOKS SAFE" then
      .approve
    else if mentions upper "\"VERDICT\": \"APPROVE\"" ∨ mentions upper "**APPROVE**" then
      .approve
    else .needsAttention

def parseStructuredVerdict (output : List Char) : ParsedVerdict :=
  ((firstVerdict host (readStructured host) output).or (parseProseReview host output)).getD
    { verdict := parseTextVerdict host output, findings := [] }

end Prose

/-! ## The object in the fence and the object between the braces -/

variable {output : List Char}

section Places

open JsRegExp

lemma isBacktick_iff {c : Char} : isBacktick c = true ↔ c = backtick := by
  simp [isBacktick]

/-- What opens a fence; it has no place in the text of a JSON value. -/
structure Opens (opener : List Char) : Prop where
  shape : ∃ mid, opener = backtick :: (mid ++ ['\n'])
  plain : ∀ c ∈ opener, c ≠ '"' ∧ c ≠ '\\' ∧ c ≠ '\x7b'

lemma mem_ends_verdictInlineRe {s e : Place} : e ∈ ends verdictInlineRe s ↔ e.groups = s.groups ∧ ∃ u v, Spans s.cursor
        ("\x7b".toList ++ (u ++ ("\"verdict\"".toList ++ (v ++ "\x7d".toList)))) e.cursor := by
  simp only [verdictInlineRe, mem_ends_sequence_cons, mem_ends_text, mem_ends_anything, mem_ends_sequence_nil]
  constructor
  · rintro ⟨m₁, ⟨g₁, h₁⟩, m₂, ⟨g₂, u, h₂⟩, m₃, ⟨g₃, h₃⟩, m₄, ⟨g₄, v, h₄⟩, m₅, ⟨g₅, h₅⟩, rfl⟩
    refine ⟨by rw [g₅, g₄, g₃, g₂, g₁], u, v, ?_⟩
    exact h₁.trans (h₂.trans (h₃.trans (h₄.trans h₅)))
  · rintro ⟨hgroups, u, v, h⟩
    obtain ⟨c₁, h₁, h⟩ := h.split
    obtain ⟨c₂, h₂, h⟩ := h.split
    obtain ⟨c₃, h₃, h⟩ := h.split
    obtain ⟨c₄, h₄, h₅⟩ := h.split
    exact ⟨⟨c₁, s.groups⟩, ⟨rfl, h₁⟩, ⟨c₂, s.groups⟩, ⟨rfl, u, h₂⟩, ⟨c₃, s.groups⟩, ⟨rfl, h₃⟩,
      ⟨c₄, s.groups⟩, ⟨rfl, v, h₄⟩, e, ⟨hgroups, h₅⟩, rfl⟩

lemma inlineCandidate_shape {inline : List Char} (h : inlineCandidate output = some inline) :
    ∃ pre body post, inline = '\x7b' :: (body ++ ['\x7d']) ∧ output = pre ++ (inline ++ post) ∧
      '\x7b' ∉ pre ∧ '\x7d' ∉ post := by
  obtain ⟨m, hexec, rfl⟩ := Option.map_eq_some_iff.1 h
  obtain ⟨pre, hpre, hhead, hfirst⟩ := execFrom_eq_some hexec
  have hmem := mem_ends_verdictInlineRe.1 (mem_of_mem_head? hhead)
  obtain ⟨hgroups, u, v, hspans⟩ := hmem
  refine ⟨pre, u ++ ("\"verdict\"".toList ++ v), m.stop.cursor.rest, ?_, ?_, ?_, ?_⟩
  · rw [Found.text, between_of_spans hspans]
    simp
  · rw [Found.text, between_of_spans hspans, ← hspans.rest, ← hpre.rest]
  · intro hbrace
    obtain ⟨p, q, rfl⟩ := append_of_mem hbrace
    obtain ⟨c, hp, hq⟩ := hpre.split
    -- from the earlier brace the pattern matches up to the same end
    have hearlier : m.stop ∈ ends verdictInlineRe { cursor := c } := by
      refine mem_ends_verdictInlineRe.2 ⟨hgroups, q ++ ("\x7b".toList ++ u), v, ?_⟩
      simpa using hq.trans hspans
    rw [hfirst p c hp (by simp)] at hearlier
    simp at hearlier
  · obtain ⟨m₁, -, hhead₁⟩ := head?_ends_seq hhead
    obtain ⟨m₂, -, hhead₂⟩ := head?_ends_seq hhead₁
    obtain ⟨m₃, -, hhead₃⟩ := head?_ends_seq hhead₂
    obtain ⟨used, c, hused, -, hclose, hgreedy⟩ := head?_ends_star hhead₃
    have hstop := (mem_ends_sequence_text.1 (mem_of_mem_head? hclose)).2
    intro hbrace
    obtain ⟨p, q, hpost⟩ := append_of_mem hbrace
    -- the repetition could have gone on to the later brace
    have hlonger := hgreedy _ _ (hused.trans (hstop.trans (exists_spans hpost)))
      (fun _ _ => rfl) (by simp)
    have hbrace : Spans ⟨p.getLast?.or m.stop.cursor.before, '\x7d' :: q⟩ "\x7d".toList
        ⟨some '\x7d', q⟩ := spans_cons_iff.2 ⟨q, rfl, .refl _⟩
    have hmore : (⟨⟨some '\x7d', q⟩, m₃.groups⟩ : Place) ∈ ends (.sequence [.text "\x7d"])
        ⟨⟨p.getLast?.or m.stop.cursor.before, '\x7d' :: q⟩, m₃.groups⟩ :=
      mem_ends_sequence_text.2 ⟨rfl, hbrace⟩
    exact eq_nil_iff_forall_not_mem.1 hlonger _ hmore

def ticks : List Char := [backtick, backtick, backtick]

lemma mem_ends_verdictFenceRe {s e : Place} (h : e ∈ ends verdictFenceRe s) :
    ∃ word sp body, (word = "json".toList ∨ word = []) ∧ (∀ c ∈ sp, JsText.isSpace c = true) ∧
      Spans s.cursor (ticks ++ (word ++ (sp ++ '\n' :: (body ++ '\n' :: ticks)))) e.cursor ∧
      e.groups = (1, body) :: s.groups := by
  simp only [verdictFenceRe, mem_ends_sequence_cons, mem_ends_text, mem_ends_sequence_nil,
    mem_ends_group, mem_ends_lazy, Regex.optional, mem_ends_alt, Regex.star, mem_ends_many,
    Pattern.repeated, mem_ends_empty] at h
  obtain ⟨m₁, ⟨g₁, opening, h₁, hopening, hthree, hmost⟩, m₂, h₂, m₃, ⟨g₃, sp, h₃, hsp, -⟩, m₄,
    ⟨g₄, h₄⟩, m₅, ⟨m₅', ⟨g₅, body, h₅, -⟩, rfl⟩, m₆, ⟨g₆, h₆⟩, m₇,
    ⟨g₇, closing, h₇, hclosing, hthree', hmost'⟩, rfl⟩ := h
  obtain ⟨word, hword, hspans, hgroups⟩ : ∃ word, (word = "json".toList ∨ word = []) ∧
      Spans m₁.cursor word m₂.cursor ∧ m₂.groups = m₁.groups := by
    rcases h₂ with ⟨g₂, h₂⟩ | rfl
    · exact ⟨_, .inl rfl, h₂, g₂⟩
    · exact ⟨[], .inr rfl, .refl _, rfl⟩
  have hticks : ∀ run : List Char, (∀ c ∈ run, isBacktick c = true) → 3 ≤ run.length →
      (∀ m, some 3 = some m → run.length ≤ m) → run = ticks := by
    intro run hrun hleast hmost
    have hall : ∀ c ∈ run, c = backtick := fun c hc => isBacktick_iff.1 (hrun c hc)
    rw [eq_replicate_of_mem hall, le_antisymm (hmost 3 rfl) hleast]
    rfl
  rw [hticks opening hopening hthree hmost] at h₁
  rw [hticks closing hclosing hthree' hmost'] at h₇
  have hbreak : "\n".toList = ['\n'] := by decide
  rw [hbreak] at h₄ h₆
  refine ⟨word, sp, body, hword, hsp, ?_, ?_⟩
  · simpa using h₁.trans (hspans.trans (h₃.trans (h₄.trans (h₅.trans (h₆.trans h₇)))))
  · rw [g₇, g₆, between_of_spans h₅]
    simp [g₅, g₄, g₃, hgroups, g₁]

lemma fenceCandidate_shape {fence : List Char} (h : fenceCandidate output = some fence) :
    ∃ pre opener post, Opens opener ∧ output = pre ++ (opener ++ (fence ++ '\n' :: backtick :: post)) := by
  obtain ⟨m, hexec, hgroup⟩ := Option.bind_eq_some_iff.1 h
  obtain ⟨pre, hpre, hhead, -⟩ := execFrom_eq_some hexec
  obtain ⟨word, sp, body, hword, hsp, hspans, hgroups⟩ := mem_ends_verdictFenceRe (mem_of_mem_head? hhead)
  obtain rfl : body = fence := by
    rw [hgroups, lookup_cons_self] at hgroup
    exact Option.some.inj hgroup
  refine ⟨pre, ticks ++ (word ++ sp) ++ ['\n'], [backtick, backtick] ++ m.stop.cursor.rest, ⟨⟨_, rfl⟩, ?_⟩, ?_⟩
  · -- backticks, the word and white space hold no quote, no backslash and no brace
    intro c hc
    have hkinds : c = backtick ∨ c ∈ "json".toList ∨ JsText.isSpace c = true := by
      simp only [ticks, mem_cons, mem_append, not_mem_nil, or_false] at hc
      rcases hc with ((rfl | rfl | rfl) | hc | hc) | rfl
      · exact .inl rfl
      · exact .inl rfl
      · exact .inl rfl
      · rcases hword with rfl | rfl
        · exact .inr (.inl hc)
        · simp at hc
      · exact .inr (.inr (hsp c hc))
      · exact .inr (.inr (by decide))
    rcases hkinds with rfl | hc | hc
    · decide
    · have hjson : c = 'j' ∨ c = 's' ∨ c = 'o' ∨ c = 'n' := by simpa using hc
      rcases hjson with rfl | rfl | rfl | rfl <;> decide
    · refine ⟨?_, ?_, ?_⟩ <;> rintro rfl <;> exact absurd hc (by decide)
  · simpa [ticks] using (hpre.trans hspans).rest

lemma lex_inside_plain {mid rest : List Char} (h : ∀ c ∈ mid, c ≠ '"' ∧ c ≠ '\\') :
    JsonText.lex .inside (mid ++ '\n' :: rest) = none := by
  induction mid with
  | nil => rfl
  | cons c mid ih =>
    obtain ⟨hquote, hslash⟩ := h c (by simp)
    have hrest := ih fun x hx => h x (by simp [hx])
    by_cases hcontrol : c.toNat < 0x20
    · simp [JsonText.lexStep, hquote, hslash, hcontrol]
    · simp [JsonText.lexStep, hquote, hslash, hcontrol, hrest]

lemma Opens.lex {opener rest : List Char} (h : Opens opener) (s : JsonText.LexState) :
    JsonText.lex s (opener ++ rest) = none := by
  obtain ⟨⟨mid, rfl⟩, hplain⟩ := h
  have hmid : JsonText.lex .inside (mid ++ '\n' :: rest) = none :=
    lex_inside_plain fun c hc => ⟨(hplain c (by simp [hc])).1, (hplain c (by simp [hc])).2.1⟩
  have htick : JsonText.lexStep s backtick = none ∨ JsonText.lexStep s backtick = some .inside := by
    cases s
    · exact .inl rfl
    · exact .inr rfl
    · exact .inr rfl
  rcases htick with htick | htick <;> simp [htick, hmid]

lemma inline_of_fence {numberOf : String → JsNumber} {fence inline : List Char}
    {fields : List (String × Json)} {value : Json} (hfence : fenceCandidate output = some fence)
    (hinline : inlineCandidate output = some inline) (hobject : JsonText.parse numberOf fence = some (.obj fields))
    (hvalue : JsonText.parse numberOf inline = some value) : value = .obj fields := by
  obtain ⟨pre, opener, post, hopens, houtput⟩ := fenceCandidate_shape hfence
  obtain ⟨pre', body', post', rfl, houtput', hpre', hpost'⟩ := inlineCandidate_shape hinline
  obtain ⟨sp, body, sp', rfl, hsp, hsp'⟩ := JsonText.parse_obj_shape hobject
  have hlex := JsonText.lex_of_parse hvalue
  have hlex' := JsonText.lex_of_parse hobject
  have hbraces : '\x7b' ∉ sp ∧ '\x7d' ∉ sp' :=
    ⟨fun h => absurd (hsp _ h) (by decide), fun h => absurd (hsp' _ h) (by decide)⟩
  by_cases hbefore : '\x7b' ∈ pre
  · -- the braces reach over the opening of the fence
    obtain ⟨p, q, rfl, hp⟩ := eq_append_cons_of_mem hbefore
    have hcut : q ++ opener ++ (sp ++ '\x7b' :: (body ++ '\x7d' :: sp') ++ '\n' :: backtick :: post) =
        body' ++ ['\x7d'] ++ post' := by
      have hsame := houtput.symm.trans houtput'
      simp only [append_assoc, cons_append] at hsame
      simpa using (Lists.append_cons_inj_left hp hpre' hsame).2
    rcases append_eq_append_iff.1 hcut with ⟨c, hc, -⟩ | ⟨c, -, hc⟩
    · have hopened : '\x7b' :: (body' ++ ['\x7d']) = '\x7b' :: q ++ (opener ++ c) := by simp [hc]
      rw [hopened, JsonText.lex_append] at hlex
      cases hq : JsonText.lex .outside ('\x7b' :: q) <;> simp [hq, hopens.lex] at hlex
    · exact absurd (by simp [hc]) hpost'
  · have hcut : body ++ '\x7d' :: (sp' ++ '\n' :: backtick :: post) = body' ++ '\x7d' :: post' := by
      have hsame := houtput.symm.trans houtput'
      have hnone : '\x7b' ∉ pre ++ (opener ++ sp) := by
        simp only [mem_append, not_or]
        exact ⟨hbefore, fun h => (hopens.plain _ h).2.2 rfl, hbraces.1⟩
      refine (Lists.append_cons_inj_left hnone hpre' (?_ : _ = pre' ++ '\x7b' :: _)).2
      simpa using hsame
    by_cases hafter : '\x7d' ∈ post
    · -- the braces reach over the end of the fence
      have hended : '\x7b' :: (body ++ '\x7d' :: sp') ++ ['\n', backtick] ++ post =
          '\x7b' :: (body' ++ ['\x7d']) ++ post' := by simpa using hcut
      have hobjectLex : JsonText.lex .outside ('\x7b' :: (body ++ '\x7d' :: sp')) = some .outside := by
        rwa [JsonText.lex_append, JsonText.lex_spaces hsp] at hlex'
      rcases append_eq_append_iff.1 hended with ⟨c, hc, -⟩ | ⟨c, -, hc⟩
      · rw [hc, append_assoc, JsonText.lex_append, hobjectLex] at hlex
        exact absurd hlex (by simp [JsonText.lexStep, backtick])
      · exact absurd (by simp [hc, hafter]) hpost'
    · have hnone : '\x7d' ∉ sp' ++ '\n' :: backtick :: post := by
        simp [hbraces.2, hafter, backtick]
      obtain ⟨rfl, -⟩ := Lists.append_cons_inj_right hnone hpost' hcut
      refine (JsonText.parse_unique hsp hsp' ?_ hvalue).symm
      simpa using hobject

end Places

/-! ## What the strict parser accepts -/

variable {host : NodeHost}

/-- The data that the strict parser accepts. -/
structure IsStrict (data : Json) (token : VerdictToken) (findings : List Json) : Prop where
  token : verdictToken? data = some token
  summary : (data.textAt "summary").isSome = true
  elems : (data.get? "findings").bind Json.elems? = some findings
  findings : ∀ f ∈ findings, isStrictFinding f = true
  steps : ((data.get? "next_steps").bind textList?).isSome = true

variable {data : Json} {v : ParsedVerdict}

lemma readStrict_eq_some (h : readStrict host data = some v) : ∃ token findings, IsStrict data token findings ∧
      v = { verdict := if token = .approve ∧ !findings.isEmpty then .needsAttention else token
            findings := findings.map (projectReviewFinding host) } := by
  unfold readStrict at h
  cases htoken : verdictToken? data with
  | none => simp [htoken] at h
  | some token =>
    cases helems : (data.get? "findings").bind Json.elems? with
    | none => simp [htoken, helems, guard] at h
    | some findings =>
      simp only [htoken, helems, Option.bind_eq_bind, Option.bind_some,
        Option.bind_eq_some_iff, Option.guard_eq_some', exists_const, pure, Option.some.injEq] at h
      obtain ⟨hsummary, hfindings, hsteps, rfl⟩ := h
      exact ⟨token, findings, ⟨htoken, hsummary, helems, all_eq_true.1 hfindings, hsteps⟩, rfl⟩

lemma prints_of_textList? {value : Json} (h : (textList? value).isSome = true) :
    (value.elems?.getD []).all prints = true := by
  obtain ⟨texts, htexts⟩ := Option.isSome_iff_exists.1 h
  obtain ⟨elems, helems, hmap⟩ := Option.bind_eq_some_iff.1 htexts
  rw [helems, Option.getD_some]
  clear h htexts helems
  induction elems generalizing texts with
  | nil => rfl
  | cons e elems ih =>
    cases e with
    | str text =>
      cases hrest : elems.mapM Json.text? with
      | none => simp [Json.text?, hrest] at hmap
      | some rest => simp [prints, ih rest hrest]
    | null | bool _ | num _ | arr _ | obj _ => simp [Json.text?] at hmap

lemma readStructured_of_isStrict {token : VerdictToken} {findings : List Json} (h : IsStrict data token findings) :
    readStructured host data = some { verdict := token, findings := findings.map (projectReviewFinding host) } := by
  have hsummary : (data.get? "summary").all prints = true := by
    obtain ⟨text, htext⟩ := Option.isSome_iff_exists.1 h.summary
    obtain ⟨value, hvalue, htext⟩ := Option.bind_eq_some_iff.1 htext
    cases value with
    | str text => simp [hvalue, prints]
    | null | bool _ | num _ | arr _ | obj _ => simp [Json.text?] at htext
  have hsteps : (((data.get? "next_steps").bind Json.elems?).getD []).all prints = true := by
    obtain ⟨texts, htexts⟩ := Option.isSome_iff_exists.1 h.steps
    obtain ⟨value, hvalue, htexts⟩ := Option.bind_eq_some_iff.1 htexts
    rw [hvalue, Option.bind_some]
    exact prints_of_textList? (by simp [htexts])
  simp [readStructured, h.token, h.elems, hsummary, hsteps]

variable {f : Json} {key : String}

lemma textAt_eq_some {text : String} (h : f.textAt key = some text) : f.get? key = some (.str text) := by
  obtain ⟨value, hvalue, htext⟩ := Option.bind_eq_some_iff.1 h
  cases value with
  | str t => simpa [Json.text?, hvalue] using htext
  | null | bool _ | num _ | arr _ | obj _ => simp [Json.text?] at htext

lemma isLoose_of_isOptional (h : isOptional f key (·.text?.isSome) = true) : isLoose f key = false := by
  unfold isOptional at h
  unfold isLoose nullableText
  cases hvalue : f.get? key with
  | none => rfl
  | some value =>
    cases value with
    | str t => rfl
    | null | bool _ | num _ | arr _ | obj _ => simp [hvalue, Json.text?] at h

lemma prints_of_isOptional {ok : Json → Bool}
    (hok : ∀ value, ok value = true → prints value = true) (h : isOptional f key ok = true) :
    (f.get? key).all prints = true := by
  unfold isOptional at h
  cases hvalue : f.get? key with
  | none => rfl
  | some value => exact hok value (by simpa [hvalue] using h)

lemma projectReviewFinding_of_isStrict (host : NodeHost) (h : isStrictFinding f = true) :
    ∃ l, projectReviewFinding host f = some l ∧ l.looseCategory = false ∧
      l.looseAcknowledgment = false ∧ l.finding.title.isSome = true := by
  simp only [isStrictFinding, Bool.and_eq_true] at h
  obtain ⟨⟨⟨⟨⟨⟨⟨⟨⟨⟨⟨⟨hseverity, htitle⟩, hbody⟩, hconfidence⟩, hrecommendation⟩, hfile⟩, hstart⟩,
    hend⟩, hcategory⟩, -⟩, -⟩, hack⟩, -⟩ := h
  obtain ⟨severity, hseverity⟩ : ∃ t, f.textAt "severity" = some t := by
    cases ht : f.textAt "severity" with
    | none => simp [ht] at hseverity
    | some t => exact ⟨t, rfl⟩
  obtain ⟨title, htitle⟩ := Option.isSome_iff_exists.1 htitle
  obtain ⟨body, hbody⟩ := Option.isSome_iff_exists.1 hbody
  obtain ⟨recommendation, hrecommendation⟩ := Option.isSome_iff_exists.1 hrecommendation
  obtain ⟨file, hfile⟩ : ∃ file, nullableText f "file" = some file := by
    have hloose := isLoose_of_isOptional hfile
    exact Option.isSome_iff_exists.1 (by simpa [isLoose] using hloose)
  have hnumber : ∀ value : Json, value.number?.isSome = true → prints value = true := by
    intro value hvalue
    cases value <;> simp_all [Json.number?, prints]
  have htext : ∀ value : Json, value.text?.isSome = true → prints value = true := by
    intro value hvalue
    cases value <;> simp_all [Json.text?, prints]
  have hprinted : (printedFields.all fun key => (f.get? key).all prints) = true := by
    have hvalue : (f.get? "confidence").all prints = true := by
      cases hc : f.get? "confidence" with
      | none => rfl
      | some value =>
        cases value <;> simp_all [Json.rationalAt, Json.rational?, prints]
    simp [printedFields, prints_of_isOptional hnumber hstart, prints_of_isOptional hnumber hend,
      hvalue, prints_of_isOptional htext hcategory]
  have hobject : f ≠ .null := by
    rintro rfl
    simp [Json.textAt, Json.get?] at htitle
  have hread : ∀ {key t}, f.textAt key = some t → nullableText f key = some (some t) := by
    intro key t ht
    simp [nullableText, textAt_eq_some ht]
  have hword : severityField f = some (.word severity) := by simp [severityField, textAt_eq_some hseverity]
  unfold projectReviewFinding
  split
  · exact absurd rfl hobject
  · simp only [hprinted, guard, if_true, hword, hread htitle, hread hbody, hfile,
      hread hrecommendation, bind, Option.bind, pure]
    exact ⟨_, rfl, isLoose_of_isOptional hcategory, isLoose_of_isOptional hack, rfl⟩

lemma firstVerdict_eq (read : Json → Option ParsedVerdict) (output : List Char) :
    firstVerdict host read output =
      ((fenceCandidate output).bind fun c => (JsonText.parse host.numberOf c).bind read).or
        ((inlineCandidate output).bind fun c => (JsonText.parse host.numberOf c).bind read) := by
  have hone : ∀ (f : List Char → Option ParsedVerdict) (o : Option (List Char)), o.toList.findSome? f = o.bind f := by
    intro f o
    cases o with
    | none => rfl
    | some c => cases h : f c <;> simp [h]
  rw [firstVerdict, verdictCandidates, findSome?_append, hone, hone]

lemma exists_obj_of_readStructured (h : readStructured host data = some v) : ∃ fields, data = .obj fields := by
  cases data with
  | obj fields => exact ⟨fields, rfl⟩
  | null | bool _ | num _ | str _ | arr _ =>
    simp [readStructured, verdictToken?, Json.textAt, Json.get?] at h

lemma firstVerdict_of_strict (h : parseStrictVerdict host output = some v) : ∃ data, readStrict host data = some v ∧
      firstVerdict host (readStructured host) output = readStructured host data := by
  have hstructured : ∀ {data : Json}, readStrict host data = some v → ∃ w, readStructured host data = some w := by
    intro data hstrict
    obtain ⟨token, findings, hstrict, -⟩ := readStrict_eq_some hstrict
    exact ⟨_, readStructured_of_isStrict hstrict⟩
  rw [parseStrictVerdict, firstVerdict_eq, Option.or_eq_some_iff] at h
  rw [firstVerdict_eq]
  rcases h with hfence | ⟨-, hinline⟩
  · obtain ⟨fence, hfence, hread⟩ := Option.bind_eq_some_iff.1 hfence
    obtain ⟨data, hparse, hread⟩ := Option.bind_eq_some_iff.1 hread
    obtain ⟨w, hw⟩ := hstructured hread
    exact ⟨data, hread, by simp [hfence, hparse, hw]⟩
  · obtain ⟨inline, hinline, hread⟩ := Option.bind_eq_some_iff.1 hinline
    obtain ⟨data, hparse, hread⟩ := Option.bind_eq_some_iff.1 hread
    refine ⟨data, hread, ?_⟩
    simp only [hinline, hparse, Option.bind_some]
    cases hlocal : (fenceCandidate output).bind fun c =>
        (JsonText.parse host.numberOf c).bind (readStructured host) with
    | none => rfl
    | some w =>
      -- the fence has a token, so both places hold the same object
      obtain ⟨fence, hfence, hlocal⟩ := Option.bind_eq_some_iff.1 hlocal
      obtain ⟨data', hparse', hlocal⟩ := Option.bind_eq_some_iff.1 hlocal
      obtain ⟨fields, rfl⟩ := exists_obj_of_readStructured hlocal
      obtain rfl := inline_of_fence hfence hinline hparse' hparse
      rw [hlocal]
      rfl

end AgentPipeline.Review
