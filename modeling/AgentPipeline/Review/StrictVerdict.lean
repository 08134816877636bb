import AgentPipeline.Foundation.JsMatches
import AgentPipeline.Foundation.JsonPrint
import AgentPipeline.Review.VerdictParsing

/-!
# StrictVerdict: verdicts of the schema, printed and read back

The verdict parsers with every field of what they return.

* `StrictVerdict`: what `parseStrictVerdict` returns: every finding has the fields of the schema;
* `StructuredVerdict`: what `parseStructuredVerdict` returns of an object with a verdict token: the
  fields as they stand;
* `serializeMergedVerdict`: a verdict printed in a fence.

No line of a JSON text begins with a backtick, so the fence that is found is the one that was
written (`fenceCandidate_fenced`). A line number that is not finite is printed as `null`, which is
no line number (`strictFinding?_printed`).
-/

namespace AgentPipeline.Review

open List JsRegExp

/-! ## Objects of some fields -/

/-- An object of the fields that are there, in the order of the keys. -/
def ofFields (keys : List String) (field : String → Option Json) : Json :=
  .obj (keys.filterMap fun key => (field key).map (key, ·))

variable {key : String} {numberOf : String → JsNumber}

section OfFields

variable {keys : List String} {field : String → Option Json}

lemma lookup_fields :
    (keys.filterMap fun k => (field k).map (k, ·)).lookup key = if key ∈ keys then field key else none := by
  induction keys with
  | nil => rfl
  | cons k keys ih =>
    by_cases hk : key = k
    · subst hk
      cases hfield : field key with
      | none =>
        rw [filterMap_cons_none (by simp [hfield]), ih]
        split <;> simp [hfield]
      | some value =>
        rw [filterMap_cons_some (b := (key, value)) (by simp [hfield])]
        simp
    · have hne : (key == k) = false := by simpa using hk
      cases hfield : field k with
      | none =>
        rw [filterMap_cons_none (by simp [hfield]), ih]
        simp [hk]
      | some value =>
        rw [filterMap_cons_some (b := (k, value)) (by simp [hfield])]
        simp [lookup_cons, hne, ih, hk]

@[simp] lemma get?_ofFields (key : String) :
    (ofFields keys field).get? key = if key ∈ keys then field key else none := lookup_fields

lemma printed_ofFields :
    (ofFields keys field).printed = ofFields keys fun key => (field key).map Json.printed := by
  unfold ofFields
  rw [Json.printed, Json.printedFields_eq_map, map_filterMap]
  congr 1
  refine filterMap_congr fun key _ => ?_
  cases hfield : field key with
  | none => simp [hfield]
  | some value => simp [hfield]

lemma ofFields_congr {field' : String → Option Json} (h : ∀ key ∈ keys, field key = field' key) :
    ofFields keys field = ofFields keys field' := by
  unfold ofFields
  congr 1
  refine filterMap_congr fun key hkey => ?_
  rw [h key hkey]

lemma ofFields_get? : ofFields keys (ofFields keys field).get? = ofFields keys field := by
  refine ofFields_congr fun key hkey => ?_
  rw [get?_ofFields, if_pos hkey]

lemma readable_ofFields {numberText : ℚ → String}
    (hnodup : keys.Nodup) (hindex : ∀ key ∈ keys, JsonText.isIndexKey key = false)
    (hfield : ∀ key value, field key = some value → JsonText.Readable numberOf numberText value) :
    JsonText.Readable numberOf numberText (ofFields keys field) := by
  have hkeys : (keys.filterMap fun key => (field key).map (key, ·)).map Prod.fst =
      keys.filter fun key => (field key).isSome := by
    clear hnodup hindex
    induction keys with
    | nil => rfl
    | cons k keys ih =>
      cases hk : field k with
      | none =>
        rw [filterMap_cons_none (by simp [hk]), filter_cons_of_neg (by simp [hk]), ih]
      | some value =>
        rw [filterMap_cons_some (b := (k, value)) (by simp [hk]), filter_cons_of_pos (by simp [hk]), map_cons, ih]
  refine ⟨JsonText.ofMembers_eq_self ?_ ?_, ?_⟩
  · rw [hkeys]
    exact hnodup.sublist filter_sublist
  · rw [hkeys]
    exact fun key hkey => hindex key (mem_of_mem_filter hkey)
  · clear hnodup hindex hkeys
    induction keys with
    | nil => exact trivial
    | cons k keys ih =>
      cases hk : field k with
      | none =>
        rw [filterMap_cons_none (by simp [hk])]
        exact ih
      | some value =>
        rw [filterMap_cons_some (b := (k, value)) (by simp [hk])]
        exact ⟨hfield k value hk, ih⟩

end OfFields

/-! ## The schema -/

/-- `spec_divergence_direction`. -/
inductive SpecDivergenceDirection where
  | codeBehindSpec | specBehindCode
deriving DecidableEq, Repr

def SpecDivergenceDirection.name : SpecDivergenceDirection → String
  | .codeBehindSpec => "code-behind-spec"
  | .specBehindCode => "spec-behind-code"

def specDivergenceDirection? (value : Json) : Option SpecDivergenceDirection :=
  match value.text? with
  | some "code-behind-spec" => some .codeBehindSpec
  | some "spec-behind-code" => some .specBehindCode
  | _ => none

/-- A finding as `validateStrictFinding` returns it. -/
structure StrictFinding where
  severity : Severity
  title : String
  body : String
  file : Option String := none
  lineStart : Option JsNumber := none
  lineEnd : Option JsNumber := none
  confidence : ℚ
  recommendation : String
  category : Option String := none
  specDivergenceDirection : Option SpecDivergenceDirection := none
  blocking : Option Bool := none
  priorRoundAcknowledgment : Option String := none
  rejectedAlternatives : Option (List String) := none
deriving DecidableEq, Repr

/-- A verdict as `parseStrictVerdict` returns it, without the commit that it is called with. -/
structure StrictVerdict where
  verdict : VerdictToken
  summary : String
  findings : List StrictFinding
  nextSteps : List String
deriving DecidableEq, Repr

/-- The keys of `projectReviewFinding`, in its order. -/
def findingKeys : List String :=
  ["severity", "title", "body", "file", "line_start", "line_end", "confidence", "recommendation",
    "category", "spec_divergence_direction", "blocking", "prior_round_acknowledgment",
    "rejected_alternatives"]

def textsJson (texts : List String) : Json := .arr (texts.map .str)

/-- The own property of a finding. -/
def StrictFinding.field (f : StrictFinding) : String → Option Json
  | "severity" => some (.str f.severity.name)
  | "title" => some (.str f.title)
  | "body" => some (.str f.body)
  | "file" => f.file.map .str
  | "line_start" => f.lineStart.map .num
  | "line_end" => f.lineEnd.map .num
  | "confidence" => some (.num (.finite f.confidence))
  | "recommendation" => some (.str f.recommendation)
  | "category" => f.category.map .str
  | "spec_divergence_direction" => f.specDivergenceDirection.map fun d => .str d.name
  | "blocking" => f.blocking.map .bool
  | "prior_round_acknowledgment" => f.priorRoundAcknowledgment.map .str
  | "rejected_alternatives" => f.rejectedAlternatives.map textsJson
  | _ => none

def StrictFinding.toJson (f : StrictFinding) : Json := ofFields findingKeys f.field

/-- `validateStrictFinding(candidate)`. -/
def strictFinding? (f : Json) : Option StrictFinding := do
  return {
    severity := ← (f.textAt "severity").bind severityOfWord
    title := ← f.textAt "title"
    body := ← f.textAt "body"
    confidence := ← (f.rationalAt "confidence").filter fun q => 0 ≤ q ∧ q ≤ 1
    recommendation := ← f.textAt "recommendation"
    file := ← optionalAt f "file" Json.text?
    lineStart := ← optionalAt f "line_start" Json.number?
    lineEnd := ← optionalAt f "line_end" Json.number?
    category := ← optionalAt f "category" Json.text?
    specDivergenceDirection := ← optionalAt f "spec_divergence_direction" specDivergenceDirection?
    blocking := ← optionalAt f "blocking" Json.bool?
    priorRoundAcknowledgment := ← optionalAt f "prior_round_acknowledgment" Json.text?
    rejectedAlternatives := ← optionalAt f "rejected_alternatives" textList? }

/-- What `parseStrictVerdict` makes of a candidate. -/
def strictVerdict? (data : Json) : Option StrictVerdict := do
  let token ← verdictToken? data
  let summary ← data.textAt "summary"
  let raw ← (data.get? "findings").bind Json.elems?
  let findings ← raw.mapM strictFinding?
  let nextSteps ← (data.get? "next_steps").bind textList?
  return {
    -- an approval with findings contradicts itself
    verdict := if token = .approve ∧ !findings.isEmpty then .needsAttention else token
    summary, findings, nextSteps }

/-- A verdict as `parseStructuredVerdict` returns it of an object with a token. -/
structure StructuredVerdict where
  verdict : VerdictToken
  summary : Json
  findings : List Json
  nextSteps : List Json

/-- `projectReviewFinding(raw)`, for an object; other values are passed on. -/
def projectFields : Json → Json
  | raw@(.obj _) | raw@(.arr _) => ofFields findingKeys raw.get?
  | raw => raw

/-- `data.summary ?? ""`. -/
def summaryOf (data : Json) : Json :=
  match data.get? "summary" with
  | none | some .null => .str ""
  | some value => value

/-- What `parseStructuredVerdict` makes of a candidate. -/
def structuredVerdict? (data : Json) : Option StructuredVerdict :=
  (verdictToken? data).map fun token =>
    { verdict := token
      summary := summaryOf data
      findings := (((data.get? "findings").bind Json.elems?).getD []).map projectFields
      nextSteps := ((data.get? "next_steps").bind Json.elems?).getD [] }

section Parsers

variable (host : NodeHost)

/-- The first candidate that can be read. -/
def firstRead {α : Type} (read : Json → Option α) (output : List Char) : Option α :=
  (verdictCandidates output).findSome? fun candidate =>
    (JsonText.parse host.numberOf candidate).bind read

/-- `parseStrictVerdict(output)`, with every field. -/
def strictVerdict (output : List Char) : Option StrictVerdict := firstRead host strictVerdict? output

/-- `parseStructuredVerdict(output)` up to the prose, with every field. -/
def structuredVerdict (output : List Char) : Option StructuredVerdict :=
  firstRead host structuredVerdict? output

end Parsers

/-! ## A finding that was printed -/

lemma printedElems_map_str (texts : List String) : Json.printedElems (texts.map .str) = texts.map .str := by
  rw [Json.printedElems_eq_map, map_map]
  rfl

lemma textList?_textsJson (texts : List String) : textList? (textsJson texts) = some texts := by
  rw [textsJson, textList?, Json.elems?, Option.bind_some, Lists.mapM_eq_some_iff, map_map]
  rfl

namespace StrictFinding

variable (f : StrictFinding)

def IsFiniteLine (line : Option JsNumber) : Prop := ∀ n, line = some n → ∃ q, n = .finite q

/-- The lines of the finding are finite numbers, where they are there. -/
def LinesFinite : Prop := IsFiniteLine f.lineStart ∧ IsFiniteLine f.lineEnd

lemma get?_printed (hkey : key ∈ findingKeys) : f.toJson.printed.get? key = (f.field key).map Json.printed := by
  rw [toJson, printed_ofFields, get?_ofFields, if_pos hkey]

lemma optionalAt_text (key : String) {text : Option String} (hkey : key ∈ findingKeys)
    (hfield : f.field key = text.map .str) : optionalAt f.toJson.printed key Json.text? = some text := by
  rw [optionalAt, f.get?_printed hkey, hfield]
  cases text <;> rfl

lemma textAt_printed (key : String) {text : String} (hkey : key ∈ findingKeys)
    (hfield : f.field key = some (.str text)) : f.toJson.printed.textAt key = some text := by
  rw [Json.textAt, f.get?_printed hkey, hfield]
  rfl

lemma optionalAt_line (key : String) {line : Option JsNumber} (hkey : key ∈ findingKeys)
    (hfield : f.field key = line.map .num) :
    (IsFiniteLine line → optionalAt f.toJson.printed key Json.number? = some line) ∧
      (¬IsFiniteLine line → optionalAt f.toJson.printed key Json.number? = none) := by
  rw [optionalAt, f.get?_printed hkey, hfield]
  cases line with
  | none => exact ⟨fun _ => rfl, fun h => absurd (fun _ hn => by cases hn) h⟩
  | some n =>
    cases n with
    | finite q =>
      refine ⟨fun _ => rfl, fun h => absurd (fun n hn => ?_) h⟩
      exact ⟨q, (Option.some.inj hn).symm⟩
    | infinity negative =>
      refine ⟨fun h => ?_, fun _ => rfl⟩
      obtain ⟨q, hq⟩ := h _ rfl
      cases hq
    | nan =>
      refine ⟨fun h => ?_, fun _ => rfl⟩
      obtain ⟨q, hq⟩ := h _ rfl
      cases hq

variable {f}

lemma strictFinding?_printed (hconfidence : 0 ≤ f.confidence ∧ f.confidence ≤ 1) :
    (f.LinesFinite → strictFinding? f.toJson.printed = some f) ∧
      (¬f.LinesFinite → strictFinding? f.toJson.printed = none) := by
  have hseverity : (f.toJson.printed.textAt "severity").bind severityOfWord = some f.severity := by
    rw [f.textAt_printed "severity" (by decide) rfl, Option.bind_some, severityOfWord_name]
  have hrange : (f.toJson.printed.rationalAt "confidence").filter (fun q => 0 ≤ q ∧ q ≤ 1) = some f.confidence := by
    have hvalue : f.toJson.printed.rationalAt "confidence" = some f.confidence := by
      rw [Json.rationalAt, f.get?_printed (by decide)]
      rfl
    rw [hvalue, Option.filter_some, if_pos (by simpa using hconfidence)]
  have hdirection : optionalAt f.toJson.printed "spec_divergence_direction"
      specDivergenceDirection? = some f.specDivergenceDirection := by
    rw [optionalAt, f.get?_printed (by decide)]
    have hfield : f.field "spec_divergence_direction" = f.specDivergenceDirection.map fun d => .str d.name := rfl
    rw [hfield]
    cases f.specDivergenceDirection with
    | none => rfl
    | some d => cases d <;> rfl
  have hblocking : optionalAt f.toJson.printed "blocking" Json.bool? = some f.blocking := by
    rw [optionalAt, f.get?_printed (by decide)]
    have hfield : f.field "blocking" = f.blocking.map .bool := rfl
    rw [hfield]
    cases f.blocking <;> rfl
  have halternatives : optionalAt f.toJson.printed "rejected_alternatives" textList? = some f.rejectedAlternatives := by
    rw [optionalAt, f.get?_printed (by decide)]
    have hfield : f.field "rejected_alternatives" = f.rejectedAlternatives.map textsJson := rfl
    rw [hfield]
    cases f.rejectedAlternatives with
    | none => rfl
    | some texts =>
      have hprinted : (textsJson texts).printed = textsJson texts := by
        rw [textsJson, Json.printed, printedElems_map_str]
      simp [hprinted, textList?_textsJson]
  obtain ⟨hstart, hstart'⟩ := f.optionalAt_line "line_start" (by decide) rfl
  obtain ⟨hend, hend'⟩ := f.optionalAt_line "line_end" (by decide) rfl
  unfold strictFinding?
  rw [hseverity, hrange, hdirection, hblocking, halternatives, f.textAt_printed "title" (by decide) rfl,
    f.textAt_printed "body" (by decide) rfl, f.textAt_printed "recommendation" (by decide) rfl,
    f.optionalAt_text "file" (by decide) rfl, f.optionalAt_text "category" (by decide) rfl,
    f.optionalAt_text "prior_round_acknowledgment" (by decide) rfl]
  constructor
  · rintro ⟨hs, he⟩
    rw [hstart hs, hend he]
    rfl
  · intro hlines
    by_cases hs : IsFiniteLine f.lineStart
    · have he : ¬IsFiniteLine f.lineEnd := fun he => hlines ⟨hs, he⟩
      rw [hstart hs, hend' he]
      rfl
    · rw [hstart' hs]
      rfl

end StrictFinding

/-! ## Printing a verdict -/

def VerdictToken.word : VerdictToken → String
  | .approve => "approve"
  | .needsAttention => "needs-attention"

/-- The body of `serializeMergedVerdict(v)`. -/
def StrictVerdict.toJson (v : StrictVerdict) : Json :=
  .obj
    [("verdict", .str v.verdict.word), ("summary", .str v.summary),
      ("findings", .arr (v.findings.map StrictFinding.toJson)),
      ("next_steps", textsJson v.nextSteps)]

/-- A JSON text in a fence. -/
def fenced (text : List Char) : List Char :=
  ticks ++ ("json".toList ++ '\n' :: (text ++ '\n' :: (ticks ++ ['\n'])))

def serializeMergedVerdict (host : NodeHost) (v : StrictVerdict) : List Char :=
  fenced (JsonText.print (.indented 2) host.numberText 0 v.toJson)

/-! ## The fence that is found -/

lemma lex_fence (s : JsonText.LexState) (rest : List Char) : JsonText.lex s ('\n' :: backtick :: rest) = none := by
  cases s with
  | outside => simp [JsonText.lexStep, backtick]
  | inside => simp [JsonText.lexStep]
  | escaped => simp [JsonText.lexStep]

variable {text body : List Char} {value : Json}

lemma eq_of_closes {rest : List Char} (hparse : JsonText.parse numberOf text = some value)
    (h : text ++ '\n' :: (ticks ++ ['\n']) = body ++ '\n' :: (ticks ++ rest)) : body = text := by
  have hlex := JsonText.lex_of_parse hparse
  rcases append_eq_append_iff.1 h with ⟨c, rfl, hc⟩ | ⟨c, rfl, hc⟩
  · -- the end would begin after the one that was written
    cases c with
    | nil => simp
    | cons x c =>
      have hlength := congrArg List.length hc
      simp [ticks] at hlength
      obtain ⟨rfl, rfl⟩ : c = [] ∧ rest = [] := by
        constructor
        · exact eq_nil_of_length_eq_zero (by omega)
        · exact eq_nil_of_length_eq_zero (by omega)
      simp [ticks, backtick] at hc
  · cases c with
    | nil => simp
    | cons x c =>
      -- it would begin inside of the text
      obtain ⟨rfl, hrest⟩ := List.cons.inj hc
      have hinside : ∃ rest', c ++ '\n' :: (ticks ++ ['\n']) = backtick :: rest' := ⟨_, hrest.symm⟩
      cases c with
      | nil =>
        obtain ⟨rest', hrest'⟩ := hinside
        exact absurd (List.cons.inj hrest').1 (by decide)
      | cons y c =>
        obtain ⟨rest', hrest'⟩ := hinside
        obtain ⟨rfl, -⟩ := List.cons.inj hrest'
        rw [JsonText.lex_append] at hlex
        cases hbody : JsonText.lex .outside body with
        | none => simp [hbody] at hlex
        | some s =>
          rw [hbody, Option.bind_some, lex_fence] at hlex
          cases hlex

variable {s e : Place}

lemma mem_ends_verdictFenceRe_of
    (hspans : Spans s.cursor (ticks ++ ("json".toList ++ '\n' :: (body ++ '\n' :: ticks))) e.cursor)
    (hgroups : e.groups = (1, body) :: s.groups) : e ∈ ends verdictFenceRe s := by
  obtain ⟨c₁, h₁, h⟩ := hspans.split
  obtain ⟨c₂, h₂, h⟩ := h.split
  obtain ⟨c₄, h₄, h⟩ := Spans.split (u := ['\n']) h
  obtain ⟨c₅, h₅, h⟩ := h.split
  obtain ⟨c₆, h₆, h₇⟩ := Spans.split (u := ['\n']) h
  have hall : ∀ c ∈ ticks, isBacktick c = true := all_eq_true.1 (by decide)
  have hmost : ∀ m, some 3 = some m → ticks.length ≤ m := by
    intro m hm
    obtain rfl := Option.some.inj hm
    exact le_refl 3
  simp only [verdictFenceRe, mem_ends_sequence_cons, mem_ends_text, mem_ends_sequence_nil,
    mem_ends_group, mem_ends_lazy, Regex.optional, mem_ends_alt, Regex.star, mem_ends_many,
    Pattern.repeated, mem_ends_empty]
  refine ⟨⟨c₁, s.groups⟩, ⟨rfl, ticks, h₁, hall, le_refl 3, hmost⟩, ⟨c₂, s.groups⟩,
    .inl ⟨rfl, h₂⟩, ⟨c₂, s.groups⟩, ⟨rfl, [], .refl _, by simp⟩, ⟨c₄, s.groups⟩, ⟨rfl, h₄⟩,
    ⟨c₅, (1, between c₄ c₅) :: s.groups⟩, ⟨⟨c₅, s.groups⟩, ⟨rfl, body, h₅, by simp⟩, rfl⟩,
    ⟨c₆, (1, between c₄ c₅) :: s.groups⟩, ⟨rfl, h₆⟩, e, ⟨?_, ticks, h₇, hall, le_refl 3, hmost⟩, rfl⟩
  rw [hgroups, between_of_spans h₅]

lemma fenceCandidate_fenced (hparse : JsonText.parse numberOf ('\x7b' :: text) = some value) :
    fenceCandidate (fenced ('\x7b' :: text)) = some ('\x7b' :: text) := by
  obtain ⟨c, hc⟩ : ∃ c : Cursor, Spans ⟨none, fenced ('\x7b' :: text)⟩
      (ticks ++ ("json".toList ++ '\n' :: ('\x7b' :: text ++ '\n' :: ticks))) c :=
    ⟨_, exists_spans (show fenced ('\x7b' :: text) = _ ++ ['\n'] by simp [fenced])⟩
  have hmem : (⟨c, [(1, '\x7b' :: text)]⟩ : Place) ∈
      ends verdictFenceRe { cursor := ⟨none, fenced ('\x7b' :: text)⟩ } :=
    mem_ends_verdictFenceRe_of hc rfl
  have hhead := head?_eq_of_unique hmem fun e he => ?_
  · rw [fenceCandidate, exec_of_head hhead]
    rfl
  · obtain ⟨word, sp, body, hword, hsp, hspans, hgroups⟩ := mem_ends_verdictFenceRe he
    have hrest : "json".toList ++ '\n' :: ('\x7b' :: text ++ '\n' :: (ticks ++ ['\n'])) =
        word ++ (sp ++ '\n' :: (body ++ '\n' :: (ticks ++ e.cursor.rest))) := by
      refine @append_cancel_left _ ticks _ _ ?_
      simpa [fenced] using hspans.rest
    obtain rfl : word = "json".toList := by
      refine hword.resolve_right fun hnil => ?_
      -- the word would be among the spaces
      subst hnil
      cases sp with
      | nil => exact absurd (List.cons.inj hrest).1 (by decide)
      | cons x sp =>
        obtain ⟨hx, -⟩ := List.cons.inj hrest
        exact absurd (hsp x (by simp)) (by rw [← hx]; decide)
    have hline := append_cancel_left hrest
    obtain rfl : sp = [] := by
      cases sp with
      | nil => rfl
      | cons x sp =>
        obtain ⟨-, htail⟩ := List.cons.inj hline
        cases sp with
        | nil => exact absurd (List.cons.inj htail).1 (by decide)
        | cons y sp =>
          obtain ⟨hy, -⟩ := List.cons.inj htail
          exact absurd (hsp y (by simp)) (by rw [← hy]; decide)
    obtain rfl := eq_of_closes hparse (List.cons.inj hline).2
    refine Place.eq_of hgroups ?_
    exact Spans.unique hspans (by simpa using hc)

/-! ## Reading it back -/

variable {host : NodeHost}

/-- The number is written as a numeral that is read as it. -/
abbrev NumberReadsBack (host : NodeHost) (q : ℚ) : Prop :=
  JsonText.ReadsBack host.numberOf host.numberText q

/-- The finite numbers of a finding are read as they were written. -/
structure StrictFinding.NumbersReadBack (host : NodeHost) (f : StrictFinding) : Prop where
  confidence : NumberReadsBack host f.confidence
  lineStart : ∀ q, f.lineStart = some (.finite q) → NumberReadsBack host q
  lineEnd : ∀ q, f.lineEnd = some (.finite q) → NumberReadsBack host q

lemma readable_printed_number {n : JsNumber} (h : ∀ q, n = .finite q → NumberReadsBack host q) :
    JsonText.Readable host.numberOf host.numberText (Json.num n).printed := by
  cases n with
  | finite q => exact h q rfl
  | infinity _ => exact trivial
  | nan => exact trivial

lemma printed_textsJson (texts : List String) : (textsJson texts).printed = textsJson texts := by
  rw [textsJson, Json.printed, printedElems_map_str]

lemma readable_textsJson (texts : List String) : JsonText.Readable host.numberOf host.numberText (textsJson texts) := by
  refine JsonText.readableElems_iff.2 fun value hvalue => ?_
  obtain ⟨text, -, rfl⟩ := mem_map.1 hvalue
  exact trivial

lemma StrictFinding.readable_printed {f : StrictFinding} (h : f.NumbersReadBack host) :
    JsonText.Readable host.numberOf host.numberText f.toJson.printed := by
  rw [toJson, printed_ofFields]
  refine readable_ofFields (by decide) (by decide) fun key value hvalue => ?_
  obtain ⟨field, hfield, rfl⟩ := Option.map_eq_some_iff.1 hvalue
  unfold StrictFinding.field at hfield
  split at hfield
  all_goals try (obtain rfl := Option.some.inj hfield; exact trivial)
  all_goals try (obtain ⟨value, -, rfl⟩ := Option.map_eq_some_iff.1 hfield; exact trivial)
  · obtain ⟨n, hn, rfl⟩ := Option.map_eq_some_iff.1 hfield
    exact readable_printed_number fun q hq => h.lineStart q (hq ▸ hn)
  · obtain ⟨n, hn, rfl⟩ := Option.map_eq_some_iff.1 hfield
    exact readable_printed_number fun q hq => h.lineEnd q (hq ▸ hn)
  · obtain rfl := Option.some.inj hfield
    exact h.confidence
  · obtain ⟨texts, -, rfl⟩ := Option.map_eq_some_iff.1 hfield
    rw [printed_textsJson]
    exact readable_textsJson texts
  · cases hfield

namespace StrictVerdict

variable {v : StrictVerdict}

lemma printed_toJson : v.toJson.printed = .obj
      [("verdict", .str v.verdict.word), ("summary", .str v.summary),
        ("findings", .arr (v.findings.map fun f => f.toJson.printed)),
        ("next_steps", textsJson v.nextSteps)] := by
  simp only [toJson, Json.printed, Json.printedFields, Json.printedField,
    Json.printedElems_eq_map, map_map, printed_textsJson]
  rfl

lemma parse_print (h : ∀ f ∈ v.findings, f.NumbersReadBack host) :
    JsonText.parse host.numberOf (JsonText.print (.indented 2) host.numberText 0 v.toJson) = some v.toJson.printed := by
  have hfindings : ∀ value ∈ v.findings.map fun f => f.toJson.printed,
      JsonText.Readable host.numberOf host.numberText value := by
    intro value hvalue
    obtain ⟨f, hf, rfl⟩ := mem_map.1 hvalue
    exact StrictFinding.readable_printed (h f hf)
  have hreadable : JsonText.Readable host.numberOf host.numberText v.toJson.printed := by
    rw [printed_toJson]
    refine ⟨JsonText.ofMembers_eq_self ?_ ?_, trivial, trivial, JsonText.readableElems_iff.2 hfindings,
      readable_textsJson v.nextSteps, trivial⟩
    · exact (by decide : ["verdict", "summary", "findings", "next_steps"].Nodup)
    · exact (by decide : ∀ key ∈ ["verdict", "summary", "findings", "next_steps"], JsonText.isIndexKey key = false)
  rw [← JsonText.print_printed]
  have hparse := JsonText.parse_print (.indented 2) hreadable [] [] (by simp) (by simp) 0
  simpa using hparse

lemma fenceCandidate_serialized (h : ∀ f ∈ v.findings, f.NumbersReadBack host) :
    fenceCandidate (serializeMergedVerdict host v) = some (JsonText.print (.indented 2) host.numberText 0 v.toJson) :=
  fenceCandidate_fenced (parse_print h)

end StrictVerdict

lemma verdictToken?_word {data : Json} (token : VerdictToken)
    (h : data.get? "verdict" = some (.str token.word)) : verdictToken? data = some token := by
  rw [verdictToken?, Json.textAt, h]
  cases token <;> rfl

lemma mapM_strictFinding? {findings : List StrictFinding}
    (hconfidence : ∀ f ∈ findings, 0 ≤ f.confidence ∧ f.confidence ≤ 1) :
    ((∀ f ∈ findings, f.LinesFinite) → (findings.map fun f => f.toJson.printed).mapM strictFinding? = some findings) ∧
      ((¬∀ f ∈ findings, f.LinesFinite) → (findings.map fun f => f.toJson.printed).mapM strictFinding? = none) := by
  induction findings with
  | nil => exact ⟨fun _ => rfl, fun h => absurd (by simp) h⟩
  | cons f findings ih =>
    obtain ⟨hread, hnot⟩ := StrictFinding.strictFinding?_printed (hconfidence f (by simp))
    obtain ⟨hreads, hnots⟩ := ih fun g hg => hconfidence g (by simp [hg])
    simp only [map_cons, mapM_cons, forall_mem_cons]
    constructor
    · rintro ⟨hf, hfindings⟩
      rw [hread hf, hreads hfindings]
      rfl
    · intro hlines
      by_cases hf : f.LinesFinite
      · rw [hread hf, hnots fun hfindings => hlines ⟨hf, hfindings⟩]
        rfl
      · rw [hnot hf]
        rfl

/-- What the merge makes: an approval has no findings, and the confidences are in the range. -/
structure StrictVerdict.WellFormed (v : StrictVerdict) : Prop where
  approve : v.verdict = .approve → v.findings = []
  confidence : ∀ f ∈ v.findings, 0 ≤ f.confidence ∧ f.confidence ≤ 1

variable {v : StrictVerdict}

lemma strictVerdict?_printed (h : v.WellFormed) :
    ((∀ f ∈ v.findings, f.LinesFinite) → strictVerdict? v.toJson.printed = some v) ∧
      ((¬∀ f ∈ v.findings, f.LinesFinite) → strictVerdict? v.toJson.printed = none) := by
  have htoken : verdictToken? v.toJson.printed = some v.verdict := by
    refine verdictToken?_word v.verdict ?_
    rw [StrictVerdict.printed_toJson]
    rfl
  have hsummary : v.toJson.printed.textAt "summary" = some v.summary := by
    rw [StrictVerdict.printed_toJson]
    rfl
  have hfindings : (v.toJson.printed.get? "findings").bind Json.elems? =
      some (v.findings.map fun f => f.toJson.printed) := by
    rw [StrictVerdict.printed_toJson]
    rfl
  have hsteps : (v.toJson.printed.get? "next_steps").bind textList? = some v.nextSteps := by
    have hget : v.toJson.printed.get? "next_steps" = some (textsJson v.nextSteps) := by
      rw [StrictVerdict.printed_toJson]
      rfl
    rw [hget, Option.bind_some, textList?_textsJson]
  obtain ⟨hread, hnot⟩ := mapM_strictFinding? h.confidence
  unfold strictVerdict?
  rw [htoken, hsummary, hfindings, hsteps]
  constructor
  · intro hlines
    have hverdict : (if v.verdict = .approve ∧ (!v.findings.isEmpty) = true then
        VerdictToken.needsAttention else v.verdict) = v.verdict := by
      refine if_neg ?_
      rintro ⟨happrove, hne⟩
      simp [h.approve happrove] at hne
    simp only [Option.bind_eq_bind, Option.bind_some, hread hlines, hverdict]
    rfl
  · intro hlines
    simp only [Option.bind_eq_bind, Option.bind_some, hnot hlines, Option.bind_none]

lemma structuredVerdict?_printed : structuredVerdict? v.toJson.printed = some
      { verdict := v.verdict
        summary := .str v.summary
        findings := v.findings.map fun f => f.toJson.printed
        nextSteps := v.nextSteps.map .str } := by
  have hproject : (v.findings.map fun f => f.toJson.printed).map projectFields =
      v.findings.map fun f => f.toJson.printed := by
    rw [map_map]
    refine map_congr_left fun f _ => ?_
    rw [Function.comp_apply, StrictFinding.toJson, printed_ofFields]
    exact ofFields_get?
  rw [structuredVerdict?, verdictToken?_word v.verdict, StrictVerdict.printed_toJson]
  · exact congrArg some (congrArg
      (fun findings => StructuredVerdict.mk v.verdict (.str v.summary) findings
        (v.nextSteps.map .str)) hproject)
  · rw [StrictVerdict.printed_toJson]
    rfl

lemma StrictFinding.printed_toJson {f : StrictFinding} (h : f.LinesFinite) : f.toJson.printed = f.toJson := by
  rw [toJson, printed_ofFields]
  refine ofFields_congr fun key _ => ?_
  cases hfield : f.field key with
  | none => rfl
  | some value =>
    refine congrArg some ?_
    unfold StrictFinding.field at hfield
    split at hfield
    all_goals try (obtain rfl := Option.some.inj hfield; rfl)
    all_goals try cases hfield
    all_goals obtain ⟨field, hf, rfl⟩ := Option.map_eq_some_iff.1 hfield
    all_goals try rfl
    · obtain ⟨q, rfl⟩ := h.1 field hf
      rfl
    · obtain ⟨q, rfl⟩ := h.2 field hf
      rfl
    · exact printed_textsJson field

/-- Both parsers return the verdict, with every field of it. -/
def RoundTrips (host : NodeHost) (v : StrictVerdict) : Prop :=
  strictVerdict host (serializeMergedVerdict host v) = some v ∧
    structuredVerdict host (serializeMergedVerdict host v) = some
      { verdict := v.verdict
        summary := .str v.summary
        findings := v.findings.map StrictFinding.toJson
        nextSteps := v.nextSteps.map .str }

lemma roundTrips_iff_lines (hv : v.WellFormed)
    (hnumbers : ∀ f ∈ v.findings, f.NumbersReadBack host) : RoundTrips host v ↔ ∀ f ∈ v.findings, f.LinesFinite := by
  have hfence := StrictVerdict.fenceCandidate_serialized hnumbers
  have hparse := StrictVerdict.parse_print hnumbers
  obtain ⟨hread, hnot⟩ := strictVerdict?_printed hv
  constructor
  · rintro ⟨hstrict, -⟩
    by_contra hlines
    -- the text in the fence is refused, and the other candidate is the same object
    have hnone : strictVerdict host (serializeMergedVerdict host v) = none := by
      unfold strictVerdict firstRead
      refine findSome?_eq_none_iff.2 fun candidate hcandidate => ?_
      have hobject : ∀ value, JsonText.parse host.numberOf candidate = some value → value = v.toJson.printed := by
        intro value hvalue
        rw [verdictCandidates, hfence] at hcandidate
        rcases mem_append.1 hcandidate with h | h
        · obtain rfl : candidate = _ := by simpa using h
          exact Option.some.inj (hvalue.symm.trans hparse)
        · rw [StrictVerdict.printed_toJson] at hparse ⊢
          exact inline_of_fence hfence (by simpa using h) hparse hvalue
      cases hvalue : JsonText.parse host.numberOf candidate with
      | none => rfl
      | some value =>
        rw [Option.bind_some, hobject value hvalue]
        exact hnot hlines
    rw [hnone] at hstrict
    cases hstrict
  · intro hlines
    have hfirst : ∀ {α : Type} (read : Json → Option α) {a : α}, read v.toJson.printed = some a →
        firstRead host read (serializeMergedVerdict host v) = some a := by
      intro α read a ha
      rw [firstRead, verdictCandidates, hfence]
      simp [hparse, ha]
    refine ⟨hfirst _ (hread hlines), ?_⟩
    have hfindings : (v.findings.map fun f => f.toJson.printed) = v.findings.map StrictFinding.toJson :=
      map_congr_left fun f hf => StrictFinding.printed_toJson (hlines f hf)
    rw [← hfindings]
    exact hfirst _ structuredVerdict?_printed

end AgentPipeline.Review
