import Mathlib.Data.List.ReduceOption
import AgentPipeline.Review.Routing
import AgentPipeline.Review.VerdictParsing

/-!
# VerdictGate: from what the reviewer printed to where the item goes

The review step on a fresh output, along its two paths.

* `localStep`: the output of a local reviewer, parsed with tolerance;
* `delegatedStep`: the output of an executor, which must have the schema, if need be after one
  more prompt;
* `gateSound_iff`: neither path advances past a blocking finding, and on an output that has the
  schema both decide alike, exactly if the local parser reads no approval that lists a blocking
  finding.
-/

namespace AgentPipeline.Review

/-- What the step comes to. -/
inductive StepOutcome where
  /-- A field was read as a text that is none. -/
  | threw
  /-- Blocked: the output of an executor does not have the schema. -/
  | contractViolation
  | routed (route : Routed)
deriving DecidableEq, Repr

/-- The item goes on to `review-2` or to `pre-merge`. -/
def StepOutcome.advances : StepOutcome → Bool
  | .routed route => route = .advance || route = .demoted
  | _ => false

namespace ParsedVerdict

variable (v : ParsedVerdict)

/-- The findings, when the whole verdict can be read. -/
def read? : Option (List LooseFinding) := if v.prints then v.findings.mapM id else none

/-- The findings that can be read. -/
def listed : List ReviewFinding := v.findings.reduceOption.map (·.finding)

lemma read?_map_some (token : VerdictToken) (loose : List LooseFinding) :
    ({ verdict := token, findings := loose.map some } : ParsedVerdict).read? = some loose := by
  have hmap : (loose.map some).mapM id = some loose := Lists.mapM_eq_some_iff.2 (List.map_id _)
  rw [read?, if_pos rfl, hmap]

lemma listed_of_read? {loose : List LooseFinding} (h : v.read? = some loose) : v.listed = loose.map (·.finding) := by
  unfold read? at h
  split at h
  · have hfindings : v.findings = loose.map some := by rw [← Lists.mapM_eq_some_iff.1 h, List.map_id]
    simp [listed, hfindings, List.reduceOption]
  · simp at h

end ParsedVerdict

/-! ## The step -/

section Step

variable (host : NodeHost)

/-- The scopes are tried in order, and one of a category comes before one that matches. -/
def readsCategory (scopes : List ScopedOverride) (f : ReviewFinding) : Bool :=
  (scopes.find? fun s => s.type = .category || matchFindingScope host f s).any (·.type = .category)

/-- The guards on settled findings are asked about the finding. -/
def reachesGuards (findings : List ReviewFinding) (policy : ReviewPolicy)
    (inputs : PartitionInputs) (f : ReviewFinding) : Bool :=
  place host findings policy { inputs with settledFindings := [] } f = .blocking

/-- The verdict of an executor: that of its output, or of the output of one more prompt, which is
`none` when that failed. -/
def delegatedVerdict (stdout : List Char) (repaired : Option (List Char)) : Option ParsedVerdict :=
  (parseStrictVerdict host stdout).or (repaired.bind (parseStrictVerdict host))

namespace ReviewStage

variable (s : ReviewStage)

/-- Partitioning or rendering the findings reads a field of this one as a text that is none. -/
def throwsAt (findings : List ReviewFinding) (inputs : PartitionInputs) (l : LooseFinding) : Bool :=
  l.looseCategory && l.finding.blocking ≠ some false && readsCategory host inputs.scopes l.finding ||
    l.looseAcknowledgment && reachesGuards host findings s.policy inputs l.finding ||
    s.commitSha ≠ "" && l.finding.title.isNone

def throwsReading (loose : List LooseFinding) : Bool :=
  let findings := loose.map (·.finding)
  match s.project host findings with
  | .error _ => false
  | .ok projected => loose.any (s.throwsAt host findings (s.inputsWith projected))

def verdictOf (token : VerdictToken) (loose : List LooseFinding) : ReviewVerdict where
  verdict := token
  summary := ""
  findings := loose.map (·.finding)
  nextSteps := []
  commitSha := s.commitSha

/-- The step from the parsed verdict on. -/
def routeParsed (retried : Bool) (v : ParsedVerdict) : StepOutcome :=
  match v.read? with
  | none => .threw
  | some loose =>
    if v.verdict = .needsAttention ∧ s.throwsReading host loose then .threw
    else
      match s.routeVerdict host retried (s.verdictOf v.verdict loose) with
      | .ok route => .routed route
      | .error _ => .threw

def localStep (retried : Bool) (stdout : List Char) : StepOutcome :=
  s.routeParsed host retried (parseStructuredVerdict host stdout)

def delegatedStep (retried : Bool) (stdout : List Char) (repaired : Option (List Char)) :
    StepOutcome :=
  match delegatedVerdict host stdout repaired with
  | none => .contractViolation
  | some v => s.routeParsed host retried v

/-! ## The gate -/

/-- The partition of the round puts none of the findings in `blocking`. -/
def Clears (findings : List ReviewFinding) : Prop :=
  ∀ f ∈ findings, ∃ projected, s.project host findings = .ok projected ∧
    f ∉ (partitionFindings host findings s.policy (s.inputsWith projected)).blocking

structure GateSound (retried : Bool) (stdout : List Char) (repaired : Option (List Char)) :
    Prop where
  onLocal : (s.localStep host retried stdout).advances = true →
    s.Clears host (parseStructuredVerdict host stdout).listed
  onDelegated : (s.delegatedStep host retried stdout repaired).advances = true →
    ∃ v, delegatedVerdict host stdout repaired = some v ∧ s.Clears host v.listed
  agree : (parseStrictVerdict host stdout).isSome = true →
    s.localStep host retried stdout = s.delegatedStep host retried stdout repaired

/-- The local parser reads an approval that lists a finding which is not known not to block. -/
def ApprovesBlocking (stdout : List Char) : Prop :=
  let v := parseStructuredVerdict host stdout
  v.verdict = .approve ∧ v.read?.isSome = true ∧ ¬s.Clears host v.listed

/-! ## What the step can come to -/

variable {host} {s}

lemma clears_of_blocking_eq_nil {findings : List ReviewFinding} {projected : ProjectedOverrides}
    (hproject : s.project host findings = .ok projected)
    (hblocking : (partitionFindings host findings s.policy (s.inputsWith projected)).blocking = []) :
    s.Clears host findings := by
  intro f _
  exact ⟨projected, hproject, by simp [hblocking]⟩

lemma Clears.blocking_eq_nil {findings : List ReviewFinding} (h : s.Clears host findings) (hne : findings ≠ []) :
    ∃ projected, s.project host findings = .ok projected ∧
      (partitionFindings host findings s.policy (s.inputsWith projected)).blocking = [] := by
  obtain ⟨f, hf⟩ := List.exists_mem_of_ne_nil findings hne
  obtain ⟨projected, hproject, -⟩ := h f hf
  refine ⟨projected, hproject, List.eq_nil_iff_forall_not_mem.2 fun g hg => ?_⟩
  obtain ⟨projected', hproject', hg'⟩ := h g ((mem_blocking_iff host).1 hg).1
  obtain rfl : projected = projected' := Except.ok.inj (hproject.symm.trans hproject')
  exact hg' hg

variable {retried : Bool}

lemma clears_of_routeVerdict (hpark : s.ceilingAction = .park)
    {verdict : ReviewVerdict} {route : Routed} (hverdict : verdict.verdict = .needsAttention)
    (hroute : s.routeVerdict host retried verdict = .ok route)
    (honward : route = .advance ∨ route = .demoted) : s.Clears host verdict.findings := by
  by_cases hfindings : verdict.findings = []
  · simp [hfindings, Clears]
  · cases hproject : s.project host verdict.findings with
    | error e =>
      simp [routeVerdict, hverdict, hfindings, hproject, bind, Except.bind] at hroute
    | ok projected =>
      rcases honward with rfl | rfl
      · have hadvance := (s.routeVerdict_eq_advance_iff host hproject).1 hroute
        rw [hverdict] at hadvance
        rcases hadvance with happrove | ⟨-, hblocking⟩
        · exact absurd happrove (by decide)
        · exact clears_of_blocking_eq_nil hproject hblocking
      · simp only [routeVerdict, hverdict, List.isEmpty_iff, hfindings, hproject, bind,
          Except.bind, pure, Except.pure, if_false, Except.ok.injEq] at hroute
        split at hroute
        · exact absurd hroute (by decide)
        · exact absurd hroute (s.routeBlocking_ne_demoted host hpark _)

variable {v : ParsedVerdict}

lemma routeParsed_advances (hpark : s.ceilingAction = .park) (h : (s.routeParsed host retried v).advances = true) :
    v.verdict = .approve ∧ v.read?.isSome = true ∨ s.Clears host v.listed := by
  unfold routeParsed at h
  cases hread : v.read? with
  | none => simp [hread, StepOutcome.advances] at h
  | some loose =>
    simp only [hread] at h
    cases hverdict : v.verdict with
    | approve => exact .inl ⟨rfl, rfl⟩
    | needsAttention =>
      refine .inr ?_
      split at h
      · simp [StepOutcome.advances] at h
      · split at h
        · next route hroute =>
          rw [v.listed_of_read? hread]
          exact clears_of_routeVerdict hpark hverdict hroute (by simpa [StepOutcome.advances] using h)
        · simp [StepOutcome.advances] at h

variable {stdout : List Char}

lemma listed_of_strict_approve
    (h : parseStrictVerdict host stdout = some v) (happrove : v.verdict = .approve) : v.listed = [] := by
  obtain ⟨data, hstrict, -⟩ := firstVerdict_of_strict h
  obtain ⟨token, findings, -, rfl⟩ := readStrict_eq_some hstrict
  cases findings with
  | nil => rfl
  | cons f findings => cases token <;> simp at happrove

variable {repaired : Option (List Char)}

lemma delegatedVerdict_eq_some (h : delegatedVerdict host stdout repaired = some v) :
    ∃ output, parseStrictVerdict host output = some v := by
  rcases Option.or_eq_some_iff.1 h with h | ⟨-, h⟩
  · exact ⟨stdout, h⟩
  · obtain ⟨output, -, h⟩ := Option.bind_eq_some_iff.1 h
    exact ⟨output, h⟩

lemma delegatedStep_advances (hpark : s.ceilingAction = .park)
    (h : (s.delegatedStep host retried stdout repaired).advances = true) :
    ∃ v, delegatedVerdict host stdout repaired = some v ∧ s.Clears host v.listed := by
  unfold delegatedStep at h
  cases hv : delegatedVerdict host stdout repaired with
  | none => simp [hv, StepOutcome.advances] at h
  | some v =>
    refine ⟨v, rfl, ?_⟩
    rcases routeParsed_advances hpark (by simpa [hv] using h) with ⟨happrove, -⟩ | hclears
    · obtain ⟨output, houtput⟩ := delegatedVerdict_eq_some hv
      simp [listed_of_strict_approve houtput happrove, Clears]
    · exact hclears

lemma exists_loose_of_strict (host : NodeHost) (s : ReviewStage) {findings : List Json}
    (h : ∀ f ∈ findings, isStrictFinding f = true) :
    ∃ loose : List LooseFinding, findings.map (projectReviewFinding host) = loose.map some ∧
      s.throwsReading host loose = false := by
  have hloose : ∃ loose : List LooseFinding, findings.map (projectReviewFinding host) = loose.map some ∧
        ∀ l ∈ loose, l.looseCategory = false ∧ l.looseAcknowledgment = false ∧ l.finding.title.isSome = true := by
    induction findings with
    | nil => exact ⟨[], rfl, by simp⟩
    | cons f findings ih =>
      obtain ⟨l, hl, htyped⟩ := projectReviewFinding_of_isStrict host (h f (by simp))
      obtain ⟨loose, hmap, hall⟩ := ih fun g hg => h g (by simp [hg])
      refine ⟨l :: loose, by simp [hl, hmap], ?_⟩
      simpa using ⟨htyped, hall⟩
  obtain ⟨loose, hmap, hall⟩ := hloose
  refine ⟨loose, hmap, ?_⟩
  unfold throwsReading
  dsimp only
  split
  · rfl
  · rw [List.any_eq_false]
    intro l hl
    obtain ⟨hcategory, hack, htitle⟩ := hall l hl
    simp [throwsAt, hcategory, hack, Option.isSome_iff_ne_none.1 htitle]

lemma localStep_eq_delegatedStep (hstrict : (parseStrictVerdict host stdout).isSome = true)
    (hnot : ¬s.ApprovesBlocking host stdout) :
    s.localStep host retried stdout = s.delegatedStep host retried stdout repaired := by
  obtain ⟨v, hv⟩ := Option.isSome_iff_exists.1 hstrict
  obtain ⟨data, hread, hfirst⟩ := firstVerdict_of_strict hv
  obtain ⟨token, findings, hdata, rfl⟩ := readStrict_eq_some hread
  have hlocal : parseStructuredVerdict host stdout =
      { verdict := token, findings := findings.map (projectReviewFinding host) } := by
    simp [parseStructuredVerdict, hfirst, readStructured_of_isStrict hdata]
  have hdelegated : delegatedVerdict host stdout repaired = some _ := Option.or_eq_some_iff.2 (.inl hv)
  unfold localStep delegatedStep
  rw [hlocal, hdelegated]
  by_cases hdowngraded : token = .approve ∧ !findings.isEmpty
  · obtain ⟨rfl, hne⟩ := hdowngraded
    obtain ⟨loose, hmap, hquiet⟩ := exists_loose_of_strict host s hdata.findings
    rw [hmap] at hlocal ⊢
    have hread := fun token => ParsedVerdict.read?_map_some token loose
    have hclears : s.Clears host (loose.map (·.finding)) := by
      by_contra hblocks
      refine hnot ?_
      simp only [ApprovesBlocking, hlocal, hread, ParsedVerdict.listed_of_read? _ (hread .approve)]
      exact ⟨trivial, rfl, hblocks⟩
    have hlisted : loose.map (·.finding) ≠ [] := by
      intro hnil
      obtain rfl : loose = [] := List.map_eq_nil_iff.1 hnil
      simp [List.map_eq_nil_iff.1 hmap] at hne
    -- the delegated path partitions, and nothing blocks
    obtain ⟨projected, hproject, hblocking⟩ := hclears.blocking_eq_nil hlisted
    have hfindings : (s.verdictOf .needsAttention loose).findings = loose.map (·.finding) := rfl
    have hadvance : s.routeVerdict host retried (s.verdictOf .needsAttention loose) = .ok .advance := by
      rw [← hfindings] at hproject hblocking hlisted
      rw [s.routeVerdict_eq_advance_iff host hproject]
      exact .inr ⟨hlisted, hblocking⟩
    have happrove : s.routeVerdict host retried (s.verdictOf .approve loose) = .ok .advance := rfl
    simp [routeParsed, hread, happrove, hadvance, hquiet, hne]
  · rw [if_neg hdowngraded]

/-- The gate is sound on an output exactly if the local parser does not read an approval that lists
a blocking finding. -/
theorem gateSound_iff (hpark : s.ceilingAction = .park) {retried : Bool} {stdout : List Char}
    {repaired : Option (List Char)} :
    s.GateSound host retried stdout repaired ↔ ¬s.ApprovesBlocking host stdout := by
  constructor
  · rintro hsound ⟨happrove, hread, hblocks⟩
    obtain ⟨loose, hloose⟩ := Option.isSome_iff_exists.1 hread
    refine hblocks (hsound.onLocal ?_)
    simp [localStep, routeParsed, hloose, happrove, routeVerdict, verdictOf, StepOutcome.advances]
  · intro hnot
    refine ⟨?_, delegatedStep_advances hpark, fun hstrict => localStep_eq_delegatedStep hstrict hnot⟩
    intro hadvances
    rcases routeParsed_advances hpark hadvances with ⟨happrove, hread⟩ | hclears
    · by_contra hblocks
      exact hnot ⟨happrove, hread, hblocks⟩
    · exact hclears

end ReviewStage

end Step

/-! ## An approval that lists a finding -/

/-- `sameLineHost`, with the numerals of the outputs below. -/
def numeralHost : NodeHost :=
  { sameLineHost with
    numberOf := fun text =>
      if text = "12" then .finite 12 else if text = "0.9" then .finite (9 / 10) else .nan }

/-- An approval that lists `uncheckedRead`. -/
def approvalWithFinding : List Char :=
  "\x7b\"verdict\":\"approve\",\"summary\":\"\",\"findings\":[\x7b\"severity\":\"high\",\"title\":\"Unchecked read\",\"body\":\"The index is not checked.\",\"file\":\"src/a.ts\",\"line_start\":12,\"confidence\":0.9,\"recommendation\":\"Check the index.\"\x7d],\"next_steps\":[]\x7d".toList

/-- A request for changes that lists `uncheckedRead`. -/
def requestWithFinding : List Char :=
  "\x7b\"verdict\":\"needs-attention\",\"summary\":\"\",\"findings\":[\x7b\"severity\":\"high\",\"title\":\"Unchecked read\",\"body\":\"The index is not checked.\",\"file\":\"src/a.ts\",\"line_start\":12,\"confidence\":0.9,\"recommendation\":\"Check the index.\"\x7d],\"next_steps\":[]\x7d".toList

/-- A first round without any comment. -/
def quietStage : ReviewStage where
  round := .one
  comments := []
  actor := none
  footer := []
  commitSha := NodeHost.zeros 40
  diffHash := "0123456789abcdef"
  now := 0
  configuredPolicy := majorPolicy

set_option maxRecDepth 4000 in
lemma parse_approvalWithFinding : parseStructuredVerdict numeralHost approvalWithFinding =
      { verdict := .approve, findings := [some ⟨uncheckedRead, false, false⟩] } := by
  unfold approvalWithFinding
  rw [String.toList_ofList]
  decide +kernel

theorem approval_with_finding_advances :
    quietStage.ceilingAction = .park ∧ (quietStage.localStep numeralHost false approvalWithFinding).advances = true ∧
      ¬quietStage.GateSound numeralHost false approvalWithFinding none := by
  have hadvances : (quietStage.localStep numeralHost false approvalWithFinding).advances = true := by
    rw [ReviewStage.localStep, parse_approvalWithFinding]
    decide +kernel
  refine ⟨rfl, hadvances, fun hsound => ?_⟩
  have hclears : quietStage.Clears numeralHost [uncheckedRead] := by
    have hlisted := hsound.onLocal hadvances
    rwa [parse_approvalWithFinding] at hlisted
  obtain ⟨projected, hproject, hblocking⟩ := hclears.blocking_eq_nil (by simp)
  have hevaluated : (quietStage.project numeralHost [uncheckedRead]).toOption.map
      (fun projected => (partitionFindings numeralHost [uncheckedRead] quietStage.policy
        (quietStage.inputsWith projected)).blocking.isEmpty) = some false := by decide +kernel
  obtain ⟨projected', hproject', hnonempty⟩ := exists_ok_of_map_toOption hevaluated
  obtain rfl : projected = projected' := Except.ok.inj (hproject.symm.trans hproject')
  simp [hblocking] at hnonempty

set_option maxRecDepth 4000 in
theorem request_with_finding_sound :
    quietStage.ceilingAction = .park ∧ quietStage.GateSound numeralHost false requestWithFinding none := by
  refine ⟨rfl, (ReviewStage.gateSound_iff rfl).2 ?_⟩
  rintro ⟨happrove, -⟩
  have hverdict : (parseStructuredVerdict numeralHost requestWithFinding).verdict = .needsAttention := by
    unfold requestWithFinding
    rw [String.toList_ofList]
    decide +kernel
  rw [hverdict] at happrove
  exact absurd happrove (by decide)

end AgentPipeline.Review
