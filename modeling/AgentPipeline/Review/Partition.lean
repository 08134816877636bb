import AgentPipeline.Foundation.JsObject
import AgentPipeline.Review.Settled

/-!
# Partition: which findings of a verdict block

`partitionFindings` sends every finding of a verdict to one of three lists. In order:

* a finding that the reviewer marked non-blocking advises;
* a scope override, then a key override or a non-reproducing disposition, takes a finding out,
  the last two only if one distinct candidate of the key could block;
* what is below the severity threshold or the confidence floor advises;
* what raises a settled finding again without acknowledging it advises;
* the rest blocks (`mem_blocking_iff`).
-/

namespace AgentPipeline.Review

structure ReviewPolicy where
  blockThreshold : Severity
  minConfidence : ℚ
deriving DecidableEq, Repr

inductive ScopeType where
  | category | file
deriving DecidableEq, Repr

structure ScopedOverride where
  type : ScopeType
  value : String
  disposition : String
  reason : String
deriving DecidableEq, Repr

/-- A disposition recorded by a fix round, for one payload at one commit. -/
structure NonReproducing where
  sha : String
  fingerprint : String
deriving DecidableEq, Repr

inductive OverriddenEntry where
  | key (finding : ReviewFinding) (key disposition : String)
  | scope (finding : ReviewFinding) (scopeType : ScopeType) (scopeValue disposition reason : String)
deriving DecidableEq, Repr

def OverriddenEntry.finding : OverriddenEntry → ReviewFinding
  | .key finding _ _ | .scope finding _ _ _ _ => finding

structure ReversalMatch where
  settledKey : String
  settledTitle : String
  settledRound : Nat
  matchedBy : MatchBasis
deriving DecidableEq, Repr

structure AlternativeReinstatementMatch where
  settledKey : String
  settledRound : Nat
  matchedAlternative : String
deriving DecidableEq, Repr

structure AdvisoryEntry where
  finding : ReviewFinding
  reason : String
  reversalMatch : Option ReversalMatch := none
  alternativeMatch : Option AlternativeReinstatementMatch := none
deriving DecidableEq, Repr

structure PartitionResult where
  blocking : List ReviewFinding
  advisory : List AdvisoryEntry
  overridden : List OverriddenEntry
deriving DecidableEq, Repr

/-- What a round knows beside the verdict; the defaults of the source. -/
structure PartitionInputs where
  overrides : JsObject String := .empty
  scopes : List ScopedOverride := []
  nonReproducing : JsObject (List NonReproducing) := .empty
  reviewedSha : Option String := none
  settledFindings : List SettledFinding := []

/-- The list that a finding is pushed to. -/
inductive Placement where
  | blocking
  | advisory (entry : AdvisoryEntry)
  | overridden (entry : OverriddenEntry)
deriving DecidableEq, Repr

variable (host : NodeHost)

def matchFindingScope (f : ReviewFinding) (s : ScopedOverride) : Bool :=
  match s.type with
  | .category =>
    let cat := JsText.trim (host.toLowerCase (f.category.getD ""))
    cat ≠ "" && cat = s.value
  | .file =>
    let nf := normalizeFile host f.file
    nf ≠ "" && (nf = s.value || (s.value ++ "/").toList.isPrefixOf nf.toList)

/-- `f.blocking === true || severityRank(f.severity) >= threshold`. -/
def isAboveSeverity (policy : ReviewPolicy) (f : ReviewFinding) : Bool :=
  f.blocking = some true || policy.blockThreshold.rank ≤ severityRank f.severity

/-- `typeof f.confidence !== "number" || f.confidence >= policy.min_confidence`. -/
def isAboveConfidence (policy : ReviewPolicy) (f : ReviewFinding) : Bool :=
  f.confidence.all fun confidence => confidence.ge (.finite policy.minConfidence)

/-- `typeof f.confidence === "number" && f.confidence < policy.min_confidence`. -/
def belowConfidence (policy : ReviewPolicy) (f : ReviewFinding) : Bool :=
  f.confidence.any fun confidence => confidence.lt (.finite policy.minConfidence)

def isBlockingCandidate (policy : ReviewPolicy) (f : ReviewFinding) : Bool :=
  isAboveSeverity policy f && isAboveConfidence policy f

/-- `blockingFingerprintsByKey.get(key)`: the distinct payloads that could block under the key. -/
def blockingFingerprints (findings : List ReviewFinding) (policy : ReviewPolicy) (key : String) :
    List String :=
  let candidates := findings.filter fun f =>
    f.blocking ≠ some false && isBlockingCandidate policy f && findingKey host f = key
  (candidates.map (findingPayloadFingerprint host)).dedup

def isAmbiguous (findings : List ReviewFinding) (policy : ReviewPolicy) (key : String) : Bool :=
  1 < (blockingFingerprints host findings policy key).length

/-- A disposition of this payload at the reviewed commit. -/
def declaredNonReproducing (inputs : PartitionInputs) (f : ReviewFinding) : Option String :=
  (inputs.reviewedSha.filter (· ≠ "")).filter fun sha =>
    ((inputs.nonReproducing.get? (findingKey host f)).getD []).any fun d =>
      d.sha = sha && d.fingerprint = findingPayloadFingerprint host f

/-- `${f.severity}`. -/
def SeverityField.text : SeverityField → String
  | .word text | .missing text | .other text => text

/-- The reason for a finding below the threshold or the floor. -/
def belowReason (policy : ReviewPolicy) (f : ReviewFinding) : String :=
  let severity :=
    if isAboveSeverity policy f then []
    else ["severity " ++ f.severity.text ++ " below threshold " ++ policy.blockThreshold.name]
  let confidence :=
    if belowConfidence policy f then
      ["confidence " ++ (f.confidence.map host.textOf).getD "" ++ " below " ++
        host.textOf (.finite policy.minConfidence)]
    else []
  String.intercalate "; " (severity ++ confidence)

/-- `(f.prior_round_acknowledgment ?? "").trim() !== ""`. -/
def hasAcknowledgment (f : ReviewFinding) : Bool :=
  JsText.nonBlank (f.priorRoundAcknowledgment.getD "")

/-- The guards on findings that an earlier round settled. -/
def settledGuard (settled : List SettledFinding) (f : ReviewFinding) : Option AdvisoryEntry :=
  if hasAcknowledgment f then none
  else
    match matchSettledFinding host f settled with
    | some (entry, basis) =>
      some
        { finding := f
          reason := "reversal-unacknowledged"
          reversalMatch := some ⟨entry.key, entry.title, entry.round, basis⟩ }
    | none =>
      (matchSettledAlternative host f settled).map fun (entry, alternative) =>
        { finding := f
          reason := "settled-alternative-reinstated"
          alternativeMatch := some ⟨entry.key, entry.round, alternative⟩ }

/-- A scope override takes the finding out, without a look at its key. -/
def scopedEntry (scopes : List ScopedOverride) (f : ReviewFinding) : Option OverriddenEntry :=
  (scopes.find? (matchFindingScope host f)).map fun s =>
    .scope f s.type s.value s.disposition s.reason

/-- A key override, or else a non-reproducing disposition, takes a candidate out whose key is not
ambiguous. -/
def disposedEntry (findings : List ReviewFinding) (policy : ReviewPolicy) (inputs : PartitionInputs)
    (f : ReviewFinding) : Option OverriddenEntry :=
  let key := findingKey host f
  if isBlockingCandidate policy f ∧ !isAmbiguous host findings policy key then
    ((inputs.overrides.get? key).map fun disposition => .key f key disposition) <|>
      ((declaredNonReproducing host inputs f).map fun sha =>
        .key f key ("declared non-reproducing at " ++ String.ofList (sha.toList.take 7) ++ " by a prior fix round"))
  else none

/-- What becomes of a finding that no operator dispositioned. -/
def classify (policy : ReviewPolicy) (settled : List SettledFinding) (f : ReviewFinding) :
    Placement :=
  if !isAboveSeverity policy f ∨ belowConfidence policy f then
    .advisory { finding := f, reason := belowReason host policy f }
  else
    match settledGuard host settled f with
    | some entry => .advisory entry
    | none => .blocking

/-- One turn of the second loop of `partitionFindings`. -/
def place (findings : List ReviewFinding) (policy : ReviewPolicy) (inputs : PartitionInputs)
    (f : ReviewFinding) : Placement :=
  if f.blocking = some false then
    .advisory { finding := f, reason := "marked non-blocking by reviewer" }
  else
    match scopedEntry host inputs.scopes f with
    | some entry => .overridden entry
    | none =>
      match disposedEntry host findings policy inputs f with
      | some entry => .overridden entry
      | none => classify host policy inputs.settledFindings f

def Placement.advisory? : Placement → Option AdvisoryEntry
  | .advisory entry => some entry
  | _ => none

def Placement.overridden? : Placement → Option OverriddenEntry
  | .overridden entry => some entry
  | _ => none

/-- `partitionFindings(findings, policy, overrides, scopes, nonReproducing, reviewedSha,
settledFindingsList)`. -/
def partitionFindings (findings : List ReviewFinding) (policy : ReviewPolicy)
    (inputs : PartitionInputs) : PartitionResult :=
  let placed := place host findings policy inputs
  { blocking := findings.filter fun f => placed f = .blocking
    advisory := findings.filterMap fun f => (placed f).advisory?
    overridden := findings.filterMap fun f => (placed f).overridden? }

/-! ## What blocks -/

/-- The policy alone lets the finding block. -/
def meetsPolicy (policy : ReviewPolicy) (f : ReviewFinding) : Bool :=
  isAboveSeverity policy f && !belowConfidence policy f

variable {policy : ReviewPolicy} {f : ReviewFinding}

lemma classify_eq_blocking_iff {settled : List SettledFinding} : classify host policy settled f = .blocking ↔
      meetsPolicy policy f = true ∧ settledGuard host settled f = none := by
  unfold classify meetsPolicy
  by_cases hbelow : (!isAboveSeverity policy f) = true ∨ belowConfidence policy f = true
  · rw [if_pos hbelow]
    rcases hbelow with h | h
    · simp_all
    · simp [h]
  · rw [if_neg hbelow]
    obtain ⟨hsev, hconf⟩ := not_or.1 hbelow
    cases settledGuard host settled f <;> simp_all

variable {findings : List ReviewFinding} {inputs : PartitionInputs}

lemma disposedEntry_eq_none_iff : disposedEntry host findings policy inputs f = none ↔
      (isBlockingCandidate policy f = true → isAmbiguous host findings policy (findingKey host f) = false →
        inputs.overrides.get? (findingKey host f) = none ∧ declaredNonReproducing host inputs f = none) := by
  unfold disposedEntry
  dsimp only
  split
  · next h =>
    obtain ⟨hcandidate, hambiguous⟩ := h
    simp_all
  · next h =>
    simp only [true_iff]
    intro hcandidate hambiguous
    exact absurd ⟨hcandidate, by simpa using hambiguous⟩ h

lemma disposedEntry_eq_some {entry : OverriddenEntry} (h : disposedEntry host findings policy inputs f = some entry) :
    isBlockingCandidate policy f = true ∧ isAmbiguous host findings policy (findingKey host f) = false ∧
      ∃ disposition, entry = .key f (findingKey host f) disposition := by
  unfold disposedEntry at h
  dsimp only at h
  split at h
  · next hcandidate =>
    refine ⟨hcandidate.1, by simpa using hcandidate.2, ?_⟩
    cases hover : inputs.overrides.get? (findingKey host f) with
    | some disposition =>
      simp only [hover, Option.map_some] at h
      exact ⟨disposition, (Option.some.inj h).symm⟩
    | none =>
      cases hdeclared : declaredNonReproducing host inputs f with
      | some sha =>
        simp only [hover, hdeclared, Option.map_none, Option.map_some] at h
        exact ⟨_, (Option.some.inj h).symm⟩
      | none => simp [hover, hdeclared] at h
  · simp at h

lemma place_eq_blocking_iff : place host findings policy inputs f = .blocking ↔
      f.blocking ≠ some false ∧ scopedEntry host inputs.scopes f = none ∧
        disposedEntry host findings policy inputs f = none ∧ meetsPolicy policy f = true ∧
        settledGuard host inputs.settledFindings f = none := by
  unfold place
  by_cases hmarked : f.blocking = some false
  · simp [hmarked]
  · cases scopedEntry host inputs.scopes f with
    | some entry => simp [hmarked]
    | none =>
      cases disposedEntry host findings policy inputs f with
      | some entry => simp [hmarked]
      | none => simp [hmarked, classify_eq_blocking_iff]

lemma place_default_eq_blocking_iff : place host findings policy {} f = .blocking ↔
      f.blocking ≠ some false ∧ meetsPolicy policy f = true := by
  rw [place_eq_blocking_iff]
  have hguard : settledGuard host [] f = none := by
    simp [settledGuard, matchSettledFinding_nil, matchSettledAlternative_nil]
  have hdisposed : disposedEntry host findings policy {} f = none := by
    simp [disposedEntry, declaredNonReproducing]
  simp [hguard, hdisposed, scopedEntry]

lemma mem_blocking_iff : f ∈ (partitionFindings host findings policy inputs).blocking ↔
      f ∈ findings ∧ place host findings policy inputs f = .blocking := by
  simp [partitionFindings]

/-! ## What advises -/

variable {a : AdvisoryEntry}

lemma mem_advisory_iff : a ∈ (partitionFindings host findings policy inputs).advisory ↔
      ∃ f ∈ findings, place host findings policy inputs f = .advisory a := by
  have hadvisory : ∀ p : Placement, p.advisory? = some a ↔ p = .advisory a := by
    intro p
    cases p <;> simp [Placement.advisory?]
  simp [partitionFindings, hadvisory]

lemma finding_of_settledGuard {settled : List SettledFinding}
    (h : settledGuard host settled f = some a) : a.finding = f := by
  unfold settledGuard at h
  by_cases hack : hasAcknowledgment f = true
  · simp [hack] at h
  · rw [if_neg hack] at h
    cases hmatch : matchSettledFinding host f settled with
    | some m =>
      simp only [hmatch, Option.some.injEq] at h
      exact h ▸ rfl
    | none =>
      simp only [hmatch, Option.map_eq_some_iff] at h
      obtain ⟨m, -, rfl⟩ := h
      rfl

lemma finding_of_place_advisory (h : place host findings policy inputs f = .advisory a) : a.finding = f := by
  unfold place at h
  by_cases hmarked : f.blocking = some false
  · rw [if_pos hmarked, Placement.advisory.injEq] at h
    exact h ▸ rfl
  · rw [if_neg hmarked] at h
    cases hscope : scopedEntry host inputs.scopes f with
    | some entry => simp [hscope] at h
    | none =>
      cases hkey : disposedEntry host findings policy inputs f with
      | some entry => simp [hscope, hkey] at h
      | none =>
        simp only [hscope, hkey, classify] at h
        split at h
        · rw [Placement.advisory.injEq] at h
          exact h ▸ rfl
        · cases hguard : settledGuard host inputs.settledFindings f with
          | some entry =>
            simp only [hguard, Placement.advisory.injEq] at h
            exact h ▸ finding_of_settledGuard host hguard
          | none => simp [hguard] at h

end AgentPipeline.Review
