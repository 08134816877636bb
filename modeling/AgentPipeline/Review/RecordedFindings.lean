import AgentPipeline.Review.Routing

/-!
# RecordedFindings: the findings in the artifact of a review comment

`formatReviewComment` gets the verdict and the keys of the blocking findings. It takes the verdict
apart a second time, by key:

* what has a blocking key is recorded as blocking, the rest as advisory;
* `partitionFindings` decided finding by finding, and a key stands for a file, a severity and five
  lines, so a finding that advises may be recorded with one that blocks.

`recorded_iff_keys_apart` says when the record is what the partition decided.
-/

namespace AgentPipeline.Review

/-! ## The entries -/

/-- `title.slice(0, n)` by code units; half a character is the replacement character. -/
def sliceUnits : Nat → List Char → List Char
  | 0, _ | _, [] => []
  | n + 1, c :: rest =>
    if c.toNat < 0x10000 then c :: sliceUnits n rest
    else
      match n with
      | 0 => ['\uFFFD']
      | m + 1 => c :: sliceUnits m rest

def truncateTitleFor389 (title : String) : String :=
  if 120 < utf16Length title then String.ofList (sliceUnits 120 title.toList) else title

/-- `f.severity ?? "medium"`, where that is a text. -/
def SeverityField.recorded? : SeverityField → Option String
  | .word text => some text
  | .missing _ => some Severity.medium.name
  | .other _ => none

/-- A number with `Number.isFinite(value)`. -/
def finiteValue? : JsNumber → Option ℚ
  | .finite value => some value
  | .infinity _ | .nan => none

section Record

variable (host : NodeHost)

/-- One entry of `buildFindingsExtension(findings)`, for a finding that has the texts it reads. -/
def findingEntry (f : ReviewFinding) : ArtifactFinding where
  key := findingKey host f
  surface := surfaceKey host f
  severity := f.severity.recorded?.getD ""
  title := truncateTitleFor389 (f.title.getD "")
  confidence := f.confidence.bind finiteValue?
  rejectedAlternatives := f.rejectedAlternatives.filter (· ≠ [])

def buildFindingsExtension (findings : List ReviewFinding) : List ArtifactFinding :=
  findings.map (findingEntry host)

/-- The arguments of `formatReviewComment` beside the verdict that its artifact holds. -/
structure CommentInput where
  round : ReviewRound
  blockingKeys : Option (List String) := none
  diffHash : Option String := none
  review1Risk : Option Review1Risk := none
  pipelineRunId : Option String := none
  evidenceSubject : Option Json := none

/-- No line of the comment throws: every severity is a text to print in capitals, the run id has its
form, and every title that is recorded is there to be cut. -/
def CommentInput.isWritten (input : CommentInput) (verdict : ReviewVerdict) : Bool :=
  verdict.findings.all (fun f => f.severity.recorded?.isSome) && input.pipelineRunId.all isRunIdText &&
    (input.blockingKeys.isNone || verdict.commitSha = "" || verdict.findings.all fun f => f.title.isSome)

/-- The artifact at the end of `formatReviewComment(...)`, under the hash of the lines before it. The
first `none` is a comment that throws, the second one a comment without a commit. -/
def formatReviewComment (verdict : ReviewVerdict) (input : CommentInput) (bodyHash : String) :
    Option (Option ReviewArtifact) :=
  if !input.isWritten verdict then none
  else if verdict.commitSha = "" then some none
  else
    let isBlocking (keys : List String) (f : ReviewFinding) : Bool := findingKey host f ∈ keys
    some (some
      { round := input.round
        reviewedSha := verdict.commitSha
        diffHash := input.diffHash
        blockingKeys := sortTexts (input.blockingKeys.getD [])
        review1Risk := if input.round = .one then input.review1Risk else none
        pipelineRunId := input.pipelineRunId
        bodyHash := some bodyHash
        blockingFindings := input.blockingKeys.map fun keys =>
          buildFindingsExtension host (verdict.findings.filter (isBlocking keys))
        advisoryFindings := input.blockingKeys.bind fun keys =>
          let advisory := verdict.findings.filter fun f => !isBlocking keys f
          if advisory.isEmpty then none else some (buildFindingsExtension host advisory)
        evidenceSubject := input.evidenceSubject })

def blockingKeysSet (partition : PartitionResult) : List String :=
  (partition.blocking.map (findingKey host)).dedup

/-- The artifact that `advanceReview` writes for a verdict that it partitioned. -/
def roundArtifact (verdict : ReviewVerdict) (policy : ReviewPolicy) (inputs : PartitionInputs)
    (input : CommentInput) (bodyHash : String) : Option (Option ReviewArtifact) :=
  let partition := partitionFindings host verdict.findings policy inputs
  formatReviewComment host verdict
    { input with blockingKeys := some (blockingKeysSet host partition) } bodyHash

/-! ## The record and the partition -/

/-- A finding that nobody marked or took out, that the policy lets block and no guard demotes. -/
structure Blocks (findings : List ReviewFinding) (policy : ReviewPolicy) (inputs : PartitionInputs)
    (f : ReviewFinding) : Prop where
  unmarked : f.blocking ≠ some false
  unscoped : scopedEntry host inputs.scopes f = none
  undisposed : disposedEntry host findings policy inputs f = none
  meets : meetsPolicy policy f = true
  unsettled : settledGuard host inputs.settledFindings f = none

/-- Among the findings of one key, all block or none does. -/
def KeysApart (findings : List ReviewFinding) (policy : ReviewPolicy) (inputs : PartitionInputs) :
    Prop :=
  ∀ f ∈ findings, ∀ g ∈ findings, findingKey host f = findingKey host g →
    Blocks host findings policy inputs g → Blocks host findings policy inputs f

variable {host} {findings : List ReviewFinding} {policy : ReviewPolicy} {inputs : PartitionInputs}

lemma blocks_iff {f : ReviewFinding} :
    Blocks host findings policy inputs f ↔ place host findings policy inputs f = .blocking := by
  rw [place_eq_blocking_iff]
  constructor
  · rintro ⟨h₁, h₂, h₃, h₄, h₅⟩
    exact ⟨h₁, h₂, h₃, h₄, h₅⟩
  · rintro ⟨h₁, h₂, h₃, h₄, h₅⟩
    exact ⟨h₁, h₂, h₃, h₄, h₅⟩

lemma mem_blockingKeysSet_iff {key : String} :
    key ∈ blockingKeysSet host (partitionFindings host findings policy inputs) ↔
      ∃ g ∈ findings, Blocks host findings policy inputs g ∧ findingKey host g = key := by
  unfold blockingKeysSet
  rw [List.mem_dedup, List.mem_map]
  constructor
  · rintro ⟨g, hg, hkey⟩
    obtain ⟨hmem, hplace⟩ := (mem_blocking_iff host).1 hg
    exact ⟨g, hmem, blocks_iff.2 hplace, hkey⟩
  · rintro ⟨g, hmem, hblocks, hkey⟩
    exact ⟨g, (mem_blocking_iff host).2 ⟨hmem, blocks_iff.1 hblocks⟩, hkey⟩

lemma map_filter_eq_iff {α β : Type} {p q : α → Bool} (entry : α → β) {l : List α}
    (h : ∀ a ∈ l, q a = true → p a = true) :
    (l.filter p).map entry = (l.filter q).map entry ↔ ∀ a ∈ l, p a = true → q a = true := by
  constructor
  · intro heq a ha hp
    have hsub : (l.filter q).Sublist (l.filter p) := by
      have hboth : l.filter q = (l.filter p).filter q := by
        rw [List.filter_filter]
        refine List.filter_congr fun b hb => ?_
        cases hq : q b with
        | false => rfl
        | true => simp [h b hb hq]
      rw [hboth]
      exact List.filter_sublist
    have hlength : (l.filter q).length = (l.filter p).length := by simpa using (congrArg List.length heq).symm
    have hmem : a ∈ l.filter q := by
      rw [hsub.eq_of_length hlength]
      exact List.mem_filter.2 ⟨ha, hp⟩
    exact (List.mem_filter.1 hmem).2
  · intro hback
    have hsame : l.filter p = l.filter q := List.filter_congr fun a ha => Bool.eq_iff_iff.2 ⟨hback a ha, h a ha⟩
    rw [hsame]

/-- The blocking findings of the artifact are those of the partition, one by one and in order,
exactly when no finding that does not block has the key of one that does. -/
theorem recorded_iff_keys_apart {verdict : ReviewVerdict} {input : CommentInput} {bodyHash : String}
    {artifact : ReviewArtifact}
    (h : roundArtifact host verdict policy inputs input bodyHash = some (some artifact)) :
    artifact.blockingFindings = some (buildFindingsExtension host
        (partitionFindings host verdict.findings policy inputs).blocking) ↔
      KeysApart host verdict.findings policy inputs := by
  unfold roundArtifact formatReviewComment at h
  dsimp only at h
  split at h
  · cases h
  · split at h
    · cases h
    · obtain rfl := Option.some.inj (Option.some.inj h)
      simp only [Option.map_some, Option.some.injEq]
      unfold buildFindingsExtension
      have hblocking : (partitionFindings host verdict.findings policy inputs).blocking =
          verdict.findings.filter fun f =>
            place host verdict.findings policy inputs f = .blocking := rfl
      rw [hblocking, map_filter_eq_iff]
      · constructor
        · intro hback f hf g hg hkey hblocks
          have hlisted := mem_blockingKeysSet_iff.2 ⟨g, hg, hblocks, hkey.symm⟩
          exact blocks_iff.2 (of_decide_eq_true (hback f hf (decide_eq_true hlisted)))
        · intro hapart f hf hlisted
          obtain ⟨g, hg, hblocks, hkey⟩ := mem_blockingKeysSet_iff.1 (of_decide_eq_true hlisted)
          exact decide_eq_true (blocks_iff.1 (hapart f hf g hg hkey.symm hblocks))
      · -- what blocks has its own key among the blocking ones
        intro f hf hplace
        have hblocks := blocks_iff.2 (of_decide_eq_true hplace)
        exact decide_eq_true (mem_blockingKeysSet_iff.2 ⟨f, hf, hblocks, rfl⟩)

end Record

/-! ## Two findings in one band -/

/-- The second finding of the band, below the confidence floor. -/
def unsureIndex : ReviewFinding := { indexOutOfRange with confidence := some (.finite (1 / 2)) }

def requestedOf (findings : List ReviewFinding) : ReviewVerdict where
  verdict := .needsAttention
  summary := "The read has no bound."
  findings := findings
  nextSteps := []
  commitSha := NodeHost.zeros 40

theorem sure_findings_recorded :
    ∃ artifact, roundArtifact sameLineHost (requestedOf [uncheckedRead, indexOutOfRange]) majorPolicy
        {} { round := .two } (NodeHost.zeros 16) = some (some artifact) ∧
      artifact.blockingFindings = some (buildFindingsExtension sameLineHost
        (partitionFindings sameLineHost [uncheckedRead, indexOutOfRange] majorPolicy {}).blocking) := by
  obtain ⟨artifact, hwritten⟩ : ∃ artifact, roundArtifact sameLineHost
      (requestedOf [uncheckedRead, indexOutOfRange]) majorPolicy {} { round := .two }
      (NodeHost.zeros 16) = some (some artifact) := ⟨_, rfl⟩
  refine ⟨artifact, hwritten, (recorded_iff_keys_apart hwritten).2 ?_⟩
  intro f hf g _ _ _
  -- both findings block
  have hall : ∀ f ∈ [uncheckedRead, indexOutOfRange],
      place sameLineHost [uncheckedRead, indexOutOfRange] majorPolicy {} f = .blocking := by
    decide +kernel
  exact blocks_iff.2 (hall f hf)

/-- The finding below the floor advises and is recorded as blocking. -/
theorem unsure_finding_recorded :
    ¬∀ (host : NodeHost) (verdict : ReviewVerdict) (policy : ReviewPolicy) (inputs : PartitionInputs)
        (input : CommentInput) (bodyHash : String) (artifact : ReviewArtifact),
      roundArtifact host verdict policy inputs input bodyHash = some (some artifact) →
      artifact.blockingFindings = some (buildFindingsExtension host
        (partitionFindings host verdict.findings policy inputs).blocking) := by
  intro h
  have hrecorded := h sameLineHost (requestedOf [uncheckedRead, unsureIndex]) majorPolicy {}
    { round := .two } (NodeHost.zeros 16) _ rfl
  have hlengths := congrArg (fun entries => (entries.getD []).length) hrecorded
  exact absurd hlengths (by decide +kernel)

end AgentPipeline.Review
