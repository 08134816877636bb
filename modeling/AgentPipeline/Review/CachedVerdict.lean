import AgentPipeline.Review.FingerprintBound
import AgentPipeline.Review.Routing

/-!
# CachedVerdict: reusing a verdict for an unchanged diff

When the last verdict of the round was posted for this diff and this commit, the stage routes by
what the comment recorded, without a reviewer. A recorded key counts as cleared when some override
sentinel names it; whether the decision of the sentinel is in force is not asked.

* `cachedRoute`: the route by the comment alone;
* `AgreesWithGate`: the item advances only if routing the recorded verdict again advances it;
* `agreesWithGate_iff`: that holds unless every recorded key has a sentinel and the override of
  some finding lapsed.
-/

namespace AgentPipeline.Review
namespace ReviewStage

/-! ## The fast path -/

section CachedRoute

variable (host : NodeHost) (s : ReviewStage)

def priorRoundCommentsForCache : List IssueComment :=
  s.comments.filter fun c =>
    startsWith c.body s.round.marker && includes c.body s.footer && s.actor.any fun actor => c.author = some actor

def latestPriorComment : Option IssueComment := s.priorRoundCommentsForCache.getLast?

def cachedHash (c : IssueComment) : Option String :=
  ((extractReviewArtifact host c.body).bind (·.diffHash)) <|> extractDiffHashFromComment c.body

def cachedReviewedSha (c : IssueComment) : Option String :=
  ((extractReviewArtifact host c.body).map (·.reviewedSha)) <|> extractLegacyReviewedSha c.body

def cachedBlockingKeys (c : IssueComment) : List String :=
  match extractReviewArtifact host c.body with
  | some artifact => artifact.blockingKeys.dedup
  | none => extractBlockingKeysFromComment c.body

/-- The comment is about this diff at this commit. -/
def isCacheHit (c : IssueComment) : Bool :=
  cachedHash host c = some s.diffHash &&
    (cachedReviewedSha host c).any fun sha => host.toLowerCase sha = host.toLowerCase s.commitSha

def remainingBlockers (c : IssueComment) : List String :=
  (cachedBlockingKeys host c).filter fun k => ((extractOverrides host s.trusted).get? k).isNone

/-- The cached verdict path; `none` falls through to a fresh review. -/
def cachedRoute : Option Routed :=
  match s.latestPriorComment with
  | none => none
  | some c =>
    if !s.isCacheHit host c then none
    else
      let remaining := s.remainingBlockers host c
      let isBlocking :=
        extractVerdictFromComment c.body = some .needsAttention && !remaining.isEmpty
      let atCeiling :=
        0 < s.maxAdversarialRounds && s.maxAdversarialRounds ≤ s.priorRoundCommentsForCache.length
      if !remaining.isEmpty ∧ !(extractScopedOverrides host s.trusted).isEmpty then none
      else if isBlocking ∧ atCeiling ∧ s.demotes then none
      else some (if isBlocking then .fix else .advance)

/-! ## Agreement with the gate -/

/-- The comment is what the stage posted for the verdict: the heading has its token, a verdict that
asks for changes has findings, and the keys of those that blocked then are recorded. -/
structure Records (before : PartitionInputs) (c : IssueComment) (verdict : ReviewVerdict) :
    Prop where
  token : extractVerdictFromComment c.body = some verdict.verdict
  findings : verdict.verdict = .needsAttention → verdict.findings ≠ []
  keys : ∀ f ∈ (partitionFindings host verdict.findings s.policy before).blocking,
    findingKey host f ∈ cachedBlockingKeys host c

/-- The cached path advances only what routing the verdict again advances. -/
def AgreesWithGate (verdict : ReviewVerdict) : Prop :=
  s.cachedRoute host = some .advance → s.routeVerdict host false verdict = .ok .advance

/-- A finding that blocks unless an operator overrides it. -/
structure IsLive (findings : List ReviewFinding) (inputs : PartitionInputs) (f : ReviewFinding) :
    Prop where
  unmarked : f.blocking ≠ some false
  meets : meetsPolicy s.policy f = true
  unsettled : settledGuard host inputs.settledFindings f = none
  reproduces : isBlockingCandidate s.policy f = true →
    isAmbiguous host findings s.policy (findingKey host f) = false → declaredNonReproducing host inputs f = none

/-- A scope, or the unambiguous key of a finding that could block, takes the finding out. -/
def IsOverridden (findings : List ReviewFinding) (inputs : PartitionInputs) (f : ReviewFinding) :
    Prop :=
  (∃ o ∈ inputs.scopes, matchFindingScope host f o = true) ∨ isBlockingCandidate s.policy f = true ∧
      isAmbiguous host findings s.policy (findingKey host f) = false ∧
      (inputs.overrides.get? (findingKey host f)).isSome = true

/-- No override lapsed: a live finding that was overridden when the verdict was posted, or whose
key has a sentinel, is overridden now. -/
def NoneLapsed (findings : List ReviewFinding) (before now : PartitionInputs) : Prop :=
  ∀ f ∈ findings, IsLive host s findings now f → IsOverridden host s findings before f ∨
        ((extractOverrides host s.trusted).get? (findingKey host f)).isSome = true →
      IsOverridden host s findings now f

end CachedRoute

section Agreement

variable {host : NodeHost} {s : ReviewStage} {f : ReviewFinding}

lemma scopedEntry_eq_none_iff {scopes : List ScopedOverride} :
    scopedEntry host scopes f = none ↔ ¬∃ o ∈ scopes, matchFindingScope host f o = true := by
  simp [scopedEntry]

variable {findings : List ReviewFinding} {inputs : PartitionInputs}

lemma place_eq_blocking_iff_isLive : place host findings s.policy inputs f = .blocking ↔
      IsLive host s findings inputs f ∧ ¬IsOverridden host s findings inputs f := by
  rw [place_eq_blocking_iff, scopedEntry_eq_none_iff, disposedEntry_eq_none_iff]
  constructor
  · rintro ⟨hunmarked, hscopes, hkey, hmeets, hguard⟩
    refine ⟨⟨hunmarked, hmeets, hguard, fun hc ha => (hkey hc ha).2⟩, ?_⟩
    rintro (hscope | ⟨hc, ha, hover⟩)
    · exact hscopes hscope
    · simp [(hkey hc ha).1] at hover
  · rintro ⟨hlive, hnot⟩
    refine ⟨hlive.unmarked, fun h => hnot (.inl h), ?_, hlive.meets, hlive.unsettled⟩
    intro hc ha
    refine ⟨?_, hlive.reproduces hc ha⟩
    by_contra hover
    exact hnot (.inr ⟨hc, ha, Option.isSome_iff_ne_none.2 hover⟩)

lemma IsLive.congr {a b : PartitionInputs}
    (hnon : a.nonReproducing = b.nonReproducing) (hsha : a.reviewedSha = b.reviewedSha)
    (hsettled : a.settledFindings = b.settledFindings) (h : IsLive host s findings a f) :
    IsLive host s findings b f where
  unmarked := h.unmarked
  meets := h.meets
  unsettled := hsettled ▸ h.unsettled
  reproduces hc ha := by
    have hdeclared := h.reproduces hc ha
    simpa [declaredNonReproducing, hnon, hsha] using hdeclared

lemma blocking_eq_nil_iff : (partitionFindings host findings s.policy inputs).blocking = [] ↔
      ∀ f ∈ findings, IsLive host s findings inputs f → IsOverridden host s findings inputs f := by
  rw [List.eq_nil_iff_forall_not_mem]
  simp only [mem_blocking_iff, place_eq_blocking_iff_isLive, not_and, not_not]

lemma cachedRoute_eq_advance_iff {c : IssueComment} (hlatest : s.latestPriorComment = some c)
    (hhit : s.isCacheHit host c = true) (htoken : extractVerdictFromComment c.body = some .needsAttention) :
    s.cachedRoute host = some .advance ↔ ∀ k ∈ cachedBlockingKeys host c,
        ((extractOverrides host s.trusted).get? k).isSome = true := by
  have hremaining : s.remainingBlockers host c = [] ↔ ∀ k ∈ cachedBlockingKeys host c,
        ((extractOverrides host s.trusted).get? k).isSome = true := by
    simp [remainingBlockers, Option.isSome_iff_ne_none]
  rw [← hremaining]
  simp only [cachedRoute, hlatest, hhit, htoken]
  cases hcase : s.remainingBlockers host c with
  | nil => simp
  | cons k ks =>
    simp only [Bool.not_true, Bool.false_eq_true, if_false, decide_true, List.isEmpty_cons,
      Bool.not_false, Bool.and_true, if_true, reduceCtorEq, iff_false]
    split
    · simp
    · split <;> simp

/-- The cached path agrees with the gate exactly when it is not taken, the verdict approves, some
recorded key has no sentinel, or no override lapsed since. -/
theorem agreesWithGate_iff {c : IssueComment} {verdict : ReviewVerdict} {before : PartitionInputs}
    {projected : ProjectedOverrides} (hlatest : s.latestPriorComment = some c)
    (hrecords : s.Records host before c verdict)
    (hnon : before.nonReproducing = s.nonReproducing)
    (hsha : before.reviewedSha = some s.commitSha) (hsettled : before.settledFindings = s.settled)
    (hproject : s.project host verdict.findings = .ok projected) :
    s.AgreesWithGate host verdict ↔ s.isCacheHit host c = false ∨ verdict.verdict = .approve ∨
        (∃ k ∈ cachedBlockingKeys host c, (extractOverrides host s.trusted).get? k = none) ∨
        s.NoneLapsed host verdict.findings before (s.inputsWith projected) := by
  cases hhit : s.isCacheHit host c with
  | false =>
    have hroute : s.cachedRoute host = none := by simp [cachedRoute, hlatest, hhit]
    simp [AgreesWithGate, hroute]
  | true =>
    cases hverdict : verdict.verdict with
    | approve => simp [AgreesWithGate, routeVerdict, hverdict]
    | needsAttention =>
      have htoken : extractVerdictFromComment c.body = some .needsAttention :=
        hverdict ▸ hrecords.token
      have hgate : s.routeVerdict host false verdict = .ok .advance ↔ ∀ f ∈ verdict.findings,
            IsLive host s verdict.findings (s.inputsWith projected) f →
              IsOverridden host s verdict.findings (s.inputsWith projected) f := by
        rw [s.routeVerdict_eq_advance_iff host hproject, blocking_eq_nil_iff]
        simp [hverdict, hrecords.findings hverdict]
      rw [AgreesWithGate, cachedRoute_eq_advance_iff hlatest hhit htoken, hgate]
      constructor
      · intro hagrees
        by_cases hkeys : ∃ k ∈ cachedBlockingKeys host c, (extractOverrides host s.trusted).get? k = none
        · exact .inr (.inr (.inl hkeys))
        · have hall : ∀ k ∈ cachedBlockingKeys host c, ((extractOverrides host s.trusted).get? k).isSome = true := by
            intro k hk
            exact Option.isSome_iff_ne_none.2 fun hnone => hkeys ⟨k, hk, hnone⟩
          exact .inr (.inr (.inr fun f hf hlive _ => hagrees hall f hf hlive))
      · rintro (hmiss | happrove | ⟨k, hk, hnone⟩ | hlapsed) hall f hf hlive
        · exact absurd hmiss (by decide)
        · exact absurd happrove (by decide)
        · have hsome := hall k hk
          simp [hnone] at hsome
        · refine hlapsed f hf hlive ?_
          by_cases hbefore : IsOverridden host s verdict.findings before f
          · exact .inl hbefore
          · -- it blocked when the verdict was posted, so its key is recorded
            have hlive' : IsLive host s verdict.findings before f :=
              hlive.congr hnon.symm hsha.symm hsettled.symm
            have hblocked := (mem_blocking_iff host).2
              ⟨hf, place_eq_blocking_iff_isLive.2 ⟨hlive', hbefore⟩⟩
            exact .inr (hall _ (hrecords.keys f hblocked))

end Agreement

/-! ## An override that expired -/

def pipelineFooter : List Char := "*Automated by Claude Code Pipeline Skill*".toList

def reviewedCommit : String := NodeHost.zeros 40

/-- The comment of a round that found `uncheckedRead`. -/
def postedVerdict : IssueComment where
  author := some "pipeline-bot"
  body :=
    "## Review 2 (Adversarial) — needs-attention (commit 0000000)".toList ++ '\n' :: pipelineFooter ++ '\n' ::
      "<!-- pipeline-blocking-keys: 719072e4 -->".toList ++ '\n' ::
      "<!-- reviewed-sha: ".toList ++ reviewedCommit.toList ++ " -->".toList ++ '\n' ::
      "<!-- verdict-diff-hash: 0123456789abcdef -->".toList

def readVerdict : ReviewVerdict where
  verdict := .needsAttention
  summary := "One read is unchecked."
  findings := [uncheckedRead]
  nextSteps := []
  commitSha := reviewedCommit

/-- The stage on the same diff, after `uncheckedRead` was deferred for twenty hours. -/
def deferredAt (now : Int) : ReviewStage where
  round := .two
  comments := [postedVerdict, ⟨some "octo", boundOverride.body, boundOverride.createdAt⟩]
  actor := some "pipeline-bot"
  trustedOverrideActors := ["octo"]
  footer := pipelineFooter
  commitSha := reviewedCommit
  diffHash := "0123456789abcdef"
  now := now
  configuredPolicy := majorPolicy

lemma records_postedVerdict (now : Int) :
    (deferredAt now).Records sameLineHost (deferredAt now).inputs postedVerdict readVerdict where
  token := by decide +kernel
  findings := by decide
  keys := by
    intro f hf
    obtain rfl : f = uncheckedRead := List.mem_singleton.1 ((mem_blocking_iff sameLineHost).1 hf).1
    decide +kernel

lemma cachedRoute_at (host : NodeHost) (s : ReviewStage) (now : Int) :
    { s with now }.cachedRoute host = s.cachedRoute host := rfl

set_option maxRecDepth 4000 in
lemma cachedRoute_deferredAt (now : Int) : (deferredAt now).latestPriorComment = some postedVerdict ∧
      (deferredAt now).cachedRoute sameLineHost = some .advance := by
  have hevaluated : (deferredAt 0).latestPriorComment = some postedVerdict ∧
      (deferredAt 0).cachedRoute sameLineHost = some .advance := by
    unfold deferredAt boundOverride
    rw [String.toList_ofList]
    decide +kernel
  refine ⟨hevaluated.1, ?_⟩
  rw [← cachedRoute_at sameLineHost (deferredAt 0) now] at hevaluated
  exact hevaluated.2

set_option maxRecDepth 4000 in
theorem expired_override_advances :
    (deferredAt 86399999).latestPriorComment = some postedVerdict ∧
      (deferredAt 86399999).Records sameLineHost (deferredAt 86399999).inputs postedVerdict
        readVerdict ∧
      ¬(deferredAt 86399999).AgreesWithGate sameLineHost readVerdict := by
  obtain ⟨hlatest, hroute⟩ := cachedRoute_deferredAt 86399999
  refine ⟨hlatest, records_postedVerdict 86399999, fun hagrees => ?_⟩
  have hgate : ((deferredAt 86399999).routeVerdict sameLineHost false readVerdict).toOption = some .fix := by
    unfold deferredAt boundOverride
    rw [String.toList_ofList]
    decide +kernel
  rw [hagrees hroute] at hgate
  exact absurd hgate (by decide)

set_option maxRecDepth 4000 in
theorem standing_override_agrees :
    (deferredAt 0).cachedRoute sameLineHost = some .advance ∧
      (deferredAt 0).AgreesWithGate sameLineHost readVerdict := by
  obtain ⟨hlatest, hroute⟩ := cachedRoute_deferredAt 0
  have hevaluated : ((deferredAt 0).project sameLineHost readVerdict.findings).toOption.map
      (fun projected => projected.overrides.get? "719072e4") = some (some "deferred") := by
    unfold deferredAt boundOverride
    rw [String.toList_ofList]
    decide +kernel
  obtain ⟨projected, hproject, hoverride⟩ := exists_ok_of_map_toOption hevaluated
  refine ⟨hroute, (agreesWithGate_iff hlatest (records_postedVerdict 0) rfl rfl rfl hproject).2 ?_⟩
  refine .inr (.inr (.inr fun f hf _ _ => .inr ?_))
  obtain rfl : f = uncheckedRead := List.mem_singleton.1 hf
  have hkey : findingKey sameLineHost uncheckedRead = "719072e4" := by decide +kernel
  refine ⟨by decide +kernel, by decide +kernel, ?_⟩
  rw [hkey]
  exact Option.isSome_iff_exists.2 ⟨_, hoverride⟩

end ReviewStage

end AgentPipeline.Review
