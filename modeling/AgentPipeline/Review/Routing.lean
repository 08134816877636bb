import AgentPipeline.Review.History
import AgentPipeline.Review.OverrideProjection

/-!
# Routing: where a verdict sends the item

`routeVerdict` is the end of the review stage: an approval advances, a verdict without findings is
asked for once more, and else the partition decides. With no blocking finding the item advances;
with one it goes to the fix stage, unless a guard on rounds that do not converge holds.

Advancing past blocking findings is left to the guards alone, and they do it only when the
configuration says `demote_and_advance` (`routeBlocking_ne_advance`, `routeBlocking_ne_demoted`).
-/

namespace AgentPipeline.Review

inductive CeilingAction where
  | park | demoteAndAdvance
deriving DecidableEq, Repr

/-- What the stage knows when it routes a verdict. -/
structure ReviewStage where
  round : ReviewRound
  comments : List IssueComment
  /-- The authenticated pipeline actor. -/
  actor : Option String
  trustedOverrideActors : List String := []
  /-- `cfgFooter(cfg)`. -/
  footer : List Char
  commitSha : String
  /-- `computeDiffHash(diff)`. -/
  diffHash : String
  now : Int
  governance : Option OverrideGovernanceConfig := none
  configuredPolicy : ReviewPolicy
  riskProportional : Bool := false
  review1Risk : Review1Risk := .standard
  maxAdversarialRounds : Nat := 3
  ceilingAction : CeilingAction := .park
  surfaceRecurrenceRounds : Nat := 3
  /-- `autoFileAllowed()`. -/
  autoFileAllowed : Bool := true
  /-- `priorRoundCommentsForRecovery`: the verdicts of this round whose fix completed. -/
  priorRounds : List IssueComment := []
  nonReproducing : JsObject (List NonReproducing) := .empty
  /-- `settledFindings(priorRoundsDigest)` in the second round. -/
  settled : List SettledFinding := []

/-- Where the item goes. -/
inductive Routed where
  /-- To `review-2` after the first round, to `pre-merge` after the second. -/
  | advance
  /-- Onward past findings that were deferred to a follow-up issue. -/
  | demoted
  | fix
  /-- Blocked, for a bounded automated remediation. -/
  | recovery
  /-- The reviewer is asked again. -/
  | reReview
  /-- Blocked: there is nothing to fix and nothing approved. -/
  | noFindings
deriving DecidableEq, Repr

/-- `text.includes(part)`. -/
def includes (text part : List Char) : Bool := text.tails.any fun rest => part.isPrefixOf rest

def buildTrustedOverrideComments (comments : List IssueComment) (actor : Option String)
    (allowlist : List String) : List TrustedComment :=
  match actor with
  | none => []
  | some actor =>
    (comments.filter fun c => c.author.any fun author =>
      author = actor || allowlist.contains author).map fun c => ⟨c.body, c.createdAt⟩

/-- `effectiveReviewPolicy(policy, context)`: low risk raises the threshold of the second round. -/
def effectiveReviewPolicy (policy : ReviewPolicy) (riskProportional : Bool) (round : ReviewRound)
    (risk : Review1Risk) : ReviewPolicy :=
  if round ≠ .two ∨ !riskProportional ∨ risk ≠ .low then policy
  else if policy.blockThreshold.rank ≤ Severity.high.rank then { policy with blockThreshold := .high }
  else policy

namespace ReviewStage

variable (host : NodeHost) (s : ReviewStage)

def trusted : List TrustedComment :=
  buildTrustedOverrideComments s.comments s.actor s.trustedOverrideActors

def policy : ReviewPolicy :=
  effectiveReviewPolicy s.configuredPolicy s.riskProportional s.round s.review1Risk

/-- What the partition gets beside the overrides. -/
def inputs : PartitionInputs where
  nonReproducing := s.nonReproducing
  reviewedSha := some s.commitSha
  settledFindings := s.settled

/-- What the partition gets, with the overrides in force. -/
def inputsWith (projected : ProjectedOverrides) : PartitionInputs :=
  { s.inputs with overrides := projected.overrides, scopes := projected.scopes }

/-- The overrides in force for the findings of a verdict. -/
def project (findings : List ReviewFinding) : Except Json ProjectedOverrides :=
  projectOverridesForPartition host s.trusted s.governance none s.now findings

/-! ## Rounds that do not converge -/

def isHighOrCritical (f : ReviewFinding) : Bool := Severity.high.rank ≤ severityRank f.severity

def demotes : Bool := s.ceilingAction = .demoteAndAdvance

/-- `roundCap > 0 && priorRoundComments.length + 1 >= roundCap`. -/
def atRoundCap : Bool :=
  0 < s.maxAdversarialRounds && s.maxAdversarialRounds ≤ s.priorRounds.length + 1

/-- The blocking keys of the last round that a fix followed. -/
def priorKeys : List String :=
  (s.priorRounds.getLast?.map fun c => extractBlockingKeysFromComment c.body).getD []

/-- `trustedPriorRoundForSurface`, the latest first. -/
def trustedPriorRounds : List IssueComment :=
  (s.priorRounds.filter fun c =>
    includes c.body s.footer && s.actor.any fun actor => c.author = some actor).reverse

/-- A surface that blocked in so many rounds in a row, and has a key that it did not have in the
last one. -/
def surfaceFires (blocking : List ReviewFinding) (sk : String) : Bool :=
  let streak := 1 + (s.trustedPriorRounds.takeWhile fun c =>
    (extractBlockingSurfacesFromComment c.body).values.contains sk).length
  let lastSurfaces := (s.trustedPriorRounds.head?.map fun c =>
    extractBlockingSurfacesFromComment c.body).getD .empty
  s.surfaceRecurrenceRounds ≤ streak && blocking.any fun f =>
    surfaceKey host f = some sk && lastSurfaces.get? (findingKey host f) ≠ some sk

def isFired (blocking : List ReviewFinding) (f : ReviewFinding) : Bool :=
  (surfaceKey host f).any (s.surfaceFires host blocking)

/-- Findings below `high` go to a follow-up issue where that is configured and allowed. -/
def demoteOrRecover (findings : List ReviewFinding) : Routed :=
  if s.demotes ∧ !findings.any isHighOrCritical ∧ !findings.isEmpty ∧ s.autoFileAllowed then
    .demoted
  else .recovery

/-- The bounded rounds ceiling, and else the fix stage. -/
def routeAtCeiling (blocking : List ReviewFinding) : Routed :=
  let isNew := fun f => !s.priorKeys.contains (findingKey host f)
  if !blocking.any isNew ∧ s.atRoundCap then s.demoteOrRecover blocking else .fix

/-- What becomes of a verdict with blocking findings. -/
def routeBlocking (blocking : List ReviewFinding) : Routed :=
  let isNew := fun f => !s.priorKeys.contains (findingKey host f)
  -- every key was there before the fix
  if !blocking.isEmpty ∧ !blocking.any isNew ∧ !(s.atRoundCap && s.demotes) then .recovery
  else
    let fired := blocking.filter (s.isFired host blocking)
    -- a surface that did not fire still gets its fix
    if 0 < s.surfaceRecurrenceRounds ∧ !fired.isEmpty ∧ blocking.all (s.isFired host blocking) then
      s.demoteOrRecover fired
    else s.routeAtCeiling host blocking

/-- `advanceReview` from the verdict on; `retried` when the reviewer was already asked again. -/
def routeVerdict (retried : Bool) (verdict : ReviewVerdict) : Except Json Routed :=
  match verdict.verdict with
  | .approve => .ok .advance
  | .needsAttention =>
    if verdict.findings.isEmpty then .ok (if retried then .noFindings else .reReview)
    else do
      let projected ← s.project host verdict.findings
      let partition := partitionFindings host verdict.findings s.policy (s.inputsWith projected)
      return if partition.blocking.isEmpty then .advance else s.routeBlocking host partition.blocking

/-! ## What the guards can do -/

lemma demoteOrRecover_cases (findings : List ReviewFinding) :
    s.demoteOrRecover findings = .demoted ∧ s.demotes = true ∨ s.demoteOrRecover findings = .recovery := by
  unfold demoteOrRecover
  split
  · next h => exact .inl ⟨rfl, h.1⟩
  · exact .inr rfl

lemma routeAtCeiling_cases (blocking : List ReviewFinding) :
    s.routeAtCeiling host blocking = .demoted ∧ s.demotes = true ∨
      s.routeAtCeiling host blocking = .recovery ∨ s.routeAtCeiling host blocking = .fix := by
  unfold routeAtCeiling
  dsimp only
  split
  · rcases s.demoteOrRecover_cases blocking with h | h
    · exact .inl h
    · exact .inr (.inl h)
  · exact .inr (.inr rfl)

lemma routeBlocking_cases (blocking : List ReviewFinding) :
    s.routeBlocking host blocking = .demoted ∧ s.demotes = true ∨
      s.routeBlocking host blocking = .recovery ∨ s.routeBlocking host blocking = .fix := by
  unfold routeBlocking
  dsimp only
  split
  · exact .inr (.inl rfl)
  · split
    · rcases s.demoteOrRecover_cases (blocking.filter (s.isFired host blocking)) with h | h
      · exact .inl h
      · exact .inr (.inl h)
    · exact s.routeAtCeiling_cases host blocking

lemma routeBlocking_ne_advance (blocking : List ReviewFinding) : s.routeBlocking host blocking ≠ .advance := by
  rcases s.routeBlocking_cases host blocking with ⟨h, -⟩ | h | h <;> simp [h]

lemma routeBlocking_ne_demoted (hpark : s.ceilingAction = .park) (blocking : List ReviewFinding) :
    s.routeBlocking host blocking ≠ .demoted := by
  rcases s.routeBlocking_cases host blocking with ⟨-, h⟩ | h | h
  · simp [demotes, hpark] at h
  · simp [h]
  · simp [h]

lemma routeVerdict_eq_advance_iff {retried : Bool} {verdict : ReviewVerdict}
    {projected : ProjectedOverrides} (hproject : s.project host verdict.findings = .ok projected) :
    s.routeVerdict host retried verdict = .ok .advance ↔ verdict.verdict = .approve ∨ verdict.findings ≠ [] ∧
          (partitionFindings host verdict.findings s.policy (s.inputsWith projected)).blocking = [] := by
  unfold routeVerdict
  cases verdict.verdict with
  | approve => simp
  | needsAttention =>
    by_cases hfindings : verdict.findings = []
    · cases retried <;> simp [hfindings]
    · simp only [List.isEmpty_iff, hfindings, hproject, bind, Except.bind, pure, Except.pure,
        if_false, Except.ok.injEq, reduceCtorEq, false_or, ne_eq, not_false_eq_true, true_and]
      split
      · next h => simp [h]
      · next h => simp [h, s.routeBlocking_ne_advance host]

end ReviewStage

end AgentPipeline.Review
