import Mathlib.Data.Fintype.OfMap
import Mathlib.Data.Fintype.Pi
import AgentPipeline.Foundation.JsObject
import AgentPipeline.Foundation.JsRuntime

/-!
# Types: the documents of the durable loop engine

The contract and the ledger of a run (`loop/types.ts`), the closed enumerations they are built
from, and the failure taxonomy `LoopError`. Field names are the source's, in camel case. An
optional or nullable field is an `Option`; a `Record<string, α>` is a `JsObject α`; a number that
the source only counts with is a `Nat`, every other number a rational.
-/

namespace AgentPipeline.Loop

/-! ## Enumerations -/

inductive LoopEngineName where
  | claude | codex
deriving DecidableEq, Repr

def LoopEngineName.name : LoopEngineName → String
  | .claude => "claude"
  | .codex => "codex"

inductive LoopItemState where
  | pending | inProgress | blocked | abandoned | implemented | prOpened | ready | merged
  | released | deployed | paused | waiting | skipped
deriving DecidableEq, Repr

def LoopItemState.name : LoopItemState → String
  | .pending => "pending"
  | .inProgress => "in_progress"
  | .blocked => "blocked"
  | .abandoned => "abandoned"
  | .implemented => "implemented"
  | .prOpened => "pr_opened"
  | .ready => "ready"
  | .merged => "merged"
  | .released => "released"
  | .deployed => "deployed"
  | .paused => "paused"
  | .waiting => "waiting"
  | .skipped => "skipped"

inductive LoopAuthorityGate where
  | pushPr | merge | release | deploy
deriving DecidableEq, Repr

def LoopAuthorityGate.name : LoopAuthorityGate → String
  | .pushPr => "push_pr"
  | .merge => "merge"
  | .release => "release"
  | .deploy => "deploy"

inductive DurableBlockerClass where
  | transientRateLimit | workflowState | implementationCi | reviewFindings | environmentAuth
  | specificationDecision | missingAuthority | upstreamDependency | workflowEngineDefect
deriving DecidableEq, Repr

def DurableBlockerClass.name : DurableBlockerClass → String
  | .transientRateLimit => "transient-rate-limit"
  | .workflowState => "workflow-state"
  | .implementationCi => "implementation-ci"
  | .reviewFindings => "review-findings"
  | .environmentAuth => "environment-auth"
  | .specificationDecision => "specification-decision"
  | .missingAuthority => "missing-authority"
  | .upstreamDependency => "upstream-dependency"
  | .workflowEngineDefect => "workflow-engine-defect"

/-- `DURABLE_BLOCKER_CLASSES`, in the order of the source. -/
def DurableBlockerClass.all : List DurableBlockerClass :=
  [.transientRateLimit, .workflowState, .implementationCi, .reviewFindings, .environmentAuth,
    .specificationDecision, .missingAuthority, .upstreamDependency, .workflowEngineDefect]

lemma DurableBlockerClass.mem_all (c : DurableBlockerClass) : c ∈ all := by
  cases c <;> decide

/-- `isDurableBlockerClass`: the class a text names, if it names one. -/
def isDurableBlockerClass (text : String) : Option DurableBlockerClass :=
  DurableBlockerClass.all.find? fun c => c.name = text

inductive RecoveryRecipe where
  | waitAndRetry | verifyAuthentication | verifyHeadGoal | unlinkEngineScratch
  | checkpointOwnedHarnessDirt | publishUnpublishedStageCommit | rebindTesterEvidenceAfterPr
  | repairPipelineItem | rerunCi | resyncWorkflowState | retryUpstreamCheck
  | restartWorkflowEngine
deriving DecidableEq, Repr

def RecoveryRecipe.name : RecoveryRecipe → String
  | .waitAndRetry => "wait_and_retry"
  | .verifyAuthentication => "verify_authentication"
  | .verifyHeadGoal => "verify_head_goal"
  | .unlinkEngineScratch => "unlink_engine_scratch"
  | .checkpointOwnedHarnessDirt => "checkpoint_owned_harness_dirt"
  | .publishUnpublishedStageCommit => "publish_unpublished_stage_commit"
  | .rebindTesterEvidenceAfterPr => "rebind_tester_evidence_after_pr"
  | .repairPipelineItem => "repair_pipeline_item"
  | .rerunCi => "rerun_ci"
  | .resyncWorkflowState => "resync_workflow_state"
  | .retryUpstreamCheck => "retry_upstream_check"
  | .restartWorkflowEngine => "restart_workflow_engine"

/-- `RECOVERY_RECIPES`, in the order of the source. -/
def RecoveryRecipe.all : List RecoveryRecipe :=
  [.waitAndRetry, .verifyAuthentication, .verifyHeadGoal, .unlinkEngineScratch,
    .checkpointOwnedHarnessDirt, .publishUnpublishedStageCommit, .rebindTesterEvidenceAfterPr,
    .repairPipelineItem, .rerunCi, .resyncWorkflowState, .retryUpstreamCheck,
    .restartWorkflowEngine]

lemma RecoveryRecipe.mem_all (r : RecoveryRecipe) : r ∈ all := by
  cases r <;> decide

instance : Fintype RecoveryRecipe :=
  Fintype.ofList RecoveryRecipe.all RecoveryRecipe.mem_all

inductive RecoveryTerminalOutcome where
  | retry | humanAuthority
deriving DecidableEq, Repr

inductive RecoveryAttemptOutcome where
  | started | recovered | superseded | exhausted | skipped | repeatedNoProgress | needsHuman
  | humanAuthority | failed
deriving DecidableEq, Repr

inductive LoopHumanInputRequestKind where
  | decision | answer | authorityGrant
deriving DecidableEq, Repr

inductive PublicTypedRequest where
  | decisionRequest | capabilityRequest | authorityRequest
deriving DecidableEq, Repr

/-! ## Failures -/

inductive LoopFailureClass where
  | validation | lock | authority | stop | conflict | pipelineMandate | nativeGoalMandate
  /-- A plain `Error` or `RangeError`, which the engine does not classify. -/
  | unclassified
deriving DecidableEq, Repr

structure LoopError where
  loopFailureClass : LoopFailureClass
  message : String
deriving DecidableEq, Repr

/-! ## Live observations -/

inductive PrState where
  | opened | closed | merged
deriving DecidableEq, Repr

inductive ChecksConclusion where
  | success | failure | pending | none
deriving DecidableEq, Repr

inductive SideEffectCertainty where
  | knownComplete | knownAbsent | uncertain
deriving DecidableEq, Repr

inductive ArtifactRole where
  | planning | implementation | unknown
deriving DecidableEq, Repr

/-- What one live observation of an item found. `logicalCandidateEpoch` is `none` where the
field is absent and `some none` where the lineage could not be read. -/
structure LoopExternalIdentity where
  issueNumber : Nat
  issueOpen : Bool
  readyLabelPresent : Bool
  blockedLabelPresent : Bool
  prNumber : Option Nat
  prState : Option PrState
  headBranch : String
  headSha : String
  mergeCommitSha : Option String
  checksConclusion : ChecksConclusion
  pipelineStage : Option String
  observedAt : String
  localHeadSha : Option String
  rebaseInProgress : Bool
  productDirt : Bool
  integrationCertainty : Option SideEffectCertainty
  artifactRole : Option ArtifactRole
  artifactIdentity : Option String
  candidateEpoch : Option String
  logicalCandidateEpoch : Option (Option String)
  logicalOperationId : Option String
  expectedLogicalOperationId : Option String
  linkedPrNumbers : List Nat
deriving DecidableEq, Repr

inductive LoopDriftClass where
  | ledgerBehind | ledgerAhead | externalAbsent | identityMismatch | checksRegressed
deriving DecidableEq, Repr

inductive LoopNextAction where
  | advance | awaitChecks | repairForward | reconstruct | clearMergeBarrier | holdForHuman | noop
deriving DecidableEq, Repr

structure LoopDrift where
  itemId : String
  ledgerState : LoopItemState
  observedState : String
  driftClass : LoopDriftClass
deriving DecidableEq, Repr

structure LoopReconciliation where
  sequence : Nat
  time : String
  observed : JsObject LoopExternalIdentity
  drift : List LoopDrift
  nextActions : JsObject LoopNextAction
deriving DecidableEq

/-! ## Recovery policy -/

structure RecoveryBackoff where
  initialSeconds : ℚ
  multiplier : ℚ
  maxSeconds : ℚ
deriving DecidableEq

structure RecoveryPolicyEntry where
  recipes : List RecoveryRecipe
  retryBudget : ℚ
  backoff : RecoveryBackoff
  terminalOutcome : RecoveryTerminalOutcome
  runFatal : Bool
  repeatedEvidenceLimit : ℚ
  perStrategyBound : Option ℚ
deriving DecidableEq

/-- A policy has an entry for every class. -/
abbrev RecoveryPolicy := DurableBlockerClass → RecoveryPolicyEntry

/-! ## The ledger -/

structure DecisionResolutionPackage where
  recommendation : String
  rationale : String
  alternatives : List String
  risk : String
  evidence : List String
deriving DecidableEq, Repr

structure CapabilityRequestRecord where
  missing : String
  provider : String
  liveProbe : String
  resumeCondition : String
deriving DecidableEq, Repr

structure AuthorityRequestRecord where
  eligibleActor : String
  repository : String
  operation : String
  scope : String
  candidateEpoch : Option String
  evidence : List String
  expiry : String
deriving DecidableEq, Repr

structure LoopHumanInputRequest where
  requestId : String
  itemId : String
  kind : LoopHumanInputRequestKind
  prompt : String
  permittedResponses : Option (List String)
  requestedByEngine : LoopEngineName
  requestedAt : String
  typedRequest : Option PublicTypedRequest
  decisionPackage : Option DecisionResolutionPackage
  capabilityRequest : Option CapabilityRequestRecord
  authorityRequest : Option AuthorityRequestRecord
  authorityEvidenceKey : Option String
  authorityCandidateHead : Option String
  /-- Set when the hold was entered on a live `pipeline:blocked` label. -/
  sourceBlockedLabel : Bool
deriving DecidableEq, Repr

structure LoopHistoryEntry where
  time : String
  fromState : LoopItemState
  toState : LoopItemState
  engine : LoopEngineName
  theme : Option String := none
  evidence : Option String := none
  note : Option String := none
deriving DecidableEq, Repr

structure LoopItemLedgerEntry where
  id : String
  state : LoopItemState
  history : List LoopHistoryEntry := []
  blockedTheme : Option String := none
  /-- Keyed by blocker class; the source's `default` key is an ordinary key here. -/
  recoveryBudgetsRemaining : JsObject ℚ := .empty
  evidenceFingerprint : Option String := none
  blockerCandidateEpoch : Option String := none
  blockerCandidateHead : Option String := none
  repeatedEvidenceCount : Option Nat := none
  holdRequest : Option LoopHumanInputRequest := none
  lastVerifiedIdentity : Option LoopExternalIdentity := none
deriving DecidableEq

structure LoopMergeBarrier where
  itemId : String
  mergedSha : String
  setAt : String
deriving DecidableEq, Repr

inductive CoolingReason where
  | strategyCursorExhausted | mechanicalExhaustion
deriving DecidableEq, Repr

/-- `historical_evidence` keeps one of the six mechanical stop reasons as text. -/
structure LoopCoolingRecord where
  reason : CoolingReason
  time : String
  itemId : Option String := none
  theme : Option String := none
  candidateEpoch : Option String := none
  nextEligibleAt : Option String := none
  historicalEvidence : Option String := none
  quarantinePath : Option String := none
deriving DecidableEq, Repr

inductive LoopStopReason where
  | recoveryExhausted | consecutiveBlocked | needsHumanClassification | repeatedNoProgress
  | humanAuthority | runFatal | supervisorNoProgress | supervisorCycleCap | dependencyDeadlock
  | worktreeCapacity
deriving DecidableEq, Repr

def LoopStopReason.name : LoopStopReason → String
  | .recoveryExhausted => "recovery_exhausted"
  | .consecutiveBlocked => "consecutive_blocked"
  | .needsHumanClassification => "needs_human_classification"
  | .repeatedNoProgress => "repeated_no_progress"
  | .humanAuthority => "human_authority"
  | .runFatal => "run_fatal"
  | .supervisorNoProgress => "supervisor_no_progress"
  | .supervisorCycleCap => "supervisor_cycle_cap"
  | .dependencyDeadlock => "dependency_deadlock"
  | .worktreeCapacity => "worktree_capacity"

structure LoopStopRecord where
  reason : LoopStopReason
  time : String
  itemId : Option String := none
  theme : Option String := none
  outstandingReady : List String := []
deriving DecidableEq, Repr

structure LoopNativeGoalCheck where
  engine : LoopEngineName
  runId : String
  status : String
  checkedAt : String
deriving DecidableEq, Repr

structure LoopAuthorityAmendment where
  gate : LoopAuthorityGate
  scopeItemId : String
  actor : String
  reason : String
  time : String
deriving DecidableEq, Repr

/-- Attempts per recipe, `none` where the object has no such key. -/
abbrev StrategyCounts := RecoveryRecipe → Option Nat

/-- One recovery attempt. The fields from `invariant` on are the Recovery Episode fields, absent
on rows of older ledgers, as `attemptId`, `candidateIdentity`, `action` and `budgetRemaining` may
be. -/
structure LoopRecoveryAttempt where
  attemptId : Option String
  seq : Nat
  time : String
  notBefore : Option String := none
  completedAt : Option String := none
  itemId : String
  blockerClass : DurableBlockerClass
  candidateIdentity : Option String
  action : Option RecoveryRecipe
  actions : Option (List RecoveryRecipe)
  evidenceFingerprint : String
  outcome : RecoveryAttemptOutcome
  budgetRemaining : Option ℚ
  error : Option String := none
  invariant : Option String := none
  candidateEpoch : Option String := none
  evidenceIdentity : Option String := none
  attemptsPerStrategy : Option StrategyCounts := none
  strategyCursor : Option Nat := none
  skippedStrategies : Option (List RecoveryRecipe) := none
  nextEligibleAt : Option String := none
  fenceToken : Option String := none
  sideEffectCertainty : Option SideEffectCertainty := none
  episodeId : Option String := none
  operation : Option String := none
deriving DecidableEq

inductive RecoveryLifecycleState where
  | active | cooling | externalConditionWait | typedInputWait | succeeded | cancelled
deriving DecidableEq, Repr

def RecoveryLifecycleState.name : RecoveryLifecycleState → String
  | .active => "active"
  | .cooling => "cooling"
  | .externalConditionWait => "external-condition-wait"
  | .typedInputWait => "typed-input-wait"
  | .succeeded => "succeeded"
  | .cancelled => "cancelled"

structure LifecycleOwnership where
  state : RecoveryLifecycleState
  cancelled : Bool
  humanAuthority : Bool
  typedRequest : Option PublicTypedRequest
deriving DecidableEq, Repr

structure DurableLifecycleRecord extends LifecycleOwnership where
  logicalOperationId : String
  updatedAt : String
  revision : Nat
deriving DecidableEq, Repr

structure LoopLedger where
  runId : String
  items : JsObject LoopItemLedgerEntry
  consecutiveBlocked : Nat := 0
  mergeBarrier : Option LoopMergeBarrier := none
  stop : Option LoopStopRecord := none
  cooling : Option LoopCoolingRecord := none
  itemCooling : JsObject LoopCoolingRecord := .empty
  lifecycle : Option DurableLifecycleRecord := none
  lastNativeGoalCheck : Option LoopNativeGoalCheck := none
  lastReconciliation : Option LoopReconciliation := none
  reconciliationSequence : Nat := 0
  recoveryAttempts : List LoopRecoveryAttempt := []
  authorityAmendments : List LoopAuthorityAmendment := []
deriving DecidableEq

/-- `outstandingReadyItemIds`: the ids of the `ready` items, sorted. -/
def outstandingReadyItemIds (items : JsObject LoopItemLedgerEntry) : List String :=
  ((items.values.filter fun item => item.state = .ready).map LoopItemLedgerEntry.id).mergeSort
    fun a b => decide (a ≤ b)

/-! ## The contract -/

structure LoopContractItem where
  id : String
  dependsOn : List String
  externalDependsOn : List String
deriving DecidableEq, Repr

/-- The part of a contract that the operations on a running ledger read. -/
structure LoopContract where
  runId : String
  engine : LoopEngineName
  logicalOperationId : Option String
  authorityGrants : List LoopAuthorityGate
  recoveryPolicy : RecoveryPolicy
  items : List LoopContractItem

structure LoopLockRecord where
  engine : LoopEngineName
  pid : Nat
  hostname : String
  token : String
deriving DecidableEq, Repr

end AgentPipeline.Loop
