import AgentPipeline.Review.Routing

/-!
# Hold: eligibility, holds and repair budgets of the merge queue

The pure functions of `merge_queue_hold.ts`.

* `classifyQueueEligibility`: what a snapshot allows;
* `classifyFromMergeError`: what the message of a failed merge says;
* `createHold`: a hold with its remediation;
* `createRepairBudget`, `canAttemptRepair`, `claimRepairAttempt`: the repairs of one candidate.
-/

namespace AgentPipeline.MergeQueue

open JsText (trim)

inductive MergeQueueHoldReason where
  | mergeConflict | checksFailed
deriving DecidableEq, Repr

def MergeQueueHoldReason.name : MergeQueueHoldReason → String
  | .mergeConflict => "merge-conflict"
  | .checksFailed => "checks-failed"

structure EligibilitySnapshot where
  mergeable : String
  mergeStateStatus : String
  checksOk : Bool
  checksDetail : Option String := none
  headRefOid : Option String := none
  prState : Option String := none
  issueHasR2d : Option Bool := none
deriving DecidableEq, Repr

/-! ## Classification -/

section Classification

variable (host : NodeHost)

def isConflictOrDirtyMergeState (mergeable mergeStateStatus : String) : Bool :=
  !(host.toUpperCase mergeable = "MERGEABLE" && host.toUpperCase mergeStateStatus = "CLEAN")

def classifyEligibility (snapshot : EligibilitySnapshot) : Option MergeQueueHoldReason :=
  if isConflictOrDirtyMergeState host snapshot.mergeable snapshot.mergeStateStatus then
    some .mergeConflict
  else if snapshot.checksOk = false then some .checksFailed
  else none

inductive QueueEligibilityClass where
  | eligible
  | alreadyDone (summary : String)
  | policy (summary : String)
  | hold (reason : MergeQueueHoldReason)
deriving DecidableEq, Repr

def classifyQueueEligibility (snapshot : EligibilitySnapshot) : QueueEligibilityClass :=
  let gate : QueueEligibilityClass :=
    if snapshot.issueHasR2d = some false then
      .policy "linked issue no longer has pipeline:ready-to-deploy; queue policy forbids merge"
    else
      match classifyEligibility host snapshot with
      | some reason => .hold reason
      | none => .eligible
  match snapshot.prState with
  | none => gate
  | some prState =>
    if host.toUpperCase prState = "MERGED" then .alreadyDone ("PR state is " ++ prState)
    else if host.toUpperCase prState ≠ "OPEN" then
      .alreadyDone ("PR is not open (state=" ++ prState ++ ")")
    else gate

def classifyFromMergeError (message : String) : Option MergeQueueHoldReason :=
  let text := (host.toLowerCase message).toList
  let mentions (part : String) := Review.includes text part.toList
  if mentions "conflicting" || mentions "merge conflict" || mentions "merge conflicts" ||
      mentions "mergestatestatus is dirty" || mentions "merge state is dirty" || mentions "dirty" ||
      mentions "behind" || mentions "cannot be merged" || mentions "not yet computed" ||
      mentions "mergeable is unknown" then
    if (mentions "required check" || mentions "observable check") && !mentions "conflicting" &&
        !mentions "merge conflict" && !mentions "behind" && !mentions "dirty" then some .checksFailed
    else some .mergeConflict
  else if mentions "required check" || mentions "observable check" || mentions "checks are not all green" ||
      mentions "failing or pending" then some .checksFailed
  else none

end Classification

/-! ## Holds -/

inductive HoldOutcome where
  | held | manualRepair | failed
deriving DecidableEq, Repr

structure CreateHoldInput where
  issueNumber : Nat
  prNumber : Nat
  reason : MergeQueueHoldReason
  summary : String
  headSha : Option String
  repairAttemptsUsed : Nat
  budgetExhausted : Bool

/-- The text about the evidence: `summary?.trim() ? … : ""`. -/
def evidenceNote (before summary after : String) : String :=
  if trim summary = "" then "" else before ++ trim summary ++ after

def buildHoldRemediation (input : CreateHoldInput) : String :=
  let pr := "PR #" ++ toString input.prNumber
  let subject :=
    if 0 < input.issueNumber then pr ++ " (linked issue #" ++ toString input.issueNumber ++ ")" else pr
  let evidence := evidenceNote " Evidence: " input.summary "."
  let budgetNote := if input.budgetExhausted then " Repair budget is exhausted for this drive;" else ""
  match input.reason with
  | .mergeConflict =>
    subject ++ " is held for merge-conflict." ++ evidence ++ budgetNote ++
      " Resolve merge conflicts (rebase/restack onto the integration base), " ++
      "optionally re-run `pipeline merge-queue --milestone … --apply --repair`, " ++
      "then retry merge-queue apply or `pipeline merge " ++ toString input.prNumber ++
      "` after the PR is MERGEABLE/CLEAN."
  | .checksFailed =>
    subject ++ " is held for checks-failed." ++ evidence ++ budgetNote ++
      " Fix or wait for blocking checks to pass, " ++
      "optionally re-run with `--apply --repair` if a surgical CI fix is needed, " ++
      "then retry merge-queue apply or `pipeline merge " ++ toString input.prNumber ++ "`."

/-- An item that the drive holds. -/
structure MergeQueueHeldItem where
  issueNumber : Nat
  prNumber : Nat
  reason : String
  summary : String
  remediation : String
  headSha : Option String := none
  repairAttemptsUsed : Nat
  outcome : HoldOutcome
  humanAuthority : Bool := false
  lifecycle : String := "cooling"
  owned : Bool := true
deriving DecidableEq, Repr

/-- `holdToResultItem(createHold(input))`. -/
def createHold (input : CreateHoldInput) : MergeQueueHeldItem where
  issueNumber := input.issueNumber
  prNumber := input.prNumber
  reason := input.reason.name
  summary := input.summary
  remediation := buildHoldRemediation input
  headSha := input.headSha
  repairAttemptsUsed := input.repairAttemptsUsed
  outcome := if input.budgetExhausted then .manualRepair else .held

/-! ## Repair budgets -/

/-- `a + b`. -/
def addNumbers : JsNumber → JsNumber → JsNumber
  | .finite a, .finite b => .finite (a + b)
  | .infinity negative, .infinity negative' =>
    if negative = negative' then .infinity negative else .nan
  | .infinity negative, .finite _ | .finite _, .infinity negative => .infinity negative
  | .nan, _ | _, .nan => .nan

structure RepairBudgetState where
  maxAttempts : Nat
  deadlineMs : Option JsNumber
  attemptsUsed : Nat
  startedAtMs : JsNumber
deriving DecidableEq, Repr

/-- `Number.isFinite(n) && n >= 0 ? Math.floor(n) : 0`. -/
def attemptLimit : JsNumber → Nat
  | .finite q => ⌊q⌋.toNat
  | _ => 0

/-- `createRepairBudget(maxAttempts, { maxWallClockMs, nowMs })`. -/
def createRepairBudget (maxAttempts : JsNumber) (maxWallClockMs : Option JsNumber) (nowMs : JsNumber) :
    RepairBudgetState where
  maxAttempts := attemptLimit maxAttempts
  deadlineMs :=
    match maxWallClockMs with
    | some (.finite wall) => if 0 < wall then some (addNumbers nowMs (.finite wall)) else none
    | _ => none
  attemptsUsed := 0
  startedAtMs := nowMs

def canAttemptRepair (state : RepairBudgetState) (nowMs : JsNumber) : Bool :=
  if state.maxAttempts ≤ state.attemptsUsed then false
  else
    match state.deadlineMs with
    | some deadline => !JsNumber.ge nowMs deadline
    | none => true

def claimRepairAttempt (state : RepairBudgetState) : RepairBudgetState :=
  { state with attemptsUsed := state.attemptsUsed + 1 }

lemma attemptsUsed_lt_of_canAttemptRepair {state : RepairBudgetState} {nowMs : JsNumber}
    (h : canAttemptRepair state nowMs = true) : state.attemptsUsed < state.maxAttempts := by
  unfold canAttemptRepair at h
  split at h
  · cases h
  · omega

/-- The prompt of a mechanical repair. -/
def buildSurgicalRepairPrompt (reason : MergeQueueHoldReason) (prNumber issueNumber : Nat)
    (summary : String) (headSha : Option String) : String :=
  let issue :=
    if 0 < issueNumber then "issue #" ++ toString issueNumber else "the linked pipeline issue"
  let head :=
    match headSha.filter (· ≠ "") with
    | some sha => " Current head: " ++ sha ++ "."
    | none => ""
  let evidence := evidenceNote "\n\nEvidence:\n" summary ""
  let goal :=
    match reason with
    | .mergeConflict =>
      "Resolve merge conflicts so the PR is MERGEABLE with mergeStateStatus CLEAN against the " ++ "integration base."
    | .checksFailed =>
      "Fix the blocking CI/required-check failures so required checks pass (or are non-blocking " ++
        "under branch policy)."
  "\n".intercalate
    ["## Merge-queue surgical repair (PR #" ++ toString prNumber ++ ", " ++ issue ++ ")", "",
      "You are performing a **bounded surgical repair** for the operator-authorized merge queue.",
      goal ++ head,
      evidence,
      "",
      "### Surgical-fix discipline (mandatory)",
      "- Make the **minimal diff** that resolves only the merge conflict or blocking CI failure.",
      "- **Do not** refactor, add features, rename for style, or perform opportunistic cleanup.",
      "- **Do not** weaken tests, review policy, gates, or requirements to go green.",
      "- **Do not** restore a monolithic root `README.md` or other large unrelated documentation " ++
        "delta during conflict resolution or restack — the landing-page contract (lean README, " ++
        "companion links) is fail-closed on re-gate.",
      "- **Do not** squash-merge or otherwise merge the PR — push the repair only; merge is " ++
        "operator/queue-gated after re-validation.",
      "- Destructive git operations (force-push, worktree remove, branch delete) are allowed only " ++
        "when scoped to this managed worktree / this PR head, with explicit justification.",
      "",
      "### After the fix",
      "- Commit and push to the PR head branch.",
      "- Leave the worktree clean of unrelated changes."]

end AgentPipeline.MergeQueue
