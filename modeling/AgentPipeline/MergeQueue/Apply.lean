import AgentPipeline.Foundation.Effect
import AgentPipeline.MergeQueue.Hold

/-!
# Apply: the merge queue drive

The candidates of a milestone are merged one after the other; one that cannot be merged is repaired or
held. Every answer of a dependency may depend on all calls before it, so the dependencies are functions
of the history of calls.

* `MergeQueueDeps`, `QueueEvent`: the dependencies and the record of their calls;
* `processCandidateApply`: the gates, the merge and the repair ladder of one candidate;
* `runMergeQueue`: the drive.
-/

namespace AgentPipeline.MergeQueue

/-! ## Dependencies -/

structure MergeQueueCandidate where
  issueNumber : Nat
  prNumber : Nat
  title : String
deriving DecidableEq, Repr

structure MergeQueueNonCandidate where
  issueNumber : Nat
  title : Option String
deriving DecidableEq, Repr

structure DeterministicRepairResult where
  changed : Bool
  headSha : Option String
  evidence : String
deriving DecidableEq, Repr

structure MechanicalRepairResult where
  succeeded : Bool
  headSha : Option String
  evidence : String
  error : Option String
deriving DecidableEq, Repr

/-- What the release hook of a finished drive reports. -/
structure ReleaseReport where
  exitNonZero : Bool
  usageError : Bool

/-- A call of a dependency and its answer; an error is what it threw. -/
inductive QueueEvent where
  | evaluated (c : MergeQueueCandidate) (answer : Except String (Option EligibilitySnapshot))
  | deterministic (c : MergeQueueCandidate) (answer : Except String DeterministicRepairResult)
  | mechanical (c : MergeQueueCandidate) (answer : Except String MechanicalRepairResult)
  | merged (c : MergeQueueCandidate) (answer : Except String Unit)
  | listed
  | clock
  | logged (line : String)
  | released

abbrev History := List QueueEvent

/-- The dependencies; a snapshot of `none` is `null`. -/
structure MergeQueueDeps where
  listR2dCandidates : History → String → Except String (List MergeQueueCandidate)
  listOpenNonCandidates : History → String → List Nat → Except String (List MergeQueueNonCandidate)
  mergeCandidate : History → MergeQueueCandidate → Except String Unit
  evaluateEligibility :
    Option (History → MergeQueueCandidate → Except String (Option EligibilitySnapshot))
  attemptDeterministicRepair :
    Option (History → MergeQueueCandidate → Option MergeQueueHoldReason → EligibilitySnapshot →
      Except String DeterministicRepairResult)
  attemptMechanicalRepair :
    Option (History → MergeQueueCandidate → MergeQueueHoldReason → EligibilitySnapshot → String →
      Except String MechanicalRepairResult)
  now : History → Except String JsNumber
  log : History → String → Except String Unit
  error : History → String → Except String Unit
  /-- `maybePrepareReleaseWhenComplete`, on the candidates that remain and the items that are held. -/
  prepareRelease : History → List MergeQueueCandidate → List MergeQueueHeldItem →
    List MergeQueueNonCandidate → Except String ReleaseReport

abbrev Queue (α : Type) := Effect History String α

/-- A call whose answer is recorded. -/
def answering {α : Type} (answer : History → Except String α) (event : Except String α → QueueEvent) :
    Queue α :=
  Effect.call fun h => (answer h, h ++ [event (answer h)])

/-- `try { … } catch (err)`. -/
def attempt {α : Type} (m : Queue α) : Queue (Except String α) := Effect.attempt some m

variable (host : NodeHost) (deps : MergeQueueDeps)

def log (line : String) : Queue Unit := answering (deps.log · line) fun _ => .logged line

def nowFn : Queue JsNumber := answering deps.now fun _ => .clock

/-! ## One candidate -/

/-- `tryMerge(candidate, deps)`. -/
def tryMerge (c : MergeQueueCandidate) : Queue (Except String Unit) :=
  attempt (answering (deps.mergeCandidate · c) (.merged c))

/-- Re-evaluate with isolation. -/
def reEvaluate (c : MergeQueueCandidate) : Queue (Except String (Option EligibilitySnapshot)) :=
  match deps.evaluateEligibility with
  | none => pure (.ok none)
  | some evaluateEligibility => attempt (answering (evaluateEligibility · c) (.evaluated c))

inductive Outcome where
  | merged
  | held (hold : MergeQueueHeldItem)
  | alreadyDone (summary : String)
deriving DecidableEq, Repr

def subjectOf (c : MergeQueueCandidate) : String :=
  "PR #" ++ toString c.prNumber ++ " (issue #" ++ toString c.issueNumber ++ ")"

def freeFormHold (c : MergeQueueCandidate) (message : String) (attemptsUsed : Nat)
    (budgetExhausted : Bool) : MergeQueueHeldItem where
  issueNumber := c.issueNumber
  prNumber := c.prNumber
  reason := message
  summary := message
  outcome := if budgetExhausted then .manualRepair else .failed
  repairAttemptsUsed := attemptsUsed
  remediation := subjectOf c ++ ": " ++ message ++
    ". Inspect the error, fix, then retry merge-queue apply or pipeline merge " ++
    toString c.prNumber ++ "."

def policyHold (c : MergeQueueCandidate) (summary : String) (attemptsUsed : Nat) :
    MergeQueueHeldItem where
  issueNumber := c.issueNumber
  prNumber := c.prNumber
  reason := summary
  summary := summary
  outcome := .held
  repairAttemptsUsed := attemptsUsed
  remediation := subjectOf c ++ " is not queue-eligible: " ++ summary ++
    ". Restore pipeline:ready-to-deploy on the linked issue (and keep the PR open) before retrying."

def snapshotSummary (reason : MergeQueueHoldReason) (snap : EligibilitySnapshot) : String :=
  match reason with
  | .mergeConflict =>
    "mergeable=" ++ snap.mergeable ++ " mergeStateStatus=" ++ snap.mergeStateStatus
  | .checksFailed =>
    ((snap.checksDetail.map JsText.trim).filter (· ≠ "")).getD "required checks blocking"

inductive Gates where
  | eligible
  | alreadyDone (summary : String)
  | policy (summary : String)
  | ineligible (reason : MergeQueueHoldReason) (snapshot : Option EligibilitySnapshot) (summary : String)

def applyQueueGates (snap : Option EligibilitySnapshot) (fallbackReason : Option MergeQueueHoldReason)
    (fallbackSummary : String) : Gates :=
  match snap with
  | none =>
    match fallbackReason with
    | some reason => .ineligible reason none fallbackSummary
    | none => .eligible
  | some snap =>
    match classifyQueueEligibility host snap with
    | .eligible => .eligible
    | .alreadyDone summary => .alreadyDone summary
    | .policy summary => .policy summary
    | .hold reason => .ineligible reason (some snap) (snapshotSummary reason snap)

/-- The first try, or what the ladder starts with. -/
inductive First where
  | done (outcome : Outcome)
  | ineligible (reason : MergeQueueHoldReason) (snapshot : Option EligibilitySnapshot) (summary : String)

/-- A merge failed with a message that names a reason: the snapshot, if there is one, decides. -/
def afterMergeError (c : MergeQueueCandidate) (snapshot : Option EligibilitySnapshot)
    (fromErr : MergeQueueHoldReason) (message : String) : First :=
  match snapshot with
  | none => .ineligible fromErr none message
  | some snap =>
    match classifyQueueEligibility host snap with
    | .alreadyDone summary => .done (.alreadyDone summary)
    | .policy summary => .done (.held (policyHold c summary 0))
    | .hold reason => .ineligible reason (some snap) (snapshotSummary reason snap)
    -- the snapshot looks eligible, and the error is trusted
    | .eligible => .ineligible fromErr (some snap) message

def attemptMergeOnce (c : MergeQueueCandidate) (snapshot : Option EligibilitySnapshot) : Queue First :=
  match applyQueueGates host snapshot none "" with
  | .alreadyDone summary => pure (.done (.alreadyDone summary))
  | .policy summary => pure (.done (.held (policyHold c summary 0)))
  | .ineligible reason snapshot summary => pure (.ineligible reason snapshot summary)
  | .eligible => do
      match ← tryMerge deps c with
      | .ok () => pure (.done .merged)
      | .error message =>
        match classifyFromMergeError host message with
        | none => pure (.done (.held (freeFormHold c message 0 false)))
        | some fromErr => do
            match ← reEvaluate deps c with
            | .ok refreshed =>
              pure (afterMergeError host c (refreshed.or snapshot) fromErr message)
            | .error _ => pure (afterMergeError host c snapshot fromErr message)

/-! ## The repair ladder -/

structure LadderState where
  reason : Option MergeQueueHoldReason
  snapshot : Option EligibilitySnapshot
  summary : String
  budget : RepairBudgetState
  attemptsUsed : Nat

inductive Turn where
  | done (outcome : Outcome)
  | again (st : LadderState)

def makeHold (c : MergeQueueCandidate) (st : LadderState) (reason : MergeQueueHoldReason)
    (budgetExhausted : Bool) : MergeQueueHeldItem :=
  createHold
    { issueNumber := c.issueNumber
      prNumber := c.prNumber
      reason := reason
      summary := st.summary
      headSha := st.snapshot.bind (·.headRefOid)
      repairAttemptsUsed := st.attemptsUsed
      budgetExhausted := budgetExhausted }

def atIssue (c : MergeQueueCandidate) : String :=
  "issue #" ++ toString c.issueNumber ++ " PR #" ++ toString c.prNumber

/-- The gates after a repair and the merge of a candidate that passes them; `refresh` is whether a merge
that failed is followed by another evaluation. -/
def regateAndMerge (c : MergeQueueCandidate) (st : LadderState) (snapshot : EligibilitySnapshot)
    (refresh : Bool) : Queue Turn :=
  match applyQueueGates host (some snapshot) st.reason st.summary with
  | .alreadyDone summary => pure (.done (.alreadyDone summary))
  | .policy summary => pure (.done (.held (policyHold c summary st.attemptsUsed)))
  | .ineligible reason gated summary =>
    pure (.again { st with reason := some reason, summary := summary, snapshot := gated.or snapshot })
  | .eligible => do
      match ← tryMerge deps c with
      | .ok () => pure (.done .merged)
      | .error message =>
        match classifyFromMergeError host message with
        | none => pure (.done (.held (freeFormHold c message st.attemptsUsed false)))
        | some fromErr =>
          let failed := { st with reason := some fromErr, summary := message, snapshot := snapshot }
          if refresh then do
            match ← reEvaluate deps c with
            | .ok refreshed => pure (.again { failed with snapshot := refreshed.or snapshot })
            | .error _ => pure (.again failed)
          else pure (.again failed)

/-- The call of a deterministic repair and its evidence. -/
def deterministicRepair (c : MergeQueueCandidate) (reason : Option MergeQueueHoldReason)
    (snapshot : EligibilitySnapshot)
    (repair : History → MergeQueueCandidate → Option MergeQueueHoldReason → EligibilitySnapshot →
      Except String DeterministicRepairResult) : Queue String := do
  let tried ← attempt do
    let det ← answering (repair · c reason snapshot) (.deterministic c)
    log deps ("[merge-queue] deterministic: " ++ det.evidence)
    pure det.evidence
  match tried with
  | .ok evidence => pure evidence
  | .error message => do
      log deps ("[merge-queue] deterministic failed (hold-and-continue path): " ++ message)
      pure ("deterministic repair failed: " ++ message)

/-- Deterministic remediation, which charges no attempt. -/
def deterministicPhase (c : MergeQueueCandidate) (st : LadderState) : Queue Turn :=
  match deps.attemptDeterministicRepair, st.snapshot with
  | some repair, some snapshot => do
      log deps ("[merge-queue] deterministic repair for " ++ atIssue c ++ " (" ++
        ((st.reason.map (·.name)).getD "null") ++ ")…")
      let evidence ← deterministicRepair deps c st.reason snapshot repair
      match ← reEvaluate deps c with
      | .error message =>
        pure (.done (.held (freeFormHold c
          ("post-deterministic re-gate failed: " ++ message ++ "; last: " ++ evidence)
          st.attemptsUsed false)))
      | .ok fresh => regateAndMerge host deps c st (fresh.getD snapshot) true
  | _, _ => pure (.again st)

/-- Without a reason the candidate is merged. -/
def missingReasonPhase (c : MergeQueueCandidate) (st : LadderState) : Queue Turn :=
  match st.reason with
  | some _ => pure (.again st)
  | none => do
      match ← tryMerge deps c with
      | .ok () => pure (.done .merged)
      | .error message =>
        pure (.again { st with
          reason := some ((classifyFromMergeError host message).getD .checksFailed)
          summary := message })

/-- The snapshot of a candidate that was never evaluated. -/
def unknownSnapshot (summary : String) : EligibilitySnapshot where
  mergeable := "UNKNOWN"
  mergeStateStatus := "UNKNOWN"
  checksOk := false
  checksDetail := some summary

/-- The call of a claimed mechanical repair. -/
def mechanicalRepair (c : MergeQueueCandidate) (st : LadderState) (reason : MergeQueueHoldReason)
    (repair : History → MergeQueueCandidate → MergeQueueHoldReason → EligibilitySnapshot → String →
      Except String MechanicalRepairResult) : Queue MechanicalRepairResult := do
  let prompt := buildSurgicalRepairPrompt reason c.prNumber c.issueNumber st.summary
    (st.snapshot.bind (·.headRefOid))
  let tried ← attempt (answering
    (repair · c reason (st.snapshot.getD (unknownSnapshot st.summary)) prompt) (.mechanical c))
  match tried with
  | .ok mech => pure mech
  | .error message => do
      log deps ("[merge-queue] mechanical repair rejected: " ++ message)
      pure
        { succeeded := false, headSha := none, evidence := "mechanical repair threw: " ++ message,
          error := some message }

/-- A claimed mechanical repair, while the budget lasts. -/
def mechanicalPhase (c : MergeQueueCandidate) (st : LadderState) (reason : MergeQueueHoldReason) :
    Queue Turn := do
  if canAttemptRepair st.budget (← nowFn deps) = false then
    log deps ("[merge-queue] repair budget exhausted for " ++ atIssue c ++ " (attempts=" ++
      toString st.budget.attemptsUsed ++ ")")
    pure (.done (.held (makeHold c st reason true)))
  else
    match deps.attemptMechanicalRepair with
    | none => pure (.done (.held (makeHold c st reason true)))
    | some repair =>
      -- claim before side effects
      let budget := claimRepairAttempt st.budget
      let claimed := { st with budget := budget, attemptsUsed := budget.attemptsUsed }
      log deps ("[merge-queue] mechanical repair attempt " ++ toString budget.attemptsUsed ++ " for " ++
        atIssue c ++ "…")
      let mech ← mechanicalRepair deps c claimed reason repair
      log deps ("[merge-queue] mechanical repair: succeeded=" ++
        (if mech.succeeded then "true" else "false") ++ " " ++ mech.evidence)
      match ← reEvaluate deps c with
      | .error message => do
          let exhausted := !canAttemptRepair budget (← nowFn deps)
          pure (.done (.held (freeFormHold c
            ("post-repair re-gate failed: " ++ message ++ "; repair: " ++ mech.evidence)
            budget.attemptsUsed exhausted)))
      | .ok fresh =>
        match fresh.or claimed.snapshot with
        | some snapshot => regateAndMerge host deps c claimed snapshot false
        | none =>
          if mech.succeeded then pure (.again claimed)
          else pure (.again { claimed with summary := mech.error.getD mech.evidence })

/-- One turn of `while (true)`. -/
def ladderTurn (c : MergeQueueCandidate) (st : LadderState) : Queue Turn := do
  match ← deterministicPhase host deps c st with
  | .done outcome => pure (.done outcome)
  | .again st =>
    match ← missingReasonPhase host deps c st with
    | .done outcome => pure (.done outcome)
    | .again st =>
      match st.reason with
      | some reason => mechanicalPhase host deps c st reason
      | none => pure (.again st)

/-- The ladder; `none` when the turns run out. -/
def ladder (c : MergeQueueCandidate) : Nat → LadderState → Queue (Option Outcome)
  | 0, _ => pure none
  | turns + 1, st => do
      match ← ladderTurn host deps c st with
      | .done outcome => pure (some outcome)
      | .again st => ladder c turns st

structure ApplyOpts where
  repairEnabled : Bool
  repairMaxAttempts : JsNumber
  repairMaxWallClockMs : Option JsNumber

/-- The hold of a candidate that is not repaired. -/
def unrepairedHold (c : MergeQueueCandidate) (reason : MergeQueueHoldReason)
    (snapshot : Option EligibilitySnapshot) (summary : String) : MergeQueueHeldItem :=
  createHold
    { issueNumber := c.issueNumber
      prNumber := c.prNumber
      reason := reason
      summary := summary
      headSha := snapshot.bind (·.headRefOid)
      repairAttemptsUsed := 0
      budgetExhausted := false }

/-- The gates and the first merge, before any repair. -/
def firstTry (c : MergeQueueCandidate) : Queue First := do
  match ← reEvaluate deps c with
  | .error message =>
    pure (.done (.held (freeFormHold c ("eligibility preflight failed: " ++ message) 0 false)))
  | .ok snapshot => attemptMergeOnce host deps c snapshot

/-- `processCandidateApply(candidate, opts, deps)`; `none` when `turns` turns of the ladder are not enough. -/
def processCandidateApply (turns : Nat) (c : MergeQueueCandidate) (opts : ApplyOpts) :
    Queue (Option Outcome) :=
  if opts.repairEnabled then do
    let budget := createRepairBudget opts.repairMaxAttempts opts.repairMaxWallClockMs (← nowFn deps)
    match ← firstTry host deps c with
    | .done outcome => pure (some outcome)
    | .ineligible reason snapshot summary =>
      ladder host deps c turns
        { reason := some reason, snapshot := snapshot, summary := summary, budget := budget, attemptsUsed := 0 }
  else do
    match ← firstTry host deps c with
    | .done outcome => pure (some outcome)
    | .ineligible reason snapshot summary =>
      pure (some (.held (unrepairedHold c reason snapshot summary)))

/-! ## The drive -/

structure MergeQueueOpts where
  milestone : String
  apply : Bool
  dryRun : Bool := false
  repair : Bool := false
  repairConfig : Bool := false
  repairMaxAttempts : Option JsNumber := none
  repairMaxWallClockMs : Option JsNumber := none
  releaseWhenComplete : Bool := false
  releaseVersion : Option String := none
  releaseWhenCompleteConfig : Bool := false

namespace MergeQueueOpts

variable (opts : MergeQueueOpts)

/-- An explicit dry run wins over apply. -/
def isDryRun : Bool := opts.dryRun || !opts.apply

def repairEnabled : Bool := !opts.isDryRun && (opts.repair || opts.repairConfig)

/-- `opts.repairMaxAttempts != null && opts.repairMaxAttempts >= 0 ? Math.floor(…) : 1`. -/
def attempts : JsNumber :=
  match opts.repairMaxAttempts with
  | some (.finite q) => if 0 ≤ q then .finite (⌊q⌋ : ℚ) else .finite 1
  | some (.infinity false) => .infinity false
  | _ => .finite 1

def releaseEnabled : Bool := opts.releaseWhenComplete || opts.releaseWhenCompleteConfig

def applyOpts : ApplyOpts where
  repairEnabled := opts.repairEnabled
  repairMaxAttempts := opts.attempts
  repairMaxWallClockMs := opts.repairMaxWallClockMs

end MergeQueueOpts

structure MergeQueueResult where
  dryRun : Bool
  initialCandidates : List MergeQueueCandidate
  merged : List MergeQueueCandidate
  held : List MergeQueueHeldItem
  remainingCandidates : List MergeQueueCandidate
  openNonCandidates : List MergeQueueNonCandidate
  exitCode : Nat

/-- The candidates that were merged and the items that are held so far. -/
structure Progress where
  merged : List MergeQueueCandidate := []
  held : List MergeQueueHeldItem := []

def mergedLine (c : MergeQueueCandidate) : String := "[merge-queue] merged " ++ atIssue c

def alreadyDoneLine (c : MergeQueueCandidate) (summary : String) : String :=
  "[merge-queue] already-done " ++ atIssue c ++ " — " ++ summary

def heldLine (c : MergeQueueCandidate) (hold : MergeQueueHeldItem) : String :=
  "[merge-queue] held " ++ atIssue c ++ " reason=" ++ hold.reason ++
    (if hold.remediation = "" then "" else " — " ++ hold.remediation)

/-- One candidate of the drive; running out of turns is no behaviour of the code and is not reported. -/
def driveOne (turns : Nat) (opts : MergeQueueOpts) (progress : Progress) (c : MergeQueueCandidate) :
    Queue Progress := do
  log deps ("[merge-queue] processing " ++ atIssue c ++ "…")
  match ← processCandidateApply host deps turns c opts.applyOpts with
  | some .merged => do
      log deps (mergedLine c)
      pure { progress with merged := progress.merged ++ [c] }
  | some (.alreadyDone summary) => do
      log deps (alreadyDoneLine c summary)
      pure progress
  | some (.held hold) => do
      log deps (heldLine c hold)
      pure { progress with held := progress.held ++ [hold] }
  | none => pure progress

/-- The lines of a dry run. -/
def logDryRun (opts : MergeQueueOpts) (candidates : List MergeQueueCandidate) : Queue Unit := do
  if candidates = [] then log deps "[merge-queue] dry-run: no ready-to-deploy candidates"
  else
    log deps "[merge-queue] dry-run planned merges (no merges performed):"
    Effect.each
      (fun _ c => log deps ("  - " ++ atIssue c ++ ": " ++ c.title)) candidates ()
  if opts.repair || opts.repairConfig then
    log deps "[merge-queue] dry-run: repair flag ignored (no repair side effects)"
  if opts.releaseEnabled = false then
    log deps "[merge-queue] dry-run: release-when-complete is off (no release prepare planned)"

def missingReleaseVersionError : String :=
  "[merge-queue] --release-when-complete requires --release-version " ++
    "<major|minor|patch|X.Y.Z>. No release prepare was run."

def runMergeQueue (turns : Nat) (opts : MergeQueueOpts) : Queue MergeQueueResult := do
  if opts.releaseEnabled && (opts.releaseVersion.map JsText.trim).getD "" = "" then
    answering (deps.error · missingReleaseVersionError) fun _ => .logged missingReleaseVersionError
    pure
      { dryRun := opts.isDryRun, initialCandidates := [], merged := [], held := [],
        remainingCandidates := [], openNonCandidates := [], exitCode := 2 }
  else
    let initial ← answering (deps.listR2dCandidates · opts.milestone) fun _ => .listed
    let others ← answering
      (deps.listOpenNonCandidates · opts.milestone (initial.map (·.issueNumber))) fun _ => .listed
    log deps ("[merge-queue] milestone=" ++ String.ofList (JsonText.quote opts.milestone) ++ " mode=" ++
      (if opts.isDryRun then "dry-run" else "apply") ++ (if opts.repairEnabled then " repair=on" else "") ++
      " candidates=" ++ toString initial.length)
    let progress ←
      if opts.isDryRun then do
        logDryRun deps opts initial
        pure ({} : Progress)
      else Effect.each (driveOne host deps turns opts) initial {}
    let remaining ←
      if opts.isDryRun then pure initial
      else answering (deps.listR2dCandidates · opts.milestone) fun _ => .listed
    let release ← answering (deps.prepareRelease · remaining progress.held others) fun _ => .released
    pure
      { dryRun := opts.isDryRun
        initialCandidates := initial
        merged := progress.merged
        held := progress.held
        remainingCandidates := remaining
        openNonCandidates := others
        exitCode :=
          if release.exitNonZero then if release.usageError then 2 else 1
          else if progress.held = [] then 0 else 1 }

end AgentPipeline.MergeQueue
