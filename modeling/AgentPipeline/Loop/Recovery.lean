import AgentPipeline.Foundation.JsRegExp
import AgentPipeline.Loop.Store

/-!
# Recovery: blocking an item and claiming its recovery attempts

The operations of `loop/recovery.ts` on a run directory:

* `blockItem`: an in-progress item becomes blocked, with its class and evidence fingerprint;
* `startRecoveryAttempt`: claims one action of the class durably before its side effect; the
  new row carries the episode's cursor, counters and skips;
* `completeRecoveryAttempt`: settles a claim, and resumes the item when the action succeeded;
* `persistOwnedCooling`: records Cooling and stamps the wake time on the episode;
* `supersedeStartedRecoveryAttempts` (`loop/supervisor.ts`) — retires open claims.

Every operation first upgrades what it read from older runs (`upgradeLedgerForRecovery`).
-/

namespace AgentPipeline.Loop

open JsText (trim nonBlank)
open JsRegExp (Pattern replaceAll replaceFirst matchesWhole)

/-! ## Patterns of the source -/

namespace RecoveryPattern

open JsRegExp.Pattern

def digits (n : Nat) : Pattern := repeated Char.isDigit n

def hex (n : Nat) : Pattern := repeated JsRegExp.isHexDigit n

def timestamp : Pattern :=
  sequence
    [digits 4, literal "-", digits 2, literal "-", digits 2, literal "t", digits 2, literal ":",
      digits 2, literal ":", digits 2,
      optional (.seq (literal ".") (.many Char.isDigit 1 none)),
      optional (.alt (literal "z")
        (sequence [char fun c => c = '+' || c = '-', digits 2, literal ":", digits 2]))]

def uuid : Pattern :=
  sequence
    [.wordBoundary, hex 8, literal "-", hex 4, literal "-", hex 4, literal "-", hex 4,
      literal "-", hex 12, .wordBoundary]

def requestId : Pattern :=
  sequence
    [.wordBoundary, .alt (literal "x-request-id") (.alt (literal "x-github-request-id")
        (sequence [literal "request", optional (char fun c => c = '-' || c = '_'), literal "id"])),
      .many (fun c => c = '=' || c = ':' || JsText.isSpace c) 1 none,
      .many (fun c => c.isDigit || ('a' ≤ c && c ≤ 'z') || c = '.' || c = '_' || c = ':' || c = '-') 1 none]

def hash : Pattern :=
  sequence [.wordBoundary, .many JsRegExp.isHexDigit 7 (some 40), .wordBoundary]

def spaces : Pattern := .many JsText.isSpace 1 none

def spacesOrHyphens : Pattern := .many (fun c => JsText.isSpace c || c = '-') 1 none

/-- `/\|attempt=\d+$/i`. -/
def attemptOrdinal : Pattern :=
  sequence
    [literal "|", letter 'a', letter 't', letter 't', letter 'e', letter 'm', letter 'p',
      letter 't', literal "=", .many Char.isDigit 1 none, .atEnd]

/-- `/[0-9a-f]{40}/i`. -/
def commitSha : Pattern := repeated (fun c => JsRegExp.isHexDigit c.toLower) 40

end RecoveryPattern

/-! ## Themes of older runs -/

/-- `LEGACY_THEME_ALIASES`. -/
def legacyThemeAliases : List (String × DurableBlockerClass) :=
  [("rate_limit", .transientRateLimit), ("rate_limited", .transientRateLimit),
    ("throttled", .transientRateLimit), ("workflow", .workflowState),
    ("workflow_state", .workflowState), ("ci", .implementationCi),
    ("ci_failure", .implementationCi), ("test_failure", .implementationCi),
    ("build_failure", .implementationCi), ("auth", .environmentAuth),
    ("authentication", .environmentAuth), ("environment", .environmentAuth),
    ("spec", .specificationDecision), ("specification", .specificationDecision),
    ("decision", .specificationDecision), ("product_decision", .specificationDecision),
    ("authority", .missingAuthority), ("permission", .missingAuthority),
    ("needs_human", .missingAuthority), ("upstream", .upstreamDependency),
    ("dependency", .upstreamDependency), ("blocked_on_dependency", .upstreamDependency),
    ("engine_defect", .workflowEngineDefect), ("engine_bug", .workflowEngineDefect),
    ("goal_loop_defect", .workflowEngineDefect)]

section Upgrade

variable (rt : JsRuntime)

def mapLegacyThemeToBlockerClass (theme : String) : Except LoopError DurableBlockerClass :=
  match isDurableBlockerClass theme with
  | some cls => .ok cls
  | none =>
    match legacyThemeAliases.lookup
        (replaceAll RecoveryPattern.spacesOrHyphens "_" (rt.toLowerCase (trim theme))) with
    | some cls => .ok cls
    | none =>
      .error (invalid ("legacy blocked theme \"" ++ theme ++ "\" does not map to any DurableBlockerClass"))

/-! ## Upgrading what was read -/

def upgradeContractForRecovery (contract : LoopContract) : Except LoopError LoopContract :=
  let normalized := normalizeRecoveryPolicyCompatibility contract.recoveryPolicy
  match compileRecoveryPolicy normalized with
  | .error e => .error e
  | .ok _ => .ok { contract with recoveryPolicy := normalized }

def recoveryAttemptId (itemId candidateIdentity evidenceFingerprint : String)
    (action : RecoveryRecipe) : String :=
  rt.sha256 ("\x00".intercalate
    ["pipeline-recovery-attempt@1", itemId, candidateIdentity, evidenceFingerprint, action.name])

/-- An unmapped legacy theme is left as it is and fails closed later. -/
def upgradeItem (item : LoopItemLedgerEntry) : LoopItemLedgerEntry :=
  match item.blockedTheme with
  | none => item
  | some theme =>
    if theme = "" ∨ (isDurableBlockerClass theme).isSome then item
    else
      match mapLegacyThemeToBlockerClass rt theme with
      | .ok cls => { item with blockedTheme := some cls.name }
      | .error _ => item

def hasCoreFields (attempt : LoopRecoveryAttempt) : Bool :=
  attempt.attemptId.any (· ≠ "") && attempt.candidateIdentity.any (· ≠ "") &&
    attempt.action.isSome && attempt.budgetRemaining.isSome

/-- The fields that older rows lack, and the id of an open claim that lost only its id. -/
def upgradeAttempt (attempt : LoopRecoveryAttempt) : LoopRecoveryAttempt :=
  if hasCoreFields attempt then normalizeStartedRecoveryEpisodeIdentity rt attempt
  else
    match attempt.action <|> attempt.actions.bind List.head? with
    | none => attempt
    | some action =>
      let candidateIdentity :=
        attempt.candidateIdentity.getD ("legacy:" ++ toString attempt.seq)
      normalizeStartedRecoveryEpisodeIdentity rt
        { attempt with
          attemptId := some (attempt.attemptId.getD
            (recoveryAttemptId rt attempt.itemId candidateIdentity attempt.evidenceFingerprint
              action))
          candidateIdentity := some candidateIdentity
          action := some action
          budgetRemaining := some (attempt.budgetRemaining.getD 0) }

def upgradeLedgerForRecovery (ledger : LoopLedger) : LoopLedger :=
  { ledger with
    items := ledger.items.mapEntries fun _ item => upgradeItem rt item
    recoveryAttempts := ledger.recoveryAttempts.map (upgradeAttempt rt) }

/-! ## Evidence -/

/-- `normalizeEvidenceIdentity(evidence)`, which `fingerprintEvidence` forwards to. -/
def fingerprintEvidence (evidence : String) : String :=
  let text := rt.toLowerCase evidence
  let text := replaceAll RecoveryPattern.timestamp "<ts>" text
  let text := replaceAll RecoveryPattern.uuid "<id>" text
  let text := replaceAll RecoveryPattern.requestId "<reqid>" text
  let text := replaceAll RecoveryPattern.hash "<hash>" text
  rt.sha256 (trim (replaceAll RecoveryPattern.spaces " " text))

end Upgrade

/-- `recoveryEpisodeCandidateEpoch(item, fallback)`: the observed logical epoch, where lineage is
observable. -/
def recoveryEpisodeCandidateEpoch (item : LoopItemLedgerEntry) (fallback : String) : String :=
  match item.lastVerifiedIdentity.bind (·.logicalCandidateEpoch) with
  | none => fallback
  | some logical =>
    let text := (logical.map trim).getD ""
    if text = "" then fallback else text

/-! ## Refusals -/

def lifecycleRefusal (ledger : LoopLedger) (itemId : String) : Option LoopError :=
  if lifecycleAllowsRecoveryRecipe ledger.lifecycle (ledger.items.get? itemId) then none
  else some
    ⟨.stop, "logical operation lifecycle is " ++ (consultLifecycleRecord ledger.lifecycle).state.name⟩

def compatibilityStopRefusal (ledger : LoopLedger) (itemId : String) : Option LoopError :=
  match ledger.stop with
  | none => none
  | some stop =>
    if compatibilityStopRefusesItem (some stop) itemId then
      some ⟨.stop, "loop run \"" ++ ledger.runId ++ "\" is already stopped: " ++ stop.reason.name⟩
    else none

/-- `RECOVERY_EPISODE_REQUIRED_FIELDS` that are missing from a row. -/
def missingEpisodeFields (a : LoopRecoveryAttempt) : List String :=
  [("invariant", a.invariant.isSome), ("candidate_epoch", a.candidateEpoch.isSome),
    ("evidence_identity", a.evidenceIdentity.isSome),
    ("attempts_per_strategy", a.attemptsPerStrategy.isSome),
    ("strategy_cursor", a.strategyCursor.isSome),
    ("next_eligible_at", a.nextEligibleAt.isSome)].filterMap
      fun (name, isThere) => if isThere then none else some name

/-- `assertRecoveryEpisodeFields(record)`. -/
def recoveryEpisodeFieldsFault (a : LoopRecoveryAttempt) : Option LoopError :=
  match missingEpisodeFields a with
  | [] => none
  | missing =>
    some (invalid ("Recovery Episode missing required field(s): " ++ ", ".intercalate missing))

/-- `admitRecoveryLifecycle(contract, ledger, updatedAt)`; `minted` is the id that would be
minted for a run without one. -/
def admitRecoveryLifecycle (contract : LoopContract) (ledger : LoopLedger)
    (updatedAt minted : String) : LoopLedger :=
  let logicalOperationId := resolveLogicalOperationId
    { written := ledger.lifecycle.map (·.logicalOperationId)
      loopStore := contract.logicalOperationId } minted
  let facts : LifecycleDerivationInput :=
    { typedRequest := typedRequestFromOwnedItems ledger.items
      cooling := ledger.cooling.isSome
      stopReason := ledger.stop.map (·.reason)
      activeAttempt := true }
  let ownership := match ledger.lifecycle with
    | some record => consultLifecycleRecord (some record) facts
    | none => deriveLifecycleState facts
  bindLifecycleRecord ledger logicalOperationId ownership updatedAt

/-- Admit the lifecycle of a ledger that is otherwise left alone: nothing is written when the
record stays as it is. -/
def admitOnly (contract : LoopContract) (ledger : LoopLedger) (time minted : String) :
    LoopLedger × Option LoopLedger :=
  let admitted := admitRecoveryLifecycle contract ledger time minted
  if admitted.lifecycle = ledger.lifecycle then (ledger, none) else (admitted, some admitted)

/-! ## Blocking -/

structure BlockItemInput where
  token : String
  itemId : String
  engine : LoopEngineName
  blockerClass : String
  evidence : String
  blockerCandidateEpoch : Option String := none
  blockerCandidateHead : Option String := none
  note : Option String := none
  allowAlreadyStopped : Bool := false
  minted : String

section Operations

variable (rt : JsRuntime) (now : Instant)

/-- The item as `blockItem` leaves it. -/
def blockedItem (input : BlockItemInput) (cls : DurableBlockerClass)
    (item : LoopItemLedgerEntry) : LoopItemLedgerEntry :=
  let fingerprint := fingerprintEvidence rt input.evidence
  let verifiedHead := (item.lastVerifiedIdentity.map fun i => trim i.headSha).getD ""
  let explicit := input.blockerCandidateEpoch.isSome || input.blockerCandidateHead.isSome
  let epochInput :=
    if explicit then (input.blockerCandidateEpoch.map trim).getD ""
    else recoveryEpisodeCandidateEpoch item verifiedHead
  let headInput :=
    if explicit then (input.blockerCandidateHead.map trim).getD "" else verifiedHead
  let epoch := if matchesWhole RecoveryPattern.commitSha epochInput then epochInput else ""
  let head :=
    if epoch ≠ "" ∧ matchesWhole RecoveryPattern.commitSha headInput then some headInput else none
  { item with
    state := .blocked
    blockedTheme := some cls.name
    evidenceFingerprint := some fingerprint
    blockerCandidateEpoch := some epoch
    blockerCandidateHead := head
    repeatedEvidenceCount :=
      some (if item.evidenceFingerprint = some fingerprint then
        item.repeatedEvidenceCount.getD 0 + 1 else 0)
    history := item.history ++
      [{ time := rt.toISOString now, fromState := item.state, toState := .blocked,
         engine := input.engine, theme := some cls.name, evidence := some input.evidence,
         note := input.note }] }

/-- The decision of `blockItem` on the upgraded ledger. -/
def decideBlock (contract : LoopContract) (input : BlockItemInput) (cls : DurableBlockerClass)
    (ledger : LoopLedger) : Except LoopError (LoopLedger × Option LoopLedger) :=
  let time := rt.toISOString now
  match lifecycleRefusal ledger input.itemId with
  | some e => .error e
  | none =>
    match if input.allowAlreadyStopped then none
        else compatibilityStopRefusal ledger input.itemId with
    | some e => .error e
    | none =>
      match ledger.items.get? input.itemId with
      | none =>
        .error (invalid ("item \"" ++ input.itemId ++ "\" not found in run \"" ++ ledger.runId ++ "\""))
      | some item =>
        if item.state ≠ .inProgress then
          .error (invalid ("item \"" ++ input.itemId ++ "\" cannot block from state \"" ++
            item.state.name ++ "\" — only an in_progress item may transition into blocked" ++
            " (a blocked item must be recovered back to in_progress first)"))
        else
          let items := ledger.items.set input.itemId (blockedItem rt now input cls item)
          -- a stop that is already recorded keeps its first cause
          let stop := ledger.stop <|> if (contract.recoveryPolicy cls).terminalOutcome = .humanAuthority then
              some { reason := .humanAuthority, time := time, itemId := some input.itemId
                     theme := some cls.name
                     outstandingReady := outstandingReadyItemIds items }
            else none
          let next := admitRecoveryLifecycle contract { ledger with items, stop } time
            input.minted
          .ok (next, some next)

def blockItem (contract : LoopContract) (input : BlockItemInput) (d : RunDir) :
    Except LoopError LoopLedger × RunDir :=
  match isDurableBlockerClass input.blockerClass with
  | none =>
    (.error (invalid ("\"" ++ input.blockerClass ++ "\" is not a valid DurableBlockerClass")), d)
  | some cls =>
    match upgradeContractForRecovery contract with
    | .error e => (.error e, d)
    | .ok contract =>
      transact rt now (some input.token) input.token
        (fun ledger => decideBlock rt now contract input cls (upgradeLedgerForRecovery rt ledger))
        d

end Operations

/-! ## Claiming an attempt -/

structure StartRecoveryAttemptInput where
  token : String
  itemId : String
  engine : LoopEngineName
  action : RecoveryRecipe
  candidateIdentity : Option String := none
  operation : Option String := none
  invariant : Option String := none
  candidateEpoch : Option String := none
  evidenceIdentity : Option String := none
  skipInapplicable : Bool := false
  minted : String

/-- `value?.trim() || fallback`. -/
def trimmedOr (value : Option String) (fallback : String) : String :=
  match value.map trim with
  | none => fallback
  | some text => if text = "" then fallback else text

def recoveryCandidateIdentity (requested : Option String) (evidenceFingerprint : String)
    (repeatedEvidenceCount : Nat) : String :=
  trimmedOr requested ("block:" ++ toString repeatedEvidenceCount ++ ":" ++ evidenceFingerprint)

/-- The preparatory unlink of `review-findings` is free of every budget. -/
def isReviewFindingsPrepUnlink (cls : DurableBlockerClass) (action : Option RecoveryRecipe) :
    Bool :=
  cls = .reviewFindings && action = some .unlinkEngineScratch

namespace StartRecoveryAttemptInput

def fingerprintOf (item : LoopItemLedgerEntry) : String := item.evidenceFingerprint.getD ""

/-- The identity of the repair candidate that this claim is for. -/
def candidate (input : StartRecoveryAttemptInput) (item : LoopItemLedgerEntry) : String :=
  recoveryCandidateIdentity input.candidateIdentity (fingerprintOf item)
    (item.repeatedEvidenceCount.getD 0)

end StartRecoveryAttemptInput

/-- The key of the episode a claim belongs to, with the defaults of the source. -/
def episodeKeyFor (input : StartRecoveryAttemptInput) (item : LoopItemLedgerEntry)
    (cls : DurableBlockerClass) : RecoveryEpisodeKey :=
  let candidate := input.candidate item
  let epoch := trim (input.candidateEpoch.getD
    (replaceFirst RecoveryPattern.attemptOrdinal "" candidate))
  { operation := input.operation.getD "loop_recovery"
    invariant := input.invariant.getD cls.name
    candidateEpoch := if epoch = "" then candidate else epoch
    evidenceIdentity :=
      trimmedOr input.evidenceIdentity (StartRecoveryAttemptInput.fingerprintOf item) }

/-- Skipped, exhausted or started. -/
def startOutcome (entry : RecoveryPolicyEntry) (cls : DurableBlockerClass)
    (action : RecoveryRecipe) (skipInapplicable : Bool) (counts : StrategyCounts) :
    RecoveryAttemptOutcome :=
  if skipInapplicable then .skipped
  else if !isReviewFindingsPrepUnlink cls (some action) ∧ perStrategyBound entry ≤ counts.spent action then
    .exhausted
  else .started

/-- The strategies between the cursor and the claimed one that are neither skipped nor spent. -/
def implicitSkips (entry : RecoveryPolicyEntry) (episode : RecoveryEpisodeRecord)
    (index : Nat) : List RecoveryRecipe :=
  ((entry.recipes.take index).drop episode.strategyCursor).filter fun r =>
    r ∉ episode.skippedStrategies ∧ episode.attemptsPerStrategy.spent r < perStrategyBound entry

/-- A claim past the cursor skips what it jumps over. -/
def passPredecessors (entry : RecoveryPolicyEntry) (episode : RecoveryEpisodeRecord)
    (index : Nat) : RecoveryEpisodeRecord :=
  if episode.strategyCursor < index then
    { episode with
      strategyCursor := index
      skippedStrategies := episode.skippedStrategies ++ implicitSkips entry episode index }
  else episode

/-- The episode after the claim was recorded with its outcome. -/
def settleEpisode (episode : RecoveryEpisodeRecord) (outcome : RecoveryAttemptOutcome)
    (action : RecoveryRecipe) (index : Nat) (time eligibleAt : String) : RecoveryEpisodeRecord :=
  match outcome with
  | .skipped =>
    { episode with
      strategyCursor := max episode.strategyCursor (index + 1)
      skippedStrategies := episode.skippedStrategies ++ [action]
      nextEligibleAt := time }
  | .started => applyClaimToEpisode episode action eligibleAt
  | _ => { episode with nextEligibleAt := time }

/-- `Math.min(max_seconds, initial_seconds * multiplier ** prior)`. -/
def backoffSeconds (entry : RecoveryPolicyEntry) (prior : Nat) : ℚ :=
  min entry.backoff.maxSeconds (entry.backoff.initialSeconds * entry.backoff.multiplier ^ prior)

section Start

variable (rt : JsRuntime) (now : Instant)

/-- What a claim is decided on, once the item and its class are settled. -/
structure ClaimContext where
  input : StartRecoveryAttemptInput
  item : LoopItemLedgerEntry
  cls : DurableBlockerClass
  entry : RecoveryPolicyEntry
  attempts : List LoopRecoveryAttempt

namespace ClaimContext

variable (ctx : ClaimContext)

def fingerprint : String := StartRecoveryAttemptInput.fingerprintOf ctx.item

def key : RecoveryEpisodeKey := episodeKeyFor ctx.input ctx.item ctx.cls

def attemptId : String :=
  recoveryAttemptId rt ctx.input.itemId (ctx.input.candidate ctx.item) ctx.fingerprint
    ctx.input.action

/-- The episode before the claim. -/
def episode (time : String) : RecoveryEpisodeRecord :=
  (resumeEpisodeFromAttempts rt ctx.attempts ctx.key).getD (emptyEpisode rt ctx.key time)

def isPrep : Bool := isReviewFindingsPrepUnlink ctx.cls (some ctx.input.action)

def outcome (time : String) : RecoveryAttemptOutcome :=
  startOutcome ctx.entry ctx.cls ctx.input.action ctx.input.skipInapplicable
    (ctx.episode rt time).attemptsPerStrategy

/-- The attempts whose backoff this one continues. -/
def priorClassAttempts : Nat :=
  ctx.attempts.countP fun a =>
    a.itemId = ctx.input.itemId && a.blockerClass = ctx.cls &&
      a.evidenceFingerprint = ctx.fingerprint && a.outcome ≠ .skipped &&
      !isReviewFindingsPrepUnlink a.blockerClass a.action

def backoff : ℚ :=
  if ctx.isPrep || ctx.input.skipInapplicable then 0
  else backoffSeconds ctx.entry ctx.priorClassAttempts

def remaining : ℚ :=
  (ctx.item.recoveryBudgetsRemaining.get? ctx.cls.name).getD ctx.entry.retryBudget

/-- A started claim charges the class budget, unless it is preparatory. -/
def charges (time : String) : Bool := ctx.outcome rt time = .started && !ctx.isPrep

def budgetRemaining (time : String) : ℚ :=
  if ctx.charges rt time then max 0 (ctx.remaining - 1) else ctx.remaining

def index : Nat := ctx.entry.recipes.idxOf ctx.input.action

/-- The episode after the claim. -/
def claimed (time notBefore : String) : RecoveryEpisodeRecord :=
  settleEpisode (passPredecessors ctx.entry (ctx.episode rt time) ctx.index)
    (ctx.outcome rt time) ctx.input.action ctx.index time
    (if 0 < ctx.backoff then notBefore else time)

def errorText (time : String) : Option String :=
  match ctx.outcome rt time with
  | .exhausted =>
    some ("recovery budget exhausted before action \"" ++ ctx.input.action.name ++ "\" could start")
  | .skipped =>
    some ("recipe \"" ++ ctx.input.action.name ++ "\" is inapplicable and was skipped without charging repair budget")
  | _ => none

/-- The row that the claim appends. -/
def row (time notBefore : String) : LoopRecoveryAttempt :=
  attachEpisodeFields
    { attemptId := some (ctx.attemptId rt)
      seq := ctx.attempts.length
      time := time
      notBefore :=
        if ctx.outcome rt time = .started ∧ 0 < ctx.backoff then some notBefore else none
      itemId := ctx.input.itemId
      blockerClass := ctx.cls
      candidateIdentity := some (ctx.input.candidate ctx.item)
      action := some ctx.input.action
      actions := some [ctx.input.action]
      evidenceFingerprint := ctx.fingerprint
      outcome := ctx.outcome rt time
      budgetRemaining := some (ctx.budgetRemaining rt time)
      error := ctx.errorText rt time
      sideEffectCertainty := if ctx.outcome rt time = .started then some .uncertain else none }
    (ctx.claimed rt time notBefore) ctx.input.token

end ClaimContext

/-- The refusals of `startRecoveryAttempt`, and what is left to decide after them. -/
def claimContext (contract : LoopContract) (input : StartRecoveryAttemptInput)
    (ledger : LoopLedger) : Except LoopError ClaimContext :=
  match lifecycleRefusal ledger input.itemId with
  | some e => .error e
  | none =>
    match compatibilityStopRefusal ledger input.itemId with
    | some e => .error e
    | none =>
      match (ledger.items.get? input.itemId).bind fun item =>
          if item.state = .blocked then
            (item.blockedTheme.bind isDurableBlockerClass).map (item, ·)
          else none with
      | none =>
        .error (invalid ("item \"" ++ input.itemId ++ "\" is not a blocked item with a valid blocker class"))
      | some (item, cls) =>
        let entry := contract.recoveryPolicy cls
        -- a class that waits for a person permits no action at all
        if entry.terminalOutcome = .humanAuthority then
          .error ⟨.stop, "blocker class \"" ++ cls.name ++
            "\" requires human authority and permits no recovery action"⟩
        else if input.action ∉ entry.recipes then
          .error (invalid ("recipe \"" ++ input.action.name ++
            "\" is not permitted for blocker class \"" ++ cls.name ++ "\""))
        else .ok ⟨input, item, cls, entry, ledger.recoveryAttempts⟩

/-- The ledger with the new row and the charged budget. -/
def ClaimContext.record (ctx : ClaimContext) (ledger : LoopLedger) (time notBefore : String) :
    LoopLedger :=
  { ledger with
    items :=
      if ctx.charges rt time then
        ledger.items.set ctx.input.itemId
          { ctx.item with
            recoveryBudgetsRemaining :=
              ctx.item.recoveryBudgetsRemaining.set ctx.cls.name (ctx.budgetRemaining rt time) }
      else ledger.items
    recoveryAttempts := ledger.recoveryAttempts ++ [ctx.row rt time notBefore] }

/-- The decision of `startRecoveryAttempt` on the upgraded ledger. -/
def decideStart (contract : LoopContract) (input : StartRecoveryAttemptInput)
    (ledger : LoopLedger) :
    Except LoopError ((LoopLedger × LoopRecoveryAttempt) × Option LoopLedger) :=
  let time := rt.toISOString now
  match claimContext contract input ledger with
  | .error e => .error e
  | .ok ctx =>
    match ledger.recoveryAttempts.find? fun a => a.attemptId = some (ctx.attemptId rt) with
    | some existing =>
      match if existing.invariant.any (· ≠ "") then recoveryEpisodeFieldsFault existing
          else none with
      | some e => .error e
      | none =>
        -- the claim is there already: it is returned as it stands
        let (after, write) := admitOnly contract ledger time input.minted
        .ok ((after, existing), write)
    | none =>
      match (rt.dateParse time).bind (·.addSeconds ctx.backoff) with
      | none => .error ⟨.unclassified, "Invalid time value"⟩
      | some eligible =>
        let notBefore := rt.toISOString eligible
        let next := admitRecoveryLifecycle contract (ctx.record rt ledger time notBefore)
          time input.minted
        .ok ((next, ctx.row rt time notBefore), some next)

def startRecoveryAttempt (contract : LoopContract) (input : StartRecoveryAttemptInput)
    (d : RunDir) : Except LoopError (LoopLedger × LoopRecoveryAttempt) × RunDir :=
  match upgradeContractForRecovery contract with
  | .error e => (.error e, d)
  | .ok contract =>
    transact rt now (some input.token) input.token
      (fun ledger => decideStart rt now contract input (upgradeLedgerForRecovery rt ledger)) d

end Start

/-! ## Settling an attempt -/

structure CompleteRecoveryAttemptInput where
  token : String
  itemId : String
  engine : LoopEngineName
  attemptId : String
  succeeded : Bool
  error : Option String := none
  minted : String

/-- `${attempt.action}`. -/
def actionText (attempt : LoopRecoveryAttempt) : String :=
  (attempt.action.map RecoveryRecipe.name).getD "undefined"

/-- The row as `completeRecoveryAttempt` leaves it. -/
def completedAttempt (input : CompleteRecoveryAttemptInput) (time : String)
    (attempt : LoopRecoveryAttempt) : LoopRecoveryAttempt :=
  let prep := isReviewFindingsPrepUnlink attempt.blockerClass attempt.action
  if input.succeeded ∧ !prep then
    { attempt with completedAt := some time, outcome := .recovered, error := none }
  else
    -- preparation falls through: it never marks recovery success
    let fallback :=
      if input.succeeded then
        "recovery action \"" ++ actionText attempt ++
          "\" is preparatory for review-findings and cannot mark recovery success"
      else "recovery action \"" ++ actionText attempt ++ "\" failed without error detail"
    { attempt with
      completedAt := some time, outcome := .failed, error := some (trimmedOr input.error fallback) }

section Settle

variable (rt : JsRuntime) (now : Instant)

/-- The item as `completeRecoveryAttempt` leaves it. -/
def recoveredItem (input : CompleteRecoveryAttemptInput) (attempt : LoopRecoveryAttempt)
    (item : LoopItemLedgerEntry) : LoopItemLedgerEntry :=
  let cls := attempt.blockerClass.name
  if input.succeeded ∧ !isReviewFindingsPrepUnlink attempt.blockerClass attempt.action then
    { item with
      state := .inProgress
      history := item.history ++
        [{ time := rt.toISOString now, fromState := .blocked, toState := .inProgress,
           engine := input.engine, theme := some cls,
           note := some ("recovery action \"" ++ actionText attempt ++ "\" completed (" ++
             (attempt.budgetRemaining.map rt.numberText).getD "undefined" ++ " of class \"" ++ cls ++
             "\" remaining)") }] }
  else item

/-- The decision of `completeRecoveryAttempt` on the upgraded ledger. -/
def decideComplete (contract : LoopContract) (input : CompleteRecoveryAttemptInput)
    (ledger : LoopLedger) :
    Except LoopError ((LoopLedger × LoopRecoveryAttempt) × Option LoopLedger) :=
  let time := rt.toISOString now
  match lifecycleRefusal ledger input.itemId with
  | some e => .error e
  | none =>
    let named := fun (a : LoopRecoveryAttempt) => decide (a.attemptId = some input.attemptId)
    match ledger.recoveryAttempts.find? named with
    | none =>
      .error (invalid ("recovery attempt \"" ++ input.attemptId ++
        "\" was not started for item \"" ++ input.itemId ++ "\""))
    | some attempt =>
      if attempt.itemId ≠ input.itemId then
        .error (invalid ("recovery attempt \"" ++ input.attemptId ++
          "\" was not started for item \"" ++ input.itemId ++ "\""))
      -- a settled attempt is not settled twice
      else if attempt.outcome ≠ .started then
        let (after, write) := admitOnly contract ledger time input.minted
        .ok ((after, attempt), write)
      else
        match compatibilityStopRefusal ledger input.itemId with
        | some e => .error e
        | none =>
          match (ledger.items.get? input.itemId).filter fun item =>
              item.state = .blocked ∧ item.blockedTheme = some attempt.blockerClass.name ∧
                item.evidenceFingerprint.getD "" = attempt.evidenceFingerprint with
          | none =>
            .error (invalid ("recovery attempt \"" ++ input.attemptId ++
              "\" no longer matches the blocked candidate for item \"" ++ input.itemId ++
              "\""))
          | some item =>
            -- only the first row of that id is rewritten
            let completed := completedAttempt input time attempt
            let next := admitRecoveryLifecycle contract
              { ledger with
                items := ledger.items.set input.itemId
                  (recoveredItem rt now input attempt item)
                recoveryAttempts := ledger.recoveryAttempts.modify
                  (ledger.recoveryAttempts.findIdx named) fun _ => completed }
              time input.minted
            .ok ((next, completed), some next)

def completeRecoveryAttempt (contract : LoopContract) (input : CompleteRecoveryAttemptInput)
    (d : RunDir) : Except LoopError (LoopLedger × LoopRecoveryAttempt) × RunDir :=
  match upgradeContractForRecovery contract with
  | .error e => (.error e, d)
  | .ok contract =>
    transact rt now (some input.token) input.token
      (fun ledger => decideComplete rt now contract input (upgradeLedgerForRecovery rt ledger)) d

/-! ## Cooling and retired claims -/

/-- The ledger that `persistOwnedCooling` writes. -/
def cooledLedger (cooling : LoopCoolingRecord) (ledger : LoopLedger) : LoopLedger :=
  let itemId := cooling.itemId.filter (· ≠ "")
  let wakeAt := cooling.nextEligibleAt.filter (· ≠ "")
  { ledger with
    cooling := some cooling
    itemCooling := match itemId with
      | some id => ledger.itemCooling.set id cooling
      | none => ledger.itemCooling
    recoveryAttempts := match itemId, wakeAt with
      | some id, some wake => stampEpisodeNextEligibleAt ledger.recoveryAttempts id wake
      | _, _ => ledger.recoveryAttempts }

def persistOwnedCooling (token : String) (cooling : LoopCoolingRecord) (d : RunDir) :
    Except LoopError LoopLedger × RunDir :=
  transact rt now (some token) token
    (fun ledger =>
      let next := cooledLedger cooling (upgradeLedgerForRecovery rt ledger)
      .ok (next, some next)) d

/-- The ids of the open claims of an item that `select` picks. -/
def supersededIds (itemId : String) (select : LoopRecoveryAttempt → Bool)
    (attempts : List LoopRecoveryAttempt) : List (Option String) :=
  (attempts.filter fun a => a.itemId = itemId && a.outcome = .started && select a).map
    (·.attemptId)

def retireAttempt (ids : List (Option String)) (time : String) (a : LoopRecoveryAttempt) :
    LoopRecoveryAttempt :=
  if a.attemptId ∈ ids then { a with outcome := .superseded, completedAt := some time } else a

/-- No retired row is a skip, and the newest row of an episode that loses a charge is retired. -/
def RetireSafe (rows : List LoopRecoveryAttempt) (ids : List (Option String)) : Prop :=
  ∀ a ∈ rows, a.attemptId ∈ ids → a.outcome ≠ .skipped ∧ (a.outcome ≠ .superseded → a.episodeId.all (fun eid =>
      (episodeRows rows eid).getLast?.all fun latest =>
        latest.attemptId ∈ ids ∨ latest.outcome = .superseded) = true)

instance (rows : List LoopRecoveryAttempt) (ids : List (Option String)) :
    Decidable (RetireSafe rows ids) :=
  inferInstanceAs (Decidable (∀ a ∈ rows, _ → _))

/-- `supersedeStartedRecoveryAttempts(deps, runId, token, itemId, reason, select)`: every row that
shares the id of a picked claim is retired. -/
def supersedeStartedRecoveryAttempts (token itemId : String)
    (select : LoopRecoveryAttempt → Bool) (d : RunDir) : Except LoopError LoopLedger × RunDir :=
  transact rt now (some token) token
    (fun ledger =>
      let ledger := upgradeLedgerForRecovery rt ledger
      let ids := supersededIds itemId select ledger.recoveryAttempts
      -- nothing is written when no claim is open
      if ids.isEmpty then .ok (ledger, none)
      else
        let next := { ledger with
          recoveryAttempts :=
            ledger.recoveryAttempts.map (retireAttempt ids (rt.toISOString now)) }
        .ok (next, some next)) d

end Settle

/-! ## What the operations did -/

variable (rt : JsRuntime) (now : Instant)

@[simp] lemma admitRecoveryLifecycle_items (contract : LoopContract) (ledger : LoopLedger) (time minted : String) :
    (admitRecoveryLifecycle contract ledger time minted).items = ledger.items := rfl

variable {contract : LoopContract} {ledger after : LoopLedger}

lemma admitOnly_eq_some {next : LoopLedger}
    {time minted : String} (h : admitOnly contract ledger time minted = (after, some next)) :
    next = admitRecoveryLifecycle contract ledger time minted := by
  unfold admitOnly at h
  dsimp only at h
  split at h
  · simp at h
  · simpa [eq_comm] using (Prod.mk.inj h).2

lemma upgradeContractForRecovery_eq_ok {upgraded : LoopContract}
    (h : upgradeContractForRecovery contract = .ok upgraded) : upgraded = { contract with
      recoveryPolicy := normalizeRecoveryPolicyCompatibility contract.recoveryPolicy } := by
  unfold upgradeContractForRecovery at h
  dsimp only at h
  split at h
  · simp at h
  · simpa [eq_comm] using h

@[simp] lemma upgradeItem_state (item : LoopItemLedgerEntry) : (upgradeItem rt item).state = item.state := by
  unfold upgradeItem
  repeat' split
  all_goals rfl

variable {write : Option LoopLedger}

lemma decideBlock_eq_ok {input : BlockItemInput} {cls : DurableBlockerClass}
    (h : decideBlock rt now contract input cls ledger = .ok (after, write)) :
    write = some after ∧ ∃ item stop, ledger.items.get? input.itemId = some item ∧ item.state = .inProgress ∧
      after = admitRecoveryLifecycle contract { ledger with
          items := ledger.items.set input.itemId (blockedItem rt now input cls item), stop }
        (rt.toISOString now) input.minted := by
  unfold decideBlock at h
  dsimp only at h
  split at h
  · simp at h
  · split at h
    · simp at h
    · split at h
      · simp at h
      · next item hitem =>
        split at h
        · simp at h
        · next hstate =>
          cases h
          exact ⟨rfl, item, _, hitem, not_not.1 hstate, rfl⟩

/-- What a claim is made on. -/
structure ClaimFacts (contract : LoopContract) (input : StartRecoveryAttemptInput)
    (ledger : LoopLedger) (ctx : ClaimContext) : Prop where
  input_eq : ctx.input = input
  attempts_eq : ctx.attempts = ledger.recoveryAttempts
  item_eq : ledger.items.get? input.itemId = some ctx.item
  blocked : ctx.item.state = .blocked
  entry_eq : ctx.entry = contract.recoveryPolicy ctx.cls
  retries : ctx.entry.terminalOutcome ≠ .humanAuthority
  permitted : input.action ∈ ctx.entry.recipes

lemma claimContext_eq_ok {input : StartRecoveryAttemptInput} {ctx : ClaimContext}
    (h : claimContext contract input ledger = .ok ctx) : ClaimFacts contract input ledger ctx := by
  unfold claimContext at h
  split at h
  · simp at h
  · split at h
    · simp at h
    · split at h
      · simp at h
      · next item cls hitem =>
        dsimp only at h
        split at h
        · simp at h
        · next hretry =>
          split at h
          · simp at h
          · next hrecipe =>
            cases h
            obtain ⟨item', hget, hcls⟩ := Option.bind_eq_some_iff.1 hitem
            split at hcls
            · next hblocked =>
              obtain ⟨cls', _, heq⟩ := Option.map_eq_some_iff.1 hcls
              obtain ⟨rfl, rfl⟩ := Prod.mk.inj heq
              exact ⟨rfl, rfl, hget, hblocked, rfl, hretry, not_not.1 hrecipe⟩
            · simp at hcls

lemma decideStart_eq_ok {input : StartRecoveryAttemptInput} {attempt : LoopRecoveryAttempt}
    (h : decideStart rt now contract input ledger = .ok ((after, attempt), write)) :
    ∃ ctx, claimContext contract input ledger = .ok ctx ∧
      ((ledger.recoveryAttempts.find? (fun a => a.attemptId = some (ctx.attemptId rt)) = some attempt ∧
          admitOnly contract ledger (rt.toISOString now) input.minted = (after, write)) ∨
        (ledger.recoveryAttempts.find? (fun a => a.attemptId = some (ctx.attemptId rt)) = none ∧
          ∃ eligible : Instant, attempt = ctx.row rt (rt.toISOString now) (rt.toISOString eligible) ∧
            after = admitRecoveryLifecycle contract
              (ctx.record rt ledger (rt.toISOString now) (rt.toISOString eligible))
              (rt.toISOString now) input.minted ∧
            write = some after)) := by
  unfold decideStart at h
  dsimp only at h
  split at h
  · simp at h
  · next ctx hctx =>
    refine ⟨ctx, hctx, ?_⟩
    split at h
    · next existing hfind =>
      split at h
      · simp at h
      · cases h
        exact .inl ⟨hfind, rfl⟩
    · next hfind =>
      split at h
      · simp at h
      · next eligible _ =>
        cases h
        exact .inr ⟨hfind, eligible, rfl, rfl, rfl⟩

lemma decideComplete_eq_ok {input : CompleteRecoveryAttemptInput} {attempt : LoopRecoveryAttempt}
    (h : decideComplete rt now contract input ledger = .ok ((after, attempt), write)) :
    admitOnly contract ledger (rt.toISOString now) input.minted = (after, write) ∨
      ∃ claim item, ledger.recoveryAttempts.find?
          (fun a => decide (a.attemptId = some input.attemptId)) = some claim ∧
        claim.outcome = .started ∧
        ledger.items.get? input.itemId = some item ∧ item.state = .blocked ∧
        attempt = completedAttempt input (rt.toISOString now) claim ∧
        after = admitRecoveryLifecycle contract
          { ledger with
            items := ledger.items.set input.itemId (recoveredItem rt now input claim item)
            recoveryAttempts := ledger.recoveryAttempts.modify
              (ledger.recoveryAttempts.findIdx
                fun a => decide (a.attemptId = some input.attemptId)) fun _ => attempt }
          (rt.toISOString now) input.minted ∧
        write = some after := by
  unfold decideComplete at h
  dsimp only at h
  split at h
  · simp at h
  · split at h
    · simp at h
    · next claim hclaim =>
      split at h
      · simp at h
      · split at h
        · cases h
          exact .inl rfl
        · next hstarted =>
          split at h
          · simp at h
          · split at h
            · simp at h
            · next item hitem =>
              obtain ⟨hget, hfacts⟩ := Option.filter_eq_some_iff.1 hitem
              cases h
              have hblocked : item.state = .blocked := by simpa using (of_decide_eq_true hfacts).1
              exact .inr ⟨claim, item, hclaim, not_not.1 hstarted, hget, hblocked, rfl, rfl, rfl⟩

end AgentPipeline.Loop
