import AgentPipeline.Foundation.Effect
import AgentPipeline.Stage.AttemptLedger

/-!
# CiRecovery: the recovery ladder of definitive red CI

`handleDefinitiveCiFailure` tries five recoveries in order, each at most once for a head. The budgets are the
rows of the stage-attempt ledger; the sets of a polling context are a cache of them. Every answer of a
dependency may depend on all calls before it. Log lines, recorded commands and the text of the block reason are
left out: nothing is decided by them.

* `CiCall`, `CiEvent`, `World`: a call with its dependencies, what is called, and the files;
* `hydrateCiRecoveryMarkers`, `persistCtxCiMarkers`: the ledger into the context, and the context into the ledger;
* `charge`: a set of the context is extended and persisted, or rolled back;
* `handleDefinitiveCiFailure`: the ladder.
-/

namespace AgentPipeline.Stage

/-! ## Classes and contexts -/

inductive CiClass where
  | rebase | rerun | archiveFail | assertionFix | docsStaleHeal
deriving DecidableEq, Repr

/-- `ciRecoveryClassToAction(cls)`. -/
def CiClass.action : CiClass → StageAction
  | .rebase => .ciRebase
  | .rerun => .ciRerun
  | .archiveFail => .ciArchiveFailRecovery
  | .assertionFix => .ciAssertionFix
  | .docsStaleHeal => .ciDocsStaleHeal

inductive CiFailureClass where
  | docsStale | infra | assertion | unknown
deriving DecidableEq, Repr

def CiFailureClass.name : CiFailureClass → String
  | .docsStale => "docs_stale"
  | .infra => "infra"
  | .assertion => "assertion"
  | .unknown => "unknown"

/-- `classification === "infra" || classification === "unknown"`. -/
def CiFailureClass.isTransient : CiFailureClass → Bool
  | .infra | .unknown => true
  | .docsStale | .assertion => false

structure CheckRun where
  name : String
  link : Option String := none

/-- The fields of a polling context that the ladder reads; a set that is not there is empty. -/
structure PreMergePollingContext where
  preArchiveSha : Option String := none
  /-- `ciRebaseAttemptedShas` and its siblings. -/
  attemptedShas : CiClass → List String := fun _ => []
  ciTerminalFailRecordedShas : List String := []
  noRunRecoveryAttemptedForSha : Option String := none

def ciRecoveryShaSetAdd (shas : List String) (sha : String) : List String :=
  if shas.contains sha then shas else shas ++ [sha]

def ciRecoveryShaSetUnion (a b : List String) : List String := distinct ((a ++ b).filter (· ≠ ""))

namespace PreMergePollingContext

variable (ctx : PreMergePollingContext)

def withShas (c : CiClass) (shas : List String) : PreMergePollingContext :=
  { ctx with attemptedShas := Function.update ctx.attemptedShas c shas }

/-- The argument that `persistCtxCiMarkers` passes on. -/
def projection : CiProjection where
  preArchiveSha := ctx.preArchiveSha
  ciRebaseAttemptedShas := ctx.attemptedShas .rebase
  ciRerunAttemptedShas := ctx.attemptedShas .rerun
  ciArchiveFailRecoveryAttemptedShas := ctx.attemptedShas .archiveFail
  ciAssertionFixAttemptedShas := ctx.attemptedShas .assertionFix
  ciDocsStaleHealAttemptedShas := ctx.attemptedShas .docsStaleHeal
  ciTerminalFailRecordedShas := ctx.ciTerminalFailRecordedShas
  noRunRecoveryAttemptedForSha := ctx.noRunRecoveryAttemptedForSha

end PreMergePollingContext

/-! ## The files and the calls of dependencies -/

/-- A call that the ladder awaits. -/
inductive CiEvent where
  | readLedger | wroteLedger
  | getForIssue | markRebaseAttempted | coveredMutation | getPrDetail
  | fetchCheckLogExcerpt | getDiffFilePaths | getSuccessfulCheckRunCount
  | sideEffect (c : CiClass) (headSha : String)
  | reopenPr | setBlocked
deriving DecidableEq, Repr

/-- A call, with the ledger file as it was when it was made. -/
structure CiStep where
  primary : LedgerText
  event : CiEvent

/-- The files of the run directory, the context at hand, and what was called. -/
structure World where
  primary : LedgerText := .absent
  legacy : LedgerText := .absent
  ctx : PreMergePollingContext := {}
  trace : List CiStep := []

def World.events (w : World) : List CiEvent := w.trace.map (·.event)

def World.push (w : World) (event : CiEvent) : World :=
  { w with trace := w.trace ++ [⟨w.primary, event⟩] }

/-- What a read shows when the file cannot be read or its text is one that the parser refuses. -/
structure DamagedText where
  text : LedgerText
  present : text ≠ .absent
  noLedger : parseLedgerJson text = none

inductive WriteOutcome where
  | written
  /-- An error came before or after the temporary file was renamed. -/
  | failed (renamed : Bool) (reason : String)

/-- How `runCoveredCandidateMutation` treats the mutation: it is aborted or an error comes before it, or it runs
and its result is returned or not. -/
inductive CoveredMutation where
  | notRun
  | ran (returned : Bool)

/-- The dependencies of a call, as functions of what was called before. -/
structure CiDeps where
  /-- The process stops before the next step. -/
  stops : List CiEvent → Bool := fun _ => false
  now : List CiEvent → String
  damagedLedger : List CiEvent → Option DamagedText := fun _ => none
  legacyError : List CiEvent → Option String := fun _ => none
  writeLedger : List CiEvent → WriteOutcome := fun _ => .written
  getForIssue : List CiEvent → Except String Bool
  markRebaseAttempted : List CiEvent → Except String Unit := fun _ => .ok ()
  coveredMutation : List CiEvent → CoveredMutation := fun _ => .ran true
  tryRebaseAndPush : List CiEvent → Except String Bool
  /-- The head of the PR. -/
  getPrDetail : List CiEvent → Except String String
  fetchCheckLogExcerpt : List CiEvent → CheckRun → Except String (Option String)
  getDiffFilePaths : List CiEvent → Except String (List String)
  getSuccessfulCheckRunCount : List CiEvent → Except String Nat
  closePr : List CiEvent → Except String Unit
  reopenPr : List CiEvent → Except String Unit
  /-- Whether a re-run was attempted. -/
  rerunFailedWorkflows : List CiEvent → Except String Bool
  runCiAssertionFix : Option (List CiEvent → Except String Bool) := none
  runCiDocsStaleHeal : Option (List CiEvent → Except String Bool) := none
  setBlocked : List CiEvent → Except String Unit := fun _ => .ok ()

/-- A call: its arguments, its configuration and its dependencies. -/
structure CiCall where
  headSha : String
  failedChecks : List CheckRun := []
  /-- Whether `opts.runDir` is given. -/
  runDir : Bool := true
  baseBranch : String := "main"
  preMergeCiRerunEnabled : Option Bool := none
  preMergeCiAssertionFix : Option Bool := none
  deps : CiDeps

inductive CiOutcome where
  | waiting (reason : String)
  /-- `preMergeBlocked("CI failed", "ci-exhausted", "ci-failed")`. -/
  | blocked
deriving DecidableEq, Repr

/-- How a call ends early. -/
inductive CiStop where
  | thrown (message : String)
  | stopped
deriving DecidableEq, Repr

def CiStop.caught : CiStop → Option String
  | .thrown message => some message
  | .stopped => none

abbrev CiM (α : Type) := Effect World CiStop α

/-- `try { … } catch (err)`. -/
def recovered {α : Type} (m : CiM α) : CiM (Except String α) := Effect.attempt CiStop.caught m

def getCtx : CiM PreMergePollingContext := Effect.call fun w => (.ok w.ctx, w)

def setCtx (ctx : PreMergePollingContext) : CiM Unit := Effect.call fun w => (.ok (), { w with ctx := ctx })

variable (host : NodeHost) (classifyCiFailure : List CheckRun → Option String → CiFailureClass) (call : CiCall)

/-- A call of a dependency; what it threw is an error. -/
def ask {α : Type} (answer : List CiEvent → Except String α) (event : CiEvent) : CiM α :=
  Effect.call fun w =>
    if call.deps.stops w.events then (.error .stopped, w)
    else
      match answer w.events with
      | .ok a => (.ok a, w.push event)
      | .error message => (.error (.thrown message), w.push event)

/-! ## The ledger and the context -/

def attemptedShasForAction (ledger : StageAttemptLedger) (action : StageAction) : List String :=
  distinct ((ledger.attempts.filter fun row =>
    row.textAt "action" = some action.name && isConsumed host row).filterMap fun row =>
      (row.textAt "head_sha").filter (· ≠ ""))

/-- `hydrateStageAttemptLedger(runDir)`, from what the reads show. -/
def readLedger : CiM (Except String (StageAttemptLedger × Bool)) := Effect.call fun w =>
  if call.deps.stops w.events then (.error .stopped, w)
  else
    let primary := ((call.deps.damagedLedger w.events).map (·.text)).getD w.primary
    let legacy := ((call.deps.legacyError w.events).map .unreadable).getD w.legacy
    (.ok (hydrateStageAttemptLedger host call.runDir primary legacy (call.deps.now w.events) []), w.push .readLedger)

/-- `persistStageAttemptLedger(runDir, ledger)`. -/
def writeLedger (ledger : StageAttemptLedger) : CiM (Except String Unit) := Effect.call fun w =>
  if call.runDir = false then (.ok (.error "runDir unavailable; cannot persist stage-attempt ledger"), w)
  else if call.deps.stops w.events then (.error .stopped, w)
  else
    let replaced := { w.push .wroteLedger with primary := persistStageAttemptLedger ledger }
    match call.deps.writeLedger w.events with
    | .written => (.ok (.ok ()), replaced)
    | .failed renamed reason => (.ok (.error reason), if renamed then replaced else w.push .wroteLedger)

/-- The context with what the ledger knows. -/
def PreMergePollingContext.hydrated (ctx : PreMergePollingContext) (ledger : StageAttemptLedger) :
    PreMergePollingContext where
  preArchiveSha := (ctx.preArchiveSha.filter (· ≠ "")).or ledger.preArchiveSha
  attemptedShas c := ciRecoveryShaSetUnion (ctx.attemptedShas c) (attemptedShasForAction host ledger c.action)
  ciTerminalFailRecordedShas := ciRecoveryShaSetUnion ctx.ciTerminalFailRecordedShas
    (ledger.ciTerminalFailRecordedShas.getD [])
  noRunRecoveryAttemptedForSha := (ctx.noRunRecoveryAttemptedForSha.filter (· ≠ "")).or
    (attemptedShasForAction host ledger .noRunRecovery).getLast?

/-- The context after its sets were replaced by the projection of a ledger. -/
def PreMergePollingContext.projected (ctx : PreMergePollingContext) (ledger : StageAttemptLedger) :
    PreMergePollingContext :=
  { ctx with
    preArchiveSha := (ledger.preArchiveSha.filter (· ≠ "")).or ctx.preArchiveSha
    attemptedShas := fun c => attemptedShasForAction host ledger c.action
    ciTerminalFailRecordedShas := ledger.ciTerminalFailRecordedShas.getD [] }

def hydrateCiRecoveryMarkers : CiM (Except String Unit) := do
  match ← readLedger host call with
  | .error reason => pure (.error reason)
  | .ok (ledger, migratedFromLegacy) => do
      let ctx ← getCtx
      setCtx (ctx.hydrated host ledger)
      if migratedFromLegacy then
        let _ ← writeLedger call ledger
        pure (.ok ())
      else pure (.ok ())

def persistCtxCiMarkers : CiM (Except String Unit) := do
  match ← readLedger host call with
  | .error reason => pure (.error reason)
  | .ok (hydrated, _) => do
      let w ← (Effect.call fun w => (.ok w, w) : CiM World)
      let ledger := (syncCiProjectionIntoLedger host hydrated w.ctx.projection (call.deps.now w.events)).2
      match ← writeLedger call ledger with
      | .error reason => pure (.error reason)
      | .ok () => do
          setCtx (w.ctx.projected host ledger)
          pure (.ok ())

/-- A class is charged for the head before its side effect; a charge that is not persisted is rolled back. -/
def charge (c : CiClass) : CiM Bool := do
  let before ← getCtx
  setCtx (before.withShas c (ciRecoveryShaSetAdd (before.attemptedShas c) call.headSha))
  match ← persistCtxCiMarkers host call with
  | .ok () => pure true
  | .error _ => do
      let ctx ← getCtx
      setCtx (ctx.withShas c (before.attemptedShas c))
      pure false

/-- Every set of the context, with the head. -/
def PreMergePollingContext.exhausted (ctx : PreMergePollingContext) (headSha : String) :
    PreMergePollingContext :=
  { ctx with attemptedShas := fun c => ciRecoveryShaSetAdd (ctx.attemptedShas c) headSha }

/-- Hydration at the start of a call: unusable markers count as a spent budget. -/
def openBudget : CiM Unit := do
  match ← hydrateCiRecoveryMarkers host call with
  | .ok () => pure ()
  | .error _ => do
      let ctx ← getCtx
      setCtx (ctx.exhausted call.headSha)

/-! ## The rebase -/

inductive RebasePushResult where
  | verified (headMoved : Bool)
  | unverified
  | failed (afterSha : Option String)

def resolveRebasePushResult (beforeSha : String) (gitOk : Bool) (afterSha : Option String) : RebasePushResult :=
  match afterSha.filter (· ≠ "") with
  | none => if gitOk then .unverified else .failed none
  | some after => if gitOk = false then .failed (some after) else .verified (beforeSha ≠ after)

/-- The outcome that a rebase decides, if it decides one. -/
def rebaseOutcome (beforeSha : String) : RebasePushResult → Option CiOutcome
  | .verified true => some (.waiting "rebased; CI re-running")
  | .unverified => some (.waiting "rebase completed; re-evaluating PR head")
  | .failed (some after) =>
    if after ≠ beforeSha then some (.waiting "PR head advanced; waiting for checks") else none
  | .verified false | .failed none => none

/-- The rebase and push, and whether git reported success. -/
def rebaseSideEffect : CiM Bool := do
  let rebase : CiM (Except String Bool) :=
    recovered (ask call call.deps.tryRebaseAndPush (.sideEffect .rebase call.headSha))
  if call.runDir && call.baseBranch ≠ "" then
    match ← ask call (fun events => .ok (call.deps.coveredMutation events)) .coveredMutation with
    | .notRun => pure false
    | .ran returned => do
        match ← rebase with
        | .ok gitOk => pure (returned && gitOk)
        | .error _ => pure false
  else
    match ← rebase with
    | .ok gitOk => pure gitOk
    | .error _ => pure false

/-- After the charge: the marker of the worktree, the rebase, and the head that is read back. -/
def rebaseCharged : CiM (Option CiOutcome) := do
  ask call call.deps.markRebaseAttempted .markRebaseAttempted
  let gitOk ← rebaseSideEffect call
  let afterSha ← recovered (ask call call.deps.getPrDetail .getPrDetail)
  pure (rebaseOutcome call.headSha (resolveRebasePushResult call.headSha gitOk afterSha.toOption))

def rebaseStep : CiM (Option CiOutcome) := do
  let worktree ← ask call call.deps.getForIssue .getForIssue
  let ctx ← getCtx
  if (ctx.attemptedShas .rebase).contains call.headSha || !worktree then pure none
  else do
    if ← charge host call .rebase then rebaseCharged call else pure none

/-! ## Classification -/

/-- The log excerpt of the first failed check that has one. -/
def fetchLogExcerpt : Option String → List CheckRun → CiM (Option String)
  | last, [] => pure last
  | _, check :: checks => do
      let answer ← recovered (ask call (call.deps.fetchCheckLogExcerpt · check) .fetchCheckLogExcerpt)
      let excerpt := answer.toOption.join
      if (excerpt.filter (· ≠ "")).isSome then pure excerpt else fetchLogExcerpt excerpt checks

structure ArchiveInfo where
  isArchiveOnly : Bool := false
  priorGreen : Bool := false

/-- The part of `evaluateArchiveOnlyPriorGreen` that may throw. -/
def inspectArchive : CiM ArchiveInfo := do
  let diffPaths ← ask call call.deps.getDiffFilePaths .getDiffFilePaths
  if diffPaths = [] || !diffPaths.all ("openspec/".toList.isPrefixOf ·.toList) then pure {}
  else do
    let successCount ← ask call call.deps.getSuccessfulCheckRunCount .getSuccessfulCheckRunCount
    pure { isArchiveOnly := true, priorGreen := 0 < successCount }

/-- `evaluateArchiveOnlyPriorGreen(cfg, headSha, ctx)`. -/
def evaluateArchiveOnlyPriorGreen : CiM ArchiveInfo := do
  let ctx ← getCtx
  match ctx.preArchiveSha.filter fun sha => sha ≠ "" && sha ≠ call.headSha with
  | none => pure {}
  | some _ => do
      match ← recovered (inspectArchive call) with
      | .ok info => pure info
      | .error _ => pure {}

/-! ## The steps after the classification -/

/-- `cfg.pre_merge_ci_rerun_enabled !== false`. -/
def rerunEnabled : Bool := call.preMergeCiRerunEnabled ≠ some false

def retriggeredText (classification : CiFailureClass) : String :=
  "CI re-triggered (" ++ classification.name ++ "); waiting for checks"

/-- One automatic re-run; the flag says whether its budget is spent. -/
def rerunStep (classification : CiFailureClass) (attempted : Bool) : CiM (Option CiOutcome × Bool) := do
  if !classification.isTransient || !rerunEnabled call || attempted then pure (none, attempted)
  else do
    if ← charge host call .rerun then
      match ← recovered (ask call call.deps.rerunFailedWorkflows (.sideEffect .rerun call.headSha)) with
      | .ok true => pure (some (.waiting (retriggeredText classification)), true)
      | _ => pure (none, true)
    else pure (none, attempted)

/-- Close and reopen; a reopen that fails is tried once more. -/
def closeAndReopen : CiM Bool := do
  match ← recovered (ask call call.deps.closePr (.sideEffect .archiveFail call.headSha)) with
  | .error _ => pure false
  | .ok () => do
      match ← recovered (ask call call.deps.reopenPr .reopenPr) with
      | .ok () => pure true
      | .error _ => do
          match ← recovered (ask call call.deps.reopenPr .reopenPr) with
          | .ok () => pure true
          | .error _ => pure false

def archiveStep (classification : CiFailureClass) (rerunAttempted attempted : Bool) : CiM (Option CiOutcome) := do
  if !classification.isTransient || attempted then pure none
  else do
    let info ← evaluateArchiveOnlyPriorGreen call
    if info.isArchiveOnly && info.priorGreen && (rerunAttempted || !rerunEnabled call) then
      if ← charge host call .archiveFail then
        if ← closeAndReopen call then
          pure (some (.waiting "archive-only CI red; closed and reopened PR to re-fire CI"))
        else pure none
      else pure none
    else pure none

/-- A charged one-shot of a handler, where there is one. -/
def handlerStep (c : CiClass) (handler : Option (List CiEvent → Except String Bool)) (reason : String) :
    CiM (Option CiOutcome) := do
  if ← charge host call c then
    match handler with
    | none => pure none
    | some run => do
        match ← recovered (ask call run (.sideEffect c call.headSha)) with
        | .ok true => pure (some (.waiting reason))
        | _ => pure none
  else pure none

def assertionFixStep (classification : CiFailureClass) (attempted : Bool) : CiM (Option CiOutcome) :=
  if classification = .assertion ∧ call.preMergeCiAssertionFix = some true ∧ attempted = false then
    handlerStep host call .assertionFix call.deps.runCiAssertionFix
      "CI assertion auto-fix attempted; waiting for checks"
  else pure none

def docsStaleHealStep (classification : CiFailureClass) (attempted : Bool) : CiM (Option CiOutcome) :=
  if classification = .docsStale ∧ attempted = false then
    handlerStep host call .docsStaleHeal call.deps.runCiDocsStaleHeal
      "CI docs-stale heal committed; waiting for checks"
  else pure none

/-! ## The ladder -/

/-- The budget is exhausted. -/
def escalate : CiM CiOutcome := do
  let _ ← evaluateArchiveOnlyPriorGreen call
  ask call call.deps.setBlocked .setBlocked
  pure .blocked

/-- A step, and what follows when it decides nothing. -/
def orElse (step : CiM (Option CiOutcome)) (rest : CiM CiOutcome) : CiM CiOutcome := do
  match ← step with
  | some outcome => pure outcome
  | none => rest

/-- The steps 3 to 7. -/
def afterClassification (classification : CiFailureClass) : CiM CiOutcome := do
  let ctx ← getCtx
  let attempted (c : CiClass) : Bool := (ctx.attemptedShas c).contains call.headSha
  let rerun ← rerunStep host call classification (attempted .rerun)
  orElse (pure rerun.1) <| orElse (archiveStep host call classification rerun.2 (attempted .archiveFail)) <|
      orElse (assertionFixStep host call classification (attempted .assertionFix)) <|
        orElse (docsStaleHealStep host call classification (attempted .docsStaleHeal)) (escalate call)

/-- `handleDefinitiveCiFailure(cfg, issueNumber, prNumber, headSha, failedChecks, opts, fns)`. -/
def handleDefinitiveCiFailure : CiM CiOutcome := do
  openBudget host call
  orElse (rebaseStep host call) do
    let logExcerpt ← fetchLogExcerpt call none call.failedChecks
    afterClassification host call (classifyCiFailure call.failedChecks logExcerpt)

end AgentPipeline.Stage
