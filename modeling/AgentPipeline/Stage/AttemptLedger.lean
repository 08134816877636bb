import AgentPipeline.Loop.Recovery
import AgentPipeline.Review.VerdictParsing

/-!
# AttemptLedger: the one-shots of stage-local recovery

The operations of `stage-attempt-ledger.ts`. A row of the ledger is the object that the file holds, so
a row that was read keeps the fields nobody here knows.

* `stageAttemptId`: the identity of an attempt;
* `claimStageAttempt`, `completeStageAttempt`, `supersedeStageAttempt`, `syncCiProjectionIntoLedger`;
* `hydrateStageAttemptLedger`, `persistStageAttemptLedger`: the ledger and its file.
-/

namespace AgentPipeline.Stage

open JsText (trim)

/-! ## Actions and rows -/

inductive StageAction where
  | ciRebase | ciRerun | ciArchiveFailRecovery | ciAssertionFix | ciDocsStaleHeal | conflictRebase
  | conflictResolve | preMergeAutofix | openspecRepair | worktreeRematerialize | noRunRecovery
deriving DecidableEq, Repr

def StageAction.name : StageAction → String
  | .ciRebase => "ci_rebase"
  | .ciRerun => "ci_rerun"
  | .ciArchiveFailRecovery => "ci_archive_fail_recovery"
  | .ciAssertionFix => "ci_assertion_fix"
  | .ciDocsStaleHeal => "ci_docs_stale_heal"
  | .conflictRebase => "conflict_rebase"
  | .conflictResolve => "conflict_resolve"
  | .preMergeAutofix => "pre_merge_autofix"
  | .openspecRepair => "openspec_repair"
  | .worktreeRematerialize => "worktree_rematerialize"
  | .noRunRecovery => "no_run_recovery"

/-- `STAGE_ACTIONS`. -/
def stageActions : List String :=
  [StageAction.ciRebase, .ciRerun, .ciArchiveFailRecovery, .ciAssertionFix, .ciDocsStaleHeal,
    .conflictRebase, .conflictResolve, .preMergeAutofix, .openspecRepair, .worktreeRematerialize,
    .noRunRecovery].map StageAction.name

def isStageAction (value : Option Json) : Bool :=
  match value.bind Json.text? with
  | some text => stageActions.contains text
  | none => false

/-- A `StageAttemptRecord` is an object; its fields are read where they are used. -/
abbrev AttemptRow := Json

namespace AttemptRow

def attemptId (row : AttemptRow) : Option String := row.textAt "attempt_id"

def status (row : AttemptRow) : Option String := row.textAt "status"

/-- `attempt.outcome === "…"`. -/
def outcomeIs (row : AttemptRow) (text : String) : Bool := row.textAt "outcome" = some text

end AttemptRow

def isValidAttemptRecord (row : Json) : Bool :=
  row.isPlainObject && (row.textAt "attempt_id").isSome && (row.textAt "head_sha").isSome &&
    isStageAction (row.get? "action") && (row.textAt "status").isSome &&
    ((row.get? "budget_remaining").bind Json.number?).isSome

structure StageAttemptLedger where
  attempts : List AttemptRow := []
  preArchiveSha : Option String := none
  ciTerminalFailRecordedShas : Option (List String) := none

namespace StageAttemptLedger

/-- `ledger.attempts.find((a) => a.attempt_id === id)`. -/
def find (ledger : StageAttemptLedger) (id : String) : Option AttemptRow :=
  ledger.attempts.find? fun row => row.attemptId = some id

/-- The found row is changed in place. -/
def updateFirst (id : String) (f : AttemptRow → AttemptRow) : List AttemptRow → List AttemptRow
  | [] => []
  | row :: rows =>
    if row.attemptId = some id then f row :: rows else row :: updateFirst id f rows

def update (ledger : StageAttemptLedger) (id : String) (f : AttemptRow → AttemptRow) :
    StageAttemptLedger :=
  { ledger with attempts := updateFirst id f ledger.attempts }

end StageAttemptLedger

/-! ## Status -/

def isAttemptCharged (status : String) : Bool :=
  ["started", "completed", "failed", "exhausted", "recovered", "repeated_no_progress", "needs_human",
    "human_authority"].contains status

def hasAttemptedStatus (status : String) : Bool := isAttemptCharged status && status ≠ "superseded"

variable (host : NodeHost)

/-- `String(attempt.outcome)`. -/
def outcomeText (row : AttemptRow) : String :=
  match row.get? "outcome" with
  | none => "undefined"
  | some value => Review.display host value

/-- `hasAttemptedStatus(attempt.status) || hasAttemptedStatus(String(attempt.outcome))`. -/
def isConsumed (row : AttemptRow) : Bool :=
  (row.status.map hasAttemptedStatus).getD false || hasAttemptedStatus (outcomeText host row)

/-! ## Identity -/

/-- What an attempt is identified by. -/
structure AttemptKey where
  headSha : String
  action : String
  itemId : Option String := none
  candidateIdentity : Option String := none
  evidenceFingerprint : Option String := none
  recoveryAction : Option Loop.RecoveryRecipe := none

def stageAttemptId (key : AttemptKey) : String :=
  let head := host.toLowerCase (trim key.headSha)
  let itemId := key.itemId.map trim
  let evidence := key.evidenceFingerprint.getD ""
  let candidate := ((key.candidateIdentity.map trim).filter (· ≠ "")).getD head
  match itemId.filter (· ≠ ""), key.recoveryAction with
  | some item, some recipe => Loop.recoveryAttemptId host.toJsRuntime item candidate evidence recipe
  | _, _ =>
    host.sha256 ("\x00".intercalate
      ["pipeline-stage-attempt@1", head, key.action, itemId.getD "", candidate, evidence])

/-- `hasAttempted(ledger, headSha, action, opts)`: the candidate is the head. -/
def hasAttempted (ledger : StageAttemptLedger) (key : AttemptKey) : Bool :=
  match ledger.find (stageAttemptId host { key with candidateIdentity := none }) with
  | none => false
  | some row => isConsumed host row

/-! ## Claims -/

structure ClaimStageAttemptInput extends AttemptKey where
  typedReason : Option String := none
  budgetBefore : Option JsNumber := none
  notBefore : Option String := none
  nextAttemptAt : Option String := none
  invariant : Option String := none
  candidateEpoch : Option String := none
  evidenceRole : Option String := none
  artifactIdentity : Option String := none
  evidenceIdentity : Option String := none
  attemptsPerStrategy : Option (List (String × JsNumber)) := none
  strategyCursor : Option JsNumber := none
  nextEligibleAt : Option String := none
  episodeId : Option String := none

inductive ClaimResult where
  | failed (reason : String)
  | ok (attempt : AttemptRow) (created : Bool)

/-- `...(value ? { [key]: value } : {})`. -/
def textField (key : String) (value : Option String) : List (String × Json) :=
  match value.filter (· ≠ "") with
  | some text => [(key, .str text)]
  | none => []

/-- `...(value !== undefined ? { [key]: value } : {})`. -/
def presentField (key : String) (value : Option Json) : List (String × Json) :=
  match value with
  | some v => [(key, v)]
  | none => []

/-- `Math.max(0, n - 1)`. -/
def chargedBudget : JsNumber → JsNumber
  | .finite q => .finite (max 0 (q - 1))
  | .infinity negative => if negative then .finite 0 else .infinity false
  | .nan => .nan

/-- `Math.max(0, n)` of a number that is at most zero. -/
def exhaustedBudget : JsNumber := .finite 0

/-- `budgetBefore <= 0`. -/
def isSpent (budget : JsNumber) : Bool := JsNumber.ge (.finite 0) budget

/-- `ledger.attempts.length`. -/
def countOf (rows : List AttemptRow) : Json := .num (.finite rows.length)

def budgetError (action : String) : String :=
  "stage budget exhausted before action \"" ++ action ++ "\" could start"

/-- The row of a new claim. -/
def claimRow (ledger : StageAttemptLedger) (input : ClaimStageAttemptInput) (headSha attemptId nowIso : String) :
    AttemptRow :=
  let budgetBefore := input.budgetBefore.getD (.finite 1)
  let spent := isSpent budgetBefore
  let outcome := if spent then "exhausted" else "started"
  let notBefore := (input.notBefore.or input.nextAttemptAt).filter (· ≠ "")
  .obj ([("attempt_id", .str attemptId), ("idempotency_key", .str attemptId),
      ("seq", countOf ledger.attempts), ("time", .str nowIso)] ++
    textField "not_before" notBefore ++ textField "next_attempt_at" notBefore ++
    textField "item_id" input.itemId ++
    [("candidate_identity", .str (((input.candidateIdentity.map trim).filter (· ≠ "")).getD headSha)),
      ("head_sha", .str headSha), ("action", .str input.action)] ++
    presentField "recovery_action" (input.recoveryAction.map fun recipe => .str recipe.name) ++
    [("actions", .arr [.str input.action])] ++
    presentField "evidence_fingerprint" (input.evidenceFingerprint.map .str) ++
    [("outcome", .str outcome), ("status", .str outcome)] ++
    textField "typed_reason" input.typedReason ++
    [("budget_remaining", .num (if spent then exhaustedBudget else chargedBudget budgetBefore))] ++
    (if spent then
      [("error", .str (budgetError input.action)), ("last_error", .str (budgetError input.action)),
        ("terminal_outcome", .str "failed")]
    else []) ++
    textField "invariant" input.invariant ++
    textField "candidate_epoch" input.candidateEpoch ++
    textField "evidence_role" input.evidenceRole ++
    textField "artifact_identity" input.artifactIdentity ++
    textField "evidence_identity" input.evidenceIdentity ++
    presentField "attempts_per_strategy"
      (input.attemptsPerStrategy.map fun counts => .obj (counts.map fun c => (c.1, .num c.2))) ++
    presentField "strategy_cursor" (input.strategyCursor.map .num) ++
    textField "next_eligible_at" input.nextEligibleAt ++
    textField "episode_id" input.episodeId)

def claimStageAttempt (ledger : StageAttemptLedger) (input : ClaimStageAttemptInput) (nowIso : String) :
    ClaimResult × StageAttemptLedger :=
  let headSha := trim input.headSha
  if headSha = "" then (.failed "claim requires non-empty headSha", ledger)
  else if stageActions.contains input.action = false then
    (.failed ("unknown stage action: " ++ input.action), ledger)
  else
    let id := stageAttemptId host { input.toAttemptKey with headSha := headSha }
    match ledger.find id with
    | some existing => (.ok existing false, ledger)
    | none =>
      let attempt := claimRow ledger input headSha id nowIso
      (.ok attempt true, { ledger with attempts := ledger.attempts ++ [attempt] })

/-! ## Settling -/

structure CompleteStageAttemptInput where
  attemptId : String
  succeeded : Bool
  error : Option String := none
  typedReason : Option String := none
  terminalOutcome : Option String := none

/-- The assignments of a completion. -/
def completeRow (input : CompleteStageAttemptInput) (nowIso : String) (attempt : AttemptRow) :
    AttemptRow :=
  let stamped := attempt.set "completed_at" (.str nowIso)
  let settled :=
    if input.succeeded then
      ((((stamped.set "status" (.str "completed")).set "outcome" (.str "completed")).set
        "terminal_outcome" (.str (input.terminalOutcome.getD "success"))).without "error").without
          "last_error"
    else
      let error := ((input.error.map trim).filter (· ≠ "")).getD
        ("stage action \"" ++ ((attempt.textAt "action").getD "undefined") ++ "\" failed without error detail")
      ((((stamped.set "status" (.str "failed")).set "outcome" (.str "failed")).set
        "terminal_outcome" (.str (input.terminalOutcome.getD "failed"))).set "error" (.str error)).set
          "last_error" (.str error)
  match input.typedReason.filter (· ≠ "") with
  | some reason => settled.set "typed_reason" (.str reason)
  | none => settled

def attemptNotFound (id : String) : String := "attempt \"" ++ id ++ "\" not found"

def completeStageAttempt (ledger : StageAttemptLedger) (input : CompleteStageAttemptInput)
    (nowIso : String) : ClaimResult × StageAttemptLedger :=
  match ledger.find input.attemptId with
  | none => (.failed (attemptNotFound input.attemptId), ledger)
  | some attempt =>
    if attempt.status ≠ some "started" ∧ attempt.outcomeIs "started" = false then
      (.ok attempt false, ledger)
    else
      (.ok (completeRow input nowIso attempt) false, ledger.update input.attemptId (completeRow input nowIso))

/-- The assignments of a supersession. -/
def supersedeRow (reason : Option String) (nowIso : String) (attempt : AttemptRow) : AttemptRow :=
  let superseded := (((attempt.set "completed_at" (.str nowIso)).set "status" (.str "superseded")).set
    "outcome" (.str "superseded")).set "terminal_outcome" (.str "superseded")
  match reason.filter (· ≠ "") with
  | some text => (superseded.set "error" (.str text)).set "last_error" (.str text)
  | none => superseded

def supersedeStageAttempt (ledger : StageAttemptLedger) (attemptId : String) (reason : Option String)
    (nowIso : String) : ClaimResult × StageAttemptLedger :=
  match ledger.find attemptId with
  | none => (.failed (attemptNotFound attemptId), ledger)
  | some attempt =>
    if attempt.status = some "superseded" ∨ attempt.outcomeIs "superseded" = true then
      (.ok attempt false, ledger)
    else
      (.ok (supersedeRow reason nowIso attempt) false, ledger.update attemptId (supersedeRow reason nowIso))

/-! ## The session cache -/

structure CiProjection where
  preArchiveSha : Option String := none
  ciRebaseAttemptedShas : List String := []
  ciRerunAttemptedShas : List String := []
  ciArchiveFailRecoveryAttemptedShas : List String := []
  ciAssertionFixAttemptedShas : List String := []
  ciDocsStaleHealAttemptedShas : List String := []
  ciTerminalFailRecordedShas : List String := []
  noRunRecoveryAttemptedForSha : Option String := none

/-- One head of a set of the cache; the identity that was created is returned. -/
def ensureOne (ledger : StageAttemptLedger) (action : StageAction) (headSha nowIso : String) :
    Option String × StageAttemptLedger :=
  if headSha = "" ∨ hasAttempted host ledger { headSha, action := action.name } = true then
    (none, ledger)
  else
    match claimStageAttempt host ledger
      { headSha, action := action.name, typedReason := some "synced_from_session_cache",
        budgetBefore := some (.finite 1) } nowIso with
    | (.ok attempt true, claimed) =>
      let id := attempt.attemptId.getD ""
      (some id, (completeStageAttempt claimed { attemptId := id, succeeded := true } nowIso).2)
    | (_, claimed) => (none, claimed)

/-- The heads of a set, in order; the identities that were created are collected. -/
def ensure (nowIso : String) (action : StageAction) :
    List String → StageAttemptLedger → List String × StageAttemptLedger
  | [], ledger => ([], ledger)
  | headSha :: shas, ledger =>
    let first := ensureOne host ledger action headSha nowIso
    let rest := ensure nowIso action shas first.2
    (first.1.toList ++ rest.1, rest.2)

/-- The sets of the cache, in order. -/
def ensureAll (nowIso : String) :
    List (StageAction × List String) → StageAttemptLedger → List String × StageAttemptLedger
  | [], ledger => ([], ledger)
  | (action, shas) :: sets, ledger =>
    let first := ensure host nowIso action shas ledger
    let rest := ensureAll nowIso sets first.2
    (first.1 ++ rest.1, rest.2)

/-- `[...new Set(texts)]`. -/
def distinct (texts : List String) : List String :=
  texts.foldl (fun seen text => if seen.contains text then seen else seen ++ [text]) []

/-- `syncCiProjectionIntoLedger(ledger, projection, nowIso)`, with the identities it created. -/
def syncCiProjectionIntoLedger (ledger : StageAttemptLedger) (projection : CiProjection)
    (nowIso : String) : List String × StageAttemptLedger :=
  let archived := { ledger with
    preArchiveSha := (projection.preArchiveSha.filter (· ≠ "")).or ledger.preArchiveSha }
  let synced := ensureAll host nowIso
    [(.ciRebase, projection.ciRebaseAttemptedShas), (.ciRerun, projection.ciRerunAttemptedShas),
      (.ciArchiveFailRecovery, projection.ciArchiveFailRecoveryAttemptedShas),
      (.ciAssertionFix, projection.ciAssertionFixAttemptedShas),
      (.ciDocsStaleHeal, projection.ciDocsStaleHealAttemptedShas),
      (.noRunRecovery, (projection.noRunRecoveryAttemptedForSha.filter (· ≠ "")).toList)] archived
  if projection.ciTerminalFailRecordedShas = [] then synced
  else
    let merged := (synced.2.ciTerminalFailRecordedShas.getD []) ++ projection.ciTerminalFailRecordedShas
    (synced.1, { synced.2 with ciTerminalFailRecordedShas := some (distinct merged) })

/-! ## The file -/

/-- What reading a file gives. -/
inductive LedgerText where
  | absent
  /-- Reading it throws. -/
  | unreadable (message : String)
  /-- It is no JSON text. -/
  | corrupt (message : String)
  | json (value : Json)

/-- The texts of a list that are not empty. -/
def nonEmptyTexts (elems : List Json) : List String := (elems.filterMap Json.text?).filter (· ≠ "")

/-- `parseLedgerJson(raw)`. -/
def parseLedgerJson : LedgerText → Option StageAttemptLedger
  | .json value =>
    match value.get? "attempts" with
    | some (.arr rows) =>
      if value.rationalAt "schema_version" = some 1 then
        some
          { attempts := rows.filter isValidAttemptRecord
            preArchiveSha := (value.textAt "preArchiveSha").filter (· ≠ "")
            ciTerminalFailRecordedShas :=
              ((value.get? "ciTerminalFailRecordedShas").bind Json.elems?).map nonEmptyTexts }
      else none
    | _ => none
  | _ => none

/-- `asShaList(set, scalar)`; `none` where the set is nothing one can iterate over. -/
def asShaList (set scalar : Option Json) : Option (List String) :=
  let scalars := nonEmptyTexts scalar.toList
  match set with
  | none | some .null => some (distinct scalars)
  | some (.arr elems) => some (distinct (nonEmptyTexts elems ++ scalars))
  | some (.str text) => some (distinct (text.toList.map (fun c => String.ofList [c]) ++ scalars))
  | some _ => none

/-- The row of a marker of the legacy file. -/
def legacyRow (nowIso headSha : String) (action : StageAction) (seq : Nat) : AttemptRow :=
  let id := stageAttemptId host { headSha, action := action.name }
  .obj
    [("attempt_id", .str id), ("idempotency_key", .str id), ("seq", .num (.finite seq)),
      ("time", .str nowIso), ("completed_at", .str nowIso), ("candidate_identity", .str headSha),
      ("head_sha", .str headSha), ("action", .str action.name), ("actions", .arr [.str action.name]),
      ("outcome", .str "completed"), ("status", .str "completed"), ("terminal_outcome", .str "success"),
      ("typed_reason", .str "migrated_from_legacy_ci_recovery_json"),
      ("budget_remaining", .num (.finite 0))]

/-- Add the row of a marker, unless its identity is there. -/
def pushLegacy (nowIso : String) (action : StageAction) (rows : List AttemptRow) (headSha : String) :
    List AttemptRow :=
  let row := legacyRow host nowIso headSha action rows.length
  if rows.any fun a => a.attemptId = row.attemptId then rows else rows ++ [row]

/-- `migrateLegacyCiMarkersToAttempts(markers, nowIso)`; `none` where it throws. -/
def migrateLegacyCiMarkersToAttempts (markers : Json) (nowIso : String) :
    Option StageAttemptLedger := do
  let rebase ← asShaList (markers.get? "ciRebaseAttemptedShas") (markers.get? "ciRebaseAttemptedForSha")
  let rerun ← asShaList (markers.get? "ciRerunAttemptedShas") (markers.get? "ciRerunAttemptedForSha")
  let archiveFail ← asShaList (markers.get? "ciArchiveFailRecoveryAttemptedShas")
    (markers.get? "ciArchiveFailRecoveryAttemptedForSha")
  let assertionFix ← asShaList (markers.get? "ciAssertionFixAttemptedShas")
    (markers.get? "ciAssertionFixAttemptedForSha")
  let docsStale ← asShaList (markers.get? "ciDocsStaleHealAttemptedShas") none
  let terminal ← asShaList (markers.get? "ciTerminalFailRecordedShas")
    (markers.get? "ciTerminalFailRecordedForSha")
  let rows := [(StageAction.ciRebase, rebase), (.ciRerun, rerun), (.ciArchiveFailRecovery, archiveFail),
    (.ciAssertionFix, assertionFix), (.ciDocsStaleHeal, docsStale)].foldl
      (fun rows set => set.2.foldl (pushLegacy host nowIso set.1) rows) []
  return {
    attempts := rows
    preArchiveSha := (markers.textAt "preArchiveSha").filter (· ≠ "")
    ciTerminalFailRecordedShas := if terminal = [] then none else some terminal }

/-- One attested row. -/
def mergeAttestation (rows : List AttemptRow) (incoming : AttemptRow) : List AttemptRow :=
  if isValidAttemptRecord incoming = false then rows
  else
    match rows.find? fun row => row.attemptId = incoming.attemptId with
    | none => rows ++ [incoming]
    | some existing =>
      let terminal := (incoming.status.map hasAttemptedStatus).getD false && incoming.status ≠ some "started"
      if terminal = true ∧ existing.status = some "started" then
        StageAttemptLedger.updateFirst (incoming.attemptId.getD "")
          (fun row => Json.objectAssign row incoming) rows
      else rows

def mergeAttestations (ledger : StageAttemptLedger) (attestation : List AttemptRow) :
    StageAttemptLedger :=
  { ledger with attempts := attestation.foldl mergeAttestation ledger.attempts }

/-- The ledger of the run directory, before attestations; `runDir` says whether there is one. -/
def loadLedger (runDir : Bool) (primary legacy : LedgerText) (nowIso : String) :
    Except String (StageAttemptLedger × Bool) :=
  if runDir = false then .ok ({}, false)
  else
    match primary with
    | .unreadable message => .error ("stage-attempt ledger unreadable: " ++ message)
    | .absent =>
      match legacy with
      | .absent => .ok ({}, false)
      | .unreadable message => .error ("legacy CI recovery markers unreadable: " ++ message)
      | .corrupt message =>
        .error ("legacy CI recovery markers file is corrupt/unparseable: " ++ message)
      | .json markers =>
        if markers.isPlainObject = false then
          .error ("legacy CI recovery markers file is malformed (not a JSON object); " ++ "refusing empty budget")
        else
          match migrateLegacyCiMarkersToAttempts host markers nowIso with
          | some ledger => .ok (ledger, true)
          | none =>
            .error "legacy CI recovery markers file is corrupt/unparseable: not iterable"
    | present =>
      match parseLedgerJson present with
      | some ledger => .ok (ledger, false)
      | none =>
        .error ("stage-attempt ledger is corrupt/unparseable; refusing empty budget that would " ++ "re-open recovery")

/-- `hydrateStageAttemptLedger(runDir, deps, { attestationAttempts })`. -/
def hydrateStageAttemptLedger (runDir : Bool) (primary legacy : LedgerText) (nowIso : String)
    (attestation : List AttemptRow) : Except String (StageAttemptLedger × Bool) :=
  match loadLedger host runDir primary legacy nowIso with
  | .error reason => .error reason
  | .ok (ledger, migrated) => .ok (mergeAttestations ledger attestation, migrated)

/-- The object that `persistStageAttemptLedger` prints. -/
def ledgerObject (ledger : StageAttemptLedger) : Json :=
  .obj ([("schema_version", .num (.finite 1)), ("attempts", .arr ledger.attempts)] ++
    textField "preArchiveSha" ledger.preArchiveSha ++
    presentField "ciTerminalFailRecordedShas"
      ((ledger.ciTerminalFailRecordedShas.filter (· ≠ [])).map fun shas => .arr (shas.map .str)))

/-- The file after `persistStageAttemptLedger(runDir, ledger)` has renamed its temporary file. -/
def persistStageAttemptLedger (ledger : StageAttemptLedger) : LedgerText :=
  .json (Json.printed (ledgerObject ledger))

end AgentPipeline.Stage
