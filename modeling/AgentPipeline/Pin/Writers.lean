import AgentPipeline.Foundation.Effect
import AgentPipeline.Pin.Envelope
import AgentPipeline.Pin.Written

/-!
# Pin.Writers: promote, init and rollback

The three writers of the pin file. Each reads the file, may ask for an FRG pass, builds a record in
memory and publishes it through a temporary file and a rename.

* `World`: the pin file, its temporary file, and the FRG answers so far;
* `PinEnv`: which file steps of a call fail, what its lookups answer and what its clock says;
* `promoteProductionPin`, `initProductionPin`, `rollbackProductionPin`.
-/

namespace AgentPipeline.Pin

open JsText (trim nonBlank)

/-! ## FRG answers -/

/-- The parts of the evidence that the writers read. -/
structure FrgEvidence where
  version : String
  runId : String
  candidateGitSha : Option String
deriving DecidableEq

inductive FrgLookupResult where
  | pass (evidence : FrgEvidence)
  | fail (evidence : FrgEvidence)
  | missing (version path : String)
  | unparsable (version path detail : String)
deriving DecidableEq

inductive RefusalCode where
  | missingFrg | frgFail | frgUnparsable | versionMismatch | emptyRunId | noFrgMarker
  | alreadyExists | invalidTarget | noPrevious | writeError
deriving DecidableEq

inductive PromotePinResult where
  | ok (pin : ProductionEnginePin) (path reinstallHint : String)
  | refused (code : RefusalCode) (message : String)
deriving DecidableEq

def frgRefusal (look : FrgLookupResult) (target : PinVersion) : Option (RefusalCode × String) :=
  match look with
  | .pass evidence =>
    if !nonBlank evidence.runId then
      some (.emptyRunId, "FRG evidence for " ++ target.text ++ " has empty run_id; refuse promote")
    else if isNoFrgRunId evidence.runId then
      some (.noFrgMarker, "FRG evidence for " ++ target.text ++
        " has non-production-quality run_id " ++ evidence.runId ++
        " (no-frg-* is only the --skip-frg marker); refuse promote. " ++
        "Run: pipeline factory-gate --for " ++ target.text)
    else if !versionsMatch evidence.version target.text then
      some (.versionMismatch, "FRG evidence version " ++ evidence.version ++
        " does not match promote target " ++ target.text)
    else none
  | .fail evidence =>
    some (.frgFail, "FRG evidence for " ++ target.text ++ " has pass:false (run_id=" ++
      evidence.runId ++ "); refuse promote. Re-run: pipeline factory-gate --for " ++ target.text)
  | .unparsable _ path detail =>
    some (.frgUnparsable, "FRG evidence for " ++ target.text ++ " is unparsable (" ++ path ++ "): " ++
      detail ++ "; refuse promote")
  | .missing _ path =>
    some (.missingFrg, "FRG pass missing for " ++ target.text ++ " (expected " ++ path ++
      "); refuse promote. Run: pipeline factory-gate --for " ++ target.text)

/-! ## Records -/

def pinWithoutPrevious (pin : ProductionEnginePin) : ProductionEnginePinPrevious :=
  { pin.toProductionEnginePinPrevious with
    gitSha := some pin.gitSha.join
    gitShaSource := some pin.gitShaSource.join
    frgEvidencePath := some pin.frgEvidencePath.join }

def frgEvidenceRelPath (version : PinVersion) : String :=
  ".agent-pipeline/frg/" ++ version.text ++ "/latest.json"

def reinstallHint (tag : String) : String :=
  "npx -y github:accidental-hedge-fund/agent-pipeline#" ++ tag ++ " install"

/-- The `gitShaSource` that promote and init pass. -/
def passedShaSource (gitSha : Option String) : GitShaSource :=
  if gitSha.any (· ≠ "") then .promoteArg else .unknown

/-- `pin.git_sha` and `pin.git_sha_source`. -/
def recordedSha (gitSha : Option String) (source : Option GitShaSource) :
    Option String × GitShaSource :=
  match gitSha.filter nonBlank with
  | some sha => (some (trim sha), source.getD .promoteArg)
  | none => (none, .unknown)

section Host

variable (host : NodeHost)

/-- `/\.\d{3}Z$/`. -/
def milliseconds : JsRegExp.Pattern :=
  .sequence [.literal ".", .repeated Char.isDigit 3, .literal "Z", .atEnd]

/-- `now().toISOString().replace(/\.\d{3}Z$/, "Z")`; an invalid date throws. -/
def promotedAtText (now : Except String (Option Instant)) : Except String String :=
  match now with
  | .ok (some t) => .ok (JsRegExp.replaceFirst milliseconds "Z" (host.toISOString t))
  | .ok none => .error "Invalid time value"
  | .error message => .error message

/-- The record of a version, with a run and a path of evidence. -/
def buildPin (version : PinVersion) (frgRunId : String) (frgEvidencePath : Option String)
    (gitSha : Option String) (gitShaSource : Option GitShaSource)
    (previous : Option ProductionEnginePinPrevious) (promotedAt : String) : ProductionEnginePin where
  schemaVersion := productionPinSchemaVersion
  version := version
  tag := tagForVersion version
  gitSha := some (recordedSha gitSha gitShaSource).1
  gitShaSource := some (some (recordedSha gitSha gitShaSource).2)
  frgRunId := frgRunId
  frgEvidencePath := some frgEvidencePath
  promotedAt := promotedAt
  previous := some previous

def buildPinFromFrgPass (evidence : FrgEvidence) (version : PinVersion) (gitSha : Option String)
    (gitShaSource : Option GitShaSource) (previous : Option ProductionEnginePinPrevious)
    (now : Except String (Option Instant)) : Except String ProductionEnginePin :=
  (promotedAtText host now).map
    (buildPin version evidence.runId (some (frgEvidenceRelPath version)) gitSha gitShaSource previous)

def buildPinWithoutFrg (version : PinVersion) (gitSha : Option String)
    (gitShaSource : Option GitShaSource) (previous : Option ProductionEnginePinPrevious)
    (now : Except String (Option Instant)) : Except String ProductionEnginePin :=
  (promotedAtText host now).map
    (buildPin version (noFrgRunIdPrefix ++ version.text) none gitSha gitShaSource previous)

/-- The pin that a rollback to a retained snapshot writes. -/
def restoredPin (snapshot : ProductionEnginePinPrevious) (current : ProductionEnginePin)
    (promotedAt : String) : ProductionEnginePin where
  schemaVersion := productionPinSchemaVersion
  version := snapshot.version
  tag := snapshot.tag
  gitSha := some snapshot.gitSha.join
  gitShaSource := some (some (snapshot.gitShaSource.join.getD .unknown))
  frgRunId := snapshot.frgRunId
  frgEvidencePath := some snapshot.frgEvidencePath.join
  promotedAt := promotedAt
  previous := some (some (pinWithoutPrevious current))

end Host

/-! ## Files and clocks -/

structure ReadError where
  /-- `err.code === "ENOENT"`. -/
  enoent : Bool
  message : String

/-- What one call meets. A write that fails leaves any text in the temporary file. -/
structure PinEnv where
  readError : Option ReadError
  mkdirError : Option String
  writeError : Option (String × Option String)
  renameError : Option String
  lookupFrg : PinVersion → Except String FrgLookupResult
  /-- `now()` for the operator's envelope, for its check and for `promoted_at`; `none` is an invalid
  date. -/
  envelopeNow : Except String (Option Instant)
  checkNow : Except String (Option Instant)
  promotedNow : Except String (Option Instant)

structure World where
  pin : Option String
  tmp : Option String
  answers : List (PinVersion × FrgLookupResult)

namespace World

/-- No pin file, and nothing was asked. -/
def empty : World where
  pin := none
  tmp := none
  answers := []

/-- There was an FRG pass for the version. -/
def Passed (w : World) (version : PinVersion) : Prop :=
  ∃ evidence, (version, FrgLookupResult.pass evidence) ∈ w.answers

end World

/-- A call that may reject, with the message. -/
abbrev PinM (α : Type) : Type := Effect World String α

/-- `await fsDeps.readFile(pinPath)`. -/
def readPin (env : PinEnv) (w : World) : Except ReadError String :=
  match env.readError with
  | some e => .error e
  | none =>
    match w.pin with
    | some text => .ok text
    | none => .error ⟨true, "ENOENT: no such file or directory"⟩

def atomicWritePin (env : PinEnv) (body : String) (w : World) : Except String Unit × World :=
  match env.mkdirError with
  | some message => (.error message, w)
  | none =>
    match env.writeError with
    | some (message, left) => (.error message, { w with tmp := left })
    | none =>
      match env.renameError with
      | some message => (.error message, { w with tmp := some body })
      | none => (.ok (), { w with pin := some body, tmp := none })

/-- `await lookup(repoDir, target)`. -/
def lookupFrg (env : PinEnv) (target : PinVersion) : PinM FrgLookupResult := fun w =>
  match env.lookupFrg target with
  | .ok look => (.ok look, { w with answers := w.answers ++ [(target, look)] })
  | .error message => (.error message, w)

/-- A value that is computed, or thrown. -/
def orThrow {α : Type} (value : Except String α) : PinM α := fun w => (value, w)

variable (host : NodeHost) (syntaxError : String → String)
  (hmacSha256Hex : String → String → String) (pinPath : String)

/-- The previous snapshot of a pin that can be read and parsed. -/
def existingPrevious (env : PinEnv) : PinM (Option ProductionEnginePinPrevious) := fun w =>
  match readPin env w with
  | .ok text => (.ok ((parseProductionEnginePin host syntaxError text).toOption.map pinWithoutPrevious), w)
  | .error _ => (.ok none, w)

/-- The last step of every writer. -/
def publish (env : PinEnv) (pin : ProductionEnginePin) (fields : List (String × Json)) :
    PinM PromotePinResult := fun w =>
  match atomicWritePin env (pinText host fields) w with
  | (.ok (), w) => (.ok (.ok pin pinPath (reinstallHint pin.tag)), w)
  | (.error message, w) =>
    (.ok (.refused .writeError ("failed to write production pin: " ++ message)), w)

/-! ## Promote and init -/

structure PromoteOpts where
  version : String
  gitSha : Option String
  allowWithoutFrg : Bool

/-- The `allowWithoutFrg` branch. -/
def promoteWithoutFrg (opts : PromoteOpts) (env : PinEnv) (target : PinVersion) :
    PinM PromotePinResult := do
  let previous ← existingPrevious host syntaxError env
  let pin ← orThrow (buildPinWithoutFrg host target opts.gitSha (some (passedShaSource opts.gitSha))
    previous env.promotedNow)
  publish host pinPath env pin (builtFields pin)

/-- What promote does with an FRG pass. -/
def promoteFromPass (opts : PromoteOpts) (env : PinEnv) (target : PinVersion)
    (evidence : FrgEvidence) : PinM PromotePinResult := do
  let previous ← existingPrevious host syntaxError env
  let pin ← orThrow (buildPinFromFrgPass host evidence target opts.gitSha
    (some (passedShaSource opts.gitSha)) previous env.promotedNow)
  if !isProductionQualityPin pin.toProductionEnginePinPrevious then
    return .refused .noFrgMarker ("refuse production-quality promote for " ++ target.text ++
      ": write would leave frg_run_id=" ++ pin.frgRunId ++ " frg_evidence_path=" ++
      pin.frgEvidencePath.join.getD "null")
  else publish host pinPath env pin (builtFields pin)

def promoteProductionPin (opts : PromoteOpts) (env : PinEnv) : PinM PromotePinResult :=
  match normalizeFrgVersion opts.version with
  | .error message => pure (.refused .invalidTarget message)
  | .ok target =>
    if opts.allowWithoutFrg then promoteWithoutFrg host syntaxError pinPath opts env target
    else do
      let look ← lookupFrg env target
      match frgRefusal look target, look with
      | some (code, message), _ => return .refused code message
      | none, .pass evidence => promoteFromPass host syntaxError pinPath opts env target evidence
      | none, _ => return .refused .missingFrg ("FRG pass missing for " ++ target.text)

structure InitOpts where
  version : String
  force : Bool
  gitSha : Option String

/-- The refusal of an init over a pin that is there. -/
def initRefusal (opts : InitOpts) (env : PinEnv) (w : World) : Option String :=
  if opts.force then none
  else
    match readPin env w with
    | .ok _ =>
      some ("production pin already exists at " ++ pinPath ++ "; use --force to re-init from FRG " ++
        "pass (or pipeline factory-pin promote --for <version>)")
    | .error e =>
      if e.enoent then none
      else some ("production pin path exists but is unreadable (" ++ e.message ++
        "); use --force with --from-frg to overwrite after FRG pass")

/-- What init does with an FRG pass. -/
def initFromPass (opts : InitOpts) (env : PinEnv) (target : PinVersion) (evidence : FrgEvidence) :
    PinM PromotePinResult := do
  let previous ← if opts.force then existingPrevious host syntaxError env else pure none
  let pin ← orThrow (buildPinFromFrgPass host evidence target opts.gitSha
    (some (passedShaSource opts.gitSha)) previous env.promotedNow)
  publish host pinPath env pin (builtFields pin)

def initProductionPin (opts : InitOpts) (env : PinEnv) : PinM PromotePinResult := fun w =>
  match initRefusal pinPath opts env w with
  | some message => (.ok (.refused .alreadyExists message), w)
  | none =>
    match normalizeFrgVersion opts.version with
    | .error message => (.ok (.refused .invalidTarget message), w)
    | .ok target =>
      (do
        let look ← lookupFrg env target
        match frgRefusal look target, look with
        | some (code, message), _ => return .refused code message
        | none, .pass evidence => initFromPass host syntaxError pinPath opts env target evidence
        | none, _ => return .refused .missingFrg ("FRG pass missing for " ++ target.text) :
        PinM PromotePinResult) w

/-! ## Rollback -/

structure RollbackOpts where
  repoDir : String
  toVersion : Option String
  automatic : Bool
  envelope : Option RollbackAuthorityEnvelope
  repository : Option String
  /-- `none` takes the key of the environment. -/
  envelopeKey : Option (Option String)
  environmentKey : Option String

/-- `resolveRollbackEnvelopeKey(env)`, unless a key was passed. -/
def RollbackOpts.key (opts : RollbackOpts) : Option String :=
  opts.envelopeKey.getD ((opts.environmentKey.map trim).filter (· ≠ ""))

/-- `{ version, tag?, git_sha? }`, without the empty ones. -/
def retainedTargetOf (version : PinVersion) (tag : String) (gitSha : Option String) :
    RollbackRetainedTarget where
  version := version.text
  tag := if tag = "" then none else some tag
  gitSha := (gitSha.filter (· ≠ "")).map some

/-- The envelope that is checked; making the operator's one may throw. -/
def presentedEnvelope (opts : RollbackOpts) (env : PinEnv) (target : RollbackRetainedTarget) :
    PinM (Option RollbackAuthorityEnvelope) :=
  match opts.envelope with
  | some envelope => pure (some envelope)
  | none =>
    if opts.automatic then pure none
    else do
      let now ← orThrow env.envelopeNow
      let envelope ← orThrow (operatorRollbackEnvelope host target now
        (opts.repository.getD opts.repoDir))
      return some envelope

/-- `authorizeRollback(retained)`: the message of the refusal. -/
def authorizeRollback (opts : RollbackOpts) (env : PinEnv) (target : RollbackRetainedTarget) :
    PinM (Option String) := do
  let envelope ← presentedEnvelope host opts env target
  match env.checkNow with
  | .error message => return some message
  | .ok now =>
    return assertRollbackEnvelope host hmacSha256Hex envelope target {
      repository := opts.repository.getD opts.repoDir
      nowMs := now.map Instant.ms
      hmacKey := opts.key
      requireMac := opts.automatic }

/-- Restore a retained snapshot. -/
def restore (opts : RollbackOpts) (env : PinEnv) (current : ProductionEnginePin)
    (snapshot : ProductionEnginePinPrevious) : PinM PromotePinResult := do
  let refused ← authorizeRollback host hmacSha256Hex opts env
    (retainedTargetOf snapshot.version snapshot.tag snapshot.gitSha.join)
  match refused with
  | some message => return .refused .invalidTarget message
  | none => do
      let promotedAt ← orThrow (promotedAtText host env.promotedNow)
      let pin := restoredPin snapshot current promotedAt
      publish host pinPath env pin (restoredFields pin)

/-- Rebuild the pin of a version that no snapshot retains. -/
def rebuild (opts : RollbackOpts) (env : PinEnv) (current : ProductionEnginePin)
    (target : PinVersion) : PinM PromotePinResult := do
  let look ← lookupFrg env target
  match frgRefusal look target, look with
  | some (code, message), _ =>
    return .refused code ("rollback --to " ++ target.text ++
      ": no retained previous snapshot for that version and " ++ message)
  | none, .pass evidence => do
      let refused ← authorizeRollback host hmacSha256Hex opts env
        (retainedTargetOf target (tagForVersion target) evidence.candidateGitSha)
      match refused with
      | some message => return .refused .invalidTarget message
      | none => do
          let pin ← orThrow (buildPinFromFrgPass host evidence target none none
            (some (pinWithoutPrevious current)) env.promotedNow)
          publish host pinPath env pin (builtFields pin)
  | none, _ =>
    return .refused .missingFrg ("rollback --to " ++ target.text ++
      ": FRG pass required when previous snapshot is unavailable")

/-- A rollback from the pin that was read. -/
def rollbackFrom (opts : RollbackOpts) (env : PinEnv) (current : ProductionEnginePin) :
    PinM PromotePinResult :=
  match opts.toVersion.filter nonBlank, current.previous.join with
  | none, none =>
    pure (.refused .noPrevious ("production pin has no previous snapshot; refuse rollback. " ++
      "Pass --to <X.Y.Z> with an FRG-passed version to rebuild the pin."))
  | none, some snapshot => restore host hmacSha256Hex pinPath opts env current snapshot
  | some toVersion, previous =>
    match normalizeFrgVersion toVersion with
    | .error message => pure (.refused .invalidTarget message)
    | .ok target =>
      match previous.filter fun snapshot => versionsMatch snapshot.version.text target.text with
      | some snapshot => restore host hmacSha256Hex pinPath opts env current snapshot
      | none => rebuild host hmacSha256Hex pinPath opts env current target

def rollbackProductionPin (opts : RollbackOpts) (env : PinEnv) : PinM PromotePinResult := fun w =>
  if opts.automatic && opts.envelope.isNone then
    (.ok (.refused .invalidTarget ("rollback refused: automatic rollback requires an authenticated " ++
      "envelope naming factory_pin_rollback and the retained target")), w)
  else
    match readPin env w with
    | .error e =>
      if e.enoent then
        (.ok (.refused .missingFrg ("no production pin at " ++ pinPath ++ " to roll back")), w)
      else (.ok (.refused .invalidTarget ("current production pin invalid: " ++ e.message)), w)
    | .ok text =>
      match parseProductionEnginePin host syntaxError text with
      | .error message =>
        (.ok (.refused .invalidTarget ("current production pin invalid: " ++ message)), w)
      | .ok current => rollbackFrom host hmacSha256Hex pinPath opts env current w

end AgentPipeline.Pin
