import AgentPipeline.Foundation.Effect
import AgentPipeline.Integrity.Gate
import Mathlib.Data.List.AList

/-!
# Mutation: the lifecycle of a mutation that moves the candidate

A mutation is claimed in the store before it runs, and its transition is classified and recorded after it.
Every await of a call has a site; the faults of a call say at which sites it throws or the process dies.
The world keeps a trace of what became durable and of the callbacks that ran.

* `IntegrityStore`: the mutation records, the index of invalidations and the retry budgets;
* `runCandidateMovingMutation`: claim, mutate, read back, classify, charge, record;
* `hydrateAndCompleteIncompleteMutation`: the record of an interrupted mutation is completed;
* `integrityBlocksReviewReuse`: the gate over index and records.
-/

namespace AgentPipeline.Integrity

/-! ## Names -/

def isFileChar (c : Char) : Bool := c.isAlphanum || c = '.' || c = '_' || c = '-'

/-- `name.replace(/[^a-zA-Z0-9._-]+/g, "_")`. -/
def safeChars : List Char → List Char
  | [] => []
  | c :: cs =>
    if isFileChar c then c :: safeChars cs
    else if cs.head?.any (!isFileChar ·) then safeChars cs
    else '_' :: safeChars cs

/-- The base name of `mutationRecordPath(storeRoot, mutationId)`. -/
def recordFile (mutationId : String) : String :=
  String.ofList (safeChars mutationId.toList) ++ ".json"

def activeFile : String := "active.json"

/-- The id of a mutation, whose record file is not one of the other files of the store. -/
structure MutationId where
  text : String
  nonempty : text ≠ ""
  notActive : recordFile text ≠ activeFile
  notBudget : "budget-".toList.isPrefixOf (recordFile text).toList = false
deriving DecidableEq

def MutationId.file (id : MutationId) : String := recordFile id.text

/-- The name of a commit, which goes into the keys of the rows. -/
structure CommitSha where
  text : String
  noBar : text.toList.contains '|' = false
deriving DecidableEq

structure AuthoritativeRefs where
  candidateSha : CommitSha
  baseSha : CommitSha
deriving DecidableEq

/-! ## Records -/

inductive Lifecycle where
  | idle | prePersisted | mutationClaimed | authoritativePostRead | classified | disposed
deriving DecidableEq, Repr

/-- The active pointer names a mutation in flight. -/
def Lifecycle.inFlight : Lifecycle → Bool
  | .prePersisted | .mutationClaimed | .authoritativePostRead => true
  | _ => false

def Lifecycle.isTerminal : Lifecycle → Bool
  | .classified | .disposed => true
  | _ => false

/-- The issue and the pull request of a subject: the key of its retry budget. -/
structure BudgetKey where
  issue : Nat
  pr : Option Nat
deriving DecidableEq, Repr

structure MutationRecord where
  mutationId : MutationId
  lifecycle : Lifecycle
  mutationMethod : MutationMethod
  subject : BudgetKey
  declaredScope : DeclaredRepairScope
  preManifest : Option CandidateIntegrityManifest := none
  postManifest : Option CandidateIntegrityManifest := none
  classification : Option IntegrityClassification := none
  disposition : Option IntegrityDisposition := none
  beforeSha : Option CommitSha := none
  afterSha : Option CommitSha := none
  baseShaBefore : Option CommitSha := none
  baseShaAfter : Option CommitSha := none
  mutationError : Option String := none
  createdAt : String
  updatedAt : String
deriving DecidableEq

def defaultRetryBudget : Nat := 2

structure IntegrityBudgetState where
  subject : BudgetKey
  /-- Expansions and unverified transitions so far. -/
  failureCount : Nat
  maxExtra : Nat
  lastClassification : Option IntegrityClassification := none
  updatedAt : String
deriving DecidableEq

def isBudgetExhausted (state : IntegrityBudgetState) : Bool := 1 + state.maxExtra ≤ state.failureCount

/-- A budget file; the text of an unreadable one is not JSON. -/
inductive BudgetFile where
  | state (s : IntegrityBudgetState)
  | unreadable

/-- The files of the store, as the values their texts parse to. -/
structure IntegrityStore where
  records : AList fun _ : String => MutationRecord := ∅
  active : Option MutationId := none
  index : List IntegrityInvalidationRecord := []
  budgets : AList fun _ : BudgetKey => BudgetFile := ∅

/-! ## The gate over the store -/

def shaText (sha : Option CommitSha) : Option String := sha.map (·.text)

/-- The row that a record stands for. -/
def MutationRecord.invalidation (rec : MutationRecord) : Option IntegrityInvalidationRecord :=
  match rec.disposition with
  | none => none
  | some disp =>
    if rec.lifecycle.isTerminal = false then none
    else if !disp.invalidatedReview && !disp.invalidatedReadiness && !disp.requiresFreshReview then none
    else
      some
        { fromSha := (shaText rec.beforeSha).getD ""
          toSha := (shaText (rec.afterSha.or rec.beforeSha)).getD ""
          mutationId := rec.mutationId.text
          classification := rec.classification.getD .unverified
          invalidatedReview := disp.invalidatedReview
          invalidatedReadiness := disp.invalidatedReadiness
          requiresFreshReview := disp.requiresFreshReview
          reason := disp.invalidationReason.getD
            ((rec.classification.map (·.name)).getD "integrity disposition")
          mutationMethod := rec.mutationMethod
          recordedAt := rec.updatedAt }

namespace IntegrityStore

variable (store : IntegrityStore)

def invalidationsFromMutationRecords : List IntegrityInvalidationRecord :=
  store.records.entries.filterMap (·.2.invalidation)

/-- The key under which index and records are united. -/
def rowKey (r : IntegrityInvalidationRecord) : String := r.mutationId ++ "|" ++ r.toSha

def addUnseen : List IntegrityInvalidationRecord → List String → List IntegrityInvalidationRecord
  | [], _ => []
  | r :: rs, seen =>
    if seen.contains (rowKey r) then addUnseen rs seen else r :: addUnseen rs (rowKey r :: seen)

/-- `loadAuthoritativeInvalidationRecords(storeRoot)`. -/
def authoritativeInvalidations : List IntegrityInvalidationRecord :=
  store.index ++ addUnseen store.invalidationsFromMutationRecords (store.index.map rowKey)

end IntegrityStore

def integrityBlocksReviewReuse (toLowerCase : String → String) (store : IntegrityStore)
    (candidateSha : String) (reviewedSha : Option String) : Option IntegrityInvalidationRecord :=
  reviewBlockedByIntegrityInvalidation toLowerCase store.authoritativeInvalidations candidateSha reviewedSha

/-! ## Faults -/

/-- What happens at a site; a crash leaves the operation undone or done. -/
inductive Fault where
  | none
  | throws (message : String)
  | crash (done : Bool)
deriving DecidableEq, Repr

inductive PersistPhase where
  | prePersisted | exhausted | claimed | postRead | classified | escalated | disposed | aborted
  | missingPre
deriving DecidableEq, Repr

inductive PersistOp where
  | mkdir | record | pointer
deriving DecidableEq, Repr

inductive IndexOp where
  | mkdir | read | write
deriving DecidableEq, Repr

/-- Where a call awaits a dependency or asks for the time. -/
inductive Site where
  | createdClock | updatedClock
  | preRead | preCapture | preClock
  | persist (phase : PersistPhase) (op : PersistOp)
  | budgetRead | budgetClock
  | exhaustedClock | claimClock
  | mutate | postClock | postRead | postCapture | classifiedClock
  | chargeRead | chargeLoadClock | chargeClock | chargeMkdir | chargeWrite
  | rowClock
  | index (escalated : Bool) (op : IndexOp)
  | escalatedClock | eventClock | emit | disposeClock | abortClock
  | activeRead | recordRead
deriving DecidableEq, Repr

/-- The faults of a call and the answers of its dependencies. -/
structure Env where
  fault : Site → Fault := fun _ => .none
  now : Site → String := fun _ => ""
  preRefs : Option AuthoritativeRefs := none
  preManifest : CandidateIntegrityManifest
  postRefs : Option AuthoritativeRefs
  postManifest : CandidateIntegrityManifest

/-- What became durable, and which callbacks ran. -/
inductive MutationEvent where
  | wrote (id : MutationId) (lifecycle : Lifecycle)
  | mutated (id : MutationId) (subject : BudgetKey) (beforeSha : Option CommitSha)
  | charged (id : MutationId) (subject : BudgetKey)
  | returned (id : MutationId) (classification : IntegrityClassification)
deriving DecidableEq

structure World where
  store : IntegrityStore := {}
  trace : List MutationEvent := []

/-- How a call ends early. -/
inductive Stop where
  | thrown (message : String)
  | crashed
deriving DecidableEq, Repr

def Stop.caught : Stop → Option String
  | .thrown message => some message
  | .crashed => Option.none

abbrev Act (α : Type) := Effect World Stop α

/-- `try { … } catch (err)`: no handler runs after a crash. -/
def guarded {α : Type} (m : Act α) : Act (Except String α) := Effect.attempt Stop.caught m

section Operations

variable (env : Env)

/-- An operation that changes the world. -/
def perform (site : Site) (change : World → World) : Act Unit := Effect.call fun w =>
  match env.fault site with
  | .none => (.ok (), change w)
  | .throws message => (.error (.thrown message), w)
  | .crash done => (.error .crashed, if done then change w else w)

/-- An operation that only answers. -/
def answer {α : Type} (site : Site) (value : World → α) : Act α := Effect.call fun w =>
  match env.fault site with
  | .none => (.ok (value w), w)
  | .throws message => (.error (.thrown message), w)
  | .crash _ => (.error .crashed, w)

def nowIso (site : Site) : Act String := answer env site fun _ => env.now site

/-! ## The store -/

namespace World

variable (w : World)

def writeRecord (record : MutationRecord) : World where
  store := { w.store with records := w.store.records.insert record.mutationId.file record }
  trace := w.trace ++ [.wrote record.mutationId record.lifecycle]

def pointTo (id : MutationId) : World := { w with store := { w.store with active := some id } }

def appendRow (row : IntegrityInvalidationRecord) : World :=
  { w with store := { w.store with index := w.store.index ++ [row] } }

def writeBudget (id : MutationId) (subject : BudgetKey) (state : IntegrityBudgetState) : World where
  store := { w.store with budgets := w.store.budgets.insert subject (.state state) }
  trace := w.trace ++ [.charged id subject]

def noteMutated (record : MutationRecord) : World :=
  { w with trace := w.trace ++ [.mutated record.mutationId record.subject record.beforeSha] }

end World

def persistMutationRecord (phase : PersistPhase) (record : MutationRecord) : Act Unit := do
  perform env (.persist phase .mkdir) id
  perform env (.persist phase .record) (·.writeRecord record)
  if record.lifecycle.inFlight then perform env (.persist phase .pointer) (·.pointTo record.mutationId)

def appendInvalidationRecord (escalated : Bool) (inv : IntegrityInvalidationRecord) : Act Unit := do
  perform env (.index escalated .mkdir) id
  perform env (.index escalated .read) id
  perform env (.index escalated .write) (·.appendRow inv)

def persistClassifiedDisposition (record : MutationRecord) (inv : Option IntegrityInvalidationRecord) :
    Act Unit := do
  persistMutationRecord env .classified record
  match inv with
  | some inv => appendInvalidationRecord env false inv
  | none => pure ()

/-- `loadBudgetState(storeRoot, issue, pr)`. -/
def loadBudgetState (readSite clockSite : Site) (subject : BudgetKey) : Act IntegrityBudgetState := do
  match ← answer env readSite (·.store.budgets.lookup subject) with
  | some (.state state) => pure state
  | _ => do
      let updatedAt ← nowIso env clockSite
      pure { subject := subject, failureCount := 0, maxExtra := defaultRetryBudget, updatedAt := updatedAt }

/-- `recordBudgetFailure(storeRoot, issue, pr, classification, maxExtra)`: whether the budget is exhausted;
the id of the mutation is for the trace. -/
def recordBudgetFailure (mutationId : MutationId) (subject : BudgetKey)
    (classification : IntegrityClassification) (maxExtra : Nat) : Act Bool := do
  let state ← loadBudgetState env .chargeRead .chargeLoadClock subject
  let updatedAt ← nowIso env .chargeClock
  let state :=
    { state with failureCount := state.failureCount + 1, maxExtra := maxExtra,
                 lastClassification := some classification, updatedAt := updatedAt }
  perform env .chargeMkdir id
  perform env .chargeWrite (·.writeBudget mutationId subject state)
  pure (isBudgetExhausted state)

end Operations

/-! ## The mutation -/

structure MutationOpts where
  mutationId : MutationId
  subject : BudgetKey
  mutationMethod : MutationMethod
  declaredScope : Option DeclaredRepairScope := none
  preRefs : Option AuthoritativeRefs := none
  retryBudget : Option Nat := none
  emitsEvent : Bool := false

structure MutationResult where
  ok : Bool
  aborted : Bool
  abortReason : Option String := none
  mutationError : Option String := none
  classification : IntegrityClassification
  disposition : IntegrityDisposition
  mutationId : MutationId
  record : MutationRecord
  budgetExhausted : Bool := false

/-- A classification that is charged to the retry budget. -/
def IntegrityClassification.isFailing (c : IntegrityClassification) : Bool :=
  c = .scopeExpansion || c = .unverified

/-- `a && b && a !== b`. -/
def shaChanged (beforeSha afterSha : Option CommitSha) : Bool :=
  match beforeSha, afterSha with
  | some a, some b => a.text ≠ "" && b.text ≠ "" && a ≠ b
  | _, _ => false

/-- The record with its classification. -/
def MutationRecord.classify (record : MutationRecord) (result : ClassificationResult)
    (lifecycle : Lifecycle) (changed : Bool) : MutationRecord :=
  { record with
    classification := some result.classification
    disposition := some (dispositionForClassification result.classification changed result.reason)
    lifecycle := lifecycle }

/-- The transition after a mutation: what the post-read and the manifest say. -/
def MutationRecord.readBack (record : MutationRecord) (postRefs : Option AuthoritativeRefs) :
    MutationRecord :=
  match postRefs with
  | none => record
  | some refs => { record with afterSha := some refs.candidateSha, baseShaAfter := some refs.baseSha }

/-- The classification of a transition whose post-manifest was captured, or failed to be. -/
def MutationRecord.transition (record : MutationRecord) (manifest : Except String CandidateIntegrityManifest)
    (failure : String) : ClassificationResult × MutationRecord :=
  match manifest with
  | .error message => ({ classification := .unverified, reason := failure ++ message }, record)
  | .ok manifest =>
    let post := { manifest with declaredScope := some record.declaredScope }
    (classifyTransition record.preManifest (some post) record.declaredScope record.mutationMethod,
      { record with postManifest := some post })

/-- A mutation that changed nothing expands nothing. -/
def MutationRecord.withoutExpansion (record : MutationRecord) (mutationError : Option String)
    (result : ClassificationResult) : ClassificationResult :=
  if mutationError.getD "" = "" ∧ (record.beforeSha.map (·.text)).getD "" ≠ "" ∧
      record.beforeSha = record.afterSha ∧ result.classification = .scopeExpansion ∧
      result.differingPaths = [] then
    { result with
      classification := .semanticallyEquivalent
      reason := "no-op: candidate SHA and surface unchanged" }
  else result

section Lifecycle

variable (env : Env)

/-- `abortResult(record, reason, d, opts)`. -/
def abortResult (record : MutationRecord) (reason : String) : Act MutationResult := do
  let updatedAt ← nowIso env .abortClock
  let record :=
    { record.classify { classification := .unverified, reason := reason } .disposed false with
      mutationError := some reason, updatedAt := updatedAt }
  -- best effort, and not awaited
  let _ ← guarded (persistMutationRecord env .aborted record)
  pure
    { ok := false, aborted := true, abortReason := some reason, classification := .unverified,
      disposition := dispositionForClassification .unverified false reason,
      mutationId := record.mutationId, record := record }

/-- The record before anything is persisted. -/
def createRecord (opts : MutationOpts) : Act MutationRecord := do
  let createdAt ← nowIso env .createdClock
  let updatedAt ← nowIso env .updatedClock
  pure
    { mutationId := opts.mutationId
      lifecycle := .idle
      mutationMethod := opts.mutationMethod
      subject := opts.subject
      declaredScope := freezeDeclaredScope
        (if opts.mutationMethod.hasEmptyScope then
          some (emptyDeclaredScope (some "restack/rebase must use empty scope"))
        else opts.declaredScope)
      createdAt := createdAt
      updatedAt := updatedAt }

/-- The head and the base before the mutation. -/
def readPreRefs (opts : MutationOpts) : Act (Option AuthoritativeRefs) :=
  match opts.preRefs with
  | some refs => pure (some refs)
  | none => answer env .preRead fun _ => env.preRefs

/-- The record as it is pre-persisted. -/
def MutationRecord.prePersisted (record : MutationRecord) (refs : AuthoritativeRefs)
    (manifest : CandidateIntegrityManifest) : MutationRecord :=
  { record with
    preManifest := some { manifest with declaredScope := some record.declaredScope }
    beforeSha := some refs.candidateSha
    baseShaBefore := some refs.baseSha
    lifecycle := .prePersisted }

/-- `pre_persisted`: the record, or the record as it was when something threw. -/
def prePersist (opts : MutationOpts) (record : MutationRecord) :
    Act (Except (MutationRecord × String) MutationRecord) := do
  let failed (message : String) := "pre-persist failed: " ++ message
  match ← guarded (readPreRefs env opts) with
  | .error message => pure (.error (record, failed message))
  | .ok none => pure (.error (record, "could not read authoritative head/base before mutation"))
  | .ok (some refs) =>
    match ← guarded (answer env .preCapture fun _ => env.preManifest) with
    | .error message => pure (.error (record, failed message))
    | .ok manifest =>
      let record := record.prePersisted refs manifest
      match ← guarded (nowIso env .preClock) with
      | .error message => pure (.error (record, failed message))
      | .ok updatedAt =>
        let record := { record with updatedAt := updatedAt }
        match ← guarded (persistMutationRecord env .prePersisted record) with
        | .error message => pure (.error (record, failed message))
        | .ok () => pure (.ok record)

/-- The retry budget is exhausted. -/
def stopExhausted (record : MutationRecord) : Act MutationResult := do
  let reason := "integrity retry budget exhausted; automatic mutation stopped"
  let updatedAt ← nowIso env .exhaustedClock
  let record :=
    { record.classify { classification := .unverified, reason := reason } .disposed false with
      updatedAt := updatedAt }
  let _ ← guarded (persistMutationRecord env .exhausted record)
  pure
    { ok := false, aborted := true, abortReason := some "integrity retry budget exhausted",
      classification := .unverified,
      disposition := dispositionForClassification .unverified false reason,
      mutationId := record.mutationId, record := record, budgetExhausted := true }

/-- `await opts.mutate()`; the callback ran also when it threw. -/
def mutate (record : MutationRecord) : Act (Except String Unit) := Effect.call fun w =>
  match env.fault .mutate with
  | .none => (.ok (.ok ()), w.noteMutated record)
  | .throws message => (.ok (.error message), w.noteMutated record)
  | .crash done => (.error .crashed, if done then w.noteMutated record else w)

/-- `authoritative_post_read`. -/
def readPostRefs (record : MutationRecord) : Act (Option AuthoritativeRefs) := do
  match ← guarded (answer env .postRead fun _ => env.postRefs) with
  | .error _ => pure none
  | .ok refs => do
      let _ ← guarded (persistMutationRecord env .postRead record)
      pure refs

/-- The reason when the head cannot be read after the mutation. -/
def unreadableReason (mutationError : Option String) : String :=
  match mutationError.filter (· ≠ "") with
  | some message => "mutation error and unreadable post head: " ++ message
  | none => "authoritative post head/base unreadable"

/-- The transition from the pre-manifest to what is read back. -/
def classifyPost (record : MutationRecord) (postRefs : Option AuthoritativeRefs)
    (unreadable failure : String) : Act (ClassificationResult × MutationRecord) :=
  match postRefs with
  | none => pure ({ classification := .unverified, reason := unreadable }, record)
  | some refs => do
      let manifest ← guarded (answer env .postCapture fun _ => env.postManifest)
      pure ((record.readBack (some refs)).transition manifest failure)

/-- The disposition could not be persisted: it is escalated, and persisted as far as possible. -/
def escalate (record : MutationRecord) (changed : Bool) (persistErr : String) : Act MutationRecord := do
  let escalated :=
    record.classify { classification := .unverified, reason := persistErr } record.lifecycle changed
  let _ ← guarded (persistMutationRecord env .escalated escalated)
  pure escalated

/-- The row of an escalated transition. -/
def escalateRow (record : MutationRecord) (changed : Bool) (persistErr : String) : Act Unit := do
  let recordedAt ← nowIso env .escalatedClock
  match invalidationOf (shaText record.beforeSha) (shaText record.afterSha) record.mutationId.text
      { classification := .unverified, reason := persistErr }
      (dispositionForClassification .unverified changed persistErr) record.mutationMethod recordedAt with
  | some row => do
      let _ ← guarded (appendInvalidationRecord env true row)
  | none => pure ()

/-- The row of a classified transition, with its time when there is one. -/
def classifiedRow (record : MutationRecord) (mutationId : MutationId) (result : ClassificationResult)
    (changed : Bool) : Act (Option IntegrityInvalidationRecord) := do
  let disposition := dispositionForClassification result.classification changed result.reason
  let row (recordedAt : String) :=
    invalidationOf (shaText record.beforeSha) (shaText record.afterSha) mutationId.text result disposition
      record.mutationMethod recordedAt
  if disposition.invalidatedReview || disposition.invalidatedReadiness then
    let recordedAt ← nowIso env .rowClock
    pure (row recordedAt)
  else pure none

/-- The event and the marker of a durable disposition. -/
def dispose (emitsEvent : Bool) (record : MutationRecord) : Act MutationRecord := do
  let _ ← nowIso env .eventClock
  if emitsEvent then
    let _ ← guarded (answer env .emit fun _ => ())
  let updatedAt ← nowIso env .disposeClock
  let record := { record with lifecycle := .disposed, updatedAt := updatedAt }
  let _ ← guarded (persistMutationRecord env .disposed record)
  pure record

/-- A failing transition is charged to the retry budget: whether the budget is exhausted. -/
def chargeFailure (opts : MutationOpts) (classification : IntegrityClassification) : Act Bool :=
  if classification.isFailing then
    recordBudgetFailure env opts.mutationId opts.subject classification
      (opts.retryBudget.getD defaultRetryBudget)
  else pure false

/-- The error of the mutation before the error of the store. -/
def joinErrors (earlier : Option String) (persistErr : String) : String :=
  match earlier.filter (· ≠ "") with
  | some message => message ++ "; " ++ persistErr
  | none => persistErr

/-- The authoritative disposition, which is required before the call returns. -/
def recordTransition (opts : MutationOpts) (record : MutationRecord) (result : ClassificationResult)
    (changed exhausted : Bool) : Act MutationResult := do
  let row ← classifiedRow env record opts.mutationId result changed
  match ← guarded (persistClassifiedDisposition env record row) with
  | .error message => do
      let persistErr := "authoritative disposition persist failed: " ++ message
      let failed := { record with mutationError := some (joinErrors record.mutationError persistErr) }
      let escalated ← escalate env failed changed persistErr
      escalateRow env escalated changed persistErr
      pure
        { ok := false, aborted := false, mutationError := some persistErr, classification := .unverified,
          disposition := dispositionForClassification .unverified changed persistErr,
          mutationId := opts.mutationId, record := escalated, budgetExhausted := exhausted }
  | .ok () => do
      let disposed ← dispose env opts.emitsEvent record
      pure
        { ok := record.mutationError.getD "" = "" && result.classification ≠ .unverified, aborted := false,
          mutationError := record.mutationError, classification := result.classification,
          disposition := dispositionForClassification result.classification changed result.reason,
          mutationId := opts.mutationId, record := disposed, budgetExhausted := exhausted }

/-- From the mutation on: read back, classify, charge and record. -/
def settle (opts : MutationOpts) (record : MutationRecord) (mutationError : Option String) :
    Act MutationResult := do
  let postAt ← nowIso env .postClock
  let read :=
    { record with lifecycle := .authoritativePostRead, updatedAt := postAt, mutationError := mutationError }
  let postRefs ← readPostRefs env read
  let (result, post) ←
    classifyPost env read postRefs (unreadableReason mutationError) "post-manifest capture failed: "
  let result := post.withoutExpansion mutationError result
  let changed := shaChanged post.beforeSha post.afterSha
  let classifiedAt ← nowIso env .classifiedClock
  let classified := { post.classify result .classified changed with updatedAt := classifiedAt }
  let exhausted ← chargeFailure env opts result.classification
  recordTransition env opts classified result changed exhausted

/-- The claim, the mutation and what follows it. -/
def claimAndMutate (opts : MutationOpts) (record : MutationRecord) : Act MutationResult := do
  let updatedAt ← nowIso env .claimClock
  let record := { record with lifecycle := .mutationClaimed, updatedAt := updatedAt }
  match ← guarded (persistMutationRecord env .claimed record) with
  | .error message => abortResult env record ("mutation_claimed persist failed: " ++ message)
  | .ok () => do
      match ← mutate env record with
      | .ok () => settle env opts record none
      | .error message => settle env opts record (some message)

def runCandidateMovingMutation (opts : MutationOpts) : Act MutationResult := do
  let record ← createRecord env opts
  match ← prePersist env opts record with
  | .error (record, reason) => abortResult env record reason
  | .ok record => do
      let budget ← loadBudgetState env .budgetRead .budgetClock opts.subject
      if isBudgetExhausted { budget with maxExtra := opts.retryBudget.getD defaultRetryBudget } then
        stopExhausted env record
      else claimAndMutate env opts record

/-! ## Hydration -/

structure HydrateOpts where
  mutationId : Option MutationId := none
  emitsEvent : Bool := false

/-- A record that is already terminal. -/
def hydratedResult (mutationId : MutationId) (existing : MutationRecord) : MutationResult :=
  let classification := existing.classification.getD .unverified
  { ok := existing.classification ≠ some .unverified && existing.classification ≠ some .scopeExpansion
    aborted := false
    classification := classification
    disposition := existing.disposition.getD
      (dispositionForClassification classification true "hydrated terminal record")
    mutationId := mutationId
    record := existing }

/-- A record without its pre-manifest. -/
def disposeMissingPre (mutationId : MutationId) (existing : MutationRecord) : Act MutationResult := do
  let reason := "incomplete lifecycle with missing pre-manifest"
  let updatedAt ← nowIso env .disposeClock
  let record :=
    { existing.classify { classification := .unverified, reason := reason } .disposed true with
      updatedAt := updatedAt }
  persistMutationRecord env .missingPre record
  pure
    { ok := false, aborted := false, classification := .unverified,
      disposition := dispositionForClassification .unverified true reason, mutationId := mutationId,
      record := record }

/-- The record of an interrupted mutation is read back, classified and recorded. -/
def completeMutation (emitsEvent : Bool) (mutationId : MutationId) (existing : MutationRecord) :
    Act MutationResult := do
  let postRefs ← answer env .postRead fun _ => env.postRefs
  let postAt ← nowIso env .postClock
  let read := { existing with lifecycle := .authoritativePostRead, updatedAt := postAt }
  let (result, post) ←
    classifyPost env read postRefs "restart: authoritative post head unreadable"
      "restart post-manifest failed: "
  let changed := shaChanged post.beforeSha post.afterSha
  let classifiedAt ← nowIso env .classifiedClock
  let classified := { post.classify result .classified changed with updatedAt := classifiedAt }
  let row ← classifiedRow env classified mutationId result changed
  match ← guarded (persistClassifiedDisposition env classified row) with
  | .error message => do
      let persistErr := "authoritative disposition persist failed: " ++ message
      let escalated ← escalate env { classified with mutationError := some persistErr } changed persistErr
      pure
        { ok := false, aborted := false, classification := .unverified,
          disposition := dispositionForClassification .unverified changed persistErr,
          mutationId := mutationId, record := escalated }
  | .ok () => do
      let disposed ← dispose env emitsEvent classified
      pure
        { ok := result.classification = .semanticallyEquivalent, aborted := false,
          classification := result.classification,
          disposition := dispositionForClassification result.classification changed result.reason,
          mutationId := mutationId, record := disposed }

/-- `opts.mutation_id ?? (await loadActiveMutationId(opts.storeRoot))`. -/
def hydratedId (opts : HydrateOpts) : Act (Option MutationId) :=
  match opts.mutationId with
  | some id => pure (some id)
  | none => answer env .activeRead (·.store.active)

def hydrateAndCompleteIncompleteMutation (opts : HydrateOpts) : Act (Option MutationResult) := do
  match ← hydratedId env opts with
  | none => pure none
  | some mutationId => do
      match ← answer env .recordRead (·.store.records.lookup mutationId.file) with
      | none => pure none
      | some existing =>
        if existing.lifecycle.isTerminal then pure (some (hydratedResult mutationId existing))
        else
          match existing.preManifest with
          | none => do
              let result ← disposeMissingPre env mutationId existing
              pure (some result)
          | some _ => do
              let result ← completeMutation env opts.emitsEvent mutationId existing
              pure (some result)

end Lifecycle

/-! ## Calls -/

/-- A call of the pipeline, or the budget file of a subject losing its text. -/
inductive Call where
  | mutation (env : Env) (opts : MutationOpts)
  | hydration (env : Env) (opts : HydrateOpts)
  | budgetLost (subject : BudgetKey)

/-- The result of a transition that was not aborted. -/
def World.noteReturned (w : World) (result : MutationResult) : World :=
  if result.aborted then w
  else { w with trace := w.trace ++ [.returned result.mutationId result.classification] }

/-- The world after a call, however it ended. -/
def Call.run (w : World) : Call → World
  | .mutation env opts =>
    match runCandidateMovingMutation env opts w with
    | (.ok result, w) => w.noteReturned result
    | (.error _, w) => w
  | .hydration env opts =>
    match hydrateAndCompleteIncompleteMutation env opts w with
    | (.ok (some result), w) => w.noteReturned result
    | (.ok none, w) => w
    | (.error _, w) => w
  | .budgetLost subject =>
    { w with store := { w.store with budgets := w.store.budgets.insert subject .unreadable } }

end AgentPipeline.Integrity
