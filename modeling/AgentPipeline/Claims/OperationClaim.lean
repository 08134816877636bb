import AgentPipeline.Foundation.JsText

/-!
# OperationClaim: operation observations and the claims they become

The records of the operation-claim adapter and the pure functions on them: how an identity names
its claim file, what a reader accepts, and which record an observation turns the current claim
into.

* `operationClaimKey`, `observationFileName`: from `(domain, logical_operation_id)` to a file;
* `readClaimFile`, `loadOwnedOperationClaim`: what a reader returns for the content of the file;
* `decideNextClaim`, `claimCasEqual`: the decision of a writer and its compare-and-swap test.
-/

namespace AgentPipeline.Claims

/-! ## Records -/

inductive SideEffectCertainty where
  | knownComplete
  | knownAbsent
  | uncertain
  deriving DecidableEq, Repr

inductive ArtifactEvidenceRole where
  | planning
  | implementation
  deriving DecidableEq, Repr

inductive ObservationLifecycleState where
  | active
  | cooling
  | waiting
  | complete
  deriving DecidableEq, Repr

structure CapabilityRequestObservation where
  capability : String
  detail : String
  deriving DecidableEq, Repr

structure OperationIdentity where
  domain : String
  logicalOperationId : String
  repository : Option String
  issue : Option Int
  runId : Option String
  deriving DecidableEq, Repr

/-- `OperationObservation`. The fields that its type fixes to one literal are Booleans here,
because a reader of the file tests them. -/
structure OperationObservation extends OperationIdentity where
  schemaVersion : Nat := 1
  operation : String
  formId : String
  certainty : SideEffectCertainty
  lifecycle : ObservationLifecycleState
  humanOwned : Bool := false
  complete : Bool
  cancelled : Bool := false
  processExitIsCompletion : Bool := false
  owned : Bool := true
  fault : Option String
  message : String
  capabilityRequest : Option CapabilityRequestObservation
  invariant : Option String := none
  candidateEpoch : Option String := none
  evidenceRole : Option ArtifactEvidenceRole := none
  artifactIdentity : Option String := none
  evidenceIdentity : Option String := none
  attemptsPerStrategy : Option (List (String × Nat)) := none
  strategyCursor : Option Nat := none
  nextEligibleAt : Option String := none
  episodeId : Option String := none
  deriving DecidableEq, Repr

/-- What a claim file holds. `claim_revision` is absent on records that were written before the
compare-and-swap. -/
structure PersistedOperationObservation extends OperationObservation where
  observationId : String
  recordedAt : String
  transitionedAt : Option String
  claimRevision : Option Nat
  deriving DecidableEq, Repr

/-! ## Identities and file names -/

def isLogicalOperationId (value : String) : Bool :=
  "lop-".toList.isPrefixOf value.toList && decide (4 < value.toList.length)

/-- `operationClaimKey`, for the language's `toLowerCase`. -/
def operationClaimKey (toLowerCase : String → String) (domain logicalOperationId : String) :
    String :=
  toLowerCase (JsText.trim domain) ++ "::" ++ logicalOperationId

/-- The character class `[a-zA-Z0-9._-]`. -/
def isFileNameChar (c : Char) : Bool :=
  c.isAlphanum || c == '.' || c == '_' || c == '-'

/-- Replace every maximal run of other characters by one underscore; `inRun` says that the run
before `cs` has already been replaced. -/
def collapseRuns : Bool → List Char → List Char
  | _, [] => []
  | inRun, c :: cs =>
    if isFileNameChar c then c :: collapseRuns false cs
    else if inRun then collapseRuns true cs
    else '_' :: collapseRuns true cs

def observationFileName (key : String) : String :=
  String.ofList (collapseRuns false key.toList) ++ ".json"

/-- The file of an identity, inside the claim directory. -/
def claimFileName (toLowerCase : String → String) (domain logicalOperationId : String) : String :=
  observationFileName (operationClaimKey toLowerCase domain logicalOperationId)

/-- `persistOperationObservation` refuses every other identity. -/
def Admitted (domain logicalOperationId : String) : Prop :=
  JsText.nonBlank domain = true ∧ isLogicalOperationId logicalOperationId = true

instance (domain logicalOperationId : String) : Decidable (Admitted domain logicalOperationId) :=
  inferInstanceAs (Decidable (_ ∧ _))

/-! ## Reading -/

/-- What a claim file contains, as `JSON.parse` sees it; `none` is empty or unparsable text. -/
abbrev ClaimText := Option PersistedOperationObservation

/-- `readClaimFile` on the content of an existing file. -/
def readClaimFile : ClaimText → Option PersistedOperationObservation
  | none => none
  | some raw =>
    if raw.owned = false ∨ raw.schemaVersion ≠ 1 then none
    else if raw.domain = "" ∨ isLogicalOperationId raw.logicalOperationId = false then none
    else some raw

/-- `loadOwnedOperationClaim` on the content of the file, `none` when there is no file. -/
def loadOwnedOperationClaim (content : Option ClaimText) : Option PersistedOperationObservation :=
  match content.bind readClaimFile with
  | none => none
  | some rec =>
    if rec.owned = false ∨ rec.complete = true ∨ rec.humanOwned = true ∨ rec.cancelled = true then
      none
    else some rec

/-! ## Deciding the next claim -/

def lifecycleRank : ObservationLifecycleState → Nat
  | .active => 0
  | .cooling => 1
  | .waiting => 1
  | .complete => 2

def lifecycleMayAdvance (fromState toState : ObservationLifecycleState) : Bool :=
  decide (lifecycleRank fromState ≤ lifecycleRank toState)

def claimRevisionOf (record : PersistedOperationObservation) : Nat :=
  record.claimRevision.getD 0

def stableObservationId (obs : OperationObservation) : String :=
  obs.logicalOperationId ++ ":" ++ obs.formId ++ ":" ++ obs.operation

def sameClaimIdentity (a b : OperationObservation) : Bool :=
  a.domain == b.domain && a.logicalOperationId == b.logicalOperationId &&
    a.formId == b.formId && a.operation == b.operation

def isDuplicateClaim (existing obs : OperationObservation) : Bool :=
  existing.lifecycle == obs.lifecycle && existing.fault == obs.fault &&
    existing.complete == obs.complete && existing.message == obs.message

/-- The spread `{ ...existing, ...obs }`: an optional field that `obs` lacks keeps its value. -/
def spread (existing obs : OperationObservation) : OperationObservation :=
  { obs with
    invariant := obs.invariant <|> existing.invariant
    candidateEpoch := obs.candidateEpoch <|> existing.candidateEpoch
    evidenceRole := obs.evidenceRole <|> existing.evidenceRole
    artifactIdentity := obs.artifactIdentity <|> existing.artifactIdentity
    evidenceIdentity := obs.evidenceIdentity <|> existing.evidenceIdentity
    attemptsPerStrategy := obs.attemptsPerStrategy <|> existing.attemptsPerStrategy
    strategyCursor := obs.strategyCursor <|> existing.strategyCursor
    nextEligibleAt := obs.nextEligibleAt <|> existing.nextEligibleAt
    episodeId := obs.episodeId <|> existing.episodeId }

/-- The record of an observation that does not continue `existing`. -/
def freshClaim (obs : OperationObservation) (recordedAt : String) (revision : Nat) :
    PersistedOperationObservation :=
  { obs with
    observationId := stableObservationId obs
    recordedAt := recordedAt
    transitionedAt := none
    claimRevision := some revision }

/-- `decideNextClaim`; `none` is the answer `existing` itself, which the caller recognises by
identity. -/
def decideNextClaim (existing : Option PersistedOperationObservation) (obs : OperationObservation)
    (recordedAt : String) : Option PersistedOperationObservation :=
  match existing with
  | none => some (freshClaim obs recordedAt 1)
  | some existing =>
    -- a late observation never takes the claim back
    if lifecycleMayAdvance existing.lifecycle obs.lifecycle = false then none
    else if sameClaimIdentity existing.toOperationObservation obs &&
        isDuplicateClaim existing.toOperationObservation obs then none
    -- the same operation moved on: its record is continued
    else if sameClaimIdentity existing.toOperationObservation obs then
      some
        { spread existing.toOperationObservation obs with
          observationId := existing.observationId
          recordedAt := existing.recordedAt
          transitionedAt := some recordedAt
          claimRevision := some (claimRevisionOf existing + 1) }
    -- another operation takes the file over, and the revision counts on
    else some (freshClaim obs recordedAt (claimRevisionOf existing + 1))

/-- `claimCasEqual` for an expected record that is not null. -/
def claimCasEqual (current : Option PersistedOperationObservation)
    (expected : PersistedOperationObservation) : Bool :=
  match current with
  | none => false
  | some current =>
    claimRevisionOf current == claimRevisionOf expected && current.observationId == expected.observationId &&
      current.lifecycle == expected.lifecycle

/-! ## What a decision guarantees -/

/-- The observation of an admitted call: its type fixes `owned` and `schema_version`. -/
structure Acceptable (obs : OperationObservation) : Prop where
  owned : obs.owned = true
  schema : obs.schemaVersion = 1
  domain : obs.domain ≠ ""
  identity : isLogicalOperationId obs.logicalOperationId = true

lemma readClaimFile_eq_some {text : ClaimText} {rec : PersistedOperationObservation} :
    readClaimFile text = some rec ↔ text = some rec ∧ Acceptable rec.toOperationObservation := by
  cases text with
  | none => simp [readClaimFile]
  | some raw =>
    constructor
    · intro h
      simp only [readClaimFile] at h
      split at h
      · cases h
      · next howned =>
        split at h
        · cases h
        · next hdomain =>
          cases h
          simp only [not_or, Bool.not_eq_false, not_not] at howned hdomain
          exact ⟨rfl, howned.1, howned.2, hdomain.1, hdomain.2⟩
    · rintro ⟨htext, hacc⟩
      cases htext
      simp [readClaimFile, hacc.owned, hacc.schema, hacc.domain, hacc.identity]

lemma decideNextClaim_some {existing next : PersistedOperationObservation}
    {obs : OperationObservation} {recordedAt : String} (hacc : Acceptable obs)
    (h : decideNextClaim (some existing) obs recordedAt = some next) :
    lifecycleRank existing.lifecycle ≤ lifecycleRank next.lifecycle ∧
      claimRevisionOf next = claimRevisionOf existing + 1 ∧ Acceptable next.toOperationObservation := by
  simp only [decideNextClaim] at h
  split at h
  · cases h
  · next hadvance =>
    have hrank : lifecycleRank existing.lifecycle ≤ lifecycleRank obs.lifecycle := by
      simpa [lifecycleMayAdvance] using hadvance
    split at h
    · cases h
    · split at h
      · cases h
        exact ⟨hrank, rfl, hacc.owned, hacc.schema, hacc.domain, hacc.identity⟩
      · cases h
        exact ⟨hrank, rfl, hacc⟩

lemma claimCasEqual_revision {current : Option PersistedOperationObservation}
    {expected : PersistedOperationObservation} (h : claimCasEqual current expected = true) :
    ∃ c, current = some c ∧ claimRevisionOf c = claimRevisionOf expected := by
  cases current with
  | none => simp [claimCasEqual] at h
  | some c =>
    simp only [claimCasEqual, Bool.and_eq_true, beq_iff_eq] at h
    exact ⟨c, rfl, h.1.1⟩

/-! ## Concrete observations -/

/-- An observation of an operation that has just been admitted. -/
def admission (domain logicalOperationId : String) : OperationObservation where
  domain := domain
  logicalOperationId := logicalOperationId
  repository := none
  issue := none
  runId := none
  operation := "advance"
  formId := "advance"
  certainty := .knownAbsent
  lifecycle := .active
  complete := false
  fault := none
  message := "admitted"
  capabilityRequest := none

/-- `toLowerCase` on ASCII text. -/
def asciiLower (s : String) : String :=
  String.ofList (s.toList.map Char.toLower)

end AgentPipeline.Claims
