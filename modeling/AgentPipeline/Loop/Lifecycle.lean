import AgentPipeline.Loop.Types

/-!
# Lifecycle: the closed lifecycle law of the recovery supervisor

`recovery-lifecycle-ownership.ts`, the part that the loop engine calls, and the resolution of the
logical-operation id (`logical-operation.ts`):

* `deriveLifecycleState`: the six lifecycle states from durable records and typed requests;
* `applyLifecycleTransition`, `bindLifecycleRecord`: the write of the lifecycle record, in which
  `succeeded` and `cancelled` are sticky;
* `lifecycleAllowsRecoveryRecipe`, `compatibilityStopRefusesItem`: the two refusals.

Binding a lifecycle record touches nothing else of a ledger; the last section says so, field by
field, for the proofs about items and attempts.
-/

namespace AgentPipeline.Loop

open JsText (trim nonBlank)

/-! ## The logical-operation id -/

/-- `nonEmpty(value)`: the trimmed text, unless that is empty. -/
def nonEmpty (value : Option String) : Option String :=
  match value.map trim with
  | some "" => none
  | other => other

structure LogicalOperationSources where
  written : Option String := none
  loopStore : Option String := none
  parent : Option String := none
  namedRun : Option String := none

/-- The first binding in design order; `minted` is the fresh id when there is none. -/
def resolveLogicalOperationId (src : LogicalOperationSources) (minted : String) : String :=
  (nonEmpty src.written <|> nonEmpty src.loopStore <|> nonEmpty src.parent <|> nonEmpty src.namedRun).getD minted

/-! ## Derivation -/

inductive MechanicalFaultClass where
  | mechanicalFailure | unknownFailure | malformedOutput | processDeath | noProgress | capacity
  | retryExhaustion
deriving DecidableEq, Repr

/-- `isMechanicalCompatibilityStopReason`: historical stops that project Cooling. -/
def isMechanicalCompatibilityStopReason : LoopStopReason → Bool
  | .runFatal | .recoveryExhausted | .repeatedNoProgress | .consecutiveBlocked
  | .supervisorNoProgress | .supervisorCycleCap | .worktreeCapacity => true
  | .needsHumanClassification | .humanAuthority | .dependencyDeadlock => false

/-- `owned(state, extra)`. -/
def owned (state : RecoveryLifecycleState) (humanAuthority : Bool := false)
    (typedRequest : Option PublicTypedRequest := none) : LifecycleOwnership where
  state := state
  cancelled := state = .cancelled
  humanAuthority := humanAuthority
  typedRequest := typedRequest

structure LifecycleDerivationInput where
  labels : List String := []
  typedRequest : Option PublicTypedRequest := none
  stopReason : Option LoopStopReason := none
  cooling : Bool := false
  trainOutcome : Option String := none
  observerProvedPostcondition : Bool := false
  processExitCode : Option Int := none
  cancelledByAuthenticatedCaller : Bool := false
  cancelledByOriginalAuthorizedCaller : Bool := false
  activeAttempt : Bool := false
  externalConditionWait : Bool := false
  faultClass : Option MechanicalFaultClass := none

def hasNeedsHumanLabel (labels : List String) : Bool :=
  labels.any fun l => l = "pipeline:needs-human" ∨ l = "needs-human"

def hasBlockedLabel (labels : List String) : Bool :=
  labels.any fun l => l = "pipeline:blocked" ∨ l = "blocked"

def deriveLifecycleState (input : LifecycleDerivationInput) : LifecycleOwnership :=
  if input.cancelledByAuthenticatedCaller || input.cancelledByOriginalAuthorizedCaller then
    owned .cancelled
  else if input.observerProvedPostcondition then
    owned .succeeded
  else
    match input.typedRequest with
    | some typed => owned .typedInputWait (typed = .authorityRequest) (some typed)
    | none =>
      if input.externalConditionWait then
        owned .externalConditionWait
      else
        match input.faultClass with
        -- capacity is waited for, every other mechanical fault cools
        | some .capacity => owned .externalConditionWait
        | some _ => owned .cooling
        | none =>
          if input.stopReason.any isMechanicalCompatibilityStopReason || input.cooling then
            if input.stopReason = some .worktreeCapacity then
              owned .externalConditionWait
            else
              owned .cooling
          else if input.trainOutcome = some "STOP" then
            owned .cooling
          else if hasNeedsHumanLabel input.labels || hasBlockedLabel input.labels then
            owned .cooling
          else if input.activeAttempt then
            owned .active
          else
            -- an exit code of zero without observer proof and every other case end alike
            owned .cooling

def ownershipFromRecord (record : DurableLifecycleRecord) : LifecycleOwnership :=
  record.toLifecycleOwnership

def consultLifecycleRecord (record : Option DurableLifecycleRecord)
    (evidence : LifecycleDerivationInput := {}) : LifecycleOwnership :=
  if evidence.cancelledByAuthenticatedCaller || evidence.cancelledByOriginalAuthorizedCaller then
    owned .cancelled
  else if evidence.observerProvedPostcondition then
    owned .succeeded
  else
    match evidence.typedRequest with
    | some typed => owned .typedInputWait (typed = .authorityRequest) (some typed)
    | none =>
      match record with
      | none => deriveLifecycleState evidence
      | some rec =>
        -- a stored wait does not outlive its request, so it is derived anew
        if rec.state = .typedInputWait then
          deriveLifecycleState { evidence with typedRequest := none }
        else
          ownershipFromRecord rec

/-! ## Writing the record -/

/-- `applyLifecycleTransition`: `succeeded` and `cancelled` are sticky, and a record whose
ownership does not change keeps its revision. -/
def applyLifecycleTransition (current : Option DurableLifecycleRecord) (next : LifecycleOwnership)
    (updatedAt : String) (logicalOperationId : String) : DurableLifecycleRecord :=
  match current with
  | none =>
    { next with logicalOperationId := trim logicalOperationId, updatedAt, revision := 1 }
  | some rec =>
    if (rec.state = .succeeded ∨ rec.state = .cancelled) ∧ next.state ≠ rec.state then
      rec
    else if rec.toLifecycleOwnership = next then
      rec
    else
      { next with
        logicalOperationId := rec.logicalOperationId, updatedAt,
        revision := rec.revision + 1 }

def bindLifecycleRecord (ledger : LoopLedger) (logicalOperationId : String)
    (ownership : LifecycleOwnership) (updatedAt : String) : LoopLedger :=
  { ledger with
    lifecycle :=
      some (applyLifecycleTransition ledger.lifecycle ownership updatedAt logicalOperationId) }

/-! ## Ownership after an item transition -/

def isObserverSuccessState : LoopItemState → Bool
  | .ready | .merged | .released | .deployed => true
  | _ => false

/-- `NATIVE_GOAL_FRESHNESS_WINDOW_SECONDS`. -/
def nativeGoalFreshnessWindowSeconds : Int := 300

/-- The age of an observation lies between zero and the freshness window; an instant that does
not parse makes it `NaN`, which is not fresh. -/
def isFresh (now observedAt : Option Instant) : Bool :=
  match now, observedAt with
  | some now, some at' =>
    let age := now.ms - at'.ms
    0 ≤ age && age ≤ nativeGoalFreshnessWindowSeconds * 1000
  | _, _ => false

section Clock

variable (rt : JsRuntime)

/-- `identityProvesObserverSuccessState(state, identity, nowMs, window)`. -/
def identityProvesObserverSuccessState (state : LoopItemState)
    (identity : Option LoopExternalIdentity) (now : Option Instant) : Bool :=
  match identity with
  | none => false
  | some identity =>
    isObserverSuccessState state && isFresh now (rt.dateParse identity.observedAt) && match state with
      | .ready =>
        identity.prNumber.isSome && identity.prState = some .opened && identity.readyLabelPresent
      | .merged => identity.prState = some .merged
      | _ => false

/-- `typedRequestFromOwnedItems(items)`: the first typed request of a hold. -/
def typedRequestFromOwnedItems (items : JsObject LoopItemLedgerEntry) : Option PublicTypedRequest :=
  items.values.findSome? fun item => item.holdRequest.bind (·.typedRequest)

def lifecycleOwnershipAfterItemTransition (ledger : LoopLedger) (now : Option Instant)
    (observerProvedPostcondition : Bool) : LifecycleOwnership :=
  let list := ledger.items.values
  let allCurrentSuccessProof := !list.isEmpty && list.all fun item =>
    identityProvesObserverSuccessState rt item.state item.lastVerifiedIdentity now
  deriveLifecycleState
    { typedRequest := typedRequestFromOwnedItems ledger.items
      cooling := ledger.cooling.isSome
      stopReason := ledger.stop.map (·.reason)
      observerProvedPostcondition := observerProvedPostcondition && allCurrentSuccessProof
      activeAttempt := true }

/-- `bindLifecycleForItemTransition(ledger, id, updatedAt, proved)`. -/
def bindLifecycleForItemTransition (ledger : LoopLedger) (logicalOperationId updatedAt : String)
    (observerProvedPostcondition : Bool) : LoopLedger :=
  bindLifecycleRecord ledger logicalOperationId
    (lifecycleOwnershipAfterItemTransition rt ledger (rt.dateParse updatedAt)
      observerProvedPostcondition)
    updatedAt

end Clock

/-! ## Refusals -/

/-- `lifecycleAllowsRecoveryRecipe(record, item)`: refused after a lawful exit, or for the item
that owns the typed-input wait. -/
def lifecycleAllowsRecoveryRecipe (record : Option DurableLifecycleRecord)
    (item : Option LoopItemLedgerEntry) : Bool :=
  match record with
  | some rec =>
    match rec.state with
    | .cancelled | .succeeded => false
    -- another item's question does not hold up this one
    | .typedInputWait => (item.bind (·.holdRequest) |>.bind (·.typedRequest)).isNone
    | _ => true
  | none =>
    let life := consultLifecycleRecord none
    life.state ≠ .cancelled ∧ life.state ≠ .succeeded

def compatibilityStopRefusesItem (stop : Option LoopStopRecord) (itemId : String) : Bool :=
  match stop with
  | none => false
  | some stop =>
    !isMechanicalCompatibilityStopReason stop.reason || stop.itemId = some itemId

/-! ## What binding leaves alone -/

variable (ledger : LoopLedger) (id : String) (ownership : LifecycleOwnership) (time : String)

@[simp] lemma bindLifecycleRecord_items : (bindLifecycleRecord ledger id ownership time).items = ledger.items := rfl

@[simp] lemma bindLifecycleRecord_recoveryAttempts :
    (bindLifecycleRecord ledger id ownership time).recoveryAttempts = ledger.recoveryAttempts := rfl

@[simp] lemma bindLifecycleRecord_cooling :
    (bindLifecycleRecord ledger id ownership time).cooling = ledger.cooling := rfl

@[simp] lemma bindLifecycleRecord_itemCooling :
    (bindLifecycleRecord ledger id ownership time).itemCooling = ledger.itemCooling := rfl

@[simp] lemma bindLifecycleRecord_stop : (bindLifecycleRecord ledger id ownership time).stop = ledger.stop := rfl

@[simp] lemma bindLifecycleRecord_lastReconciliation :
    (bindLifecycleRecord ledger id ownership time).lastReconciliation = ledger.lastReconciliation := rfl

end AgentPipeline.Loop
