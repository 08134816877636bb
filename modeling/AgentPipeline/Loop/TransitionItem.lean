import AgentPipeline.Loop.Reconcile
import AgentPipeline.Loop.Pause

/-!
# TransitionItem: caller-requested moves and the terminal catch-up

The rest of `loop/reconcile.ts`. `transitionItem` moves one item to the state a caller asks for:
a remote-proving state needs a fresh live observation that supports it, and those behind an
authority gate need a grant. `resumeRecoveryExhaustedTerminalCatchUp` repairs items forward to
`ready` or `merged` on a run that is stopped or cooling.
-/

namespace AgentPipeline.Loop

open JsText (nonBlank)

/-! ## Authority -/

/-- `STATE_TO_GATE`. -/
def stateToGate : LoopItemState → Option LoopAuthorityGate
  | .prOpened => some .pushPr
  | .merged => some .merge
  | .released => some .release
  | .deployed => some .deploy
  | _ => none

/-- `authorizeGatedTransition(grants, ledger, gate, itemId, evidence)`. -/
def gatedTransitionFault (grants : List LoopAuthorityGate) (ledger : LoopLedger)
    (gate : LoopAuthorityGate) (itemId evidence : String) : Option LoopError :=
  let granted := gate ∈ grants ∨ ledger.authorityAmendments.any fun a => a.gate = gate && a.scopeItemId = itemId
  if ¬granted then
    some ⟨.authority, "gate \"" ++ gate.name ++ "\" is not granted for item \"" ++ itemId ++
      "\" — broad objectives do not grant gates; the run must stop and report"⟩
  else if !nonBlank evidence then
    some (invalid ("transition through gate \"" ++ gate.name ++
      "\" requires directly verified facts, not an agent's claim"))
  else none

/-! ## Live proof -/

/-- Release and deployment leave no evidence in an observed identity. -/
def identitySupportsState (state : LoopItemState) (identity : LoopExternalIdentity) : Bool :=
  match state with
  | .prOpened => identity.prNumber.isSome && identity.prState = some .opened
  | .ready =>
    identity.prNumber.isSome && identity.prState = some .opened && identity.readyLabelPresent
  | .merged => identity.prState = some .merged
  | .released | .deployed => false
  | _ => true

def describeIdentityEvidence (identity : LoopExternalIdentity) : String :=
  "verified " ++ describeObservedState identity ++ " at " ++ identity.observedAt

structure TransitionItemInput where
  token : String
  itemId : String
  engine : LoopEngineName
  target : LoopItemState
  note : Option String := none
  logicalOperationId : Option String := none
  /-- `observerProof.provedPostcondition`. -/
  observerProof : Option Bool := none
  minted : String

variable (rt : JsRuntime) (now : Instant) (deps : ReconcileObserveDeps)

/-- An item of `everySuccessItemHasFreshLiveProof`; an observation that throws proves nothing. -/
def proveItem (ledger : LoopLedger) (liveItemId : String) (liveIdentity : LoopExternalIdentity)
    (id : String) (item : LoopItemLedgerEntry) : Except Unit LoopItemLedgerEntry :=
  let observed :=
    if id = liveItemId then .ok liveIdentity
    else deps.observe id (ledger.lifecycle.map (·.logicalOperationId))
  match observed with
  | .error _ => .error ()
  | .ok identity =>
    if isFresh (some now) (rt.dateParse identity.observedAt) ∧ identitySupportsState item.state identity then
      .ok (if id = liveItemId then item
        else { item with lastVerifiedIdentity := some identity })
    else .error ()

/-- `everySuccessItemHasFreshLiveProof`: the items with their renewed identities, if every one of
them is in a success state and proven. -/
def everySuccessItemHasFreshLiveProof (ledger : LoopLedger) (liveItemId : String)
    (liveIdentity : LoopExternalIdentity) : Option (JsObject LoopItemLedgerEntry) :=
  if ledger.items.entries.isEmpty ∨ !ledger.items.values.all fun item => isObserverSuccessState item.state then
    none
  else
    match ledger.items.traverse (proveItem rt now deps ledger liveItemId liveIdentity) with
    | .ok items => some items
    | .error _ => none

/-- The stop that refuses a transition: a mechanical one lets siblings and observer catch-up
through. -/
def transitionStopRefusal (ledger : LoopLedger) (input : TransitionItemInput) : Option LoopError :=
  match ledger.stop with
  | none => none
  | some stop =>
    -- a stop without an item makes every item a sibling
    let sibling := stop.itemId ≠ some input.itemId
    if !isMechanicalCompatibilityStopReason stop.reason ∨ (¬sibling ∧ !isRemoteProvingState input.target) then
      some (stopRefusal ledger.runId stop)
    else none

/-- The observation that a remote-proving target needs; `none` for every other target. -/
def observeTarget (contract : LoopContract) (ledger : LoopLedger) (input : TransitionItemInput) :
    Except LoopError (Option LoopExternalIdentity) :=
  if !isRemoteProvingState input.target then .ok none
  else
    match deps.observe input.itemId (ledger.lifecycle.map (·.logicalOperationId)) with
    | .error e => .error e
    | .ok identity =>
      let transition := "transition into \"" ++ input.target.name ++ "\" for item \"" ++ input.itemId ++ "\""
      if !isFresh (some now) (rt.dateParse identity.observedAt) then
        .error (invalid (transition ++ " requires a verified identity within the " ++
          toString nativeGoalFreshnessWindowSeconds ++
          "s freshness window — the engine's live observation was taken at " ++
          identity.observedAt))
      else if !identitySupportsState input.target identity then
        .error (invalid (transition ++ " is not supported by the engine's verified external " ++
          "identity — caller-supplied state never proves a remote transition"))
      else
        match (stateToGate input.target).bind fun gate =>
            gatedTransitionFault contract.authorityGrants ledger gate input.itemId
              (describeIdentityEvidence identity) with
        | some e => .error e
        | none => .ok (some identity)

/-- The item that a transition writes. -/
def transitionedItem (input : TransitionItemInput) (identity : Option LoopExternalIdentity)
    (item : LoopItemLedgerEntry) : LoopItemLedgerEntry :=
  { item with
    state := input.target
    blockedTheme := if input.target = .ready then none else item.blockedTheme
    lastVerifiedIdentity := identity <|> item.lastVerifiedIdentity
    history := item.history ++
      [{ time := rt.toISOString now, fromState := item.state, toState := input.target,
         engine := input.engine, note := input.note }] }

/-- The decision of `transitionItem`. -/
def decideTransition (contract : LoopContract) (input : TransitionItemInput)
    (ledger : LoopLedger) : Except LoopError (LoopLedger × Option LoopLedger) :=
  match transitionStopRefusal ledger input with
  | some e => .error e
  | none =>
    match ledger.items.get? input.itemId with
    | none =>
      .error (invalid ("item \"" ++ input.itemId ++ "\" not found in run \"" ++ ledger.runId ++ "\""))
    | some item =>
      if input.target = .skipped then
        .error (invalid ("item \"" ++ input.itemId ++ "\" cannot transition to \"skipped\" " ++
          "via transitionItem — skipped is entered only by dependency propagation " ++
          "(capability durable-run-dependency-integrity), never a caller-requested transition"))
      else if item.state = .skipped then
        .error (invalid ("item \"" ++ input.itemId ++ "\" cannot transition from \"skipped\" — skipped is terminal"))
      else
        match observeTarget rt now deps contract ledger input with
        | .error e => .error e
        | .ok identity =>
          let moved := { ledger with
            items := ledger.items.set input.itemId
              (transitionedItem rt now input identity item) }
          -- only a live observation of a success state can prove the postcondition
          let proof := (identity.filter fun _ => isObserverSuccessState input.target).bind
            fun identity =>
              if input.observerProof.getD true then
                everySuccessItemHasFreshLiveProof rt now deps moved input.itemId identity
              else none
          let next := bindLifecycleForItemTransition rt
            { moved with items := proof.getD moved.items }
            (resolveTransitionLogicalOperationId ledger contract.logicalOperationId
              input.logicalOperationId input.minted)
            (rt.toISOString now) proof.isSome
          .ok (next, some next)

lemma decideTransition_eq_ok {contract : LoopContract} {input : TransitionItemInput} {ledger after next : LoopLedger}
    (h : decideTransition rt now deps contract input ledger = .ok (after, some next)) :
    ∃ (item : LoopItemLedgerEntry) (identity : Option LoopExternalIdentity)
      (proof : Option (JsObject LoopItemLedgerEntry)),
      ledger.items.get? input.itemId = some item ∧ item.state ≠ .skipped ∧ (∀ items, proof = some items → ∃ live,
        everySuccessItemHasFreshLiveProof rt now deps { ledger with
            items := ledger.items.set input.itemId (transitionedItem rt now input identity item) }
          input.itemId live = some items) ∧
      next = bindLifecycleForItemTransition rt
        { ledger with
          items := proof.getD
            (ledger.items.set input.itemId (transitionedItem rt now input identity item)) }
        (resolveTransitionLogicalOperationId ledger contract.logicalOperationId
          input.logicalOperationId input.minted)
        (rt.toISOString now) proof.isSome := by
  unfold decideTransition at h
  split at h
  · simp at h
  · split at h
    · simp at h
    · next item hitem =>
      split at h
      · simp at h
      · split at h
        · simp at h
        · next hstate =>
          split at h
          · simp at h
          · next identity _ =>
            cases h
            refine ⟨item, identity, _, hitem, hstate, fun items hproof => ?_, rfl⟩
            obtain ⟨live, _, hlive⟩ := Option.bind_eq_some_iff.1 hproof
            split at hlive
            · exact ⟨live, hlive⟩
            · simp at hlive

def transitionItem (contract : LoopContract) (input : TransitionItemInput) (d : RunDir) :
    Except LoopError LoopLedger × RunDir :=
  transact rt now none input.token (decideTransition rt now deps contract input) d

/-! ## Terminal catch-up -/

/-- One item of the catch-up: the repaired entry, if it is behind a terminal target. -/
def catchUpItem (engine : LoopEngineName) (ledger : LoopLedger) (id : String)
    (entry : LoopItemLedgerEntry) : Except LoopError (LoopItemLedgerEntry × Bool) :=
  match deps.observe id (ledger.lifecycle.map (·.logicalOperationId)) with
  | .error e => .error e
  | .ok identity =>
    match verifiedForwardTarget rt identity with
    | none => .ok (entry, false)
    | some target =>
      -- the catch-up moves to terminal targets only
      if (target = .ready ∨ target = .merged) ∧ entry.state ≠ target ∧
          classifyDrift rt entry.state identity entry.lastVerifiedIdentity = some .ledgerBehind then
        let moved := entry.moved identity target engine (rt.toISOString now)
          "resume terminal catch-up repaired forward on verified external identity"
        .ok (if target = .ready then { moved with blockedTheme := none } else moved, true)
      else .ok (entry, false)

def resumeRecoveryExhaustedTerminalCatchUp (input : ReconcileInput) (d : RunDir) :
    Except LoopError Unit × RunDir :=
  transact rt now none input.token
    (fun ledger =>
      if ledger.stop.map (·.reason) ≠ some .recoveryExhausted ∧ ledger.cooling = none then
        .ok ((), none)
      else
        match ledger.items.traverse (catchUpItem rt now deps input.engine ledger) with
        | .error e => .error e
        | .ok results =>
          if results.values.all fun r => !r.2 then .ok ((), none)
          else
            -- every repaired target is an observer-success state
            .ok ((), some (bindLifecycleForItemTransition rt
              { ledger with items := results.mapEntries fun _ r => r.1 }
              (resolveTransitionLogicalOperationId ledger none none input.minted)
              (rt.toISOString now) true)))
    d

end AgentPipeline.Loop
