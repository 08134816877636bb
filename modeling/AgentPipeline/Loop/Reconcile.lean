import AgentPipeline.Loop.Drift
import AgentPipeline.Loop.Store

/-!
# Reconcile: one pass over the ledger against live truth

`reconcile` of `loop/reconcile.ts`. The pass observes every item, classifies its drift and
rewrites the item in one of four ways (`reconcileItem`):

* *repaired forward* — the ledger is behind, and the item moves to the verified target;
* *reconstructed* — the ledger over-claims, and the item moves to the state that the observation
  supports;
* *healed* — an item stranded at `pr_opened` or `implemented` goes back to `in_progress`;
* *refreshed* — the item is aligned, and only its bound identity is renewed.

`observe` stands for `observeExternalIdentity`, which receives the item and the operation id that
the ledger expects; it may throw.
-/

namespace AgentPipeline.Loop

/-- The engine-owned observation seam: identities of items, and whether the base branch contains
a commit (`none` when that cannot be determined). -/
structure ReconcileObserveDeps where
  observe : String → Option String → Except LoopError LoopExternalIdentity
  baseBranchContainsSha : String → Option Bool

structure ReconcileInput where
  token : String
  engine : LoopEngineName
  /-- The id `mintLogicalOperationId` would return. -/
  minted : String

/-- One item after its turn in the loop. -/
structure ReconciledItem where
  fromState : LoopItemState
  identity : LoopExternalIdentity
  drift : Option LoopDriftClass
  entry : LoopItemLedgerEntry
  stateWritten : Bool
  provedPostcondition : Bool

variable (rt : JsRuntime)

/-- The item in a new state, bound to the identity that moved it. -/
def LoopItemLedgerEntry.moved (entry : LoopItemLedgerEntry) (identity : LoopExternalIdentity)
    (state : LoopItemState) (engine : LoopEngineName) (time note : String) :
    LoopItemLedgerEntry :=
  { entry with
    state := state
    lastVerifiedIdentity := some identity
    history := entry.history ++
      [{ time := time, fromState := entry.state, toState := state, engine := engine,
         note := some note }] }

/-- The throw that guards `classifyDrift` against `verifiedForwardTarget`. -/
def mustAgree (id : String) : LoopError where
  loopFailureClass := .validation
  message := "classifyDrift reported \"ledger-behind\" for item \"" ++ id ++
    "\" but verifiedForwardTarget found no verified target — these must agree"

/-- The body of the loop of `reconcile`, after the observation. -/
def reconcileItem (engine : LoopEngineName) (time id : String) (entry : LoopItemLedgerEntry)
    (identity : LoopExternalIdentity) : Except LoopError ReconciledItem :=
  let drift := classifyDrift rt entry.state identity entry.lastVerifiedIdentity
  match drift with
  | some .ledgerBehind =>
    match verifiedForwardTarget rt identity with
    | none => .error (mustAgree id)
    | some target =>
      let repaired := entry.moved identity target engine time
        "reconciliation repaired forward on verified external identity"
      .ok
        { fromState := entry.state, identity, drift
          -- a ready item is not blocked any more, so its theme goes
          entry := if target = .ready then { repaired with blockedTheme := none } else repaired
          stateWritten := true
          provedPostcondition := isObserverSuccessState target }
  | some .ledgerAhead | some .externalAbsent | some .identityMismatch =>
    .ok
      { fromState := entry.state, identity, drift
        entry := entry.moved identity (reconstructedLocalState rt identity entry.state) engine
          time "reconciliation reconstructed local state from owning-system observer"
        stateWritten := true
        provedPostcondition := false }
  -- regressed checks are reported and move nothing; the heal below comes first
  | some .checksRegressed | none =>
    if (entry.state = .prOpened ∨ entry.state = .implemented) ∧ isAdvanceStillNeeded identity then
      .ok
        { fromState := entry.state, identity, drift
          entry := entry.moved identity .inProgress engine time
            "reconciliation restored advance-still-needed item to in_progress for re-dispatch"
          stateWritten := true
          provedPostcondition := false }
    else
      -- a local state without a pull request keeps its old binding
      let refreshes := drift = none ∧ (isRemoteProvingState entry.state ∨ identity.prNumber.isSome)
      .ok
        { fromState := entry.state, identity, drift
          entry :=
            if refreshes then { entry with lastVerifiedIdentity := some identity } else entry
          stateWritten := false
          provedPostcondition := false }

/-- A hold proven by a canonical authority diagnostic that is still bound to the observed head. -/
def currentHumanAuthority (entry : LoopItemLedgerEntry) (identity : LoopExternalIdentity) : Bool :=
  (entry.state = .waiting || entry.state = .paused) && entry.holdRequest.any fun hold =>
      hold.authorityEvidenceKey.any (· ≠ "") && hold.authorityCandidateHead.any fun head =>
          rt.toLowerCase head = rt.toLowerCase identity.headSha

def stopRefusal (runId : String) (stop : LoopStopRecord) : LoopError where
  loopFailureClass := .stop
  message := "loop run \"" ++ runId ++ "\" is already stopped: " ++ stop.reason.name

/-- A stop that is not a mechanical compatibility stop. -/
def refusingStop (ledger : LoopLedger) : Option LoopStopRecord :=
  ledger.stop.filter fun stop => !isMechanicalCompatibilityStopReason stop.reason

/-- The operation id an item transition binds. -/
def resolveTransitionLogicalOperationId (ledger : LoopLedger)
    (contractId inputId : Option String) (minted : String) : String :=
  resolveLogicalOperationId
    { written := ledger.lifecycle.map (·.logicalOperationId), loopStore := inputId <|> contractId }
    minted

/-- The observation and the turn of one item. -/
def observeItem (deps : ReconcileObserveDeps) (ledger : LoopLedger) (engine : LoopEngineName)
    (time id : String) (entry : LoopItemLedgerEntry) : Except LoopError ReconciledItem :=
  match deps.observe id (ledger.lifecycle.map (·.logicalOperationId)) with
  | .error e => .error e
  | .ok identity => reconcileItem rt engine time id entry identity

/-- The barrier stays until the base branch is proven to contain the merge. -/
def reconciledBarrier (deps : ReconcileObserveDeps) (ledger : LoopLedger) :
    Option LoopMergeBarrier :=
  ledger.mergeBarrier.filter fun barrier =>
    deps.baseBranchContainsSha barrier.mergedSha ≠ some true

/-- The report and the ledger that a pass writes, once every item had its turn. -/
def assembleReconciliation (deps : ReconcileObserveDeps) (input : ReconcileInput) (time : String)
    (ledger : LoopLedger) (results : JsObject ReconciledItem) :
    LoopReconciliation × LoopLedger :=
  let mergeBarrier := reconciledBarrier deps ledger
  let reconciliation : LoopReconciliation :=
    { sequence := ledger.reconciliationSequence + 1
      time := time
      observed := results.mapEntries fun _ r => r.identity
      drift := results.entries.filterMap fun (id, r) => r.drift.map fun cls =>
        { itemId := id
          ledgerState := r.fromState
          observedState := describeObservedState r.identity
          driftClass := cls }
      nextActions := results.mapEntries fun id r =>
        computeNextAction r.entry.state r.identity r.drift
          (ledger.mergeBarrier.any (·.itemId = id) && mergeBarrier.isSome)
          (currentHumanAuthority rt r.entry r.identity) }
  let next : LoopLedger :=
    { ledger with
      items := results.mapEntries fun _ r => r.entry
      mergeBarrier := mergeBarrier
      lastReconciliation := some reconciliation
      reconciliationSequence := ledger.reconciliationSequence + 1 }
  -- the lifecycle is bound only when some item was moved
  let bound :=
    if results.values.any (·.stateWritten) then
      bindLifecycleForItemTransition rt next
        (resolveTransitionLogicalOperationId ledger none none input.minted) time
        (results.values.any (·.provedPostcondition))
    else next
  (reconciliation, bound)

/-- The pass on the ledger it read. -/
def reconcilePass (deps : ReconcileObserveDeps) (input : ReconcileInput) (time : String)
    (ledger : LoopLedger) : Except LoopError (LoopReconciliation × LoopLedger) :=
  match refusingStop ledger with
  | some stop => .error (stopRefusal ledger.runId stop)
  | none =>
    match ledger.items.traverse (observeItem rt deps ledger input.engine time) with
    | .error e => .error e
    | .ok results => .ok (assembleReconciliation rt deps input time ledger results)

/-- `reconcile(deps, observeDeps, input)`: the ledger is read without a token. -/
def reconcile (now : Instant) (deps : ReconcileObserveDeps) (input : ReconcileInput)
    (d : RunDir) : Except LoopError LoopReconciliation × RunDir :=
  transact rt now none input.token
    (fun ledger => (reconcilePass rt deps input (rt.toISOString now) ledger).map
      fun (report, next) => (report, some next))
    d

/-! ## Agreement of classification and target -/

lemma ledgerBehind_isSome_iff (state : LoopItemState) (identity : LoopExternalIdentity)
    (bound : Option LoopExternalIdentity) : (classifyDrift rt state identity bound = some .ledgerBehind →
        (verifiedForwardTarget rt identity).isSome = true) ↔ ¬readyLabelWithoutBinding rt state identity := by
  constructor
  -- the label alone makes the item behind, while the target asks for the binding
  · rintro h hlabel
    obtain ⟨rfl, hopen, hready, _⟩ := id hlabel
    have hsome := h (classifyDrift_of_readyLabel rt bound hopen hready)
    simp [verifiedForwardTarget_of_readyLabelWithoutBinding rt hlabel] at hsome
  · intro hlabel hbehind
    rcases classifyDrift_eq_ledgerBehind rt hbehind with ⟨target, htarget⟩ | ⟨rfl, hopen, hready⟩
    · simp [htarget]
    · have hexact : identity.prNumber.isSome = true ∧ exactImplementation rt identity = true := by
        by_contra hno
        exact hlabel ⟨rfl, hopen, hready, hno⟩
      rw [verifiedForwardTarget_opened rt hopen, if_pos hexact, if_pos hready]
      rfl

lemma reconcileItem_eq_error_iff {engine : LoopEngineName} {time id : String}
    {entry : LoopItemLedgerEntry} {identity : LoopExternalIdentity} {e : LoopError} :
    reconcileItem rt engine time id entry identity = .error e ↔
      e = mustAgree id ∧ readyLabelWithoutBinding rt entry.state identity := by
  have hagree := ledgerBehind_isSome_iff rt entry.state identity entry.lastVerifiedIdentity
  unfold reconcileItem
  dsimp only
  split
  · next hbehind =>
    simp only [hbehind, true_implies] at hagree
    split
    · next hnone =>
      have hlabel : readyLabelWithoutBinding rt entry.state identity := by
        by_contra hno
        simpa [hnone] using hagree.2 hno
      simp [hlabel, eq_comm]
    · next target htarget =>
      have hlabel : ¬readyLabelWithoutBinding rt entry.state identity := hagree.1 (by simp [htarget])
      simp [hlabel]
  -- every other class of drift is settled without looking for a target
  all_goals
    next hdrift =>
      have hlabel : ¬readyLabelWithoutBinding rt entry.state identity := hagree.1 fun h => by simp [hdrift] at h
      simp only [hlabel, and_false, iff_false]
      try split
      all_goals simp

end AgentPipeline.Loop
