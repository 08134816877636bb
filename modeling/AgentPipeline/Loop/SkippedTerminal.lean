import AgentPipeline.Foundation.Transition
import AgentPipeline.Loop.Dependencies
import AgentPipeline.Loop.ReconcileFixpoint
import AgentPipeline.Loop.TransitionItem

/-!
# SkippedTerminal: whether a skipped item stays skipped

`skipped` is declared terminal, and `transitionItem` refuses to leave it. Every other operation
that names one item moves it from a state that is not `skipped`. The exceptions are the two passes
over all items: a reconciliation repairs a skipped item forward to the pull request it observes, or
reconstructs it when its worktree has drifted (`Revives`), and the terminal catch-up repairs it
forward as well.

`skipped_stays_skipped` is over whole runs of these operations, from any directory: while no pass
observes a skipped item so, every item that is skipped stays skipped.
-/

namespace AgentPipeline.Loop

/-- The items in question. -/
def IsSkipped (entry : LoopItemLedgerEntry) : Prop := entry.state = .skipped

/-! ## Keeping one item's state -/

variable {items : JsObject LoopItemLedgerEntry} {id : String} {entry entry' : LoopItemLedgerEntry}

lemma Keeps.set {p : LoopItemLedgerEntry → Prop} (hget : items.get? id = some entry)
    (h : p entry → p entry') : Keeps p items (items.set id entry') := by
  intro j e hj hp
  by_cases hid : j = id
  · subst hid
    obtain rfl : entry = e := by simpa [hget] using hj
    exact ⟨entry', by simp, h hp⟩
  · exact ⟨e, by simpa [hid] using hj, hp⟩

lemma Keeps.set_of_not (hget : items.get? id = some entry)
    (h : entry.state ≠ .skipped) : Keeps IsSkipped items (items.set id entry') :=
  Keeps.set hget fun hskipped => absurd hskipped h

variable {d : RunDir}

section Operations

variable (rt : JsRuntime) (now : Instant)

lemma keeps_upgrade (ledger : LoopLedger) :
    Keeps IsSkipped ledger.items (upgradeLedgerForRecovery rt ledger).items := by
  intro id entry hget hskipped
  exact ⟨upgradeItem rt entry, by simp [upgradeLedgerForRecovery, hget], by simpa [IsSkipped] using hskipped⟩

lemma keeps_admitOnly {contract : LoopContract} {ledger after next : LoopLedger}
    {time minted : String} (h : admitOnly contract ledger time minted = (after, some next)) :
    Keeps IsSkipped ledger.items next.items := by
  rw [admitOnly_eq_some h]
  exact Keeps.refl _ _

/-! ## Operations on one item -/

abbrev KeepsSkipped (d d' : RunDir) : Prop := Keeps IsSkipped (itemsInForce rt d) (itemsInForce rt d')

lemma keeps_blockItem (contract : LoopContract) (input : BlockItemInput) (d : RunDir) :
    KeepsSkipped rt d (blockItem rt now contract input d).2 := by
  unfold blockItem
  split
  · exact Keeps.refl _ _
  · next cls _ =>
    split
    · exact Keeps.refl _ _
    · next contract' _ =>
      apply keeps_transact
      intro ledger after next _ hdecide
      -- only an `in_progress` item blocks
      obtain ⟨hwrite, item, _, hitem, hstate, rfl⟩ := decideBlock_eq_ok rt now hdecide
      cases hwrite
      exact (keeps_upgrade rt ledger).trans (Keeps.set_of_not hitem (by simp [hstate]))

lemma keeps_startRecoveryAttempt (contract : LoopContract) (input : StartRecoveryAttemptInput) (d : RunDir) :
    KeepsSkipped rt d (startRecoveryAttempt rt now contract input d).2 := by
  unfold startRecoveryAttempt
  split
  · exact Keeps.refl _ _
  · next contract' _ =>
    apply keeps_transact
    intro ledger result next _ hdecide
    obtain ⟨after, attempt⟩ := result
    apply (keeps_upgrade rt ledger).trans
    obtain ⟨ctx, hctx, ⟨_, hadmit⟩ | ⟨_, eligible, _, rfl, hwrite⟩⟩ :=
      decideStart_eq_ok rt now hdecide
    · exact keeps_admitOnly hadmit
    · cases hwrite
      simp only [admitRecoveryLifecycle_items, ClaimContext.record]
      split
      · -- the charged item keeps its state
        have hctx := claimContext_eq_ok hctx
        have hget := hctx.item_eq
        rw [← hctx.input_eq] at hget
        exact Keeps.set hget fun hskipped => hskipped
      · exact Keeps.refl _ _

lemma keeps_completeRecoveryAttempt (contract : LoopContract) (input : CompleteRecoveryAttemptInput) (d : RunDir) :
    KeepsSkipped rt d (completeRecoveryAttempt rt now contract input d).2 := by
  unfold completeRecoveryAttempt
  split
  · exact Keeps.refl _ _
  · next contract' _ =>
    apply keeps_transact
    intro ledger result next _ hdecide
    obtain ⟨after, attempt⟩ := result
    apply (keeps_upgrade rt ledger).trans
    rcases decideComplete_eq_ok rt now hdecide with hadmit |
      ⟨claim, item, _, _, hitem, hblocked, _, rfl, hwrite⟩
    · exact keeps_admitOnly hadmit
    -- only a blocked item is recovered
    · cases hwrite
      exact Keeps.set_of_not hitem (by simp [hblocked])

lemma keeps_transitionItem (deps : ReconcileObserveDeps) (contract : LoopContract)
    (input : TransitionItemInput) (d : RunDir) : KeepsSkipped rt d (transitionItem rt now deps contract input d).2 := by
  have hproof : ∀ (ledger : LoopLedger) (identity : LoopExternalIdentity) (items : JsObject LoopItemLedgerEntry),
      everySuccessItemHasFreshLiveProof rt now deps ledger input.itemId identity = some items →
        Keeps IsSkipped ledger.items items := by
    intro ledger identity items hproof id entry hget hskipped
    -- every item of such a ledger is in a success state
    unfold everySuccessItemHasFreshLiveProof at hproof
    split at hproof
    · simp at hproof
    · next hall =>
      have hsuccess : ∀ e ∈ ledger.items.values, isObserverSuccessState e.state = true := by
        simpa using (not_or.1 hall).2
      have hentry := hsuccess entry (JsObject.mem_values.2 ⟨id, hget⟩)
      rw [show entry.state = .skipped from hskipped] at hentry
      simp [isObserverSuccessState] at hentry
  apply keeps_transact
  intro ledger after next _ hdecide
  obtain ⟨item, identity, proof, hitem, hstate, hproved, rfl⟩ :=
    decideTransition_eq_ok rt now deps hdecide
  -- a transition may leave every state but `skipped`, and the proof rewrites no skipped item
  have hmoved : Keeps IsSkipped ledger.items (ledger.items.set input.itemId
      (transitionedItem rt now input identity item)) := Keeps.set_of_not hitem hstate
  apply hmoved.trans
  cases proof with
  | none => exact Keeps.refl _ _
  | some items =>
    obtain ⟨identity', hprove⟩ := hproved items rfl
    exact hproof _ identity' items hprove

lemma keeps_skipCycle (statuses : String → Option ExternalDependencyStatus)
    (contract : LoopContract) (engine : LoopEngineName) (token : String) (d : RunDir) :
    KeepsSkipped rt d (skipCycle rt now statuses contract engine token d).2 := by
  apply keeps_transact
  intro ledger after next _ hdecide
  dsimp only at hdecide
  split at hdecide
  · simp at hdecide
  · cases hdecide
    exact (keeps_upgrade rt ledger).trans (keeps_propagate statuses _ engine contract.items _ _)

/-! ## Holds -/

lemma keeps_asLockHolder {α : Type} {operation token : String} {engine : LoopEngineName}
    {run : RunDir → Except LoopError α × RunDir} (h : KeepsSkipped rt d (run d).2) :
    KeepsSkipped rt d (asLockHolder operation token engine run d).2 := by
  rcases asLockHolder_cases operation token engine run d with hrefused | hran
  · rw [hrefused]
    exact Keeps.refl _ _
  · rwa [hran]

lemma keeps_enterHold (input : HoldInput) (target : LoopItemState)
    (request : Option LoopHumanInputRequest) (d : RunDir) : KeepsSkipped rt d (enterHold rt now input target request d).2 := by
  apply keeps_asLockHolder
  apply keeps_transact
  intro ledger after next _ hdecide
  dsimp only at hdecide
  split at hdecide
  · simp at hdecide
  · next item hitem =>
    split at hdecide
    · simp at hdecide
    · next hstate =>
      cases hdecide
      -- a hold is entered from `in_progress`
      exact Keeps.set_of_not (heldItem_eq_ok hitem) (by simp [not_not.1 hstate])

lemma keeps_waitItem (input : HoldInput) (request : WaitRequestInput) (uuid : String) (d : RunDir) :
    KeepsSkipped rt d (waitItem rt now input request uuid d).2 := by
  unfold waitItem
  split
  · exact Keeps.refl _ _
  · exact keeps_enterHold rt now input .waiting _ d

lemma not_skipped_of_isHeld {item : LoopItemLedgerEntry} (h : isHeld item = true) : item.state ≠ .skipped := by
  intro hskipped
  simp [isHeld, hskipped] at h

lemma keeps_abandonHold (input : HoldInput) (d : RunDir) : KeepsSkipped rt d (abandonHold rt now input d).2 := by
  apply keeps_asLockHolder
  apply keeps_transact
  intro ledger after next _ hdecide
  dsimp only at hdecide
  split at hdecide
  · simp at hdecide
  · next item hitem =>
    split at hdecide
    · simp at hdecide
    · next hheld =>
      cases hdecide
      exact Keeps.set_of_not (heldItem_eq_ok hitem) (not_skipped_of_isHeld (by simpa using hheld))

lemma keeps_invalidateHold (input : HoldInput) (d : RunDir) :
    KeepsSkipped rt d (invalidateIncompleteHoldForReclassify rt now input d).2 := by
  unfold invalidateIncompleteHoldForReclassify
  split
  · exact Keeps.refl _ _
  · apply keeps_transact
    intro ledger after next _ hdecide
    dsimp only at hdecide
    split at hdecide
    · simp at hdecide
    · next item hitem =>
      cases hdecide
      obtain ⟨hget, hheld⟩ := Option.filter_eq_some_iff.1 hitem
      have hheld : isHeld item = true := by
        simp only [Bool.and_eq_true] at hheld
        exact hheld.1
      exact Keeps.set_of_not hget (not_skipped_of_isHeld hheld)

lemma keeps_resumeHold (input : ResumeHoldInput) (d : RunDir) : KeepsSkipped rt d (resumeHold rt now input d).2 := by
  apply keeps_asLockHolder
  have htransact : KeepsSkipped rt d (transact rt now none input.token (decideResume rt now input) d).2 := by
    apply keeps_transact
    intro ledger after next _ hdecide
    obtain ⟨item, hitem, hheld, rfl⟩ := decideResume_eq_ok rt now hdecide
    exact Keeps.set_of_not hitem (not_skipped_of_isHeld hheld)
  split
  · next hrun => simpa [hrun] using htransact
  · next hrun => simpa [hrun] using htransact
  · next d₁ hrun =>
    rw [hrun] at htransact
    -- an incomplete request: the hold is invalidated instead
    exact htransact.trans (keeps_invalidateHold rt now input.toHoldInput d₁)

/-! ## Passes over all items -/

/-- What a pass observes when it moves a skipped item: a pull request that carries it forward, or
one that still advances while the worktree has drifted from the bound head. -/
def Revives (identity : LoopExternalIdentity) (bound : Option LoopExternalIdentity) : Prop :=
  (verifiedForwardTarget rt identity).isSome = true ∨
    (localRemoteIdentityDrift rt identity bound = true ∧ isAdvanceStillNeeded identity = true)

lemma stateAfter_skipped_iff {identity : LoopExternalIdentity} {bound : Option LoopExternalIdentity} :
    stateAfter rt .skipped identity bound = .skipped ↔ ¬Revives rt identity bound := by
  cases htarget : verifiedForwardTarget rt identity with
  | none =>
    rw [stateAfter_local rt (by rfl) htarget]
    cases hadvance : isAdvanceStillNeeded identity <;>
      simp [Revives, htarget, hadvance, isOwnedHold, healable]
  | some target =>
    -- with a target a skipped item counts as behind, like any local state
    have hbehind : classifyDrift rt .skipped identity bound = some .ledgerBehind := by
      simp [classifyDrift, isRemoteProvingState, htarget]
    have hafter : stateAfter rt .skipped identity bound = target := by simp [stateAfter, hbehind, htarget]
    have hne : target ≠ .skipped := by
      rintro rfl
      rcases (verifiedForwardTarget_eq_some rt htarget).2 with ⟨h, _⟩ | ⟨_, _, _, ⟨h, _⟩ | ⟨h, _⟩⟩
      all_goals simp at h
    simp [hafter, hne, Revives, htarget]

/-- No skipped item of the ledger is observed so by a reconciliation. -/
def RevivesNone (deps : ReconcileObserveDeps) (ledger : LoopLedger) : Prop :=
  ∀ id entry identity, ledger.items.get? id = some entry → IsSkipped entry →
    deps.observe id (ledger.lifecycle.map (·.logicalOperationId)) = .ok identity →
      ¬Revives rt identity entry.lastVerifiedIdentity

variable {deps : ReconcileObserveDeps} {input : ReconcileInput}

lemma keeps_reconcile (h : ∀ ledger, (readLedger rt now none d).1 = .ok ledger → RevivesNone rt deps ledger) :
    KeepsSkipped rt d (reconcile rt now deps input d).2 := by
  apply keeps_transact
  intro ledger report next hread hdecide
  obtain ⟨results, hresults, hitems⟩ := items_of_decided rt hdecide
  intro id entry hget hskipped
  rw [hitems]
  rcases JsObject.get?_traverse hresults id with ⟨hnone, _⟩ | ⟨entry', r, hget', hr, hresult⟩
  · simp [hget] at hnone
  · obtain rfl : entry = entry' := by simpa [hget] using hget'
    refine ⟨r.entry, by simp [hresult], ?_⟩
    unfold observeItem at hr
    split at hr
    · simp at hr
    · next identity hidentity =>
      have hsafe := h ledger hread id entry identity hget hskipped hidentity
      have hstate := (reconcileItem_eq_ok rt hr).1
      rw [show entry.state = .skipped from hskipped] at hstate
      exact hstate.trans ((stateAfter_skipped_iff rt).2 hsafe)

lemma reconcile_keeps_iff {d₁ : RunDir} {report : LoopReconciliation}
    (h : reconcile rt now deps input d = (.ok report, d₁)) : KeepsSkipped rt d d₁ ↔
      ∀ ledger, (readLedger rt now none d).1 = .ok ledger → RevivesNone rt deps ledger := by
  constructor
  · intro hkeeps ledger hread id entry identity hget hskipped hidentity
    obtain ⟨_, ledger', hread', hturns⟩ := reconcile_eq_ok h
    obtain rfl : ledger = ledger' := by simpa [hread] using hread'
    rw [readLedger_items rt now hread] at hget
    obtain ⟨entry', hget', hskipped'⟩ := hkeeps id entry hget hskipped
    rcases hturns id with ⟨hnone, _⟩ | ⟨identity', hidentity', hturn⟩
    · simp [hget] at hnone
    · obtain rfl : identity = identity' := by simpa [hidentity] using hidentity'
      rw [hget, hget'] at hturn
      have hstate := hturn.2.1
      rw [show entry.state = .skipped from hskipped, show entry'.state = .skipped from hskipped'] at hstate
      exact (stateAfter_skipped_iff rt).1 hstate.symm
  · intro hnone
    have hkeeps : KeepsSkipped rt d (reconcile rt now deps input d).2 := keeps_reconcile rt now hnone
    rwa [h] at hkeeps

/-- The catch-up repairs forward only to `ready` and `merged`. -/
def CatchesUpNone (deps : ReconcileObserveDeps) (ledger : LoopLedger) : Prop :=
  ∀ id entry identity, ledger.items.get? id = some entry → IsSkipped entry →
    deps.observe id (ledger.lifecycle.map (·.logicalOperationId)) = .ok identity →
      verifiedForwardTarget rt identity ≠ some .ready ∧ verifiedForwardTarget rt identity ≠ some .merged

lemma keeps_catchUp (h : ∀ ledger, (readLedger rt now none d).1 = .ok ledger → CatchesUpNone rt deps ledger) :
    KeepsSkipped rt d (resumeRecoveryExhaustedTerminalCatchUp rt now deps input d).2 := by
  apply keeps_transact
  intro ledger _ next hread hdecide
  split at hdecide
  · simp at hdecide
  · split at hdecide
    · simp at hdecide
    · next results hresults =>
      split at hdecide
      · simp at hdecide
      · cases hdecide
        intro id entry hget hskipped
        rcases JsObject.get?_traverse hresults id with ⟨hnone, _⟩ |
          ⟨entry', r, hget', hr, hresult⟩
        · simp [hget] at hnone
        · obtain rfl : entry = entry' := by simpa [hget] using hget'
          refine ⟨r.1, by simp [bindLifecycleForItemTransition, hresult], ?_⟩
          unfold catchUpItem at hr
          split at hr
          · simp at hr
          · next identity hidentity =>
            have hsafe := h ledger hread id entry identity hget hskipped hidentity
            split at hr
            · cases hr
              exact hskipped
            · next target htarget =>
              rw [htarget] at hsafe
              have hno : ¬(target = .ready ∨ target = .merged) := by simpa using hsafe
              simp only [hno, false_and, if_false, Except.ok.injEq] at hr
              rw [← hr]
              exact hskipped

end Operations

/-! ## Runs -/

/-- The operations that rewrite item states. -/
inductive LoopOp where
  | reconcile (now : Instant) (deps : ReconcileObserveDeps) (input : ReconcileInput)
  | catchUp (now : Instant) (deps : ReconcileObserveDeps) (input : ReconcileInput)
  | transitionItem (now : Instant) (deps : ReconcileObserveDeps) (contract : LoopContract)
      (input : TransitionItemInput)
  | propagateSkips (now : Instant) (statuses : String → Option ExternalDependencyStatus)
      (contract : LoopContract) (engine : LoopEngineName) (token : String)
  | blockItem (now : Instant) (contract : LoopContract) (input : BlockItemInput)
  | startRecoveryAttempt (now : Instant) (contract : LoopContract)
      (input : StartRecoveryAttemptInput)
  | completeRecoveryAttempt (now : Instant) (contract : LoopContract)
      (input : CompleteRecoveryAttemptInput)
  | pauseItem (now : Instant) (input : HoldInput)
  | waitItem (now : Instant) (input : HoldInput) (request : WaitRequestInput) (uuid : String)
  | resumeHold (now : Instant) (input : ResumeHoldInput)
  | abandonHold (now : Instant) (input : HoldInput)

section Runs

variable (rt : JsRuntime)

/-- The directory after an operation, whether it was refused or not. -/
def LoopOp.apply : LoopOp → RunDir → RunDir
  | .reconcile now deps input, d => (Loop.reconcile rt now deps input d).2
  | .catchUp now deps input, d => (resumeRecoveryExhaustedTerminalCatchUp rt now deps input d).2
  | .transitionItem now deps contract input, d =>
    (Loop.transitionItem rt now deps contract input d).2
  | .propagateSkips now statuses contract engine token, d =>
    (skipCycle rt now statuses contract engine token d).2
  | .blockItem now contract input, d => (Loop.blockItem rt now contract input d).2
  | .startRecoveryAttempt now contract input, d =>
    (Loop.startRecoveryAttempt rt now contract input d).2
  | .completeRecoveryAttempt now contract input, d =>
    (Loop.completeRecoveryAttempt rt now contract input d).2
  | .pauseItem now input, d => (Loop.pauseItem rt now input d).2
  | .waitItem now input request uuid, d => (Loop.waitItem rt now input request uuid d).2
  | .resumeHold now input, d => (Loop.resumeHold rt now input d).2
  | .abandonHold now input, d => (Loop.abandonHold rt now input d).2

def loopStep (d : RunDir) (op : LoopOp) : Option RunDir := some (op.apply rt d)

/-- The directory after operations one after the other. -/
def applyAll (d : RunDir) (ops : List LoopOp) : RunDir :=
  ops.foldl (fun d op => op.apply rt d) d

lemma exec_loopStep (d : RunDir) (ops : List LoopOp) :
    Transition.exec (loopStep rt) d ops = some (applyAll rt d ops) := by
  induction ops generalizing d with
  | nil => rfl
  | cons op ops ih => exact ih (op.apply rt d)

/-- The passes over all items revive no skipped one; every other operation is free. -/
def RevivesNoSkipped (d : RunDir) : LoopOp → Prop
  | .reconcile now deps _ =>
    ∀ ledger, (readLedger rt now none d).1 = .ok ledger → RevivesNone rt deps ledger
  | .catchUp now deps _ =>
    ∀ ledger, (readLedger rt now none d).1 = .ok ledger → CatchesUpNone rt deps ledger
  | _ => True

lemma keeps_step {op : LoopOp} (h : RevivesNoSkipped rt d op) : KeepsSkipped rt d (op.apply rt d) := by
  cases op with
  | reconcile now deps input => exact keeps_reconcile rt now h
  | catchUp now deps input => exact keeps_catchUp rt now h
  | transitionItem now deps contract input =>
    exact keeps_transitionItem rt now deps contract input d
  | propagateSkips now statuses contract engine token =>
    exact keeps_skipCycle rt now statuses contract engine token d
  | blockItem now contract input => exact keeps_blockItem rt now contract input d
  | startRecoveryAttempt now contract input =>
    exact keeps_startRecoveryAttempt rt now contract input d
  | completeRecoveryAttempt now contract input =>
    exact keeps_completeRecoveryAttempt rt now contract input d
  | pauseItem now input => exact keeps_enterHold rt now input .paused none d
  | waitItem now input request uuid => exact keeps_waitItem rt now input request uuid d
  | resumeHold now input => exact keeps_resumeHold rt now input d
  | abandonHold now input => exact keeps_abandonHold rt now input d

/-- Over every run whose passes revive no skipped item, what was skipped stays skipped; and a
reconciliation that completes meets that condition exactly when it keeps its skipped items. -/
theorem skipped_stays_skipped :
    (∀ (d d' : RunDir) (ops : List LoopOp), Transition.Run (loopStep rt) (RevivesNoSkipped rt) d ops d' →
        Keeps IsSkipped (itemsInForce rt d) (itemsInForce rt d')) ∧
    ∀ (now : Instant) (deps : ReconcileObserveDeps) (input : ReconcileInput) (d d₁ : RunDir)
        (report : LoopReconciliation),
      Loop.reconcile rt now deps input d = (.ok report, d₁) →
        (Keeps IsSkipped (itemsInForce rt d) (itemsInForce rt d₁) ↔
          RevivesNoSkipped rt d (.reconcile now deps input)) := by
  refine ⟨fun d d' ops hrun => ?_, fun now deps input d d₁ report => reconcile_keeps_iff rt now⟩
  refine hrun.relation (I := fun _ => True)
    (R := fun d d' => Keeps IsSkipped (itemsInForce rt d) (itemsInForce rt d'))
    (fun _ => Keeps.refl _ _) (fun _ _ _ => Keeps.trans) (fun _ _ _ _ _ _ => trivial) ?_ trivial
  intro d op d' hok _ hstep
  obtain rfl : op.apply rt d = d' := by simpa [loopStep] using hstep
  exact keeps_step rt hok

end Runs

/-! ## A skipped item that comes back -/

/-- A run of an issue and one that depends on it. -/
def dependentRun : RunDir :=
  { pendingRun with
    contract := { pendingRun.contract with
      items := [{ id := "5", dependsOn := [], externalDependsOn := [] },
        { id := "7", dependsOn := ["5"], externalDependsOn := [] }] }
    ledger := { pendingRun.ledger with
      items := (JsObject.empty.set "5" (pendingItemEntry "5")).set "7" (pendingItemEntry "7") } }

def holdOf (itemId : String) : HoldInput where
  token := "t"
  itemId := itemId
  engine := .claude
  minted := "op"

/-- The supervisor starts the first issue, an operator pauses and abandons it, and its dependent
is skipped. -/
def skippingOps : List LoopOp :=
  [.transitionItem .epoch ⟨fun _ _ => .error (invalid ""), fun _ => none⟩ dependentRun.contract
      { token := "t", itemId := "5", engine := .claude, target := .inProgress, minted := "op" },
    .pauseItem .epoch (holdOf "5"),
    .abandonHold .epoch (holdOf "5"),
    .propagateSkips .epoch (fun _ => none) dependentRun.contract .claude "t"]

/-- No pull request yet. -/
def absentIdentity : LoopExternalIdentity :=
  { unboundReadyIdentity with
    readyLabelPresent := false, prNumber := none, prState := none, headSha := ""
    linkedPrNumbers := [] }

/-- The merged implementation of an issue. -/
def mergedIdentity : LoopExternalIdentity :=
  { unboundReadyIdentity with
    readyLabelPresent := false, prState := some .merged, mergeCommitSha := some "m"
    integrationCertainty := some .knownComplete, artifactRole := some .implementation
    artifactIdentity := some "pr:12", candidateEpoch := some "a", logicalOperationId := some "op" }

/-- What an observer that expects the operation of the ledger reports. -/
def expecting (identity : LoopExternalIdentity) (expected : Option String) :
    LoopExternalIdentity :=
  { identity with expectedLogicalOperationId := expected }

/-- A reconciliation that finds `identity` for the dependent issue. -/
def reconcileDependent (identity : LoopExternalIdentity) : LoopOp :=
  .reconcile .epoch
    ⟨fun id => .ok ∘ expecting (if id = "7" then identity else absentIdentity), fun _ => none⟩
    pendingRunInput

/-- The directory in which the dependent issue is skipped. -/
def skippedRun : RunDir := applyAll (.onFirstDay []) dependentRun skippingOps

def dependentState (d : RunDir) : Option LoopItemState :=
  ((itemsInForce (.onFirstDay []) d).get? "7").map (·.state)

lemma dependentState_skippedRun : dependentState skippedRun = some .skipped := by
  decide +kernel

/-- The dependent issue is skipped, and a reconciliation that finds its pull request merged moves
it to `merged`. -/
theorem reconcile_revives_skipped :
    ¬∀ (rt : JsRuntime) (d d' : RunDir) (ops : List LoopOp) (op : LoopOp),
      Transition.exec (loopStep rt) dependentRun ops = some d →
        loopStep rt d op = some d' → Keeps IsSkipped (itemsInForce rt d) (itemsInForce rt d') := by
  intro h
  have hafter : dependentState ((reconcileDependent mergedIdentity).apply (.onFirstDay [])
      skippedRun) = some .merged := by decide +kernel
  obtain ⟨entry, hget, hskipped⟩ := Option.map_eq_some_iff.1 dependentState_skippedRun
  have hkeeps := h (.onFirstDay []) skippedRun _ skippingOps (reconcileDependent mergedIdentity)
    (exec_loopStep _ _ _) rfl
  obtain ⟨entry', hget', hskipped'⟩ := hkeeps "7" entry hget hskipped
  obtain ⟨moved, hmoved, hstate⟩ := Option.map_eq_some_iff.1 hafter
  obtain rfl : entry' = moved := by simpa [hget'] using hmoved
  simp [IsSkipped, hstate] at hskipped'

lemma revivesNoSkipped_absent (d : RunDir) :
    RevivesNoSkipped (.onFirstDay []) d (reconcileDependent absentIdentity) := by
  intro ledger _ id entry identity _ _ hidentity
  obtain rfl : expecting absentIdentity (ledger.lifecycle.map (·.logicalOperationId)) = identity := by
    simpa using hidentity
  rintro (htarget | ⟨_, hadvance⟩)
  · simp [verifiedForwardTarget, expecting, absentIdentity] at htarget
  · exact absurd hadvance (show ¬isAdvanceStillNeeded absentIdentity by decide +kernel)

/-- The dependent issue stays skipped while no pull request is found for it. -/
theorem skipped_stays_skipped_absent :
    dependentState skippedRun = some .skipped ∧ Keeps IsSkipped (itemsInForce (.onFirstDay []) skippedRun)
        (itemsInForce (.onFirstDay [])
          ((reconcileDependent absentIdentity).apply (.onFirstDay []) skippedRun)) := by
  refine ⟨dependentState_skippedRun, ?_⟩
  exact (skipped_stays_skipped (.onFirstDay [])).1 _ _ [reconcileDependent absentIdentity]
    (.cons (revivesNoSkipped_absent skippedRun) rfl (.nil _))

end AgentPipeline.Loop
