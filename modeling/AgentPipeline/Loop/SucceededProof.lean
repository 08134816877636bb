import AgentPipeline.Loop.CoolingClosure
import AgentPipeline.Loop.LifecycleRun
import AgentPipeline.Loop.SkippedTerminal

/-!
# SucceededProof: whether an operation succeeds only on current proof

`lifecycleOwnershipAfterItemTransition` states the rule: `succeeded` requires observer proof and
current authoritative proof for every item, and stored sibling state is not proof. The operations
that move items derive their ownership from it. The all-done branch of `runSupervisorCycle` does
not: it tells `admitOrRefreshLifecycle` that the postcondition is proved because every item of the
contract is stored in a success state.

* `SupervisedOp`: the steps of a supervised run: the operations of `LoopOp`, the other writes of a
  cycle, its admissions, and re-reads;
* `Earned`: what one step may do: the run has succeeded already, or every item is proved;
* `succeeded_needs_current_proof`: over whole runs, while the all-done branch finds its items
  proved.
-/

namespace AgentPipeline.Loop

open Transition (Run)

/-! ## The admissions of a cycle -/

/-- `DONE_OR_ABANDONED`. -/
def isDoneOrAbandoned : LoopItemState → Bool
  | .ready | .merged | .released | .deployed | .abandoned | .skipped => true
  | _ => false

/-- Every item of the contract is stored in a state that passes. -/
def LoopContract.allItems (contract : LoopContract) (ledger : LoopLedger)
    (passes : LoopContractItem → Option LoopItemState → Bool) : Bool :=
  contract.items.all fun i => passes i ((ledger.items.get? i.id).map (·.state))

/-- `allSucceeded` of the all-done branch. -/
def allSucceeded (contract : LoopContract) (ledger : LoopLedger) : Bool :=
  contract.allItems ledger fun _ state => state.any isObserverSuccessState

section Admissions

variable (rt : JsRuntime) (now : Instant)

/-- `coolingIsActive(cooling, nowIso)`: Cooling without a wake time is active. -/
def coolingIsActive (cooling : LoopCoolingRecord) (nowIso : String) : Bool :=
  match cooling.nextEligibleAt.filter (· ≠ "") with
  | none => true
  | some wakeAt =>
    match rt.dateParse wakeAt, rt.dateParse nowIso with
    | some wake, some now => now.ms < wake.ms
    | _, _ => false

/-- The ledger that an admission binds its ownership to. -/
def admittedLedger (minted : String) (contract : LoopContract) (ledger : LoopLedger)
    (observerProvedPostcondition : Bool) : LoopLedger :=
  bindLifecycle contract ledger
    (reportedOwnership ledger.lifecycle
      { typedRequest := typedRequestFromOwnedItems ledger.items
        cooling := ledger.cooling.isSome
        stopReason := ledger.stop.map (·.reason)
        observerProvedPostcondition
        activeAttempt := true })
    (rt.toISOString now) minted

/-- `admitOrRefreshLifecycle(deps, contract, ledger, token, extra)`, on the ledger that the cycle
holds. -/
def admitOrRefreshLifecycle (token minted : String) (contract : LoopContract) (ledger : LoopLedger)
    (observerProvedPostcondition : Bool) (d : RunDir) : Except LoopError LoopLedger × RunDir :=
  let next := admittedLedger rt now minted contract ledger observerProvedPostcondition
  -- `next === ledger`: nothing is written while the record stays
  if next.lifecycle = ledger.lifecycle then (.ok ledger, d)
  else
    match writeLedger rt token next d with
    | (.error e, d') => (.error e, d')
    | (.ok (), d') => (.ok next, d')

/-- The all-done branch of `runSupervisorCycle`, on the ledger that the cycle holds; `excluded` are
the items that its precondition gate keeps out. -/
def allDoneBranch (token minted : String) (excluded : List String) (contract : LoopContract)
    (ledger : LoopLedger) (d : RunDir) : Except LoopError LoopLedger × RunDir :=
  if contract.allItems ledger fun i state =>
      state.any isDoneOrAbandoned || decide (i.id ∈ excluded) then
    -- the stored states decide alone here; no identity is consulted
    if allSucceeded contract ledger then
      admitOrRefreshLifecycle rt now token minted contract ledger true d
    else (.ok ledger, d)
  else (.ok ledger, d)

/-- The ledger that a cycle holds while it works: what it last read or wrote, upgraded. -/
def cycleLedger (d : RunDir) : LoopLedger :=
  upgradeLedgerForRecovery rt (d.contract.normalize rt d.ledger)

/-- The start of a cycle: read, and admit without proof. -/
def startCycle (token minted : String) (d : RunDir) : Except LoopError LoopLedger × RunDir :=
  match readLedger rt now (some token) d with
  | (.error e, d₁) => (.error e, d₁)
  | (.ok ledger, d₁) =>
    admitOrRefreshLifecycle rt now token minted d.contract ledger false d₁

/-- A cycle drops Cooling that is over. -/
def expireCooling (token : String) (d : RunDir) : Except LoopError Unit × RunDir :=
  let ledger := d.contract.normalize rt d.ledger
  if ledger.cooling.any fun cooling => !coolingIsActive rt cooling (rt.toISOString now) then
    writeLedger rt token { ledger with cooling := none } d
  else (.ok (), d)

end Admissions

/-! ## Runs -/

/-- The clock of an operation. -/
def LoopOp.clock : LoopOp → Instant
  | .reconcile now .. | .catchUp now .. | .transitionItem now .. | .propagateSkips now ..
  | .blockItem now .. | .startRecoveryAttempt now .. | .completeRecoveryAttempt now ..
  | .pauseItem now .. | .waitItem now .. | .resumeHold now .. | .abandonHold now .. => now

/-- The steps of a supervised run. -/
inductive SupervisedOp where
  | loop (op : LoopOp)
  | supersede (now : Instant) (token itemId : String) (select : LoopRecoveryAttempt → Bool)
  | cool (now : Instant) (token : String) (cooling : LoopCoolingRecord)
  | expireCooling (now : Instant) (token : String)
  | startCycle (now : Instant) (token minted : String)
  | allDone (now : Instant) (token minted : String) (excluded : List String)
  | reread (now : Instant) (token : Option String)

namespace SupervisedOp

variable (rt : JsRuntime)

def clock : SupervisedOp → Instant
  | .loop op => op.clock
  | .supersede now .. | .cool now .. | .expireCooling now .. | .startCycle now ..
  | .allDone now .. | .reread now .. => now

/-- The directory after a step, whether it was refused or not. -/
def apply (d : RunDir) : SupervisedOp → RunDir
  | .loop op => op.apply rt d
  | .supersede now token itemId select =>
    (supersedeStartedRecoveryAttempts rt now token itemId select d).2
  | .cool now token cooling => (persistOwnedCooling rt now token cooling d).2
  | .expireCooling now token => (Loop.expireCooling rt now token d).2
  | .startCycle now token minted => (Loop.startCycle rt now token minted d).2
  | .allDone now token minted excluded =>
    (allDoneBranch rt now token minted excluded d.contract (cycleLedger rt d) d).2
  | .reread now token => (readLedger rt now token d).2

def step (d : RunDir) (op : SupervisedOp) : Option RunDir := some (op.apply rt d)

end SupervisedOp

/-- The lifecycle record is `succeeded`. -/
def LoopLedger.hasSucceeded (ledger : LoopLedger) : Bool :=
  ledger.lifecycle.any fun rec => rec.state = .succeeded

section Proof

variable (rt : JsRuntime)

/-- Every item is proved in its own state, by an identity that is fresh at the time that a step at
`now` stamps. -/
def provesEveryItem (now : Instant) (items : JsObject LoopItemLedgerEntry) : Bool :=
  items.values.all fun item =>
    identityProvesObserverSuccessState rt item.state item.lastVerifiedIdentity
      (rt.dateParse (rt.toISOString now))

/-- Where the all-done branch is about to let the run succeed, every item of the ledger is proved,
whether the contract names it or not. -/
def SupervisedOp.ProvedWhenDone (d : RunDir) : SupervisedOp → Prop
  | .allDone now _ _ _ =>
    allSucceeded d.contract d.ledger = true → d.ledger.lifecycle.any (·.state.isTerminal) = false →
        provesEveryItem rt now d.ledger.items = true
  | _ => True

instance (d : RunDir) : (op : SupervisedOp) → Decidable (op.ProvedWhenDone rt d)
  | .allDone .. => inferInstanceAs (Decidable (_ = true → _ = false → _ = true))
  | .loop _ | .supersede .. | .cool .. | .expireCooling .. | .startCycle .. | .reread .. =>
    inferInstanceAs (Decidable True)

/-! ## Ledgers -/

/-- What an operation makes of the lifecycle: a ledger has succeeded because it had before, or
because its items are as `P` says; and what has succeeded stays so. -/
structure Earns (P : JsObject LoopItemLedgerEntry → Prop) (ledger next : LoopLedger) : Prop where
  earned : next.hasSucceeded = true → ledger.hasSucceeded = true ∨ P next.items
  kept : ledger.hasSucceeded = true → next.hasSucceeded = true

variable {P : JsObject LoopItemLedgerEntry → Prop} {ledger next : LoopLedger}

lemma hasSucceeded_congr (h : next.lifecycle = ledger.lifecycle) : next.hasSucceeded = ledger.hasSucceeded := by
  simp [LoopLedger.hasSucceeded, h]

lemma Earns.of_lifecycle (h : next.lifecycle = ledger.lifecycle) : Earns P ledger next where
  earned hnext := .inl (by rwa [← hasSucceeded_congr h])
  kept hledger := by rwa [hasSucceeded_congr h]

lemma Earns.congr_left {ledger' : LoopLedger}
    (h : ledger'.lifecycle = ledger.lifecycle) (hearns : Earns P ledger next) :
    Earns P ledger' next where
  earned hnext := by
    rw [hasSucceeded_congr h]
    exact hearns.earned hnext
  kept hledger := hearns.kept (by rwa [← hasSucceeded_congr h])

variable {time : String} {id : String} {ownership : LifecycleOwnership}

lemma hasSucceeded_bindLifecycleRecord : (bindLifecycleRecord ledger id ownership time).hasSucceeded = true ↔
      ledger.hasSucceeded = true ∨ (ownership.state = .succeeded ∧
        ledger.lifecycle.any (·.state.isTerminal) = false) := by
  unfold LoopLedger.hasSucceeded bindLifecycleRecord applyLifecycleTransition
  cases hrec : ledger.lifecycle with
  | none => simp
  | some rec =>
    simp only [Option.any_some, decide_eq_true_eq]
    split
    · next hsticky =>
      have hterminal := RecoveryLifecycleState.isTerminal_iff.2 hsticky.1
      simp [hterminal]
    · next hfree =>
      split
      · next hsame =>
        -- the record already has this ownership
        have hstate : ownership.state = rec.state := by rw [← hsame]
        rw [hstate]
        exact (or_iff_left_of_imp And.left).symm
      · constructor
        · intro hstate
          by_cases hterminal : rec.state.isTerminal = true
          · -- a terminal record is replaced only by the same state
            left
            by_contra hother
            refine hfree ⟨RecoveryLifecycleState.isTerminal_iff.1 hterminal, ?_⟩
            rw [hstate]
            exact Ne.symm hother
          · exact .inr ⟨hstate, by simpa using hterminal⟩
        · rintro (hsucceeded | ⟨hstate, _⟩)
          · by_contra hother
            exact hfree ⟨.inl hsucceeded, by rwa [hsucceeded]⟩
          · exact hstate

variable {base : LoopLedger}

lemma Earns.bind
    (hbase : base.lifecycle = ledger.lifecycle)
    (hownership : ownership.state = .succeeded → ledger.lifecycle.any (·.state.isTerminal) = false →
        ledger.hasSucceeded = true ∨ P base.items) :
    Earns P ledger (bindLifecycleRecord base id ownership time) where
  earned hnext := by
    rcases hasSucceeded_bindLifecycleRecord.1 hnext with hsucceeded | ⟨hstate, hopen⟩
    · exact .inl (by rwa [← hasSucceeded_congr hbase])
    · exact hownership hstate (by rwa [← hbase])
  kept hledger := hasSucceeded_bindLifecycleRecord.2 (.inl (by rwa [hasSucceeded_congr hbase]))

variable {input : LifecycleDerivationInput}

/-- Without proof, an ownership is never `succeeded`. -/
lemma deriveLifecycleState_succeeded (h : (deriveLifecycleState input).state = .succeeded) :
    input.observerProvedPostcondition = true := by
  unfold deriveLifecycleState at h
  split at h
  · simp [owned] at h
  · split at h
    · next hproof => exact hproof
    · repeat' split at h
      all_goals simp [owned] at h

lemma reportedOwnership_succeeded (h : (reportedOwnership ledger.lifecycle input).state = .succeeded) :
    ledger.hasSucceeded = true ∨ input.observerProvedPostcondition = true := by
  cases hrec : ledger.lifecycle with
  | none =>
    rw [hrec] at h
    exact .inr (deriveLifecycleState_succeeded h)
  | some rec =>
    simp only [hrec, reportedOwnership, consultLifecycleRecord] at h
    split at h
    · simp [owned] at h
    · split at h
      · next hproof => exact .inr hproof
      · split at h
        · simp [owned] at h
        · split at h
          · have hproof := deriveLifecycleState_succeeded h
            exact .inr hproof
          · exact .inl (by simpa [LoopLedger.hasSucceeded, hrec, ownershipFromRecord] using h)

lemma earns_itemTransition (now : Instant) (id : String)
    (proved : Bool) (hbase : base.lifecycle = ledger.lifecycle) :
    Earns (fun items => provesEveryItem rt now items = true) ledger
      (bindLifecycleForItemTransition rt base id (rt.toISOString now) proved) := by
  refine Earns.bind hbase fun hstate _ => .inr ?_
  have hproof := deriveLifecycleState_succeeded hstate
  simp only [Bool.and_eq_true] at hproof
  exact hproof.2.2

variable {contract : LoopContract} {minted : String}

lemma earns_admitRecoveryLifecycle (hbase : base.lifecycle = ledger.lifecycle) :
    Earns P ledger (admitRecoveryLifecycle contract base time minted) := by
  refine Earns.bind hbase fun hstate _ => .inl ?_
  rw [← hasSucceeded_congr hbase]
  have hreported : base.hasSucceeded = true ∨ false = true := reportedOwnership_succeeded hstate
  simpa using hreported

lemma earns_bindHoldLifecycle {id : Option String} (hbase : base.lifecycle = ledger.lifecycle) :
    Earns P ledger (bindHoldLifecycle base time id minted) := by
  refine Earns.bind hbase fun hstate _ => ?_
  have hproof := deriveLifecycleState_succeeded hstate
  simp at hproof

lemma upgrade_lifecycle (ledger : LoopLedger) : (upgradeLedgerForRecovery rt ledger).lifecycle = ledger.lifecycle := rfl

lemma earns_admitOnly {after : LoopLedger} (hbase : base.lifecycle = ledger.lifecycle)
    (h : admitOnly contract base time minted = (after, some next)) : Earns P ledger next := by
  rw [admitOnly_eq_some h]
  exact earns_admitRecoveryLifecycle hbase

/-! ## Directories -/

/-- The last valid generation has not succeeded before the ledger did. -/
def InStep (d : RunDir) : Prop :=
  ∀ last, d.lastValid = some last → last.hasSucceeded = true → d.ledger.hasSucceeded = true

/-- What a step makes of a directory. -/
structure Earned (P : JsObject LoopItemLedgerEntry → Prop) (d d' : RunDir) : Prop where
  inStep : InStep d'
  earned : d'.ledger.hasSucceeded = true → d.ledger.hasSucceeded = true ∨ P d'.ledger.items

lemma Earned.refl {d : RunDir} (h : InStep d) : Earned P d d := ⟨h, .inl⟩

lemma Earned.after {d d₁ d₂ : RunDir} (h₁ : Earned (fun _ => False) d d₁)
    (h₂ : Earned P d₁ d₂) : Earned P d d₂ where
  inStep := h₂.inStep
  earned hsucceeded := by
    rcases h₂.earned hsucceeded with hbefore | hproved
    · exact .inl ((h₁.earned hbefore).resolve_right id)
    · exact .inr hproved

variable (now : Instant)

lemma earned_readLedger (token : Option String) {d : RunDir} (h : InStep d) :
    Earned (fun _ => False) d (readLedger rt now token d).2 ∧ ∀ ledger, (readLedger rt now token d).1 = .ok ledger →
        ledger.lifecycle = (readLedger rt now token d).2.ledger.lifecycle := by
  have hwait : ∀ evidence rejected (aside : RunDir), InStep aside → aside.ledger = d.ledger → Earned (fun _ => False) d
          (persistUnreconstructableOwnedWait rt now token evidence aside rejected).2 ∧
        ∀ ledger, (persistUnreconstructableOwnedWait rt now token evidence aside rejected).1 = .ok ledger →
          ledger.lifecycle = (persistUnreconstructableOwnedWait rt now token evidence aside
            rejected).2.ledger.lifecycle := by
    intro evidence rejected aside haside hsame
    have hrefused : Earned (fun _ => False) d aside := ⟨haside, fun hs => .inl (hsame ▸ hs)⟩
    unfold persistUnreconstructableOwnedWait
    split
    · exact ⟨hrefused, by simp⟩
    · split
      · exact ⟨hrefused, by simp⟩
      · split
        · exact ⟨hrefused, by simp⟩
        · -- the wait has no lifecycle
          refine ⟨⟨?_, ?_⟩, ?_⟩
          · rintro last hlast hsucceeded
            obtain rfl := Option.some.inj hlast
            exact hsucceeded
          · intro hsucceeded
            simp [LoopLedger.hasSucceeded, ownedWait] at hsucceeded
          · rintro ledger hok
            obtain rfl := Except.ok.inj hok
            rfl
  unfold readLedger
  dsimp only
  split
  · refine ⟨Earned.refl h, ?_⟩
    rintro ledger hok
    obtain rfl := Except.ok.inj hok
    rfl
  · split
    · next last hlast =>
      split
      · -- a restored generation had not succeeded before the rejected one
        refine ⟨⟨?_, fun hs => .inl (h last hlast hs)⟩, ?_⟩
        · intro last' hlast' hsucceeded
          obtain rfl : last = last' := by simpa [hlast] using hlast'
          exact hsucceeded
        · rintro ledger hok
          obtain rfl := Except.ok.inj hok
          rfl
      · exact hwait _ _ _ h rfl
    · exact hwait _ _ _ h rfl

lemma earned_writeLedger (token : String) {d : RunDir} (h : InStep d)
    (hnext : Earns P d.ledger next) : Earned P d (writeLedger rt token next d).2 := by
  unfold writeLedger
  dsimp only
  split
  · exact Earned.refl h
  · split
    · exact Earned.refl h
    · refine ⟨?_, hnext.earned⟩
      -- the kept generation is the written one, the one before it, or the last valid one
      intro last hlast hsucceeded
      split at hlast
      · obtain rfl := Option.some.inj hlast
        exact hsucceeded
      · split at hlast
        · obtain rfl := Option.some.inj hlast
          exact hnext.kept hsucceeded
        · exact hnext.kept (h last hlast hsucceeded)

variable {token : String} {α : Type}

lemma earned_transact {readToken : Option String}
    {decide : LoopLedger → Except LoopError (α × Option LoopLedger)} {d : RunDir} (h : InStep d)
    (hdecide : ∀ ledger a next, decide ledger = .ok (a, some next) → Earns P ledger next) :
    Earned P d (transact rt now readToken token decide d).2 := by
  obtain ⟨hread, hreturned⟩ := earned_readLedger rt now readToken h
  unfold transact
  split
  · next hresult =>
    rw [hresult] at hread
    exact hread.after (Earned.refl hread.inStep)
  · next ledger d₁ hresult =>
    rw [hresult] at hread hreturned
    have hlifecycle := hreturned ledger rfl
    split
    · exact hread.after (Earned.refl hread.inStep)
    · exact hread.after (Earned.refl hread.inStep)
    · next a next hok =>
      have hwrite := earned_writeLedger rt token hread.inStep
        ((hdecide ledger a next hok).congr_left hlifecycle.symm)
      split
      · next hw => exact hread.after (by simpa [hw] using hwrite)
      · next hw => exact hread.after (by simpa [hw] using hwrite)

/-! ## Operations -/

section Operations

variable {d : RunDir}

lemma earned_reconcile (deps : ReconcileObserveDeps) (input : ReconcileInput) (h : InStep d) :
    Earned (fun items => provesEveryItem rt now items = true) d
      (reconcile rt now deps input d).2 := by
  refine earned_transact rt now h fun ledger report next hdecide => ?_
  obtain ⟨_, results, _, hassemble⟩ := reconcilePass_eq_ok rt (reconcilePass_of_decided rt hdecide)
  have hnext : next = (assembleReconciliation rt deps input (rt.toISOString now) ledger results).2 :=
    congrArg Prod.snd hassemble
  rw [hnext]
  unfold assembleReconciliation
  dsimp only
  split
  · exact earns_itemTransition rt now _ _ rfl
  · exact Earns.of_lifecycle rfl

lemma earned_catchUp (deps : ReconcileObserveDeps) (input : ReconcileInput) (h : InStep d) :
    Earned (fun items => provesEveryItem rt now items = true) d
      (resumeRecoveryExhaustedTerminalCatchUp rt now deps input d).2 := by
  refine earned_transact rt now h fun ledger a next hdecide => ?_
  split at hdecide
  · simp at hdecide
  · split at hdecide
    · simp at hdecide
    · split at hdecide
      · simp at hdecide
      · cases hdecide
        exact earns_itemTransition rt now _ _ rfl

lemma earned_transitionItem (deps : ReconcileObserveDeps) (contract : LoopContract)
    (input : TransitionItemInput) (h : InStep d) :
    Earned (fun items => provesEveryItem rt now items = true) d
      (transitionItem rt now deps contract input d).2 := by
  refine earned_transact rt now h fun ledger a next hdecide => ?_
  obtain ⟨_, _, _, _, _, _, rfl⟩ := decideTransition_eq_ok rt now deps hdecide
  exact earns_itemTransition rt now _ _ rfl

lemma earned_skipCycle (statuses : String → Option ExternalDependencyStatus)
    (contract : LoopContract) (engine : LoopEngineName) (token : String) (h : InStep d) :
    Earned P d (skipCycle rt now statuses contract engine token d).2 := by
  refine earned_transact rt now h fun ledger a next hdecide => ?_
  dsimp only at hdecide
  split at hdecide
  · simp at hdecide
  · cases hdecide
    exact Earns.of_lifecycle rfl

lemma earned_blockItem (contract : LoopContract) (input : BlockItemInput) (h : InStep d) :
    Earned P d (blockItem rt now contract input d).2 := by
  unfold blockItem
  split
  · exact Earned.refl h
  · split
    · exact Earned.refl h
    · refine earned_transact rt now h fun ledger after next hdecide => ?_
      obtain ⟨hwrite, _, _, _, _, rfl⟩ := decideBlock_eq_ok rt now hdecide
      cases hwrite
      exact earns_admitRecoveryLifecycle rfl

lemma earned_startRecoveryAttempt (contract : LoopContract) (input : StartRecoveryAttemptInput)
    (h : InStep d) : Earned P d (startRecoveryAttempt rt now contract input d).2 := by
  unfold startRecoveryAttempt
  split
  · exact Earned.refl h
  · refine earned_transact rt now h fun ledger result next hdecide => ?_
    obtain ⟨after, attempt⟩ := result
    obtain ⟨ctx, _, ⟨_, hadmit⟩ | ⟨_, eligible, _, rfl, hwrite⟩⟩ := decideStart_eq_ok rt now hdecide
    · exact earns_admitOnly (upgrade_lifecycle rt ledger) hadmit
    · cases hwrite
      refine earns_admitRecoveryLifecycle ?_
      unfold ClaimContext.record
      split <;> rfl

lemma earned_completeRecoveryAttempt (contract : LoopContract) (input : CompleteRecoveryAttemptInput) (h : InStep d) :
    Earned P d (completeRecoveryAttempt rt now contract input d).2 := by
  unfold completeRecoveryAttempt
  split
  · exact Earned.refl h
  · refine earned_transact rt now h fun ledger result next hdecide => ?_
    obtain ⟨after, attempt⟩ := result
    rcases decideComplete_eq_ok rt now hdecide with hadmit | ⟨_, _, _, _, _, _, _, rfl, hwrite⟩
    · exact earns_admitOnly (upgrade_lifecycle rt ledger) hadmit
    · cases hwrite
      exact earns_admitRecoveryLifecycle rfl

lemma earned_asLockHolder {operation : String} {engine : LoopEngineName}
    {run : RunDir → Except LoopError α × RunDir} (h : InStep d) (hrun : Earned P d (run d).2) :
    Earned P d (asLockHolder operation token engine run d).2 := by
  rcases asLockHolder_cases operation token engine run d with hrefused | hran
  · rw [hrefused]
    exact Earned.refl h
  · rw [hran]
    exact hrun

lemma earned_enterHold (input : HoldInput) (target : LoopItemState)
    (request : Option LoopHumanInputRequest) (h : InStep d) :
    Earned P d (enterHold rt now input target request d).2 := by
  refine earned_asLockHolder h (earned_transact rt now h fun ledger a next hdecide => ?_)
  split at hdecide
  · simp at hdecide
  · split at hdecide
    · simp at hdecide
    · cases hdecide
      exact earns_bindHoldLifecycle rfl

lemma earned_waitItem (input : HoldInput) (request : WaitRequestInput) (uuid : String)
    (h : InStep d) : Earned P d (waitItem rt now input request uuid d).2 := by
  unfold waitItem
  split
  · exact Earned.refl h
  · exact earned_enterHold rt now input _ _ h

lemma earned_abandonHold (input : HoldInput) (h : InStep d) : Earned P d (abandonHold rt now input d).2 := by
  refine earned_asLockHolder h (earned_transact rt now h fun ledger a next hdecide => ?_)
  split at hdecide
  · simp at hdecide
  · split at hdecide
    · simp at hdecide
    · cases hdecide
      exact Earns.of_lifecycle rfl

lemma earned_invalidateHold (input : HoldInput) (h : InStep d) :
    Earned P d (invalidateIncompleteHoldForReclassify rt now input d).2 := by
  unfold invalidateIncompleteHoldForReclassify
  split
  · exact Earned.refl h
  · refine earned_transact rt now h fun ledger a next hdecide => ?_
    split at hdecide
    · simp at hdecide
    · cases hdecide
      exact earns_bindHoldLifecycle rfl

lemma earned_resumeHold (input : ResumeHoldInput) (h : InStep d) : Earned P d (resumeHold rt now input d).2 := by
  refine earned_asLockHolder h ?_
  -- a resume that hands over to the invalidation has written nothing
  have hresume : Earned (fun _ => False) d
      (transact rt now none input.token (decideResume rt now input) d).2 := by
    refine earned_transact rt now h fun ledger a next hdecide => ?_
    obtain ⟨_, _, _, rfl⟩ := decideResume_eq_ok rt now hdecide
    exact earns_bindHoldLifecycle rfl
  have hdone : Earned P d (transact rt now none input.token (decideResume rt now input) d).2 :=
    hresume.after (Earned.refl hresume.inStep)
  split
  · next hresult => simpa [hresult] using hdone
  · next hresult => simpa [hresult] using hdone
  · next d₁ hresult =>
    rw [hresult] at hresume
    exact hresume.after (earned_invalidateHold rt now input.toHoldInput hresume.inStep)

lemma earned_supersede (token itemId : String) (select : LoopRecoveryAttempt → Bool) (h : InStep d) :
    Earned P d (supersedeStartedRecoveryAttempts rt now token itemId select d).2 := by
  refine earned_transact rt now h fun ledger a next hdecide => ?_
  dsimp only at hdecide
  split at hdecide
  · simp at hdecide
  · cases hdecide
    exact Earns.of_lifecycle rfl

lemma earned_persistOwnedCooling (token : String) (cooling : LoopCoolingRecord) (h : InStep d) :
    Earned P d (persistOwnedCooling rt now token cooling d).2 := by
  refine earned_transact rt now h fun ledger a next hdecide => ?_
  cases hdecide
  exact Earns.of_lifecycle rfl

lemma earned_expireCooling (token : String) (h : InStep d) : Earned P d (expireCooling rt now token d).2 := by
  unfold expireCooling
  dsimp only
  split
  · exact earned_writeLedger rt token h (Earns.of_lifecycle rfl)
  · exact Earned.refl h

/-! ## Admissions -/

variable {proved : Bool}

lemma earns_admittedLedger (minted : String) (contract : LoopContract) (hproved : proved = true →
      ledger.lifecycle.any (·.state.isTerminal) = false → P ledger.items) :
    Earns P ledger (admittedLedger rt now minted contract ledger proved) := by
  refine Earns.bind rfl fun hstate hopen => ?_
  exact (reportedOwnership_succeeded hstate).imp_right fun hp => hproved hp hopen

lemma earned_admitOrRefreshLifecycle (h : InStep d) (hheld : d.ledger.lifecycle = ledger.lifecycle)
    (hproved : proved = true → ledger.lifecycle.any (·.state.isTerminal) = false → P ledger.items) :
    Earned P d (admitOrRefreshLifecycle rt now token minted contract ledger proved d).2 := by
  have hwrite := earned_writeLedger rt token h
    ((earns_admittedLedger rt now minted contract hproved).congr_left hheld)
  unfold admitOrRefreshLifecycle
  dsimp only
  split
  · exact Earned.refl h
  · split
    · next hw => simpa [hw] using hwrite
    · next hw => simpa [hw] using hwrite

lemma earned_startCycle (token minted : String) (h : InStep d) : Earned P d (startCycle rt now token minted d).2 := by
  obtain ⟨hread, hreturned⟩ := earned_readLedger rt now (some token) h
  unfold startCycle
  split
  · next hresult =>
    rw [hresult] at hread
    exact hread.after (Earned.refl hread.inStep)
  · next ledger d₁ hresult =>
    rw [hresult] at hread hreturned
    exact hread.after (earned_admitOrRefreshLifecycle rt now hread.inStep
      (hreturned ledger rfl).symm (by simp))

lemma upgradeItem_lastVerifiedIdentity (item : LoopItemLedgerEntry) :
    (upgradeItem rt item).lastVerifiedIdentity = item.lastVerifiedIdentity := by
  unfold upgradeItem
  repeat' split
  all_goals rfl

lemma cycleLedger_lifecycle (d : RunDir) : (cycleLedger rt d).lifecycle = d.ledger.lifecycle := rfl

lemma provesEveryItem_cycleLedger (d : RunDir) :
    provesEveryItem rt now (cycleLedger rt d).items = provesEveryItem rt now d.ledger.items := by
  unfold provesEveryItem cycleLedger upgradeLedgerForRecovery
  simp [JsObject.values, JsObject.mapEntries, Function.comp_def, upgradeItem_lastVerifiedIdentity]

lemma allSucceeded_cycleLedger (d : RunDir) :
    allSucceeded d.contract (cycleLedger rt d) = allSucceeded d.contract d.ledger := by
  unfold allSucceeded LoopContract.allItems cycleLedger upgradeLedgerForRecovery
  simp [Function.comp_def]

variable {excluded : List String}

lemma earned_allDoneBranch (h : InStep d)
    (hproved : (SupervisedOp.allDone now token minted excluded).ProvedWhenDone rt d) :
    Earned (fun items => provesEveryItem rt now items = true) d
      (allDoneBranch rt now token minted excluded d.contract (cycleLedger rt d) d).2 := by
  unfold allDoneBranch
  split
  · split
    · next hall =>
      rw [allSucceeded_cycleLedger] at hall
      refine earned_admitOrRefreshLifecycle rt now h rfl fun _ hopen => ?_
      rw [provesEveryItem_cycleLedger]
      exact hproved hall hopen
    · exact Earned.refl h
  · exact Earned.refl h

lemma writeLedger_refused_or (token : String) (next : LoopLedger) (d : RunDir) : (writeLedger rt token next d).2 = d ∨
      (writeLedger rt token next d).2.ledger = d.contract.normalize rt next := by
  unfold writeLedger
  dsimp only
  split
  · exact .inl rfl
  · split
    · exact .inl rfl
    · exact .inr rfl

lemma admitOrRefreshLifecycle_succeeds (hheld : d.ledger.lifecycle = ledger.lifecycle)
    (hbefore : d.ledger.hasSucceeded = false)
    (hafter : (admitOrRefreshLifecycle rt now token minted contract ledger proved d).2.ledger.hasSucceeded = true) :
    ledger.lifecycle.any (·.state.isTerminal) = false ∧
      (admitOrRefreshLifecycle rt now token minted contract ledger proved d).2.ledger.items = ledger.items := by
  have hdisk : (admitOrRefreshLifecycle rt now token minted contract ledger proved d).2 = d ∨
      (admitOrRefreshLifecycle rt now token minted contract ledger proved d).2.ledger =
        d.contract.normalize rt (admittedLedger rt now minted contract ledger proved) := by
    have hwrite := writeLedger_refused_or rt token
      (admittedLedger rt now minted contract ledger proved) d
    unfold admitOrRefreshLifecycle
    dsimp only
    split
    · exact .inl rfl
    · split
      · next hw => simpa [hw] using hwrite
      · next hw => simpa [hw] using hwrite
  rcases hdisk with hsame | hwritten
  · rw [hsame, hbefore] at hafter
    simp at hafter
  · rw [hwritten] at hafter ⊢
    refine ⟨?_, rfl⟩
    have hbound := hasSucceeded_bindLifecycleRecord.1 hafter
    rw [← hasSucceeded_congr hheld, hbefore] at hbound
    exact (hbound.resolve_left (by simp)).2

lemma allDoneBranch_succeeds (hbefore : d.ledger.hasSucceeded = false)
    (hafter : (allDoneBranch rt now token minted excluded d.contract (cycleLedger rt d)
      d).2.ledger.hasSucceeded = true) : allSucceeded d.contract d.ledger = true ∧
      d.ledger.lifecycle.any (·.state.isTerminal) = false ∧
      (allDoneBranch rt now token minted excluded d.contract (cycleLedger rt d) d).2.ledger.items =
        (cycleLedger rt d).items := by
  have hidle : d.ledger.hasSucceeded ≠ true := by simp [hbefore]
  unfold allDoneBranch at hafter ⊢
  split at hafter
  · next hdone =>
    split at hafter
    · next hall =>
      obtain ⟨hopen, hitems⟩ := admitOrRefreshLifecycle_succeeds rt now
        (cycleLedger_lifecycle rt d).symm hbefore hafter
      rw [cycleLedger_lifecycle] at hopen
      rw [if_pos hdone, if_pos hall]
      rw [allSucceeded_cycleLedger] at hall
      exact ⟨hall, hopen, hitems⟩
    · exact absurd hafter hidle
  · exact absurd hafter hidle

end Operations

/-! ## Steps and runs -/

lemma earned_step {d : RunDir} {op : SupervisedOp} (h : InStep d)
    (hproved : op.ProvedWhenDone rt d) :
    Earned (fun items => provesEveryItem rt op.clock items = true) d (op.apply rt d) := by
  cases op with
  | loop op =>
    cases op with
    | reconcile now deps input => exact earned_reconcile rt now deps input h
    | catchUp now deps input => exact earned_catchUp rt now deps input h
    | transitionItem now deps contract input =>
      exact earned_transitionItem rt now deps contract input h
    | propagateSkips now statuses contract engine token =>
      exact earned_skipCycle rt now statuses contract engine token h
    | blockItem now contract input => exact earned_blockItem rt now contract input h
    | startRecoveryAttempt now contract input =>
      exact earned_startRecoveryAttempt rt now contract input h
    | completeRecoveryAttempt now contract input =>
      exact earned_completeRecoveryAttempt rt now contract input h
    | pauseItem now input => exact earned_enterHold rt now input .paused none h
    | waitItem now input request uuid => exact earned_waitItem rt now input request uuid h
    | resumeHold now input => exact earned_resumeHold rt now input h
    | abandonHold now input => exact earned_abandonHold rt now input h
  | supersede now token itemId select => exact earned_supersede rt now token itemId select h
  | cool now token cooling => exact earned_persistOwnedCooling rt now token cooling h
  | expireCooling now token => exact earned_expireCooling rt now token h
  | startCycle now token minted => exact earned_startCycle rt now token minted h
  | allDone now token minted excluded => exact earned_allDoneBranch rt now h hproved
  | reread now token =>
    have hread := (earned_readLedger rt now token h).1
    exact hread.after (Earned.refl hread.inStep)

/-- Over every run in which the all-done branch finds its items proved, a step lets the run succeed
only when every item of the ledger is proved at its clock; and an all-done step that lets the run
succeed meets the rule exactly when it found its items proved. -/
theorem succeeded_needs_current_proof :
    (∀ (d d₁ : RunDir) (ops : List SupervisedOp) (op : SupervisedOp), InStep d →
      Run (SupervisedOp.step rt) (SupervisedOp.ProvedWhenDone rt) d ops d₁ →
        op.ProvedWhenDone rt d₁ → d₁.ledger.hasSucceeded = false → (op.apply rt d₁).ledger.hasSucceeded = true →
            provesEveryItem rt op.clock (op.apply rt d₁).ledger.items = true) ∧
    ∀ (d : RunDir) (now : Instant) (token minted : String) (excluded : List String), d.ledger.hasSucceeded = false →
        ((SupervisedOp.allDone now token minted excluded).apply rt d).ledger.hasSucceeded = true →
          (provesEveryItem rt now
              ((SupervisedOp.allDone now token minted excluded).apply rt d).ledger.items = true ↔
            (SupervisedOp.allDone now token minted excluded).ProvedWhenDone rt d) := by
  constructor
  · intro d d₁ ops op hstart hrun hproved hbefore hafter
    -- the last valid generation stays in step; then the last step is judged alone
    have hinStep : InStep d₁ := by
      refine hrun.invariant (fun d op d' hok h hstep => ?_) hstart
      obtain rfl : op.apply rt d = d' := by simpa [SupervisedOp.step] using hstep
      exact (earned_step rt h hok).inStep
    refine ((earned_step rt hinStep hproved).earned hafter).resolve_left ?_
    simp [hbefore]
  · intro d now token minted excluded hbefore hafter
    obtain ⟨hall, hopen, hitems⟩ := allDoneBranch_succeeds rt now hbefore hafter
    have hsame : provesEveryItem rt now
        ((SupervisedOp.allDone now token minted excluded).apply rt d).ledger.items =
          provesEveryItem rt now d.ledger.items := by
      rw [← provesEveryItem_cycleLedger rt now d, ← hitems]
      rfl
    rw [hsame]
    exact ⟨fun hproves _ _ => hproves, fun hproved => hproved hall hopen⟩

end Proof

/-! ## A sibling whose checks regress -/

/-- A run of two issues that do not depend on each other, as it is published. -/
def twoIssues : RunDir :=
  { dependentRun with
    contract := { dependentRun.contract with
      items := [{ id := "5", dependsOn := [], externalDependsOn := [] },
        { id := "7", dependsOn := [], externalDependsOn := [] }] }
    lastValid := some dependentRun.ledger }

/-- An open pull request with the ready label. -/
def readyIdentity (checksConclusion : ChecksConclusion) : LoopExternalIdentity :=
  { mergedIdentity with
    readyLabelPresent := true, prState := some .opened, mergeCommitSha := none
    integrationCertainty := some .knownAbsent, checksConclusion }

/-- Longer after the epoch than an observation stays fresh. -/
def later : Instant where
  ms := 400000
  inRange := by decide

def observedLater (identity : LoopExternalIdentity) : LoopExternalIdentity :=
  { identity with observedAt := "1970-01-01T00:06:40.000Z" }

def passOver (now : Instant) (fifth seventh : LoopExternalIdentity) : SupervisedOp :=
  .loop (.reconcile now ⟨fun id => .ok ∘ expecting (if id = "7" then seventh else fifth), fun _ => none⟩
    pendingRunInput)

/-- One issue is ready at the epoch. In a later cycle its checks fail, which leaves its identity as
it was, while the other issue is merged. -/
def regressingOps : List SupervisedOp :=
  [.startCycle .epoch "t" "op", passOver .epoch absentIdentity (readyIdentity .success), .startCycle later "t" "op",
    passOver later (observedLater mergedIdentity) (observedLater (readyIdentity .failure)),
    .reread later (some "t")]

/-- The checks pass again, so that the next pass renews both identities. -/
def renewingOp : SupervisedOp :=
  passOver later (observedLater mergedIdentity) (observedLater (readyIdentity .success))

def doneOp : SupervisedOp := .allDone later "t" "op" []

theorem renewed_issues_succeed :
    ∃ d₁, Run (SupervisedOp.step (.onFirstDay [])) (SupervisedOp.ProvedWhenDone (.onFirstDay []))
        twoIssues (regressingOps ++ [renewingOp]) d₁ ∧
      d₁.ledger.hasSucceeded = false ∧
      (doneOp.apply (.onFirstDay []) d₁).ledger.hasSucceeded = true ∧
      provesEveryItem (.onFirstDay []) later (doneOp.apply (.onFirstDay []) d₁).ledger.items = true := by
  obtain ⟨d₁, hrun, hproved, hbefore, hafter⟩ : ∃ d₁, Run (SupervisedOp.step (.onFirstDay []))
      (SupervisedOp.ProvedWhenDone (.onFirstDay [])) twoIssues (regressingOps ++ [renewingOp]) d₁ ∧
      doneOp.ProvedWhenDone (.onFirstDay []) d₁ ∧ d₁.ledger.hasSucceeded = false ∧
      (doneOp.apply (.onFirstDay []) d₁).ledger.hasSucceeded = true :=
    Run.exists_of_exec _ (by decide +kernel)
  have hstart : InStep twoIssues := by
    intro last hlast hsucceeded
    obtain rfl := Option.some.inj hlast
    exact hsucceeded
  exact ⟨d₁, hrun, hbefore, hafter, (succeeded_needs_current_proof (.onFirstDay [])).1 twoIssues d₁ _
    doneOp hstart hrun hproved hbefore hafter⟩

/-- The all-done branch lets the run succeed on the stored state of the issue whose checks fail and
whose last observation is too old. -/
theorem regressed_issue_succeeds :
    ¬∀ (rt : JsRuntime) (d d₁ : RunDir) (ops : List SupervisedOp) (op : SupervisedOp),
      d.lastValid = some d.ledger → d.ledger.lifecycle = none → Run (SupervisedOp.step rt) (fun _ _ => True) d ops d₁ →
          d₁.ledger.hasSucceeded = false → (op.apply rt d₁).ledger.hasSucceeded = true →
            provesEveryItem rt op.clock (op.apply rt d₁).ledger.items = true := by
  intro h
  obtain ⟨d₁, hrun, hbefore, hafter, hstale⟩ : ∃ d₁, Run (SupervisedOp.step (.onFirstDay []))
      (fun _ _ => True) twoIssues regressingOps d₁ ∧ d₁.ledger.hasSucceeded = false ∧
      (doneOp.apply (.onFirstDay []) d₁).ledger.hasSucceeded = true ∧
      provesEveryItem (.onFirstDay []) later (doneOp.apply (.onFirstDay []) d₁).ledger.items = false :=
    Run.exists_of_exec _ (by decide +kernel)
  have hproved := h (.onFirstDay []) twoIssues d₁ regressingOps doneOp rfl rfl hrun hbefore hafter
  rw [show doneOp.clock = later from rfl, hstale] at hproved
  simp at hproved

end AgentPipeline.Loop
