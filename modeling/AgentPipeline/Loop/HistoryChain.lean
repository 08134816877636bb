import Mathlib.Data.List.Chain
import AgentPipeline.Loop.SkippedTerminal

/-!
# HistoryChain: the history of an item is a chain

Every operation that moves an item appends the move to the item's history by hand. An audit reads
the history as one chain: each move starts where the one before it ended, and the last one ended in
the state the item is in.

* `ChainedHistory` is that property of one item, and `AllChained` of a table of items.
* `Continues` says what a turn may do with an item: leave its state and history, or append the move
  it makes. Every operation only continues the items it writes.
* `history_stays_chained` is over whole runs of the operations, from any directory.
-/

namespace AgentPipeline.Loop

/-! ## Moves of the supervisor -/

section Supervisor

variable (rt : JsRuntime) (now : Instant)

/-- The item that a move of the supervisor names. -/
structure SupervisorInput where
  token : String
  itemId : String
  engine : LoopEngineName

/-- The text `${item?.state}`. -/
def stateText (item : Option LoopItemLedgerEntry) : String :=
  (item.map (·.state.name)).getD "undefined"

/-- The item in its new state, with nothing else changed. -/
def LoopItemLedgerEntry.supervised (item : LoopItemLedgerEntry) (state : LoopItemState)
    (engine : LoopEngineName) (time : String) (note : Option String) : LoopItemLedgerEntry :=
  { item with
    state := state
    history := item.history ++
      [{ time := time, fromState := item.state, toState := state, engine := engine,
         note := note }] }

/-- A move from one state only: `refusal` says what the item cannot do, and `rule` who may. -/
def moveItemFrom (source target : LoopItemState) (refusal rule : String) (note : Option String)
    (input : SupervisorInput) (d : RunDir) : Except LoopError LoopLedger × RunDir :=
  transact rt now (some input.token) input.token
    (fun ledger =>
      match (ledger.items.get? input.itemId).filter (·.state = source) with
      | none =>
        .error (invalid ("item \"" ++ input.itemId ++ "\" cannot " ++ refusal ++
          " from state \"" ++ stateText (ledger.items.get? input.itemId) ++ "\" — " ++ rule))
      | some item =>
        let next :=
          { ledger with
            items := ledger.items.set input.itemId
              (item.supervised target input.engine (rt.toISOString now) note) }
        .ok (next, some next))
    d

def startItem (input : SupervisorInput) (d : RunDir) : Except LoopError LoopLedger × RunDir :=
  moveItemFrom rt now .pending .inProgress "start" "only a pending item may start" none input d

/-- `abandonInProgressItem(store, runId, token, itemId, engine)`. -/
def abandonInProgressItem (input : SupervisorInput) (d : RunDir) :
    Except LoopError LoopLedger × RunDir :=
  moveItemFrom rt now .inProgress .abandoned "abandon"
    "only an in_progress item may be abandoned this way"
    (some "pipeline/loop-execution@1 reported abandoned") input d

/-- `excludeInProgressItem(store, input)`, for an exclusion with these two stages. -/
def excludeInProgressItem (requiredStage observedStage : String) (input : SupervisorInput)
    (d : RunDir) : Except LoopError LoopLedger × RunDir :=
  moveItemFrom rt now .inProgress .pending "be precondition-excluded"
    "only an in_progress item may revert this way"
    (some ("precondition exclusion: required " ++ requiredStage ++ ", observed " ++ observedStage)) input d

/-- `revertInProgressToPending(store, input, note, eventName)`. -/
def revertInProgressToPending (note : String) (input : SupervisorInput) (d : RunDir) :
    Except LoopError LoopLedger × RunDir :=
  moveItemFrom rt now .inProgress .pending "revert" "only an in_progress item may revert this way"
    (some note) input d

end Supervisor

/-! ## Chains -/

/-- A move starts where the move before it ended. -/
def Follows (earlier later : LoopHistoryEntry) : Prop := later.fromState = earlier.toState

/-- The history is one chain of moves, and it ends in the state of the item. -/
def ChainedHistory (entry : LoopItemLedgerEntry) : Prop :=
  entry.history.IsChain Follows ∧ ∀ last ∈ entry.history.getLast?, last.toState = entry.state

/-- The turn leaves state and history, or it appends the move that it makes. -/
def Continues (entry entry' : LoopItemLedgerEntry) : Prop :=
  (entry'.state = entry.state ∧ entry'.history = entry.history) ∨
    ∃ move : LoopHistoryEntry, entry'.history = entry.history ++ [move] ∧
      move.fromState = entry.state ∧ move.toState = entry'.state

variable {entry : LoopItemLedgerEntry}

lemma ChainedHistory.of_empty (h : entry.history = []) : ChainedHistory entry := by
  simp [ChainedHistory, h]

variable {entry' : LoopItemLedgerEntry}

lemma ChainedHistory.continues (h : ChainedHistory entry) (hturn : Continues entry entry') : ChainedHistory entry' := by
  obtain ⟨hchain, hlast⟩ := h
  rcases hturn with ⟨hstate, hhistory⟩ | ⟨move, hhistory, hsource, htarget⟩
  · unfold ChainedHistory
    rw [hstate, hhistory]
    exact ⟨hchain, hlast⟩
  · constructor
    · rw [hhistory, List.isChain_append]
      refine ⟨hchain, List.isChain_singleton move, ?_⟩
      intro last hmem first hfirst
      -- the move starts in the state that the last one ended in
      obtain rfl : move = first := by simpa using hfirst
      exact hsource.trans (hlast last hmem).symm
    · intro last hmem
      rw [hhistory, List.getLast?_concat] at hmem
      obtain rfl : move = last := by simpa using hmem
      exact htarget

lemma Continues.refl (entry : LoopItemLedgerEntry) : Continues entry entry := .inl ⟨rfl, rfl⟩

/-- Every item of the table has a chained history. -/
def AllChained (items : JsObject LoopItemLedgerEntry) : Prop :=
  ∀ id entry, items.get? id = some entry → ChainedHistory entry

/-- The table has no item that does not continue one of the old table. -/
def ContinuesAll (items items' : JsObject LoopItemLedgerEntry) : Prop :=
  ∀ id entry', items'.get? id = some entry' → ∃ entry, items.get? id = some entry ∧ Continues entry entry'

variable {items items' : JsObject LoopItemLedgerEntry}

lemma AllChained.continues (h : AllChained items) (hturn : ContinuesAll items items') : AllChained items' := by
  intro id entry' hget'
  obtain ⟨entry, hget, hcontinues⟩ := hturn id entry' hget'
  exact (h id entry hget).continues hcontinues

variable {id : String}

lemma ContinuesAll.set (hget : items.get? id = some entry)
    (h : Continues entry entry') : ContinuesAll items (items.set id entry') := by
  intro j e hj
  by_cases hid : j = id
  · subst hid
    obtain rfl : entry' = e := by simpa using hj
    exact ⟨entry, hget, h⟩
  · exact ⟨e, by simpa [hid] using hj, .refl e⟩

variable {α : Type}

lemma ContinuesAll.traverse {ε : Type} {turn : String → LoopItemLedgerEntry → Except ε α} {results : JsObject α}
    {f : α → LoopItemLedgerEntry} (hresults : items.traverse turn = .ok results)
    (hitems : ∀ id, items'.get? id = (results.get? id).map f)
    (h : ∀ id entry r, turn id entry = .ok r → Continues entry (f r)) : ContinuesAll items items' := by
  intro id entry' hget'
  rcases JsObject.get?_traverse hresults id with ⟨_, hnone⟩ | ⟨entry, r, hget, hr, hresult⟩
  · simp [hitems, hnone] at hget'
  · obtain rfl : f r = entry' := by simpa [hitems, hresult] using hget'
    exact ⟨entry, hget, h id entry r hr⟩

lemma ContinuesAll.upgrade (rt : JsRuntime) (ledger : LoopLedger) :
    ContinuesAll ledger.items (upgradeLedgerForRecovery rt ledger).items := by
  intro id entry' hget'
  obtain ⟨entry, hget, rfl⟩ : ∃ entry, ledger.items.get? id = some entry ∧ upgradeItem rt entry = entry' := by
    simpa [upgradeLedgerForRecovery] using hget'
  refine ⟨entry, hget, .inl ⟨by simp, ?_⟩⟩
  unfold upgradeItem
  repeat' split
  all_goals rfl

/-! ## Reads and writes -/

variable {next : LoopLedger} {token : String} {d : RunDir}

section Directory

variable (rt : JsRuntime) (now : Instant)

lemma AllChained.salvageItemsFromContract (contract : LoopContract) :
    AllChained (salvageItemsFromContract contract) := by
  have hfold : ∀ (items : List LoopContractItem) (table : JsObject LoopItemLedgerEntry), AllChained table →
        AllChained (items.foldl (fun table item =>
          if item.id = "" then table else table.set item.id (pendingItemEntry item.id)) table) := by
    intro items
    induction items with
    | nil => exact fun _ htable => htable
    | cons item rest ih =>
      intro table htable
      apply ih
      dsimp only
      split
      · exact htable
      · intro id entry hget
        by_cases hid : id = item.id
        · -- a salvaged item has no history yet
          obtain rfl : pendingItemEntry item.id = entry := by simpa [hid] using hget
          exact .of_empty rfl
        · exact htable id entry (by simpa [hid] using hget)
  exact hfold contract.items .empty fun _ _ hget => by simp at hget

/-- An operation keeps the chains that are in force, and publishes chains or nothing. -/
def KeepsChains (d d' : RunDir) : Prop :=
  AllChained (itemsInForce rt d) →
    AllChained (itemsInForce rt d') ∧ (d'.ledger = d.ledger ∨ AllChained d'.ledger.items)

lemma KeepsChains.refl (d : RunDir) : KeepsChains rt d d := fun h => ⟨h, .inl rfl⟩

lemma KeepsChains.trans {d₁ d₂ d₃ : RunDir} (h : KeepsChains rt d₁ d₂)
    (h' : KeepsChains rt d₂ d₃) : KeepsChains rt d₁ d₃ := by
  intro hchained
  obtain ⟨hforce, hledger⟩ := h hchained
  obtain ⟨hforce', hledger'⟩ := h' hforce
  refine ⟨hforce', ?_⟩
  rcases hledger' with heq | hpublished
  · rw [heq]
    exact hledger
  · exact .inr hpublished

lemma keepsChains_readLedger (token : Option String) (d : RunDir) : KeepsChains rt d (readLedger rt now token d).2 := by
  intro hchained
  refine ⟨by rwa [itemsInForce_readLedger rt now token d], ?_⟩
  cases hread : readLedger rt now token d with
  | mk result d₁ =>
    cases result with
    | error e =>
      rw [readLedger_eq_error rt now hread]
      exact .inl rfl
    | ok ledger =>
      -- what a read restores is the table in force
      have hitems : d₁.ledger.items = itemsInForce rt d := by
        rcases readLedger_cases rt now hread with ⟨_, _, hitems⟩ | ⟨_, rfl, _, _, hitems⟩
        · exact hitems
        · exact hitems
      exact .inr (by rwa [hitems])

lemma AllChained.salvageItems (h : AllChained items)
    (contract : LoopContract) : AllChained (salvageItems contract items) := by
  unfold Loop.salvageItems
  split
  · exact .salvageItemsFromContract contract
  · exact h

lemma keepsChains_writeLedger (token : String) (d : RunDir)
    (hnext : AllChained next.items) : KeepsChains rt d (writeLedger rt token next d).2 := by
  intro hchained
  unfold writeLedger
  dsimp only
  split
  · exact ⟨hchained, .inl rfl⟩
  · split
    · exact ⟨hchained, .inl rfl⟩
    · refine ⟨?_, .inr hnext⟩
      by_cases haccepts : d.contract.accepts rt next
      · simpa [itemsInForce, haccepts] using hnext
      · -- the written ledger is rejected, and a read falls back as it did before
        by_cases hcurrent : d.contract.accepts rt d.ledger
        · rw [itemsInForce_of_accepts rt hcurrent] at hchained
          simpa [itemsInForce, haccepts, hcurrent] using hchained
        · cases hlast : d.lastValid with
          | none => simpa [itemsInForce, haccepts, hcurrent, hlast] using hnext.salvageItems _
          | some last =>
            by_cases hvalid : d.contract.accepts rt last
            · simpa [itemsInForce, haccepts, hcurrent, hlast, hvalid] using hchained
            · simpa [itemsInForce, haccepts, hcurrent, hlast, hvalid] using
                hnext.salvageItems d.contract

lemma keepsChains_transact {readToken : Option String} {decide : LoopLedger → Except LoopError (α × Option LoopLedger)}
    (h : ∀ ledger a next, decide ledger = .ok (a, some next) → AllChained ledger.items → AllChained next.items) :
    KeepsChains rt d (transact rt now readToken token decide d).2 := by
  have hkeeps := keepsChains_readLedger rt now readToken d
  unfold transact
  split
  · next hread => simpa [hread] using hkeeps
  · next ledger d₁ hread =>
    rw [hread] at hkeeps
    split
    · exact hkeeps
    · exact hkeeps
    · next a next hdecide =>
      intro hchained
      have hledger : AllChained ledger.items := by rwa [readLedger_items rt now (by rw [hread])]
      have hwrite := keepsChains_writeLedger rt token d₁ (h ledger a next hdecide hledger)
      have htrans := hkeeps.trans rt hwrite hchained
      split
      · next hw => simpa [hw] using htrans
      · next hw => simpa [hw] using htrans

end Directory

/-! ## Operations on one item -/

section Operations

variable (rt : JsRuntime) (now : Instant)

lemma keepsChains_moveItemFrom (source target : LoopItemState) (refusal rule : String)
    (note : Option String) (input : SupervisorInput) (d : RunDir) :
    KeepsChains rt d (moveItemFrom rt now source target refusal rule note input d).2 := by
  apply keepsChains_transact
  intro ledger after next hdecide hchained
  dsimp only at hdecide
  split at hdecide
  · simp at hdecide
  · next item hitem =>
    cases hdecide
    obtain ⟨hget, _⟩ := Option.filter_eq_some_iff.1 hitem
    exact hchained.continues (.set hget (.inr ⟨_, rfl, rfl, rfl⟩))

lemma keepsChains_blockItem (contract : LoopContract) (input : BlockItemInput) (d : RunDir) :
    KeepsChains rt d (blockItem rt now contract input d).2 := by
  unfold blockItem
  split
  · exact .refl rt d
  · next cls _ =>
    split
    · exact .refl rt d
    · apply keepsChains_transact
      intro ledger after next hdecide hchained
      obtain ⟨hwrite, item, _, hitem, _, rfl⟩ := decideBlock_eq_ok rt now hdecide
      cases hwrite
      exact (hchained.continues (.upgrade rt ledger)).continues
        (.set hitem (.inr ⟨_, rfl, rfl, rfl⟩))

variable {ledger : LoopLedger} {time : String}

lemma AllChained.admitOnly {contract : LoopContract} {after : LoopLedger}
    {minted : String} (h : AllChained ledger.items)
    (hadmitted : admitOnly contract ledger time minted = (after, some next)) : AllChained next.items := by
  rw [admitOnly_eq_some hadmitted]
  exact h

lemma keepsChains_startRecoveryAttempt (contract : LoopContract) (input : StartRecoveryAttemptInput) (d : RunDir) :
    KeepsChains rt d (startRecoveryAttempt rt now contract input d).2 := by
  unfold startRecoveryAttempt
  split
  · exact .refl rt d
  · apply keepsChains_transact
    intro ledger result next hdecide hchained
    have hupgraded := hchained.continues (.upgrade rt ledger)
    obtain ⟨after, attempt⟩ := result
    obtain ⟨ctx, hctx, ⟨_, hadmitted⟩ | ⟨_, eligible, _, rfl, hwrite⟩⟩ :=
      decideStart_eq_ok rt now hdecide
    · exact hupgraded.admitOnly hadmitted
    · cases hwrite
      simp only [admitRecoveryLifecycle_items, ClaimContext.record]
      split
      · -- a charge changes the budget only
        have hctx := claimContext_eq_ok hctx
        have hget := hctx.item_eq
        rw [← hctx.input_eq] at hget
        exact hupgraded.continues (.set hget (.inl ⟨rfl, rfl⟩))
      · exact hupgraded

lemma continues_recoveredItem {input : CompleteRecoveryAttemptInput}
    {attempt : LoopRecoveryAttempt} {item : LoopItemLedgerEntry} (h : item.state = .blocked) :
    Continues item (recoveredItem rt now input attempt item) := by
  unfold recoveredItem
  dsimp only
  split
  -- the move is written as one from `blocked`, which is where the item is
  · exact .inr ⟨_, rfl, h.symm, rfl⟩
  · exact .refl item

lemma keepsChains_completeRecoveryAttempt (contract : LoopContract)
    (input : CompleteRecoveryAttemptInput) (d : RunDir) :
    KeepsChains rt d (completeRecoveryAttempt rt now contract input d).2 := by
  unfold completeRecoveryAttempt
  split
  · exact .refl rt d
  · apply keepsChains_transact
    intro ledger result next hdecide hchained
    have hupgraded := hchained.continues (.upgrade rt ledger)
    obtain ⟨after, attempt⟩ := result
    rcases decideComplete_eq_ok rt now hdecide with hadmitted |
      ⟨claim, item, _, _, hitem, hblocked, _, rfl, hwrite⟩
    · exact hupgraded.admitOnly hadmitted
    · cases hwrite
      exact hupgraded.continues (.set hitem (continues_recoveredItem rt now hblocked))

variable {identity : LoopExternalIdentity}

lemma continuesAll_everySuccess (deps : ReconcileObserveDeps) {liveItemId : String}
    (h : everySuccessItemHasFreshLiveProof rt now deps ledger liveItemId identity = some items) :
    ContinuesAll ledger.items items := by
  unfold everySuccessItemHasFreshLiveProof at h
  split at h
  · simp at h
  · split at h
    · next items' hitems =>
      obtain rfl : items' = items := by simpa using h
      refine .traverse (f := fun entry => entry) hitems (by simp) ?_
      intro id entry entry' hturn
      unfold proveItem at hturn
      dsimp only at hturn
      repeat' split at hturn
      all_goals simp only [reduceCtorEq, Except.ok.injEq] at hturn
      all_goals
        subst hturn
        exact .inl ⟨rfl, rfl⟩
    · simp at h

lemma keepsChains_transitionItem (deps : ReconcileObserveDeps) (contract : LoopContract)
    (input : TransitionItemInput) (d : RunDir) : KeepsChains rt d (transitionItem rt now deps contract input d).2 := by
  apply keepsChains_transact
  intro ledger after next hdecide hchained
  obtain ⟨item, identity, proof, hitem, _, hproved, rfl⟩ :=
    decideTransition_eq_ok rt now deps hdecide
  have hmoved : AllChained (ledger.items.set input.itemId (transitionedItem rt now input identity item)) :=
    hchained.continues (.set hitem (.inr ⟨_, rfl, rfl, rfl⟩))
  cases proof with
  | none => exact hmoved
  | some items =>
    -- the proof renews identities and moves nothing
    obtain ⟨identity', hprove⟩ := hproved items rfl
    exact hmoved.continues (continuesAll_everySuccess rt now deps hprove)

variable {engine : LoopEngineName}

lemma ContinuesAll.skipTurn {statuses : String → Option ExternalDependencyStatus} {item : LoopContractItem}
    (h : skipTurn statuses time engine item items = some items') : ContinuesAll items items' := by
  obtain ⟨entry, cause, hget, _, rfl⟩ := skipTurn_eq_some statuses time engine h
  exact .set hget (.inr ⟨_, rfl, rfl, rfl⟩)

lemma AllChained.skipSweep (statuses : String → Option ExternalDependencyStatus) (time : String)
    (engine : LoopEngineName) (contractItems : List LoopContractItem) (h : AllChained items) :
    AllChained (skipSweep statuses time engine contractItems items).1 := by
  induction contractItems generalizing items with
  | nil => exact h
  | cons item rest ih =>
    unfold Loop.skipSweep
    split
    · exact ih h
    · next items' hturn => exact ih (h.continues (.skipTurn hturn))

lemma AllChained.propagate (statuses : String → Option ExternalDependencyStatus) (time : String)
    (engine : LoopEngineName) (contractItems : List LoopContractItem) (fuel : Nat) (h : AllChained items) :
    AllChained (propagate statuses time engine contractItems fuel items).1 := by
  induction fuel generalizing items with
  | zero => exact h
  | succ fuel ih =>
    unfold Loop.propagate
    dsimp only
    split
    · exact h
    · exact ih (h.skipSweep statuses time engine contractItems)

lemma keepsChains_skipCycle (statuses : String → Option ExternalDependencyStatus)
    (contract : LoopContract) (engine : LoopEngineName) (token : String) (d : RunDir) :
    KeepsChains rt d (skipCycle rt now statuses contract engine token d).2 := by
  apply keepsChains_transact
  intro ledger after next hdecide hchained
  dsimp only at hdecide
  split at hdecide
  · simp at hdecide
  · cases hdecide
    exact (hchained.continues (.upgrade rt ledger)).propagate statuses _ engine contract.items _

/-! ## Holds -/

lemma keepsChains_asLockHolder {operation : String}
    {run : RunDir → Except LoopError α × RunDir} (h : KeepsChains rt d (run d).2) :
    KeepsChains rt d (asLockHolder operation token engine run d).2 := by
  rcases asLockHolder_cases operation token engine run d with hrefused | hran
  · rw [hrefused]
    exact .refl rt d
  · rwa [hran]

lemma continues_holdMoved (item : LoopItemLedgerEntry) (state : LoopItemState)
    (request : Option LoopHumanInputRequest) (engine : LoopEngineName) (time : String)
    (note : Option String) : Continues item (item.holdMoved state request engine time note) := .inr ⟨_, rfl, rfl, rfl⟩

/-- Entering a hold and abandoning it move the item that is held. -/
lemma keepsChains_hold (input : HoldInput) (d : RunDir) :
    (∀ target request, KeepsChains rt d (enterHold rt now input target request d).2) ∧
      KeepsChains rt d (abandonHold rt now input d).2 := by
  refine ⟨fun target request => ?_, ?_⟩
  all_goals
    apply keepsChains_asLockHolder
    apply keepsChains_transact
    intro ledger after next hdecide hchained
    dsimp only at hdecide
    split at hdecide
    · simp at hdecide
    · next item hitem =>
      split at hdecide
      · simp at hdecide
      · cases hdecide
        exact hchained.continues (.set (heldItem_eq_ok hitem) (continues_holdMoved ..))

lemma keepsChains_waitItem (input : HoldInput) (request : WaitRequestInput) (uuid : String)
    (d : RunDir) : KeepsChains rt d (waitItem rt now input request uuid d).2 := by
  unfold waitItem
  split
  · exact .refl rt d
  · exact (keepsChains_hold rt now input d).1 .waiting _

lemma keepsChains_invalidateHold (input : HoldInput) (d : RunDir) :
    KeepsChains rt d (invalidateIncompleteHoldForReclassify rt now input d).2 := by
  unfold invalidateIncompleteHoldForReclassify
  split
  · exact .refl rt d
  · apply keepsChains_transact
    intro ledger after next hdecide hchained
    dsimp only at hdecide
    split at hdecide
    · simp at hdecide
    · next item hitem =>
      cases hdecide
      obtain ⟨hget, _⟩ := Option.filter_eq_some_iff.1 hitem
      exact hchained.continues (.set hget (continues_holdMoved ..))

lemma keepsChains_resumeHold (input : ResumeHoldInput) (d : RunDir) :
    KeepsChains rt d (resumeHold rt now input d).2 := by
  apply keepsChains_asLockHolder
  have htransact : KeepsChains rt d (transact rt now none input.token (decideResume rt now input) d).2 := by
    apply keepsChains_transact
    intro ledger after next hdecide hchained
    obtain ⟨item, hitem, _, rfl⟩ := decideResume_eq_ok rt now hdecide
    exact hchained.continues (.set hitem (continues_holdMoved ..))
  split
  · next hrun => simpa [hrun] using htransact
  · next hrun => simpa [hrun] using htransact
  · next d₁ hrun =>
    rw [hrun] at htransact
    -- an incomplete request: the hold is invalidated instead
    exact htransact.trans rt (keepsChains_invalidateHold rt now input.toHoldInput d₁)

/-! ## Passes over all items -/

lemma continues_moved (entry : LoopItemLedgerEntry) (identity : LoopExternalIdentity)
    (state : LoopItemState) (engine : LoopEngineName) (time note : String) :
    Continues entry (entry.moved identity state engine time note) := .inr ⟨_, rfl, rfl, rfl⟩

lemma continues_repaired (entry : LoopItemLedgerEntry) (identity : LoopExternalIdentity)
    (state : LoopItemState) (engine : LoopEngineName) (time note : String) :
    Continues entry
      (if state = .ready then
        { entry.moved identity state engine time note with blockedTheme := none }
      else entry.moved identity state engine time note) := by
  split
  · exact .inr ⟨_, rfl, rfl, rfl⟩
  · exact continues_moved ..

lemma continues_reconcileItem {r : ReconciledItem}
    (h : reconcileItem rt engine time id entry identity = .ok r) : Continues entry r.entry := by
  unfold reconcileItem at h
  dsimp only at h
  split at h
  · split at h
    · simp at h
    · cases h
      exact continues_repaired ..
  -- the three classes that reconstruct the local state
  · cases h
    exact continues_moved ..
  · cases h
    exact continues_moved ..
  · cases h
    exact continues_moved ..
  -- regressed checks and no drift: the item is healed, or its binding is refreshed at most
  all_goals
    split at h
    · cases h
      exact continues_moved ..
    · cases h
      dsimp only
      split
      · exact .inl ⟨rfl, rfl⟩
      · exact .refl entry

lemma keepsChains_reconcile (deps : ReconcileObserveDeps) (input : ReconcileInput)
    (d : RunDir) : KeepsChains rt d (reconcile rt now deps input d).2 := by
  apply keepsChains_transact
  intro ledger report next hdecide hchained
  obtain ⟨results, hresults, hitems⟩ := items_of_decided rt hdecide
  apply hchained.continues
  refine .traverse (f := ReconciledItem.entry) hresults (by simp [hitems]) ?_
  intro id entry r hr
  unfold observeItem at hr
  split at hr
  · simp at hr
  · exact continues_reconcileItem rt hr

lemma continues_catchUpItem {deps : ReconcileObserveDeps} {r : LoopItemLedgerEntry × Bool}
    (h : catchUpItem rt now deps engine ledger id entry = .ok r) : Continues entry r.1 := by
  unfold catchUpItem at h
  split at h
  · simp at h
  · split at h
    · cases h
      exact .refl entry
    · split at h
      · cases h
        exact continues_repaired ..
      · cases h
        exact .refl entry

lemma keepsChains_catchUp (deps : ReconcileObserveDeps) (input : ReconcileInput) (d : RunDir) :
    KeepsChains rt d (resumeRecoveryExhaustedTerminalCatchUp rt now deps input d).2 := by
  apply keepsChains_transact
  intro ledger _ next hdecide hchained
  split at hdecide
  · simp at hdecide
  · split at hdecide
    · simp at hdecide
    · next results hresults =>
      split at hdecide
      · simp at hdecide
      · cases hdecide
        apply hchained.continues
        exact .traverse (f := Prod.fst) hresults
          (by simp [bindLifecycleForItemTransition])
          fun id entry r hr => continues_catchUpItem rt now hr

end Operations

/-! ## Runs -/

/-- The operations that move items: those of the supervisor alone, and the shared ones. -/
inductive ItemOp where
  | startItem (now : Instant) (input : SupervisorInput)
  | abandonInProgressItem (now : Instant) (input : SupervisorInput)
  | excludeInProgressItem (now : Instant) (requiredStage observedStage : String)
      (input : SupervisorInput)
  | revertInProgressToPending (now : Instant) (note : String) (input : SupervisorInput)
  | invalidateIncompleteHold (now : Instant) (input : HoldInput)
  | shared (op : LoopOp)

section Runs

variable (rt : JsRuntime)

/-- The directory after an operation, whether it was refused or not. -/
def ItemOp.apply : ItemOp → RunDir → RunDir
  | .startItem now input, d => (Loop.startItem rt now input d).2
  | .abandonInProgressItem now input, d => (Loop.abandonInProgressItem rt now input d).2
  | .excludeInProgressItem now requiredStage observedStage input, d =>
    (Loop.excludeInProgressItem rt now requiredStage observedStage input d).2
  | .revertInProgressToPending now note input, d =>
    (Loop.revertInProgressToPending rt now note input d).2
  | .invalidateIncompleteHold now input, d =>
    (invalidateIncompleteHoldForReclassify rt now input d).2
  | .shared op, d => op.apply rt d

lemma keepsChains_shared (op : LoopOp) (d : RunDir) : KeepsChains rt d (op.apply rt d) := by
  cases op with
  | reconcile now deps input => exact keepsChains_reconcile rt now deps input d
  | catchUp now deps input => exact keepsChains_catchUp rt now deps input d
  | transitionItem now deps contract input =>
    exact keepsChains_transitionItem rt now deps contract input d
  | propagateSkips now statuses contract engine token =>
    exact keepsChains_skipCycle rt now statuses contract engine token d
  | blockItem now contract input => exact keepsChains_blockItem rt now contract input d
  | startRecoveryAttempt now contract input =>
    exact keepsChains_startRecoveryAttempt rt now contract input d
  | completeRecoveryAttempt now contract input =>
    exact keepsChains_completeRecoveryAttempt rt now contract input d
  | pauseItem now input => exact (keepsChains_hold rt now input d).1 .paused none
  | waitItem now input request uuid => exact keepsChains_waitItem rt now input request uuid d
  | resumeHold now input => exact keepsChains_resumeHold rt now input d
  | abandonHold now input => exact (keepsChains_hold rt now input d).2

lemma keepsChains_apply (op : ItemOp) (d : RunDir) : KeepsChains rt d (op.apply rt d) := by
  cases op with
  | startItem now input => exact keepsChains_moveItemFrom rt now _ _ _ _ _ input d
  | abandonInProgressItem now input => exact keepsChains_moveItemFrom rt now _ _ _ _ _ input d
  | excludeInProgressItem now requiredStage observedStage input =>
    exact keepsChains_moveItemFrom rt now _ _ _ _ _ input d
  | revertInProgressToPending now note input =>
    exact keepsChains_moveItemFrom rt now _ _ _ _ _ input d
  | invalidateIncompleteHold now input => exact keepsChains_invalidateHold rt now input d
  | shared op => exact keepsChains_shared rt op d

/-- The directory after operations one after the other. -/
def applyItemOps (d : RunDir) (ops : List ItemOp) : RunDir :=
  ops.foldl (fun d op => op.apply rt d) d

/-- From every directory whose items have chained histories, every run of the operations ends in
one whose items have; and what it last published, if anything, has them too. -/
theorem history_stays_chained (d : RunDir) (ops : List ItemOp)
    (h : AllChained (itemsInForce rt d)) :
    AllChained (itemsInForce rt (applyItemOps rt d ops)) ∧ ((applyItemOps rt d ops).ledger = d.ledger ∨
        AllChained (applyItemOps rt d ops).ledger.items) := by
  have hkeeps : KeepsChains rt d (applyItemOps rt d ops) := by
    induction ops generalizing d with
    | nil => exact .refl rt d
    | cons op ops ih =>
      have hstep := keepsChains_apply rt op d
      exact hstep.trans rt (ih (op.apply rt d) (hstep h).1)
  exact hkeeps h

end Runs

/-! ## A run with a history -/

/-- The supervisor starts the first issue, an operator pauses and abandons it, and its dependent
is skipped. -/
def abandoningOps : List ItemOp :=
  [.startItem .epoch { token := "t", itemId := "5", engine := .claude }, .shared (.pauseItem .epoch (holdOf "5")),
    .shared (.abandonHold .epoch (holdOf "5")),
    .shared (.propagateSkips .epoch (fun _ => none) dependentRun.contract .claude "t")]

def movesOf (d : RunDir) (id : String) : List (LoopItemState × LoopItemState) :=
  (((itemsInForce (.onFirstDay []) d).get? id).map
    fun entry => entry.history.map fun move => (move.fromState, move.toState)).getD []

/-- Four moves of the two issues, and both histories are chains. -/
theorem history_stays_chained_abandoning :
    movesOf (applyItemOps (.onFirstDay []) dependentRun abandoningOps) "5" =
        [(.pending, .inProgress), (.inProgress, .paused), (.paused, .abandoned)] ∧
      movesOf (applyItemOps (.onFirstDay []) dependentRun abandoningOps) "7" = [(.pending, .skipped)] ∧
      AllChained (itemsInForce (.onFirstDay [])
        (applyItemOps (.onFirstDay []) dependentRun abandoningOps)) := by
  refine ⟨by decide +kernel, by decide +kernel, ?_⟩
  refine (history_stays_chained (.onFirstDay []) dependentRun abandoningOps ?_).1
  intro id entry hget
  -- no item of the first ledger has a history
  have hempty : ∀ e ∈ (itemsInForce (.onFirstDay []) dependentRun).values, e.history = [] := by decide +kernel
  exact .of_empty (hempty entry (JsObject.mem_values.2 ⟨id, hget⟩))

end AgentPipeline.Loop
