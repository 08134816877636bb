import AgentPipeline.Loop.ContractOrder
import AgentPipeline.Loop.Schedule
import AgentPipeline.Loop.SkipFixpoint

/-!
# Deadlock: when the frontier is reported as stuck

`detectDependencyDeadlock` of `loop/dependencies.ts`: nothing is in progress, nothing may start, and some open item
waits for a dependency that never started. Whether an item waits is judged on the state of the dependency itself: a
pending one counts as never going to start, also where it only waits for an item that is being recovered.

* `CanStart`: what the frontier asks of an item, on the ledger as it was passed;
* `HeldFrontier`: every open item waits, in the end, for items that have their own way on;
* `no_deadlock_iff`: when such a run is not reported.
-/

namespace AgentPipeline.Loop

open List

/-! ## Detection -/

/-- `TERMINAL_ITEM_STATES`. -/
def isTerminalItemState : LoopItemState → Bool
  | .ready | .merged | .released | .deployed | .abandoned | .skipped => true
  | _ => false

/-- `observed_state` of a chain entry: no ledger entry, an item state, or an external status. -/
inductive ObservedState where
  | missing
  | inRun (state : LoopItemState)
  | external (status : ExternalDependencyStatus)
deriving DecidableEq, Repr

structure LoopDeadlockChainEntry where
  itemId : String
  waitingOn : String
  kind : SkipKind
  observedState : ObservedState
deriving DecidableEq, Repr

section Detect

variable (rt : JsRuntime) (statuses : String → Option ExternalDependencyStatus)

/-- What an open item waits for in the run. -/
def inRunWaits (items : JsObject LoopItemLedgerEntry) (item : LoopContractItem) : List LoopDeadlockChainEntry :=
  item.dependsOn.filterMap fun dep =>
    match items.get? dep with
    | none => some ⟨item.id, dep, .inRun, .missing⟩
    | some entry => if entry.state = .pending then some ⟨item.id, dep, .inRun, .inRun .pending⟩ else none

/-- What an open item waits for outside of the run; a status that was not read is `pending`. -/
def externalWaits (item : LoopContractItem) : List LoopDeadlockChainEntry :=
  item.externalDependsOn.filterMap fun dep =>
    let status := (statuses dep).getD .pending
    if status = .satisfied then none else some ⟨item.id, dep, .external, .external status⟩

def deadlockChain (contract : LoopContract) (ledger : LoopLedger) : List LoopDeadlockChainEntry :=
  contract.items.flatMap fun item =>
    if (ledger.items.get? item.id).any (fun entry => !isTerminalItemState entry.state) then
      inRunWaits ledger.items item ++ externalWaits statuses item
    else []

/-- `detectDependencyDeadlock(contract, ledger, externalStatuses)`; `none` is `null`. -/
def detectDependencyDeadlock (contract : LoopContract) (ledger : LoopLedger) :
    Except LoopError (Option (List LoopDeadlockChainEntry)) :=
  if ledger.items.values.any (fun item => item.state = .inProgress) then .ok none
  else
    match eligibleIndependentItems rt statuses contract ledger with
    | .error e => .error e
    | .ok frontier =>
      if frontier ≠ [] then .ok none
      else
        let chain := deadlockChain statuses contract ledger
        .ok (if chain = [] then none else some chain)

end Detect

/-! ## The frontier -/

/-- The frontier admits the item, its external dependencies aside. -/
structure CanStart (contract : LoopContract) (ledger : LoopLedger) (item : LoopContractItem) : Prop where
  declared : item ∈ contract.items
  pending : ∃ entry, ledger.items.get? item.id = some entry ∧ entry.state = .pending
  /-- It is not the item of a mechanical stop. -/
  notExhausted : ∀ stop, ledger.stop = some stop → isMechanicalCompatibilityStopReason stop.reason = true →
    item.id = "" ∨ stop.itemId ≠ some item.id
  unblocked : ∀ key other, ledger.items.get? key = some other → other.state = .blocked → other.id ∉ item.dependsOn
  done : ∀ dep ∈ item.dependsOn, ∃ entry, ledger.items.get? dep = some entry ∧ isDoneState entry.state = true

section Frontier

variable {rt : JsRuntime} {statuses : String → Option ExternalDependencyStatus} {contract : LoopContract}
  {ledger : LoopLedger}

lemma upgradeItem_id (item : LoopItemLedgerEntry) : (upgradeItem rt item).id = item.id := by
  unfold upgradeItem
  repeat' split
  all_goals rfl

lemma itemById_of_mem (hnd : (contract.items.map LoopContractItem.id).Nodup) {item : LoopContractItem}
    (h : item ∈ contract.items) : contract.itemById item.id = some item := by
  obtain ⟨last, hlast⟩ := LoopContract.exists_itemById h
  obtain ⟨hmem, hid⟩ := LoopContract.itemById_eq_some hlast
  rw [hlast, inj_on_of_nodup_map hnd hmem h hid]

lemma isOutstanding_upgraded (dep : String) :
    isOutstanding (upgradeLedgerForRecovery rt ledger).items dep = isOutstanding ledger.items dep := by
  cases hget : ledger.items.get? dep <;> simp [isOutstanding, upgradeLedgerForRecovery, hget]

lemma mem_blockedIds {id : String} : id ∈ ((upgradeLedgerForRecovery rt ledger).items.values.filter
      fun item => item.state = .blocked).map LoopItemLedgerEntry.id ↔
    ∃ key other, ledger.items.get? key = some other ∧ other.state = .blocked ∧ other.id = id := by
  simp only [mem_map, mem_filter, JsObject.mem_values, upgradeLedgerForRecovery, JsObject.get?_mapEntries,
    Option.map_eq_some_iff, decide_eq_true_eq]
  constructor
  · rintro ⟨_, ⟨⟨key, other, hget, rfl⟩, hstate⟩, rfl⟩
    exact ⟨key, other, hget, by simpa using hstate, (upgradeItem_id other).symm⟩
  · rintro ⟨key, other, hget, hstate, rfl⟩
    exact ⟨upgradeItem rt other, ⟨⟨key, other, hget, rfl⟩, by simpa using hstate⟩, upgradeItem_id other⟩

lemma not_exhausted_iff {stop : Option LoopStopRecord} {id : String} :
    (((stop.filter fun stop => isMechanicalCompatibilityStopReason stop.reason).bind (·.itemId)).any
      fun exhausted => decide (exhausted ≠ "") && decide (id = exhausted)) = false ↔
      ∀ record, stop = some record → isMechanicalCompatibilityStopReason record.reason = true →
        id = "" ∨ record.itemId ≠ some id := by
  cases stop with
  | none => simp
  | some record =>
    cases hmechanical : isMechanicalCompatibilityStopReason record.reason with
    | false => simp [Option.filter, hmechanical]
    | true =>
      cases hitem : record.itemId with
      | none => simp [Option.filter, hmechanical, hitem]
      | some exhausted =>
        by_cases hsame : id = exhausted
        · simp [Option.filter, hmechanical, hitem, hsame]
        · simp [Option.filter, hmechanical, hitem, hsame, Ne.symm hsame]

lemma isEligible_iff_canStart (hnd : (contract.items.map LoopContractItem.id).Nodup) {policy : RecoveryPolicy}
    {item : LoopContractItem} (hitem : item ∈ contract.items)
    (hexternal : ∀ dep ∈ item.externalDependsOn, statuses dep = some .satisfied ∨
      ¬ ∃ entry, ledger.items.get? item.id = some entry ∧ entry.state = .pending) :
    isEligible statuses { contract with recoveryPolicy := policy } (upgradeLedgerForRecovery rt ledger) item.id =
      true ↔ CanStart contract ledger item := by
  have hcurrent : ({ contract with recoveryPolicy := policy } : LoopContract).itemById item.id = some item :=
    itemById_of_mem hnd hitem
  have hstop : (upgradeLedgerForRecovery rt ledger).stop = ledger.stop := rfl
  have hpending : (((upgradeLedgerForRecovery rt ledger).items.get? item.id).any fun entry =>
      entry.state = .pending) = true ↔ ∃ entry, ledger.items.get? item.id = some entry ∧ entry.state = .pending := by
    cases hget : ledger.items.get? item.id <;> simp [upgradeLedgerForRecovery, hget]
  have hunblocked : (item.dependsOn.any fun dep => decide (dep ∈ ((upgradeLedgerForRecovery rt ledger).items.values.filter
      fun item => item.state = .blocked).map LoopItemLedgerEntry.id)) = false ↔
      ∀ key other, ledger.items.get? key = some other → other.state = .blocked → other.id ∉ item.dependsOn := by
    rw [any_eq_false]
    simp only [decide_eq_true_eq, mem_blockedIds]
    refine ⟨fun h key other hget hstate hdep => h other.id hdep ⟨key, other, hget, hstate, rfl⟩, fun h dep hdep => ?_⟩
    rintro ⟨key, other, hget, hstate, hid⟩
    exact h key other hget hstate (hid ▸ hdep)
  simp only [isEligible, LoopContract.dependsOn, hcurrent, Option.map_some, Option.getD_some, Bool.and_eq_true,
    Bool.not_eq_true', hpending, hstop, not_exhausted_iff, hunblocked, all_eq_true, isOutstanding_upgraded,
    isOutstanding_eq_false, decide_eq_true_eq]
  constructor
  · rintro ⟨⟨⟨⟨hpending, hexhausted⟩, hunblocked⟩, hdone⟩, -⟩
    exact ⟨hitem, hpending, hexhausted, hunblocked, hdone⟩
  · rintro ⟨-, hpending, hexhausted, hunblocked, hdone⟩
    exact ⟨⟨⟨⟨hpending, hexhausted⟩, hunblocked⟩, hdone⟩,
      fun dep hdep => (hexternal dep hdep).resolve_right (fun h => h hpending)⟩

end Frontier

/-! ## Held frontiers -/

/-- A declared dependency of the contract. -/
def LoopContract.Depends (contract : LoopContract) (id dep : String) : Prop :=
  ∃ item ∈ contract.items, item.id = id ∧ dep ∈ item.dependsOn

/-- An item of the ledger that is not in a terminal state. -/
def IsOpenItem (items : JsObject LoopItemLedgerEntry) (id : String) : Prop :=
  ∃ entry, items.get? id = some entry ∧ isTerminalItemState entry.state = false

/-- A state with a resolution path of its own. -/
def isHeldState : LoopItemState → Bool
  | .blocked | .implemented | .prOpened | .paused | .waiting => true
  | _ => false

/-- A compiled contract and a settled ledger: what the open items depend on, in the end, has ledger entries and
satisfied external dependencies, and some item is held with a resolution path of its own. -/
structure HeldFrontier (statuses : String → Option ExternalDependencyStatus) (contract : LoopContract)
    (ledger : LoopLedger) : Prop where
  compiled : ∃ rawItems, compileContractItems rawItems = .ok contract.items
  settled : ∃ time engine before, (propagateSkips statuses time engine contract before).1 = ledger
  grounded : ∀ item ∈ contract.items, IsOpenItem ledger.items item.id →
    ∀ id, Relation.ReflTransGen contract.Depends item.id id → (∃ entry, ledger.items.get? id = some entry) ∧
        ∀ other ∈ contract.items, other.id = id → ∀ dep ∈ other.externalDependsOn, statuses dep = some .satisfied
  held : ∃ item ∈ contract.items, ∃ entry, ledger.items.get? item.id = some entry ∧ isHeldState entry.state = true

/-- No open item depends directly on a pending one. -/
def NoPendingWait (contract : LoopContract) (ledger : LoopLedger) : Prop :=
  ∀ item ∈ contract.items, IsOpenItem ledger.items item.id →
    ∀ dep ∈ item.dependsOn, ∀ entry, ledger.items.get? dep = some entry → entry.state ≠ .pending

section Held

variable {rt : JsRuntime} {statuses : String → Option ExternalDependencyStatus} {contract : LoopContract}
  {ledger : LoopLedger}

lemma deadlockChain_eq_nil_iff (h : HeldFrontier statuses contract ledger) :
    deadlockChain statuses contract ledger = [] ↔ NoPendingWait contract ledger := by
  have hopen : ∀ id, (ledger.items.get? id).any (fun entry => !isTerminalItemState entry.state) = true ↔
      IsOpenItem ledger.items id := by
    intro id
    cases hget : ledger.items.get? id <;> simp [IsOpenItem, hget]
  rw [deadlockChain, flatMap_eq_nil_iff]
  refine forall₂_congr fun item hitem => ?_
  rw [← hopen]
  split
  · next hisOpen =>
    have hgrounded := h.grounded item hitem ((hopen item.id).1 hisOpen)
    -- its own external dependencies are satisfied
    have hexternal : externalWaits statuses item = [] := by
      rw [externalWaits, filterMap_eq_nil_iff]
      intro dep hdep
      have hstatus := (hgrounded item.id .refl).2 item hitem rfl dep hdep
      simp [hstatus]
    have hwaits : inRunWaits ledger.items item = [] ↔
        ∀ dep ∈ item.dependsOn, ∀ entry, ledger.items.get? dep = some entry → entry.state ≠ .pending := by
      rw [inRunWaits, filterMap_eq_nil_iff]
      refine forall₂_congr fun dep hdep => ?_
      obtain ⟨entry, hget⟩ := (hgrounded dep (.single ⟨item, hitem, rfl, hdep⟩)).1
      simp [hget]
    rw [hexternal, append_nil, hwaits]
    exact ⟨fun hall _ => hall, fun hall => hall hisOpen⟩
  · next hclosed => exact ⟨fun _ hisOpen => absurd hisOpen hclosed, fun _ => rfl⟩

lemma frontier_of_held (h : HeldFrontier statuses contract ledger) {upgraded : LoopContract}
    (hpolicy : upgradeContractForRecovery contract = .ok upgraded)
    (hidle : ledger.items.values.any (fun item => item.state = .inProgress) = false) :
    ∃ frontier, eligibleIndependentItems rt statuses contract ledger = .ok frontier ∧
      (frontier ≠ [] ↔ (∀ stop, ledger.stop = some stop → isMechanicalCompatibilityStopReason stop.reason = true) ∧
        ∃ item, CanStart contract ledger item) := by
  obtain ⟨rawItems, hcompiled⟩ := h.compiled
  have hnd := ((compileContractItems_exact rawItems).2 _ hcompiled).follows.distinct
  obtain rfl := upgradeContractForRecovery_eq_ok hpolicy
  have hupgraded : (upgradeLedgerForRecovery rt ledger).items.values.any (fun item => item.state = .inProgress) =
      false := by
    rw [any_eq_false] at hidle ⊢
    intro entry hentry
    obtain ⟨key, hget⟩ := JsObject.mem_values.1 hentry
    obtain ⟨old, hold, hstate⟩ := get?_upgraded hget
    rw [← hstate]
    exact hidle old (JsObject.mem_values.2 ⟨key, hold⟩)
  have heligible : ∀ item ∈ contract.items,
      isEligible statuses { contract with recoveryPolicy := normalizeRecoveryPolicyCompatibility contract.recoveryPolicy }
        (upgradeLedgerForRecovery rt ledger) item.id = true ↔ CanStart contract ledger item := by
    intro item hitem
    refine isEligible_iff_canStart hnd hitem fun dep hdep => ?_
    by_cases hpending : ∃ entry, ledger.items.get? item.id = some entry ∧ entry.state = .pending
    · obtain ⟨entry, hget, hstate⟩ := hpending
      have hisOpen : IsOpenItem ledger.items item.id := ⟨entry, hget, by rw [hstate]; rfl⟩
      exact .inl ((h.grounded item hitem hisOpen item.id .refl).2 item hitem rfl dep hdep)
    · exact .inr hpending
  unfold eligibleIndependentItems
  rw [hpolicy]
  dsimp only
  split
  · next hstopped =>
    refine ⟨[], rfl, fun hne => absurd rfl hne, fun ⟨hmechanical, _⟩ => ?_⟩
    obtain ⟨stop, hstop, hother⟩ := (Option.any_eq_true _ _).1 hstopped
    rw [hmechanical stop hstop] at hother
    cases hother
  · next hstopped =>
    rw [hupgraded]
    refine ⟨_, rfl, ?_⟩
    have hmechanical : ∀ stop, ledger.stop = some stop → isMechanicalCompatibilityStopReason stop.reason = true := by
      intro stop hstop
      simpa [upgradeLedgerForRecovery, hstop] using hstopped
    rw [ne_eq, map_eq_nil_iff, filter_eq_nil_iff]
    push Not
    constructor
    · rintro ⟨item, hitem, heligibleItem⟩
      exact ⟨hmechanical, item, (heligible item hitem).1 heligibleItem⟩
    · rintro ⟨-, item, hcan⟩
      exact ⟨item, hcan.declared, (heligible item hcan.declared).2 hcan⟩

/-- A held run is not reported as a deadlock just when an item is in progress, or the frontier can be computed and
an item may start or no open item depends directly on a pending one. -/
theorem no_deadlock_iff (h : HeldFrontier statuses contract ledger) :
    detectDependencyDeadlock rt statuses contract ledger = .ok none ↔
      (∃ id entry, ledger.items.get? id = some entry ∧ entry.state = .inProgress) ∨
        (∃ upgraded, upgradeContractForRecovery contract = .ok upgraded) ∧
          (((∀ stop, ledger.stop = some stop → isMechanicalCompatibilityStopReason stop.reason = true) ∧
              ∃ item, CanStart contract ledger item) ∨
            NoPendingWait contract ledger) := by
  have hbusy : ledger.items.values.any (fun item => item.state = .inProgress) = true ↔
      ∃ id entry, ledger.items.get? id = some entry ∧ entry.state = .inProgress := by
    rw [any_eq_true]
    simp only [JsObject.mem_values, decide_eq_true_eq]
    exact ⟨fun ⟨entry, ⟨id, hget⟩, hstate⟩ => ⟨id, entry, hget, hstate⟩,
      fun ⟨id, entry, hget, hstate⟩ => ⟨entry, ⟨id, hget⟩, hstate⟩⟩
  rw [← hbusy]
  unfold detectDependencyDeadlock
  split
  · next hactive => exact ⟨fun _ => .inl hactive, fun _ => rfl⟩
  · next hidle =>
    rw [or_iff_right hidle]
    cases hpolicy : upgradeContractForRecovery contract with
    | error e =>
      have hthrows : eligibleIndependentItems rt statuses contract ledger = .error e := by
        rw [eligibleIndependentItems, hpolicy]
      rw [hthrows]
      simp
    | ok upgraded =>
      obtain ⟨frontier, hfrontier, hiff⟩ : ∃ frontier, eligibleIndependentItems rt statuses contract ledger =
          .ok frontier ∧ _ := frontier_of_held h hpolicy (by simpa using hidle)
      rw [hfrontier, ← hiff, ← deadlockChain_eq_nil_iff h]
      by_cases hempty : frontier = []
      · by_cases hchain : deadlockChain statuses contract ledger = [] <;> simp [hempty, hchain]
      · simp [hempty]

end Held

/-! ## A chain of three items -/

/-- Each item waits for the one before it. -/
def waitingChain : LoopContract := contractOf [⟨"1", [], []⟩, ⟨"2", ["1"], []⟩, ⟨"3", ["2"], []⟩]

/-- The first item is blocked, and the others did not start. -/
def blockedFirst : LoopLedger where
  runId := "r"
  items := ((JsObject.empty.set "1" { id := "1", state := .blocked }).set "2" { id := "2", state := .pending }).set
    "3" { id := "3", state := .pending }

lemma heldFrontier_waitingChain (statuses : String → Option ExternalDependencyStatus) :
    HeldFrontier statuses waitingChain blockedFirst where
  compiled := ⟨[⟨"1", []⟩, ⟨"2", ["1"]⟩, ⟨"3", ["2"]⟩], by decide +kernel⟩
  settled := ⟨"t", .claude, blockedFirst, rfl⟩
  grounded := by
    intro item hitem _ id hreach
    have hids : ∀ a, (∃ entry, blockedFirst.items.get? a = some entry) →
        ∀ b, waitingChain.Depends a b → ∃ entry, blockedFirst.items.get? b = some entry := by
      rintro a - b ⟨other, hother, -, hdep⟩
      have hlisted : ∀ other ∈ waitingChain.items, ∀ dep ∈ other.dependsOn,
          (blockedFirst.items.get? dep).isSome = true := by decide +kernel
      exact Option.isSome_iff_exists.1 (hlisted other hother b hdep)
    have hstart : ∃ entry, blockedFirst.items.get? item.id = some entry := by
      have hlisted : ∀ other ∈ waitingChain.items, (blockedFirst.items.get? other.id).isSome = true := by
        decide +kernel
      exact Option.isSome_iff_exists.1 (hlisted item hitem)
    refine ⟨?_, fun other hother _ dep hdep => ?_⟩
    · induction hreach with
      | refl => exact hstart
      | tail _ hlink ih => exact hids _ ih _ hlink
    · have hnone : ∀ other ∈ waitingChain.items, other.externalDependsOn = [] := by decide +kernel
      rw [hnone other hother] at hdep
      cases hdep
  held := ⟨⟨"1", [], []⟩, by decide +kernel, { id := "1", state := .blocked }, by decide +kernel, rfl⟩

theorem no_deadlock_iff_waitingChain :
    detectDependencyDeadlock (.onFirstDay []) (fun _ => none) waitingChain blockedFirst = .ok none ↔
      (∃ id entry, blockedFirst.items.get? id = some entry ∧ entry.state = .inProgress) ∨
        (∃ upgraded, upgradeContractForRecovery waitingChain = .ok upgraded) ∧
          (((∀ stop, blockedFirst.stop = some stop → isMechanicalCompatibilityStopReason stop.reason = true) ∧
              ∃ item, CanStart waitingChain blockedFirst item) ∨
            NoPendingWait waitingChain blockedFirst) :=
  no_deadlock_iff (heldFrontier_waitingChain fun _ => none)

/-- The third item is reported as stuck on the second one, which only waits for the blocked first one. -/
theorem blocked_chain_reported :
    HeldFrontier (fun _ => none) waitingChain blockedFirst ∧
      detectDependencyDeadlock (.onFirstDay []) (fun _ => none) waitingChain blockedFirst ≠ .ok none := by
  refine ⟨heldFrontier_waitingChain fun _ => none, fun h => ?_⟩
  have hreported : ((detectDependencyDeadlock (.onFirstDay []) (fun _ => none) waitingChain blockedFirst).toOption.map
      Option.isSome) = some true := by decide +kernel
  rw [h] at hreported
  cases hreported

end AgentPipeline.Loop
