import Mathlib.Algebra.Order.Floor.Ring
import AgentPipeline.Foundation.Json
import AgentPipeline.Foundation.Search
import AgentPipeline.Loop.Dependencies

/-!
# Schedule: which items of a run may be started together

`selectSchedulableSet` of `loop/schedule.ts`, with the frontier `eligibleIndependentItems` of
`loop/recovery.ts`. The frontier is walked in contract order, and a candidate is admitted unless one
of four denials applies, in this order: a dependency path to an admitted item, a conflicting
ownership, unresolved drift, and the budget.

Ownership is evaluated elsewhere; here it is a function of two item ids, since the declaration of an
item is looked up by its id.

`SoundSchedule` is what a decision promises. Its pairwise part follows from what one admission
checks (`Admissible`) by induction along the frontier, and the dependency paths are complete because
the search is (`reaches_iff`).
-/

namespace AgentPipeline.Loop

open List
open Search (SuccGraph)

/-! ## Inputs and decisions -/

inductive OwnershipSurfaceKind where
  | source | schemaState | generatedArtifact | sharedConfig | publicApi | ciWorkflow | packageVersion
deriving DecidableEq, Repr

def OwnershipSurfaceKind.name : OwnershipSurfaceKind → String
  | .source => "source"
  | .schemaState => "schema_state"
  | .generatedArtifact => "generated_artifact"
  | .sharedConfig => "shared_config"
  | .publicApi => "public_api"
  | .ciWorkflow => "ci_workflow"
  | .packageVersion => "package_version"

inductive OwnershipConflictReason where
  | overlappingSurface (kind : OwnershipSurfaceKind) (pattern : String)
  | explicitEdge
  | unknownOwnership (detail : String)
deriving DecidableEq, Repr

/-- `verdict === "conflict"` and its reason. -/
structure OwnershipConflictVerdict where
  conflict : Bool
  reason : Option OwnershipConflictReason
deriving DecidableEq, Repr

inductive ScheduleDisposition where
  | admitted | dependencyPath | conflictEdge | unknownOwnership | mergeBarrier | unresolvedDrift
  | budgetTruncation
deriving DecidableEq, Repr

structure ScheduleRationale where
  itemId : String
  disposition : ScheduleDisposition
  counterpartItemId : Option String := none
  detail : Option String := none
deriving DecidableEq, Repr

structure ScheduleDecision where
  selected : List String
  rationale : List ScheduleRationale
deriving DecidableEq, Repr

structure ScheduleInput where
  contract : LoopContract
  /-- `contract.concurrency?.max_concurrent`. -/
  maxConcurrent : Option JsNumber
  ledger : LoopLedger
  externalStatuses : String → Option ExternalDependencyStatus
  /-- `evaluateConflict` on the declared ownership of the items with these ids. -/
  evaluateConflict : String → String → OwnershipConflictVerdict

/-! ## Dependencies -/

/-- `DONE_STATES`. -/
def isDoneState : LoopItemState → Bool
  | .ready | .merged | .released | .deployed => true
  | _ => false

/-- The item that a map from ids to items holds: of two items with one id, the later. -/
def LoopContract.itemById (contract : LoopContract) (id : String) : Option LoopContractItem :=
  contract.items.reverse.find? fun item => item.id = id

variable {contract : LoopContract} {id : String}

lemma LoopContract.itemById_eq_some {item : LoopContractItem} (h : contract.itemById id = some item) :
    item ∈ contract.items ∧ item.id = id := by
  refine ⟨by simpa using mem_of_find?_eq_some h, ?_⟩
  simpa using find?_some h

lemma LoopContract.exists_itemById {item : LoopContractItem}
    (h : item ∈ contract.items) : ∃ last, contract.itemById item.id = some last := by
  apply Option.isSome_iff_exists.1
  rw [LoopContract.itemById, find?_isSome]
  exact ⟨item, by simpa using h, by simp⟩

/-- The declared dependencies of an item. -/
def LoopContract.dependsOn (contract : LoopContract) (id : String) : List String :=
  ((contract.itemById id).map (·.dependsOn)).getD []

def LoopContract.dependencyGraph (contract : LoopContract) : SuccGraph String where
  nodes := contract.items.map (·.id)
  next := contract.dependsOn
  closed id hid := by
    have hnone : contract.itemById id = none := by
      by_contra hsome
      obtain ⟨item, hitem⟩ := Option.ne_none_iff_exists'.1 hsome
      obtain ⟨hmem, heq⟩ := LoopContract.itemById_eq_some hitem
      exact hid (mem_map.2 ⟨item, hmem, heq⟩)
    simp [LoopContract.dependsOn, hnone]

/-- One item depends on the other over declared dependencies. -/
def LoopContract.DependsTransitively (contract : LoopContract) : String → String → Prop :=
  Relation.TransGen contract.dependencyGraph.Edge

/-- `dependsTransitively(itemsById, from, to)`. -/
def dependsTransitively (contract : LoopContract) (source target : String) : Bool :=
  contract.dependencyGraph.reaches source target

def hasDependencyPath (contract : LoopContract) (a b : String) : Bool :=
  dependsTransitively contract a b || dependsTransitively contract b a

lemma hasDependencyPath_iff {a b : String} : hasDependencyPath contract a b = true ↔
      contract.DependsTransitively a b ∨ contract.DependsTransitively b a := by
  simp [hasDependencyPath, dependsTransitively, SuccGraph.reaches_iff, LoopContract.DependsTransitively]

/-- An item that is not in a done state, or not in the ledger. -/
def isOutstanding (items : JsObject LoopItemLedgerEntry) (id : String) : Bool :=
  !(items.get? id).any fun entry => isDoneState entry.state

/-- `dependencyBlockedRationale(contract, ledger)`: every outstanding dependency of a pending item,
transitive ones included, in breadth-first order. -/
def dependencyBlockedRationale (contract : LoopContract) (ledger : LoopLedger) :
    List ScheduleRationale :=
  contract.items.flatMap fun item =>
    if (ledger.items.get? item.id).any (fun entry => entry.state = .pending) then
      ((contract.dependencyGraph.visit item.dependsOn).filter (isOutstanding ledger.items)).map
        fun dep => { itemId := item.id, disposition := .dependencyPath, counterpartItemId := some dep }
    else []

/-! ## The frontier -/

section Frontier

variable (rt : JsRuntime) (statuses : String → Option ExternalDependencyStatus)

/-- The checks of the frontier on one item, by its id. -/
def isEligible (contract : LoopContract) (ledger : LoopLedger) (id : String) : Bool :=
  let blockedIds := (ledger.items.values.filter fun item => item.state = .blocked).map (·.id)
  let exhaustedItemId := (ledger.stop.filter fun stop =>
    isMechanicalCompatibilityStopReason stop.reason).bind (·.itemId)
  let deps := contract.dependsOn id
  let externalDeps := ((contract.itemById id).map (·.externalDependsOn)).getD []
  (ledger.items.get? id).any (fun entry => entry.state = .pending) &&
    -- a mechanical stop keeps its own item out, not its siblings
    !(exhaustedItemId.any fun exhausted => exhausted ≠ "" && id = exhausted) &&
    !deps.any (· ∈ blockedIds) &&
    deps.all (fun dep => !isOutstanding ledger.items dep) &&
    externalDeps.all fun dep => statuses dep = some .satisfied

/-- `eligibleIndependentItems(contract, ledger, externalStatuses)`. -/
def eligibleIndependentItems (contractInput : LoopContract) (ledgerInput : LoopLedger) :
    Except LoopError (List String) :=
  match upgradeContractForRecovery contractInput with
  | .error e => .error e
  | .ok contract =>
    let ledger := upgradeLedgerForRecovery rt ledgerInput
    -- a stop that is not a mechanical one ends scheduling for all items
    if ledger.stop.any (fun stop => !isMechanicalCompatibilityStopReason stop.reason) then .ok []
    -- while an item is active, no further one is admitted
    else if ledger.items.values.any (fun item => item.state = .inProgress) then .ok []
    else
      .ok ((contract.items.filter fun item =>
        isEligible statuses contract ledger item.id).map (·.id))

end Frontier

/-! ## Selection -/

section Selection

variable (rt : JsRuntime) (input : ScheduleInput)

/-- `max_concurrent ?? 1`, rounded down, and one when that is no number from one on. -/
def ScheduleInput.budget : Nat :=
  match input.maxConcurrent with
  | some (.finite q) => if 1 ≤ q then ⌊q⌋.toNat else 1
  -- `Number.isFinite` fails
  | some (.infinity _) | some .nan | none => 1

/-- A drift stays unresolved unless the pass repaired it; a reconstruction leaves an unfinished
rebase or product dirt unresolved. -/
def isUnresolvedDrift (reconciliation : LoopReconciliation) (drift : LoopDrift) : Bool :=
  match reconciliation.nextActions.get? drift.itemId with
  | some .repairForward => false
  | some .reconstruct =>
    drift.driftClass = .identityMismatch && (reconciliation.observed.get? drift.itemId).any fun observed =>
        observed.rebaseInProgress || observed.productDirt
  | _ => true

def ScheduleInput.unresolvedDriftIds : List String :=
  match input.ledger.lastReconciliation with
  | none => []
  | some reconciliation =>
    (reconciliation.drift.filter (isUnresolvedDrift reconciliation)).map (·.itemId)

/-- The first admitted item that the candidate has a dependency path with. -/
def dependencyDenial (selected : List String) (candidate : String) : Option ScheduleRationale :=
  (selected.find? fun admitted => hasDependencyPath input.contract candidate admitted).map
    fun admitted =>
      { itemId := candidate, disposition := .dependencyPath, counterpartItemId := some admitted }

def conflictRationale (candidate admitted : String) (verdict : OwnershipConflictVerdict) :
    ScheduleRationale :=
  match verdict.reason with
  | some (.unknownOwnership detail) =>
    { itemId := candidate, disposition := .unknownOwnership, counterpartItemId := some admitted
      detail := some detail }
  | some (.overlappingSurface kind pattern) =>
    { itemId := candidate, disposition := .conflictEdge, counterpartItemId := some admitted
      detail := some (kind.name ++ ":" ++ pattern) }
  | some .explicitEdge | none =>
    { itemId := candidate, disposition := .conflictEdge, counterpartItemId := some admitted }

/-- The first admitted item that the candidate is in conflict with. -/
def conflictDenial (selected : List String) (candidate : String) : Option ScheduleRationale :=
  (selected.find? fun admitted => (input.evaluateConflict candidate admitted).conflict).map
    fun admitted =>
      conflictRationale candidate admitted (input.evaluateConflict candidate admitted)

/-- Why a candidate is not admitted; the first reason counts. -/
def denial (selected : List String) (candidate : String) : Option ScheduleRationale :=
  match dependencyDenial input selected candidate with
  | some denied => some denied
  | none =>
    match conflictDenial input selected candidate with
    | some denied => some denied
    | none =>
      if candidate ∈ input.unresolvedDriftIds then
        some { itemId := candidate, disposition := .unresolvedDrift }
      else if input.budget ≤ selected.length then
        some { itemId := candidate, disposition := .budgetTruncation }
      else none

/-- The loop over the frontier, from the items admitted so far. -/
def admitFrontier : List String → List String → List String × List ScheduleRationale
  | [], selected => (selected, [])
  | candidate :: rest, selected =>
    match denial input selected candidate with
    | some denied =>
      let after := admitFrontier rest selected
      (after.1, denied :: after.2)
    | none =>
      let after := admitFrontier rest (selected ++ [candidate])
      (after.1, { itemId := candidate, disposition := .admitted } :: after.2)

def selectSchedulableSet : Except LoopError ScheduleDecision :=
  match eligibleIndependentItems rt input.externalStatuses input.contract input.ledger with
  | .error e => .error e
  | .ok frontier =>
    let dependencyBlocked := dependencyBlockedRationale input.contract input.ledger
    if frontier.isEmpty then .ok ⟨[], dependencyBlocked⟩
    -- the base branch has not caught up with the last merge
    else if input.ledger.mergeBarrier.isSome then
      .ok ⟨[], frontier.map (fun id => { itemId := id, disposition := .mergeBarrier }) ++ dependencyBlocked⟩
    else
      let admitted := admitFrontier input frontier []
      .ok ⟨admitted.1, admitted.2 ++ dependencyBlocked⟩

end Selection

/-! ## What one admission checks -/

section Soundness

variable {rt : JsRuntime} {input : ScheduleInput}

/-- No dependency path and no conflict, in either direction. -/
structure Independent (input : ScheduleInput) (a b : String) : Prop where
  path : ¬input.contract.DependsTransitively a b
  path_symm : ¬input.contract.DependsTransitively b a
  conflict : (input.evaluateConflict a b).conflict = false
  conflict_symm : (input.evaluateConflict b a).conflict = false

variable {selected : List String} {candidate : String}

lemma dependencyDenial_eq_none : dependencyDenial input selected candidate = none ↔
      ∀ a ∈ selected, ¬input.contract.DependsTransitively candidate a ∧
        ¬input.contract.DependsTransitively a candidate := by
  simp only [dependencyDenial, Option.map_eq_none_iff, find?_eq_none, hasDependencyPath_iff, not_or]

lemma conflictDenial_eq_none : conflictDenial input selected candidate = none ↔
      ∀ a ∈ selected, (input.evaluateConflict candidate a).conflict = false := by
  simp [conflictDenial]

lemma denial_eq_none (h : denial input selected candidate = none)
    (hsymm : ∀ a b, (input.evaluateConflict a b).conflict = (input.evaluateConflict b a).conflict) :
    (∀ a ∈ selected, Independent input a candidate) ∧ candidate ∉ input.unresolvedDriftIds ∧
      selected.length < input.budget := by
  unfold denial at h
  split at h
  · simp at h
  · next hpath =>
    split at h
    · simp at h
    · next hconflict =>
      split at h
      · simp at h
      · next hdrift =>
        split at h
        · simp at h
        · next hbudget =>
          have hpaths := dependencyDenial_eq_none.1 hpath
          have hconflicts := conflictDenial_eq_none.1 hconflict
          refine ⟨fun a ha => ?_, hdrift, not_le.1 hbudget⟩
          have hfalse := hconflicts a ha
          exact ⟨(hpaths a ha).2, (hpaths a ha).1, by rw [hsymm, hfalse], hfalse⟩

lemma conflictRationale_itemId (candidate admitted : String) (verdict : OwnershipConflictVerdict) :
    (conflictRationale candidate admitted verdict).itemId = candidate := by
  unfold conflictRationale
  split <;> rfl

lemma denial_itemId {denied : ScheduleRationale}
    (h : denial input selected candidate = some denied) : denied.itemId = candidate := by
  unfold denial dependencyDenial conflictDenial at h
  split at h
  · next denied' hpath =>
    obtain ⟨admitted, _, rfl⟩ := Option.map_eq_some_iff.1 hpath
    rw [← Option.some.inj h]
  · split at h
    · next denied' hconflict =>
      obtain ⟨admitted, _, rfl⟩ := Option.map_eq_some_iff.1 hconflict
      rw [← Option.some.inj h, conflictRationale_itemId]
    · split at h
      · rw [← Option.some.inj h]
      · split at h
        · rw [← Option.some.inj h]
        · simp at h

/-! ## The loop -/

/-- The admitted items are pairwise independent, settled and within budget. -/
structure Admissible (input : ScheduleInput) (selected : List String) : Prop where
  independent : selected.Pairwise (Independent input)
  settled : ∀ id ∈ selected, id ∉ input.unresolvedDriftIds
  bounded : selected.length ≤ input.budget

lemma Admissible.extend (h : Admissible input selected) (hdenial : denial input selected candidate = none)
    (hsymm : ∀ a b, (input.evaluateConflict a b).conflict = (input.evaluateConflict b a).conflict) :
    Admissible input (selected ++ [candidate]) := by
  obtain ⟨hindependent, hdrift, hbudget⟩ := denial_eq_none hdenial hsymm
  refine ⟨?_, fun id hid => ?_, by simpa [Nat.succ_le_iff] using hbudget⟩
  · refine pairwise_append.2 ⟨h.independent, pairwise_singleton _ _, fun a ha b hb => ?_⟩
    obtain rfl := mem_singleton.1 hb
    exact hindependent a ha
  · rcases mem_append.1 hid with hid | hid
    · exact h.settled id hid
    · obtain rfl := mem_singleton.1 hid
      exact hdrift

lemma admitFrontier_spec (hsymm : ∀ a b, (input.evaluateConflict a b).conflict = (input.evaluateConflict b a).conflict)
    (frontier : List String) (h : Admissible input selected) :
    Admissible input (admitFrontier input frontier selected).1 ∧
      (∀ id ∈ (admitFrontier input frontier selected).1, id ∈ selected ∨ id ∈ frontier) ∧
      (admitFrontier input frontier selected).2.map (·.itemId) = frontier := by
  induction frontier generalizing selected with
  | nil => exact ⟨h, fun id hid => .inl hid, rfl⟩
  | cons candidate rest ih =>
    unfold admitFrontier
    cases hdenial : denial input selected candidate with
    | some denied =>
      obtain ⟨hafter, hmem, hrecords⟩ := ih h
      refine ⟨hafter, fun id hid => ?_, ?_⟩
      · exact (hmem id hid).imp_right fun hrest => by simp [hrest]
      · simp [hrecords, denial_itemId hdenial]
    | none =>
      obtain ⟨hafter, hmem, hrecords⟩ := ih (h.extend hdenial hsymm)
      refine ⟨hafter, fun id hid => ?_, ?_⟩
      · rcases hmem id hid with hold | hrest
        · rcases mem_append.1 hold with hselected | hcandidate
          · exact .inl hselected
          · exact .inr (by simp [mem_singleton.1 hcandidate])
        · exact .inr (by simp [hrest])
      · simp [hrecords]

/-! ## The frontier asks of an item -/

/-- An item that may be started, on the ledger as it was passed. Of two items with one id, the
later is meant. -/
structure Startable (input : ScheduleInput) (id : String) (item : LoopContractItem) : Prop where
  declared : item ∈ input.contract.items ∧ item.id = id
  current : input.contract.itemById id = some item
  pending : ∃ entry, input.ledger.items.get? id = some entry ∧ entry.state = .pending
  dependencies : ∀ dep ∈ item.dependsOn, ∃ entry,
    input.ledger.items.get? dep = some entry ∧ isDoneState entry.state = true
  external : ∀ dep ∈ item.externalDependsOn, input.externalStatuses dep = some .satisfied

lemma isOutstanding_eq_false {items : JsObject LoopItemLedgerEntry} : isOutstanding items id = false ↔
      ∃ entry, items.get? id = some entry ∧ isDoneState entry.state = true := by
  simp [isOutstanding, Option.any_eq_true]

lemma get?_upgraded {ledger : LoopLedger} {entry : LoopItemLedgerEntry}
    (h : (upgradeLedgerForRecovery rt ledger).items.get? id = some entry) :
    ∃ old, ledger.items.get? id = some old ∧ old.state = entry.state := by
  have hmap : (ledger.items.get? id).map (upgradeItem rt) = some entry := by
    simpa [upgradeLedgerForRecovery] using h
  obtain ⟨old, hold, rfl⟩ := Option.map_eq_some_iff.1 hmap
  exact ⟨old, hold, (upgradeItem_state rt old).symm⟩

lemma startable_of_isEligible {policy : RecoveryPolicy} {found : LoopContractItem} (hmem : found ∈ input.contract.items)
    (h : isEligible input.externalStatuses { input.contract with recoveryPolicy := policy }
      (upgradeLedgerForRecovery rt input.ledger) found.id = true) :
    ∃ item, Startable input found.id item := by
  obtain ⟨item, hitem⟩ := LoopContract.exists_itemById hmem
  have hitem' : ({ input.contract with recoveryPolicy := policy } : LoopContract).itemById found.id =
    some item := hitem
  simp only [isEligible, LoopContract.dependsOn, hitem', Option.map_some, Option.getD_some,
    Bool.and_eq_true, all_eq_true, Bool.not_eq_true', Option.any_eq_true, decide_eq_true_eq] at h
  obtain ⟨⟨⟨⟨⟨entry, hget, hpending⟩, _⟩, _⟩, hdone⟩, hexternal⟩ := h
  refine ⟨item, LoopContract.itemById_eq_some hitem, hitem, ?_, fun dep hdep => ?_, hexternal⟩
  · obtain ⟨old, hold, hstate⟩ := get?_upgraded hget
    exact ⟨old, hold, hstate.trans hpending⟩
  · obtain ⟨depEntry, hdepGet, hdepDone⟩ := isOutstanding_eq_false.1 (hdone dep hdep)
    obtain ⟨old, hold, hstate⟩ := get?_upgraded hdepGet
    exact ⟨old, hold, by rw [hstate]; exact hdepDone⟩

lemma eligibleIndependentItems_spec {frontier : List String}
    (h : eligibleIndependentItems rt input.externalStatuses input.contract input.ledger = .ok frontier) :
    (∀ id ∈ frontier, ∃ item, Startable input id item) ∧ (∀ stop, input.ledger.stop = some stop →
        isMechanicalCompatibilityStopReason stop.reason = false → frontier = []) ∧
      ((∃ id entry, input.ledger.items.get? id = some entry ∧ entry.state = .inProgress) → frontier = []) := by
  unfold eligibleIndependentItems at h
  split at h
  · simp at h
  · next contract hcontract =>
    obtain rfl := upgradeContractForRecovery_eq_ok hcontract
    dsimp only at h
    split at h
    · obtain rfl : [] = frontier := Except.ok.inj h
      simp
    · next hstop =>
      split at h
      · obtain rfl : [] = frontier := Except.ok.inj h
        simp
      · next hidle =>
        obtain rfl := Except.ok.inj h
        refine ⟨fun id hid => ?_, fun stop hsome hother => ?_, fun hbusy => ?_⟩
        · obtain ⟨found, hfound, rfl⟩ := mem_map.1 hid
          obtain ⟨hmem, heligible⟩ := mem_filter.1 hfound
          exact startable_of_isEligible hmem heligible
        · exact absurd hother (by simpa [upgradeLedgerForRecovery, hsome] using hstop)
        · obtain ⟨id, entry, hget, hstate⟩ := hbusy
          refine absurd ?_ hidle
          refine any_eq_true.2 ⟨upgradeItem rt entry, ?_, by simp [hstate]⟩
          exact JsObject.mem_values.2 ⟨id, by simp [upgradeLedgerForRecovery, hget]⟩

/-! ## The decision -/

/-- `max(1, floor(max_concurrent))`, and one where that is no finite number. -/
def ScheduleInput.concurrency (input : ScheduleInput) : Nat :=
  match input.maxConcurrent with
  | some (.finite q) => max 1 ⌊q⌋.toNat
  | some (.infinity _) | some .nan | none => 1

lemma budget_eq_concurrency (input : ScheduleInput) : input.budget = input.concurrency := by
  unfold ScheduleInput.budget ScheduleInput.concurrency
  split
  · next q _ =>
    split
    · next hone =>
      have hfloor : 1 ≤ ⌊q⌋ := Int.le_floor.2 (by exact_mod_cast hone)
      omega
    · next hless =>
      have hfloor : ⌊q⌋ < 1 := Int.floor_lt.2 (by exact_mod_cast not_le.1 hless)
      omega
  all_goals rfl

/-- What a decision promises of the items it selects, and of its rationale. -/
structure SoundSchedule (rt : JsRuntime) (input : ScheduleInput) (decision : ScheduleDecision) :
    Prop where
  startable : ∀ id ∈ decision.selected, ∃ item, Startable input id item
  independent : decision.selected.Pairwise (Independent input)
  settled : ∀ id ∈ decision.selected, id ∉ input.unresolvedDriftIds
  bounded : decision.selected.length ≤ input.concurrency
  barrier : input.ledger.mergeBarrier.isSome = true → decision.selected = []
  idle : (∃ id entry, input.ledger.items.get? id = some entry ∧ entry.state = .inProgress) → decision.selected = []
  running : ∀ stop, input.ledger.stop = some stop →
    isMechanicalCompatibilityStopReason stop.reason = false → decision.selected = []
  rationale : ∃ frontier own,
    eligibleIndependentItems rt input.externalStatuses input.contract input.ledger = .ok frontier ∧
      decision.rationale = own ++ dependencyBlockedRationale input.contract input.ledger ∧
      own.map (·.itemId) = frontier

lemma SoundSchedule.of_nothing {frontier : List String} {own : List ScheduleRationale}
    (hfrontier : eligibleIndependentItems rt input.externalStatuses input.contract input.ledger =
      .ok frontier) (hown : own.map (·.itemId) = frontier) :
    SoundSchedule rt input
      ⟨[], own ++ dependencyBlockedRationale input.contract input.ledger⟩ where
  startable := by simp
  independent := List.Pairwise.nil
  settled := by simp
  bounded := Nat.zero_le _
  barrier _ := rfl
  idle _ := rfl
  running _ _ _ := rfl
  rationale := ⟨frontier, own, hfrontier, rfl, hown⟩

lemma Admissible.nil : Admissible input [] where
  independent := List.Pairwise.nil
  settled := by simp
  bounded := Nat.zero_le _

/-- Every decision is sound, whatever the contract, the ledger and the statuses are. -/
theorem selectSchedulableSet_sound {decision : ScheduleDecision}
    (hsymm : ∀ a b, (input.evaluateConflict a b).conflict = (input.evaluateConflict b a).conflict)
    (h : selectSchedulableSet rt input = .ok decision) : SoundSchedule rt input decision := by
  unfold selectSchedulableSet at h
  split at h
  · simp at h
  · next frontier hfrontier =>
    dsimp only at h
    split at h
    · next hempty =>
      obtain rfl := Except.ok.inj h
      have hnone : List.map (fun r : ScheduleRationale => r.itemId) [] = frontier :=
        (isEmpty_iff.1 hempty).symm
      exact .of_nothing hfrontier hnone
    · next hnonempty =>
      split at h
      · obtain rfl := Except.ok.inj h
        exact .of_nothing hfrontier (by simp [Function.comp_def])
      · next hbarrier =>
        obtain rfl := Except.ok.inj h
        obtain ⟨hstart, hstop, hbusy⟩ := eligibleIndependentItems_spec hfrontier
        obtain ⟨hadmissible, hmem, hrecords⟩ :=
          admitFrontier_spec hsymm frontier Admissible.nil
        have hfound : frontier ≠ [] := by simpa using hnonempty
        refine ⟨fun id hid => ?_, hadmissible.independent, hadmissible.settled, ?_, ?_, ?_,
          ?_, frontier, _, hfrontier, rfl, hrecords⟩
        · exact hstart id ((hmem id hid).resolve_left (by simp))
        · exact (budget_eq_concurrency input).symm ▸ hadmissible.bounded
        · exact fun hset => absurd hset hbarrier
        · exact fun hrun => absurd (hbusy hrun) hfound
        · exact fun stop hsome hother => absurd (hstop stop hsome hother) hfound

/-! ## Nothing more could be started -/

/-- What stands in the way of an item next to the selected ones. -/
def Excluded (input : ScheduleInput) (selected : List String) (id : String) : Prop :=
  (∃ a ∈ selected, input.contract.DependsTransitively id a ∨ input.contract.DependsTransitively a id ∨
    (input.evaluateConflict id a).conflict = true) ∨
    id ∈ input.unresolvedDriftIds ∨ input.budget ≤ selected.length

lemma excluded_of_denial {denied : ScheduleRationale}
    (h : denial input selected candidate = some denied) : Excluded input selected candidate := by
  by_contra hnot
  simp only [Excluded, not_or, not_exists, not_and, Bool.not_eq_true] at hnot
  obtain ⟨hfree, hdrift, hbudget⟩ := hnot
  have hpath := dependencyDenial_eq_none.2 fun a ha => ⟨(hfree a ha).1, (hfree a ha).2.1⟩
  have hconflict := conflictDenial_eq_none.2 fun a ha => (hfree a ha).2.2
  simp [denial, hpath, hconflict, hdrift, hbudget] at h

lemma admitFrontier_maximal (frontier : List String) : selected <+: (admitFrontier input frontier selected).1 ∧
      ∀ id ∈ frontier, id ∈ (admitFrontier input frontier selected).1 ∨
        Excluded input (admitFrontier input frontier selected).1 id := by
  induction frontier generalizing selected with
  | nil => exact ⟨prefix_refl _, by simp⟩
  | cons candidate rest ih =>
    unfold admitFrontier
    cases hdenial : denial input selected candidate with
    | some denied =>
      obtain ⟨hstart, hrest⟩ := @ih selected
      refine ⟨hstart, forall_mem_cons.2 ⟨.inr ?_, hrest⟩⟩
      -- what stood in the way still does
      refine (excluded_of_denial hdenial).imp ?_ (Or.imp_right fun hfull => hfull.trans hstart.length_le)
      exact fun ⟨a, ha, hexcludes⟩ => ⟨a, hstart.subset ha, hexcludes⟩
    | none =>
      obtain ⟨hstart, hrest⟩ := @ih (selected ++ [candidate])
      exact ⟨(prefix_append ..).trans hstart, forall_mem_cons.2 ⟨.inl (hstart.subset (by simp)), hrest⟩⟩

/-- Without a merge barrier every item of the frontier is selected or excluded, and nothing is selected only where
all of them have unresolved drift. -/
theorem selectSchedulableSet_maximal {frontier : List String} {decision : ScheduleDecision}
    (h : selectSchedulableSet rt input = .ok decision)
    (hfrontier : eligibleIndependentItems rt input.externalStatuses input.contract input.ledger = .ok frontier)
    (hbarrier : input.ledger.mergeBarrier = none) :
    (∀ id ∈ frontier, id ∈ decision.selected ∨ Excluded input decision.selected id) ∧
      (decision.selected = [] → ∀ id ∈ frontier, id ∈ input.unresolvedDriftIds) := by
  have hall : ∀ id ∈ frontier, id ∈ decision.selected ∨ Excluded input decision.selected id := by
    unfold selectSchedulableSet at h
    simp only [hfrontier, hbarrier, Option.isSome_none, Bool.false_eq_true, if_false] at h
    split at h
    · next hempty => simp [isEmpty_iff.1 hempty]
    · rw [← Except.ok.inj h]
      exact (admitFrontier_maximal frontier).2
  refine ⟨hall, fun hnone id hid => ?_⟩
  have hbudget : 0 < input.budget := by
    rw [budget_eq_concurrency]
    unfold ScheduleInput.concurrency
    split <;> simp
  simpa [hnone, Excluded, hbudget.ne'] using hall id hid

end Soundness

/-- Four pending items and a budget of two; `3` depends on `1`, and `2` is in conflict with `1`. -/
def fourItems : ScheduleInput where
  contract := contractOf [⟨"1", [], []⟩, ⟨"2", [], []⟩, ⟨"3", ["1"], []⟩, ⟨"4", [], ["upstream"]⟩]
  maxConcurrent := some (.finite (5 / 2))
  ledger :=
    { runId := "r"
      items := ((JsObject.empty.set "1" { id := "1", state := .pending }).set "2"
        { id := "2", state := .pending }).set "3" { id := "3", state := .pending } |>.set "4"
          { id := "4", state := .pending } }
  externalStatuses := fun _ => some .satisfied
  evaluateConflict a b :=
    { conflict := (a = "1" && b = "2") || (a = "2" && b = "1"), reason := some .explicitEdge }

theorem fourItems_maximal : ∃ decision, selectSchedulableSet (.onFirstDay []) fourItems = .ok decision ∧
    ("2" ∈ decision.selected ∨ Excluded fourItems decision.selected "2") :=
  ⟨_, rfl, (@selectSchedulableSet_maximal (.onFirstDay []) _ _ _ rfl rfl rfl).1 "2" (by decide)⟩

/-- The schedule of the four items. -/
theorem fourItems_sound :
    ∃ decision, selectSchedulableSet (.onFirstDay []) fourItems = .ok decision ∧
      decision.selected = ["1", "4"] ∧ SoundSchedule (.onFirstDay []) fourItems decision := by
  refine ⟨⟨["1", "4"], [{ itemId := "1", disposition := .admitted },
    { itemId := "2", disposition := .conflictEdge, counterpartItemId := some "1" },
    { itemId := "4", disposition := .admitted },
    { itemId := "3", disposition := .dependencyPath, counterpartItemId := some "1" }]⟩,
    by decide +kernel, rfl, ?_⟩
  refine selectSchedulableSet_sound (fun a b => ?_) (by decide +kernel)
  calc (fourItems.evaluateConflict a b).conflict
      = (((a = "1" : Bool) && (b = "2" : Bool)) || ((a = "2" : Bool) && (b = "1" : Bool))) := rfl
    _ = (((a = "2" : Bool) && (b = "1" : Bool)) || ((a = "1" : Bool) && (b = "2" : Bool))) :=
        Bool.or_comm _ _
    _ = (((b = "1" : Bool) && (a = "2" : Bool)) || ((b = "2" : Bool) && (a = "1" : Bool))) :=
        congrArg₂ _ (Bool.and_comm _ _) (Bool.and_comm _ _)
    _ = (fourItems.evaluateConflict b a).conflict := rfl

end AgentPipeline.Loop
