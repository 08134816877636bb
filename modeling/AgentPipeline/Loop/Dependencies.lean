import AgentPipeline.Loop.Recovery

/-!
# Dependencies: skip propagation

`propagateSkips` of `loop/dependencies.ts`: an item that waits for a dependency which will never
be satisfied is skipped, and so are its dependents. The source repeats sweeps over the contract
until one changes nothing. Every item that a sweep skips leaves the states it could be skipped
from (`skippableCount_skipSweep`), so the sweeps end: `propagate_settled` shows that the fuel of
the model is never used up.
-/

namespace AgentPipeline.Loop

inductive ExternalDependencyStatus where
  | satisfied | unsatisfiable | pending
deriving DecidableEq, Repr

inductive SkipKind where
  | inRun | external
deriving DecidableEq, Repr

def SkipKind.name : SkipKind → String
  | .inRun => "in_run"
  | .external => "external"

structure SkipCause where
  causingId : String
  kind : SkipKind
deriving DecidableEq, Repr

/-- `SKIPPABLE_FROM_STATES`. -/
def isSkippable : LoopItemState → Bool
  | .pending | .blocked => true
  | _ => false

section Sweep

variable (statuses : String → Option ExternalDependencyStatus) (time : String)
  (engine : LoopEngineName)

/-- `findSkipCause(item, items, externalStatuses)`: dependencies of the run come first. -/
def findSkipCause (item : LoopContractItem) (items : JsObject LoopItemLedgerEntry) :
    Option SkipCause :=
  let inRun := item.dependsOn.find? fun dep =>
    (items.get? dep).any fun e => e.state = .abandoned || e.state = .skipped
  let external := item.externalDependsOn.find? fun dep => statuses dep = some .unsatisfiable
  (inRun.map (⟨·, .inRun⟩)) <|> (external.map (⟨·, .external⟩))

/-- The entry of an item that is skipped for a cause. -/
def skippedEntry (entry : LoopItemLedgerEntry) (cause : SkipCause) : LoopItemLedgerEntry :=
  { entry with
    state := .skipped
    history := entry.history ++
      [{ time := time, fromState := entry.state, toState := .skipped, engine := engine,
         note := some ("skipped: " ++ cause.kind.name ++ " dependency \"" ++ cause.causingId ++
           "\" will never be satisfied") }] }

/-- One item of a sweep; `none` when it stays. -/
def skipTurn (item : LoopContractItem) (items : JsObject LoopItemLedgerEntry) :
    Option (JsObject LoopItemLedgerEntry) :=
  match items.get? item.id with
  | none => none
  | some entry =>
    if isSkippable entry.state then
      (findSkipCause statuses item items).map fun cause =>
        items.set item.id (skippedEntry time engine entry cause)
    else none

/-- One sweep over the contract, with the ids it skipped. -/
def skipSweep : List LoopContractItem → JsObject LoopItemLedgerEntry → JsObject LoopItemLedgerEntry × List String
  | [], items => (items, [])
  | item :: rest, items =>
    match skipTurn statuses time engine item items with
    | none => skipSweep rest items
    | some items' =>
      let after := skipSweep rest items'
      (after.1, item.id :: after.2)

/-- The sweeps; `fuel` bounds their number. -/
def propagate (contractItems : List LoopContractItem) :
    Nat → JsObject LoopItemLedgerEntry → JsObject LoopItemLedgerEntry × List String
  | 0, items => (items, [])
  | fuel + 1, items =>
    let swept := skipSweep statuses time engine contractItems items
    -- a sweep that skipped nothing is the last one
    if swept.2.isEmpty then (items, [])
    else
      let after := propagate contractItems fuel swept.1
      (after.1, swept.2 ++ after.2)

/-- `propagateSkips(contract, ledger, externalStatuses, now, engine)`. -/
def propagateSkips (contract : LoopContract) (ledger : LoopLedger) : LoopLedger × List String :=
  let result := propagate statuses time engine contract.items (ledger.items.values.length + 1)
    ledger.items
  ({ ledger with items := result.1 }, result.2)

/-! ## One turn and one sweep -/

variable {item : LoopContractItem} {items items' : JsObject LoopItemLedgerEntry}

lemma skipTurn_eq_some (h : skipTurn statuses time engine item items = some items') :
    ∃ entry cause, items.get? item.id = some entry ∧ isSkippable entry.state = true ∧
      items' = items.set item.id (skippedEntry time engine entry cause) := by
  unfold skipTurn at h
  split at h
  · simp at h
  · next entry hentry =>
    split at h
    · next hskippable =>
      obtain ⟨cause, _, hset⟩ := Option.map_eq_some_iff.1 h
      exact ⟨entry, cause, hentry, hskippable, hset.symm⟩
    · simp at h

lemma keeps_skipTurn
    (h : skipTurn statuses time engine item items = some items') :
    Keeps (fun e => e.state = .skipped) items items' := by
  obtain ⟨entry, cause, _, _, rfl⟩ := skipTurn_eq_some statuses time engine h
  intro id e hget hskipped
  by_cases hid : id = item.id
  · exact ⟨skippedEntry time engine entry cause, by simp [hid], rfl⟩
  · exact ⟨e, by simpa [hid] using hget, hskipped⟩

lemma keeps_skipSweep (contractItems : List LoopContractItem)
    (items : JsObject LoopItemLedgerEntry) :
    Keeps (fun e => e.state = .skipped) items
      (skipSweep statuses time engine contractItems items).1 := by
  induction contractItems generalizing items with
  | nil => exact Keeps.refl _ _
  | cons item rest ih =>
    unfold skipSweep
    split
    · exact ih items
    · next items' hturn => exact (keeps_skipTurn statuses time engine hturn).trans (ih items')

lemma keeps_propagate (contractItems : List LoopContractItem) (fuel : Nat)
    (items : JsObject LoopItemLedgerEntry) :
    Keeps (fun e => e.state = .skipped) items
      (propagate statuses time engine contractItems fuel items).1 := by
  induction fuel generalizing items with
  | zero => exact Keeps.refl _ _
  | succ fuel ih =>
    unfold propagate
    dsimp only
    split
    · exact Keeps.refl _ _
    · exact (keeps_skipSweep statuses time engine contractItems items).trans (ih _)

/-! ## The sweeps end -/

/-- The items that a sweep could still skip. -/
def skippableCount (items : JsObject LoopItemLedgerEntry) : Nat :=
  items.values.countP fun e => isSkippable e.state

lemma skippableCount_skipTurn (h : skipTurn statuses time engine item items = some items') :
    skippableCount items' + 1 = skippableCount items := by
  obtain ⟨entry, cause, hentry, hskippable, rfl⟩ := skipTurn_eq_some statuses time engine h
  have hcount := JsObject.countP_set (fun e : LoopItemLedgerEntry => isSkippable e.state) hentry
    (skippedEntry time engine entry cause)
  -- one skippable item became a skipped one
  have hskipped : isSkippable (skippedEntry time engine entry cause).state = false := rfl
  simpa [skippableCount, hskippable, hskipped] using hcount

lemma skippableCount_skipSweep (contractItems : List LoopContractItem) (items : JsObject LoopItemLedgerEntry) :
    skippableCount (skipSweep statuses time engine contractItems items).1 +
        (skipSweep statuses time engine contractItems items).2.length = skippableCount items := by
  induction contractItems generalizing items with
  | nil => simp [skipSweep]
  | cons item rest ih =>
    unfold skipSweep
    split
    · exact ih items
    · next items' hturn =>
      have hrest := ih items'
      have hone := skippableCount_skipTurn statuses time engine hturn
      simp only [List.length_cons]
      omega

lemma propagate_settled (contractItems : List LoopContractItem) {fuel : Nat} (hfuel : skippableCount items < fuel) :
    (skipSweep statuses time engine contractItems
      (propagate statuses time engine contractItems fuel items).1).2 = [] := by
  induction fuel generalizing items with
  | zero => omega
  | succ fuel ih =>
    unfold propagate
    dsimp only
    split
    · next hempty => simpa using hempty
    · next hmore =>
      apply ih
      have hcount := skippableCount_skipSweep statuses time engine contractItems items
      -- every sweep that is not the last uses up at least one skippable item
      have hpos : 0 < (skipSweep statuses time engine contractItems items).2.length :=
        List.length_pos_iff.2 (by simpa using hmore)
      omega

/-- `propagateSkips` runs to its fixpoint. -/
lemma propagateSkips_settled (contract : LoopContract) (ledger : LoopLedger) :
    (skipSweep statuses time engine contract.items
      (propagateSkips statuses time engine contract ledger).1.items).2 = [] := by
  apply propagate_settled
  exact Nat.lt_succ_of_le (List.countP_le_length ..)

end Sweep

/-! ## The cycle of the supervisor -/

/-- The propagation of a supervisor cycle: the result is written when something was skipped. -/
def skipCycle (rt : JsRuntime) (now : Instant)
    (statuses : String → Option ExternalDependencyStatus) (contract : LoopContract)
    (engine : LoopEngineName) (token : String) (d : RunDir) :
    Except LoopError LoopLedger × RunDir :=
  transact rt now (some token) token
    (fun ledger =>
      let (next, skippedItemIds) := propagateSkips statuses (rt.toISOString now) engine contract
        (upgradeLedgerForRecovery rt ledger)
      if skippedItemIds.isEmpty then .ok (next, none) else .ok (next, some next))
    d

end AgentPipeline.Loop
