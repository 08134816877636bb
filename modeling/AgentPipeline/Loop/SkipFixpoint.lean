import Mathlib.Logic.Relation
import AgentPipeline.Loop.Dependencies

/-!
# SkipFixpoint: which items a propagation skips

An item is doomed when a dependency of it will never be satisfied, and with it every item that waits for it in a
chain of pending or blocked items. The sweeps skip these items and no other.

* `Unsatisfiable`: a chain to a doomed item;
* `Skipping`: what the sweeps have done so far: soundness of every turn;
* `mem_propagateSkips_iff`: after the last sweep no such item is left;
* `propagateSkips_exact`: the result, for the contract in any order.
-/

namespace AgentPipeline.Loop

open List

section Doomed

variable (statuses : String → Option ExternalDependencyStatus) (contractItems : List LoopContractItem)
  (items : JsObject LoopItemLedgerEntry)

/-- A pending or blocked item. -/
def Skippable (id : String) : Prop := ∃ entry, items.get? id = some entry ∧ isSkippable entry.state = true

/-- A dependency of the run that is abandoned or skipped. -/
def EndedBadly (id : String) : Prop :=
  ∃ entry, items.get? id = some entry ∧ (entry.state = .abandoned ∨ entry.state = .skipped)

/-- An item has a dependency that will never be satisfied. -/
def Doomed (id : String) : Prop :=
  ∃ item ∈ contractItems, item.id = id ∧ ((∃ dep ∈ item.dependsOn, EndedBadly items dep) ∨
    ∃ dep ∈ item.externalDependsOn, statuses dep = some .unsatisfiable)

/-- One link of a chain: a pending or blocked item depends on a pending or blocked one. -/
def WaitsFor (id dep : String) : Prop :=
  Skippable items id ∧ Skippable items dep ∧ ∃ item ∈ contractItems, item.id = id ∧ dep ∈ item.dependsOn

/-- A chain of pending or blocked items leads to a dependency that will never be satisfied. -/
def Unsatisfiable (id : String) : Prop :=
  ∃ last, Relation.ReflTransGen (WaitsFor contractItems items) id last ∧ Skippable items last ∧
    Doomed statuses contractItems items last

end Doomed

section Propagation

variable {statuses : String → Option ExternalDependencyStatus} {time : String} {engine : LoopEngineName}
  {contractItems : List LoopContractItem} {items₀ : JsObject LoopItemLedgerEntry}

variable {item : LoopContractItem}

lemma findSkipCause_eq_some {items : JsObject LoopItemLedgerEntry} :
    (findSkipCause statuses item items).isSome = true ↔ (∃ dep ∈ item.dependsOn, EndedBadly items dep) ∨
      ∃ dep ∈ item.externalDependsOn, statuses dep = some .unsatisfiable := by
  have hbad : ∀ dep, (items.get? dep).any (fun e => e.state = .abandoned || e.state = .skipped) = true ↔
      EndedBadly items dep := by
    intro dep
    cases hget : items.get? dep with
    | none => simp [EndedBadly, hget]
    | some entry => simp [EndedBadly, hget]
  have hinRun : (item.dependsOn.find? fun dep => (items.get? dep).any fun e =>
      e.state = .abandoned || e.state = .skipped).isSome = true ↔ ∃ dep ∈ item.dependsOn, EndedBadly items dep := by
    rw [find?_isSome]
    simp only [hbad]
  have hexternal : (item.externalDependsOn.find? fun dep => statuses dep = some .unsatisfiable).isSome = true ↔
      ∃ dep ∈ item.externalDependsOn, statuses dep = some .unsatisfiable := by
    rw [find?_isSome]
    simp only [decide_eq_true_eq]
  rw [← hinRun, ← hexternal]
  unfold findSkipCause
  cases item.dependsOn.find? fun dep => (items.get? dep).any fun e => e.state = .abandoned || e.state = .skipped with
  | some dep => simp
  | none => simp

/-- What the sweeps have done so far. -/
structure Skipping (statuses : String → Option ExternalDependencyStatus) (time : String) (engine : LoopEngineName)
    (contractItems : List LoopContractItem) (items₀ items : JsObject LoopItemLedgerEntry) (skipped : List String) :
    Prop where
  same : ∀ id, id ∉ skipped → items.get? id = items₀.get? id
  moved : ∀ id ∈ skipped, Unsatisfiable statuses contractItems items₀ id ∧ ∃ entry cause,
    items₀.get? id = some entry ∧ isSkippable entry.state = true ∧
    items.get? id = some (skippedEntry time engine entry cause)
  once : skipped.Nodup

lemma Skipping.refl : Skipping statuses time engine contractItems items₀ items₀ [] where
  same _ _ := rfl
  moved _ hid := absurd hid not_mem_nil
  once := nodup_nil

section Turns

variable {items : JsObject LoopItemLedgerEntry} {skipped : List String} {id : String}

lemma Skipping.not_mem (h : Skipping statuses time engine contractItems items₀ items skipped)
    {entry : LoopItemLedgerEntry} (hget : items.get? id = some entry) (hskippable : isSkippable entry.state = true) :
    id ∉ skipped := by
  intro hid
  obtain ⟨-, entry₀, cause, -, -, hmoved⟩ := h.moved id hid
  obtain rfl : entry = skippedEntry time engine entry₀ cause := by simpa [hget] using hmoved
  simp [skippedEntry, isSkippable] at hskippable

variable {dep : String}

section

variable (h : Skipping statuses time engine contractItems items₀ items skipped)
include h

lemma Skipping.endedBadly (hbad : EndedBadly items dep) : EndedBadly items₀ dep ∨ dep ∈ skipped := by
  by_cases hdep : dep ∈ skipped
  · exact .inr hdep
  · obtain ⟨entry, hget, hstate⟩ := hbad
    exact .inl ⟨entry, by rw [← h.same dep hdep, hget], hstate⟩

lemma endedBadly_of_skipping (hbad : EndedBadly items₀ dep ∨ dep ∈ skipped) : EndedBadly items dep := by
  by_cases hdep : dep ∈ skipped
  · obtain ⟨-, entry, cause, -, -, hmoved⟩ := h.moved dep hdep
    exact ⟨_, hmoved, .inr rfl⟩
  · obtain ⟨entry, hget, hstate⟩ := hbad.resolve_right hdep
    exact ⟨entry, by rw [h.same dep hdep, hget], hstate⟩

lemma Skipping.unsatisfiable (hitem : item ∈ contractItems) (hskippable : Skippable items₀ item.id)
    (hcause : (findSkipCause statuses item items).isSome = true) :
    Unsatisfiable statuses contractItems items₀ item.id := by
  rcases findSkipCause_eq_some.1 hcause with ⟨dep, hdep, hbad⟩ | hexternal
  · rcases h.endedBadly hbad with hbad | hskipped
    · exact ⟨item.id, .refl, hskippable, item, hitem, rfl, .inl ⟨dep, hdep, hbad⟩⟩
    · obtain ⟨⟨last, hchain, hlast⟩, entry, -, hget, hdepSkippable, -⟩ := h.moved dep hskipped
      have hlink : WaitsFor contractItems items₀ item.id dep :=
        ⟨hskippable, ⟨entry, hget, hdepSkippable⟩, item, hitem, rfl, hdep⟩
      exact ⟨last, .head hlink hchain, hlast⟩
  · exact ⟨item.id, .refl, hskippable, item, hitem, rfl, .inr hexternal⟩

lemma Skipping.turn (hitem : item ∈ contractItems) {items' : JsObject LoopItemLedgerEntry}
    (hturn : skipTurn statuses time engine item items = some items') :
    Skipping statuses time engine contractItems items₀ items' (skipped ++ [item.id]) := by
  unfold skipTurn at hturn
  cases hget : items.get? item.id with
  | none => simp [hget] at hturn
  | some entry =>
    simp only [hget] at hturn
    split at hturn
    · next hskippable =>
      obtain ⟨cause, hcause, rfl⟩ := Option.map_eq_some_iff.1 hturn
      have hfresh := h.not_mem hget hskippable
      have hget₀ : items₀.get? item.id = some entry := by rw [← h.same item.id hfresh, hget]
      have hchain := h.unsatisfiable hitem ⟨entry, hget₀, hskippable⟩ (by rw [hcause]; rfl)
      refine ⟨fun id hid => ?_, fun id hid => ?_, ?_⟩
      · simp only [mem_append, mem_singleton, not_or] at hid
        rw [JsObject.get?_set, if_neg hid.2]
        exact h.same id hid.1
      · by_cases hsame : id = item.id
        · subst hsame
          exact ⟨hchain, entry, cause, hget₀, hskippable, by simp⟩
        · have hold : id ∈ skipped := (mem_append.1 hid).resolve_right (by simpa using hsame)
          obtain ⟨hid, entry', cause', hget', hskippable', hmoved⟩ := h.moved id hold
          exact ⟨hid, entry', cause', hget', hskippable', by rw [JsObject.get?_set, if_neg hsame, hmoved]⟩
      · rw [nodup_append]
        refine ⟨h.once, by simp, ?_⟩
        intro a ha b hb heq
        obtain rfl : b = item.id := by simpa using hb
        exact hfresh (heq ▸ ha)
    · cases hturn

end

variable {rest : List LoopContractItem}

lemma Skipping.sweep (hrest : ∀ item ∈ rest, item ∈ contractItems)
    (h : Skipping statuses time engine contractItems items₀ items skipped) :
    Skipping statuses time engine contractItems items₀ (skipSweep statuses time engine rest items).1
      (skipped ++ (skipSweep statuses time engine rest items).2) := by
  induction rest generalizing items skipped with
  | nil => simpa [skipSweep] using h
  | cons item rest ih =>
    have hrest' : ∀ item ∈ rest, item ∈ contractItems := fun item' h' => hrest item' (mem_cons_of_mem _ h')
    unfold skipSweep
    split
    · exact ih hrest' h
    · next items' hturn =>
      have hnext := ih hrest' (h.turn (hrest item mem_cons_self) hturn)
      rwa [append_assoc] at hnext

lemma Skipping.propagate (h : Skipping statuses time engine contractItems items₀ items skipped) (fuel : Nat) :
    Skipping statuses time engine contractItems items₀ (propagate statuses time engine contractItems fuel items).1
      (skipped ++ (Loop.propagate statuses time engine contractItems fuel items).2) := by
  induction fuel generalizing items skipped with
  | zero => simpa [Loop.propagate] using h
  | succ fuel ih =>
    unfold Loop.propagate
    dsimp only
    split
    · simpa using h
    · have hnext := ih (Skipping.sweep (fun _ (hmem : _ ∈ contractItems) => hmem) h)
      rwa [append_assoc] at hnext

lemma skipTurn_of_sweep (h : (skipSweep statuses time engine rest items).2 = []) :
    ∀ item ∈ rest, skipTurn statuses time engine item items = none := by
  induction rest with
  | nil => simp
  | cons item rest ih =>
    unfold skipSweep at h
    split at h
    · next hnone => exact forall_mem_cons.2 ⟨hnone, ih h⟩
    · simp at h

lemma Skipping.complete (h : Skipping statuses time engine contractItems items₀ items skipped)
    (hsettled : (skipSweep statuses time engine contractItems items).2 = [])
    (hid : Unsatisfiable statuses contractItems items₀ id) : id ∈ skipped := by
  have hstays : ∀ item ∈ contractItems, Skippable items₀ item.id → ((∃ dep ∈ item.dependsOn, EndedBadly items dep) ∨
        ∃ dep ∈ item.externalDependsOn, statuses dep = some .unsatisfiable) → item.id ∈ skipped := by
    rintro item hitem ⟨entry, hget, hskippable⟩ hcause
    by_contra hnot
    have hnone := skipTurn_of_sweep hsettled item hitem
    obtain ⟨cause, hcause⟩ := Option.isSome_iff_exists.1 (findSkipCause_eq_some.2 hcause)
    rw [skipTurn, h.same item.id hnot, hget] at hnone
    simp [hskippable, hcause] at hnone
  obtain ⟨last, hchain, hskippable, hdoomed⟩ := hid
  induction hchain using Relation.ReflTransGen.head_induction_on with
  | refl =>
    obtain ⟨item, hitem, rfl, hcause⟩ := hdoomed
    refine hstays item hitem hskippable (hcause.imp_left ?_)
    rintro ⟨dep, hdep, hbad⟩
    exact ⟨dep, hdep, endedBadly_of_skipping h (.inl hbad)⟩
  | head hlink _ ih =>
    obtain ⟨hwaits, -, item, hitem, rfl, hdep⟩ := hlink
    exact hstays item hitem hwaits (.inl ⟨_, hdep, endedBadly_of_skipping h (.inr ih)⟩)

end Turns

lemma propagate_fuel {fuel fuel' : Nat} {items : JsObject LoopItemLedgerEntry}
    (hfuel : skippableCount items < fuel) (hfuel' : skippableCount items < fuel') :
    propagate statuses time engine contractItems fuel items =
      propagate statuses time engine contractItems fuel' items := by
  induction fuel generalizing fuel' items with
  | zero => omega
  | succ fuel ih =>
    obtain ⟨fuel', rfl⟩ := Nat.exists_eq_succ_of_ne_zero (Nat.ne_zero_of_lt hfuel')
    unfold propagate
    dsimp only
    split
    · rfl
    · next hmore =>
      have hcount := skippableCount_skipSweep statuses time engine contractItems items
      have hpos : 0 < (skipSweep statuses time engine contractItems items).2.length :=
        length_pos_iff.2 (by simpa using hmore)
      have hsame := @ih fuel' (skipSweep statuses time engine contractItems items).1 (by omega) (by omega)
      rw [hsame]

end Propagation

/-! ## The result -/

section Result

variable (statuses : String → Option ExternalDependencyStatus) (time : String) (engine : LoopEngineName)

/-- The result skips what has a chain, once each, with one more history entry, and changes nothing else. -/
structure SkipsExactly (contract : LoopContract) (ledger : LoopLedger) (result : LoopLedger × List String) : Prop where
  skipped : ∀ id, (∃ entry, result.1.items.get? id = some entry ∧ entry.state = .skipped) ↔
    (∃ entry, ledger.items.get? id = some entry ∧ entry.state = .skipped) ∨
      Unsatisfiable statuses contract.items ledger.items id
  listed : ∀ id, id ∈ result.2 ↔ Unsatisfiable statuses contract.items ledger.items id
  once : result.2.Nodup
  moved : ∀ id ∈ result.2, ∃ entry cause, ledger.items.get? id = some entry ∧
    result.1.items.get? id = some (skippedEntry time engine entry cause)
  same : ∀ id, id ∉ result.2 → result.1.items.get? id = ledger.items.get? id
  rest : result.1 = { ledger with items := result.1.items }

/-- Two entries that are the same, or skipped from the same entry, perhaps for different causes. -/
def SameUpToCause (entry entry' : Option LoopItemLedgerEntry) : Prop :=
  entry = entry' ∨ ∃ start cause cause', entry = some (skippedEntry time engine start cause) ∧
    entry' = some (skippedEntry time engine start cause')

lemma skipping_propagateSkips (contract : LoopContract) (ledger : LoopLedger) :
    Skipping statuses time engine contract.items ledger.items
      (propagateSkips statuses time engine contract ledger).1.items
      (propagateSkips statuses time engine contract ledger).2 := by
  have h : Skipping statuses time engine contract.items ledger.items ledger.items [] := Skipping.refl
  simpa [propagateSkips] using h.propagate (ledger.items.values.length + 1)

lemma mem_propagateSkips_iff (contract : LoopContract) (ledger : LoopLedger) (id : String) :
    id ∈ (propagateSkips statuses time engine contract ledger).2 ↔
      Unsatisfiable statuses contract.items ledger.items id := by
  have h := skipping_propagateSkips statuses time engine contract ledger
  exact ⟨fun hid => (h.moved id hid).1,
    fun hid => h.complete (propagateSkips_settled statuses time engine contract ledger) hid⟩

lemma skipsExactly_propagateSkips (contract : LoopContract) (ledger : LoopLedger) :
    SkipsExactly statuses time engine contract ledger (propagateSkips statuses time engine contract ledger) := by
  have h := skipping_propagateSkips statuses time engine contract ledger
  have hlisted := mem_propagateSkips_iff statuses time engine contract ledger
  refine ⟨fun id => ?_, hlisted, h.once, fun id hid => ?_, h.same, rfl⟩
  · rw [← hlisted]
    constructor
    · rintro ⟨entry, hget, hstate⟩
      by_cases hid : id ∈ (propagateSkips statuses time engine contract ledger).2
      · exact .inr hid
      · exact .inl ⟨entry, by rw [← h.same id hid, hget], hstate⟩
    · rintro (⟨entry, hget, hstate⟩ | hid)
      · have hnot : id ∉ (propagateSkips statuses time engine contract ledger).2 := by
          intro hid
          obtain ⟨-, entry', cause, hget', hskippable, -⟩ := h.moved id hid
          obtain rfl : entry = entry' := by simpa [hget] using hget'
          rw [hstate] at hskippable
          cases hskippable
        exact ⟨entry, by rw [h.same id hnot, hget], hstate⟩
      · obtain ⟨-, entry, cause, -, -, hmoved⟩ := h.moved id hid
        exact ⟨_, hmoved, rfl⟩
  · obtain ⟨-, entry, cause, hget, -, hmoved⟩ := h.moved id hid
    exact ⟨entry, cause, hget, hmoved⟩

lemma unsatisfiable_perm {contractItems contractItems' : List LoopContractItem}
    (hperm : contractItems'.Perm contractItems) (items : JsObject LoopItemLedgerEntry) (id : String) :
    Unsatisfiable statuses contractItems' items id ↔ Unsatisfiable statuses contractItems items id := by
  have hmem : ∀ p : LoopContractItem → Prop, (∃ item ∈ contractItems', p item) ↔ ∃ item ∈ contractItems, p item :=
    fun p => ⟨fun ⟨item, hitem, hp⟩ => ⟨item, hperm.mem_iff.1 hitem, hp⟩,
      fun ⟨item, hitem, hp⟩ => ⟨item, hperm.mem_iff.2 hitem, hp⟩⟩
  have hwaits : WaitsFor contractItems' items = WaitsFor contractItems items := by
    funext id dep
    simp only [WaitsFor, hmem]
  simp only [Unsatisfiable, hwaits, Doomed, hmem]

/-- The propagation ends; it skips the items with a chain to a dependency that will never be satisfied, each once, and
changes nothing else. In another order of the contract the same items are skipped, perhaps for another cause. -/
theorem propagateSkips_exact (contract : LoopContract) (ledger : LoopLedger) :
    (∀ fuel, ledger.items.values.length < fuel → ((propagateSkips statuses time engine contract ledger).1.items,
        (propagateSkips statuses time engine contract ledger).2) =
        propagate statuses time engine contract.items fuel ledger.items) ∧
    SkipsExactly statuses time engine contract ledger (propagateSkips statuses time engine contract ledger) ∧
    ∀ contract' : LoopContract, contract'.items.Perm contract.items →
      (propagateSkips statuses time engine contract' ledger).2.Perm
        (propagateSkips statuses time engine contract ledger).2 ∧
      ∀ id, SameUpToCause time engine ((propagateSkips statuses time engine contract' ledger).1.items.get? id)
        ((propagateSkips statuses time engine contract ledger).1.items.get? id) := by
  have hcount : skippableCount ledger.items ≤ ledger.items.values.length := countP_le_length ..
  have h := skipsExactly_propagateSkips statuses time engine contract ledger
  refine ⟨fun fuel hfuel => ?_, h, fun contract' hperm => ?_⟩
  · exact propagate_fuel (Nat.lt_succ_of_le hcount) (by omega)
  · have h' := skipsExactly_propagateSkips statuses time engine contract' ledger
    have hiff : ∀ id, id ∈ (propagateSkips statuses time engine contract' ledger).2 ↔
        id ∈ (propagateSkips statuses time engine contract ledger).2 := by
      intro id
      rw [h'.listed, h.listed]
      exact unsatisfiable_perm statuses hperm ledger.items id
    refine ⟨(perm_ext_iff_of_nodup h'.once h.once).2 hiff, fun id => ?_⟩
    by_cases hid : id ∈ (propagateSkips statuses time engine contract ledger).2
    · obtain ⟨entry, cause, hget, hmoved⟩ := h.moved id hid
      obtain ⟨entry', cause', hget', hmoved'⟩ := h'.moved id ((hiff id).2 hid)
      obtain rfl : entry = entry' := by simpa [hget] using hget'
      exact .inr ⟨entry, cause', cause, hmoved', hmoved⟩
    · rw [h.same id hid, h'.same id fun hin => hid ((hiff id).1 hin)]
      exact .inl rfl

/-- Another propagation, at whatever time and for whichever engine, changes nothing. -/
theorem propagateSkips_idempotent (contract : LoopContract) (ledger : LoopLedger) (later : String)
    (other : LoopEngineName) :
    propagateSkips statuses later other contract (propagateSkips statuses time engine contract ledger).1 =
      ((propagateSkips statuses time engine contract ledger).1, []) := by
  have hsettled := propagateSkips_settled statuses time engine contract ledger
  generalize (propagateSkips statuses time engine contract ledger).1 = once at *
  have hagain : (propagateSkips statuses later other contract once).2 = [] := by
    refine eq_nil_iff_forall_not_mem.2 fun id hid => ?_
    rw [mem_propagateSkips_iff, ← mem_propagateSkips_iff statuses time engine] at hid
    simp [propagateSkips, propagate, hsettled] at hid
  unfold propagateSkips propagate at *
  by_cases hnone : (skipSweep statuses later other contract.items once.items).2.isEmpty = true
  · simp [hnone]
  · simp_all

end Result

/-- A contract with an abandoned item, one that waits for it, and one that waits for both. -/
def chainContract (items : List LoopContractItem) : LoopContract := contractOf (⟨"1", [], []⟩ :: items)

def chainLedger : LoopLedger where
  runId := "r"
  items := ((JsObject.empty.set "1" { id := "1", state := .abandoned }).set "2" { id := "2", state := .pending }).set
    "3" { id := "3", state := .pending }

/-- The note of an item names the dependency that was skipped first. -/
theorem cause_depends_on_order :
    ((chainContract [⟨"2", ["1"], []⟩, ⟨"3", ["2", "1"], []⟩]).items.map LoopContractItem.id).Nodup ∧
    (chainContract [⟨"3", ["2", "1"], []⟩, ⟨"2", ["1"], []⟩]).items.Perm
      (chainContract [⟨"2", ["1"], []⟩, ⟨"3", ["2", "1"], []⟩]).items ∧
    propagateSkips (fun _ => none) "t" .claude (chainContract [⟨"3", ["2", "1"], []⟩, ⟨"2", ["1"], []⟩]) chainLedger ≠
      propagateSkips (fun _ => none) "t" .claude (chainContract [⟨"2", ["1"], []⟩, ⟨"3", ["2", "1"], []⟩])
        chainLedger ∧
    (propagateSkips (fun _ => none) "t" .claude (chainContract [⟨"3", ["2", "1"], []⟩, ⟨"2", ["1"], []⟩])
        chainLedger).1 ≠
      (propagateSkips (fun _ => none) "t" .claude (chainContract [⟨"2", ["1"], []⟩, ⟨"3", ["2", "1"], []⟩])
        chainLedger).1 := by
  decide +kernel

end AgentPipeline.Loop
