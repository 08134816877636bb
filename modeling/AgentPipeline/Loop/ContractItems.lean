import Mathlib.Logic.Relation
import AgentPipeline.Loop.Types

/-!
# ContractItems: compiling declared items into a contract

`compileContractItems` of `loop/dependencies.ts`: the declared dependencies of an item are split
into those of the snapshot and external ones, and the items are ordered so that every item follows
its dependencies, by a depth-first visit that refuses a duplicate id and a cycle.

The source recurses on the path it is on. No id occurs twice on that path, so the fuel of the
model is never used up: `compileContractItems_eq_error` shows that a list without duplicate ids is
refused for a real cycle only, and `compileContractItems_eq_ok` what the compiled items are.
-/

namespace AgentPipeline.Loop

open List

structure RawContractItem where
  id : String
  dependsOn : List String
deriving DecidableEq, Repr

/-- One declaration with its dependencies split by membership in the snapshot. -/
def partitionDeclared (ids : List String) (item : RawContractItem) : LoopContractItem where
  id := item.id
  dependsOn := item.dependsOn.filter (· ∈ ids)
  externalDependsOn := item.dependsOn.filter (· ∉ ids)

/-- What the visit has ordered so far; an ordered id is a permanent one. -/
structure Visited where
  ordered : List LoopContractItem := []

def Visited.permanent (v : Visited) : List String := v.ordered.map LoopContractItem.id

def cycleError (path : List String) (id : String) : LoopError where
  loopFailureClass := .validation
  message := "dependency cycle detected: " ++ " -> ".intercalate (path ++ [id])

/-- `visit(id, path)`. The stack of the source is the path. The last number is the fuel. -/
def visitItem (partitioned : JsObject LoopContractItem) :
    Nat → List String → String → Visited → Except LoopError Visited
  | 0, path, id, _ => .error (cycleError path id)
  | fuel + 1, path, id, v =>
    if id ∈ v.permanent then .ok v
    else if id ∈ path then .error (cycleError path id)
    else
      match partitioned.get? id with
      | none => .ok v
      | some item => do
          let v' ← item.dependsOn.foldlM
            (fun v dep => visitItem partitioned fuel (path ++ [id]) dep v) v
          pure { ordered := v'.ordered ++ [item] }

/-- The first id that was seen before. -/
def firstDuplicate : List String → List String → Option String
  | _, [] => none
  | seen, id :: ids => if id ∈ seen then some id else firstDuplicate (id :: seen) ids

def partitionAll (rawItems : List RawContractItem) : JsObject LoopContractItem :=
  rawItems.foldl
    (fun m item => m.set item.id (partitionDeclared (rawItems.map RawContractItem.id) item)) .empty

/-- The visit of all items, each from an empty path. -/
def visitAll (rawItems : List RawContractItem) : Except LoopError Visited :=
  (rawItems.map RawContractItem.id).foldlM (fun v id => visitItem (partitionAll rawItems)
    ((rawItems.map RawContractItem.id).length + 1) [] id v) {}

def compileContractItems (rawItems : List RawContractItem) :
    Except LoopError (List LoopContractItem) :=
  match firstDuplicate [] (rawItems.map RawContractItem.id) with
  | some id =>
    .error ⟨.validation, "duplicate item id \"" ++ id ++ "\" in snapshot"⟩
  | none => (visitAll rawItems).map Visited.ordered

/-! ## The visit -/

variable {id : String} {ids : List String}

section Visit

variable (partitioned : JsObject LoopContractItem)

/-- An item of the snapshot declares another one. -/
def DependsOn (id dep : String) : Prop :=
  ∃ item, partitioned.get? id = some item ∧ dep ∈ item.dependsOn

/-- A visit only appends items of the snapshot. -/
structure Visited.Grows (v v' : Visited) : Prop where
  keeps : ∀ item ∈ v.ordered, item ∈ v'.ordered
  fresh : ∀ item ∈ v'.ordered, item ∈ v.ordered ∨ ∃ id, partitioned.get? id = some item

/-- What a visit of some ids ends in: they are ordered, or there is a cycle. -/
def VisitOutcome (ids : List String) (v : Visited) : Except LoopError Visited → Prop
  | .ok v' => v.Grows partitioned v' ∧ ∀ id ∈ ids, id ∈ v'.permanent
  | .error _ => ∃ id, Relation.TransGen (DependsOn partitioned) id id

/-- The path of a visit: a chain of distinct ids of the snapshot down to the visited one. -/
structure OnPath (ids path : List String) (id : String) : Prop where
  chain : (path ++ [id]).IsChain (DependsOn partitioned)
  nodup : path.Nodup
  subset : ∀ id' ∈ path, id' ∈ ids
  mem : id ∈ ids

/-- The snapshot a contract is compiled from: every id of it has an item of that id, and the items
declare ids of the snapshot only. -/
structure Snapshot (ids : List String) : Prop where
  item : ∀ id ∈ ids, ∃ item, partitioned.get? id = some item ∧ item.id = id
  closed : ∀ id item dep, partitioned.get? id = some item → dep ∈ item.dependsOn → dep ∈ ids

variable {partitioned}

lemma Visited.Grows.refl (v : Visited) : v.Grows partitioned v where
  keeps _ h := h
  fresh _ h := .inl h

lemma Visited.Grows.trans {v₁ v₂ v₃ : Visited} (h : v₁.Grows partitioned v₂)
    (h' : v₂.Grows partitioned v₃) : v₁.Grows partitioned v₃ where
  keeps item hitem := h'.keeps item (h.keeps item hitem)
  fresh item hitem := (h'.fresh item hitem).elim (h.fresh item) .inr

lemma Visited.Grows.permanent {v v' : Visited} (h : v.Grows partitioned v')
    (hid : id ∈ v.permanent) : id ∈ v'.permanent := by
  obtain ⟨item, hitem, rfl⟩ := mem_map.1 hid
  exact mem_map.2 ⟨item, h.keeps item hitem, rfl⟩

lemma visitOutcome_foldlM {visit : String → Visited → Except LoopError Visited}
    (h : ∀ id ∈ ids, ∀ v, VisitOutcome partitioned [id] v (visit id v)) (v : Visited) :
    VisitOutcome partitioned ids v (ids.foldlM (fun v id => visit id v) v) := by
  induction ids generalizing v with
  | nil => exact ⟨.refl v, by simp⟩
  | cons id ids ih =>
    have hid := h id (by simp) v
    rw [foldlM_cons]
    cases hvisit : visit id v with
    | error e =>
      rw [hvisit] at hid
      exact hid
    | ok v₁ =>
      rw [hvisit] at hid
      have hrest := ih (fun id' hid' => h id' (by simp [hid'])) v₁
      simp only [Bind.bind, Except.bind]
      cases hfold : ids.foldlM (fun v id => visit id v) v₁ with
      | error e =>
        rw [hfold] at hrest
        exact hrest
      | ok v₂ =>
        rw [hfold] at hrest
        refine ⟨hid.1.trans hrest.1, ?_⟩
        intro id' hid'
        rcases mem_cons.1 hid' with rfl | hmem
        · exact hrest.1.permanent (hid.2 id' (by simp))
        · exact hrest.2 id' hmem

variable {path : List String}

lemma cycle_of_mem_path (hchain : (path ++ [id]).IsChain (DependsOn partitioned)) (hmem : id ∈ path) :
    Relation.TransGen (DependsOn partitioned) id id := by
  have hpairs : (path ++ [id]).Pairwise (Relation.TransGen (DependsOn partitioned)) :=
    (hchain.imp fun _ _ => Relation.TransGen.single).pairwise
  exact (pairwise_append.1 hpairs).2.2 id hmem id (by simp)

lemma OnPath.push {dep : String} {item : LoopContractItem}
    (h : OnPath partitioned ids path id) (hid : id ∉ path)
    (hitem : partitioned.get? id = some item) (hdep : dep ∈ item.dependsOn) (hmem : dep ∈ ids) :
    OnPath partitioned ids (path ++ [id]) dep where
  chain := by
    rw [isChain_append]
    refine ⟨h.chain, by simp, ?_⟩
    intro x hx y hy
    obtain rfl : id = x := by simpa using hx
    obtain rfl : dep = y := by simpa using hy
    exact ⟨item, hitem, hdep⟩
  nodup := by
    rw [nodup_append]
    refine ⟨h.nodup, by simp, ?_⟩
    intro a ha b hb
    obtain rfl : b = id := by simpa using hb
    exact fun hab => hid (hab ▸ ha)
  subset id' hid' := by
    rcases mem_append.1 hid' with hp | hlast
    · exact h.subset id' hp
    · obtain rfl : id' = id := by simpa using hlast
      exact h.mem
  mem := hmem

lemma visitItem_outcome (hsnap : Snapshot partitioned ids) {fuel : Nat} (hpath : OnPath partitioned ids path id)
    (hfuel : ids.length < fuel + path.length) (v : Visited) :
    VisitOutcome partitioned [id] v (visitItem partitioned fuel path id v) := by
  induction fuel generalizing path id v with
  | zero =>
    -- the path has no more distinct ids than the snapshot
    have hle := (hpath.nodup.subperm hpath.subset).length_le
    omega
  | succ fuel ih =>
    unfold visitItem
    split
    · next hperm => exact ⟨.refl v, by simpa using hperm⟩
    · split
      · next hmem => exact ⟨id, cycle_of_mem_path hpath.chain hmem⟩
      · next hnot =>
        obtain ⟨item, hitem, hid⟩ := hsnap.item id hpath.mem
        have hdeps : VisitOutcome partitioned item.dependsOn v (item.dependsOn.foldlM
            (fun v dep => visitItem partitioned fuel (path ++ [id]) dep v) v) :=
          visitOutcome_foldlM (fun dep hdep v' =>
            ih (hpath.push hnot hitem hdep (hsnap.closed id item dep hitem hdep))
              (by simp; omega) v') v
        simp only [hitem]
        cases hfold : item.dependsOn.foldlM
            (fun v dep => visitItem partitioned fuel (path ++ [id]) dep v) v with
        | error e =>
          rw [hfold] at hdeps
          exact hdeps
        | ok v' =>
          rw [hfold] at hdeps
          refine ⟨hdeps.1.trans ⟨?_, ?_⟩, ?_⟩
          · intro item' hitem'
            simp [hitem']
          · intro item' hitem'
            rcases mem_append.1 hitem' with hold | hnew
            · exact .inl hold
            · exact .inr ⟨id, by simpa [mem_singleton.1 hnew] using hitem⟩
          · simp [Visited.permanent, hid]

end Visit

/-! ## Compiling -/

lemma firstDuplicate_eq_none {seen : List String} :
    firstDuplicate seen ids = none ↔ ids.Nodup ∧ ∀ id ∈ ids, id ∉ seen := by
  induction ids generalizing seen with
  | nil => simp [firstDuplicate]
  | cons id ids ih =>
    unfold firstDuplicate
    split
    · next hseen => simp [hseen]
    · next hnot =>
      rw [ih]
      simp only [nodup_cons, mem_cons, not_or, forall_eq_or_imp]
      constructor
      · rintro ⟨hnd, hids⟩
        exact ⟨⟨fun hmem => (hids id hmem).1 rfl, hnd⟩, hnot, fun id' h => (hids id' h).2⟩
      · rintro ⟨⟨hmem, hnd⟩, _, hids⟩
        exact ⟨hnd, fun id' h => ⟨fun heq => hmem (heq ▸ h), hids id' h⟩⟩

variable {rawItems : List RawContractItem}

lemma get?_partitionAll {item : LoopContractItem} (h : (partitionAll rawItems).get? id = some item) :
    ∃ raw ∈ rawItems, raw.id = id ∧ item = partitionDeclared (rawItems.map RawContractItem.id) raw := by
  rw [partitionAll, JsObject.get?_foldl_set] at h
  cases hfind : rawItems.reverse.find? fun raw => raw.id = id with
  | none => simp [hfind] at h
  | some raw =>
    have hmem := mem_of_find?_eq_some hfind
    have hid := find?_some hfind
    exact ⟨raw, by simpa using hmem, by simpa using hid, by simpa [hfind] using h.symm⟩

lemma snapshot_partitionAll :
    Snapshot (partitionAll rawItems) (rawItems.map RawContractItem.id) where
  item id hid := by
    obtain ⟨raw, hraw, rfl⟩ := mem_map.1 hid
    cases hget : (partitionAll rawItems).get? raw.id with
    | none =>
      rw [partitionAll, JsObject.get?_foldl_set] at hget
      have hnone : rawItems.reverse.find? (fun raw' => raw'.id = raw.id) = none := by
        cases hfind : rawItems.reverse.find? fun raw' => raw'.id = raw.id <;> simp [hfind] at hget
        rfl
      simpa using find?_eq_none.1 hnone raw (by simpa using hraw)
    | some item =>
      obtain ⟨raw', _, hid', rfl⟩ := get?_partitionAll hget
      exact ⟨_, rfl, hid'⟩
  closed id item dep hget hdep := by
    obtain ⟨raw, _, _, rfl⟩ := get?_partitionAll hget
    have hmem : dep ∈ raw.dependsOn ∧ dep ∈ rawItems.map RawContractItem.id := by
      simpa [partitionDeclared] using hdep
    exact hmem.2

lemma visitAll_outcome (rawItems : List RawContractItem) :
    VisitOutcome (partitionAll rawItems) (rawItems.map RawContractItem.id) {} (visitAll rawItems) := by
  refine visitOutcome_foldlM (fun id hid v => ?_) {}
  have hpath : OnPath (partitionAll rawItems) (rawItems.map RawContractItem.id) [] id :=
    ⟨by simp, by simp, by simp, hid⟩
  exact visitItem_outcome snapshot_partitionAll hpath (by simp) v

variable (hnd : (rawItems.map RawContractItem.id).Nodup)
include hnd

lemma compile_eq_visitAll : compileContractItems rawItems = (visitAll rawItems).map Visited.ordered := by
  have hdup : firstDuplicate [] (rawItems.map RawContractItem.id) = none := firstDuplicate_eq_none.2 ⟨hnd, by simp⟩
  simp only [compileContractItems, hdup]

lemma compileContractItems_eq_ok
    {items : List LoopContractItem} (h : compileContractItems rawItems = .ok items) : (∀ item ∈ items, ∃ raw ∈ rawItems,
      item = partitionDeclared (rawItems.map RawContractItem.id) raw) ∧
    ∀ raw ∈ rawItems, ∃ item ∈ items, item.id = raw.id := by
  have houtcome := visitAll_outcome rawItems
  rw [compile_eq_visitAll hnd] at h
  cases hresult : visitAll rawItems with
  | error e => simp [hresult, Except.map] at h
  | ok v =>
    rw [hresult] at houtcome
    obtain rfl : v.ordered = items := by simpa [hresult, Except.map] using h
    refine ⟨fun item hitem => ?_, fun raw hraw => ?_⟩
    · rcases houtcome.1.fresh item hitem with hold | ⟨id, hget⟩
      · simp at hold
      · obtain ⟨raw, hraw, _, heq⟩ := get?_partitionAll hget
        exact ⟨raw, hraw, heq⟩
    · exact mem_map.1 (houtcome.2 raw.id (mem_map.2 ⟨raw, hraw, rfl⟩))

lemma compileContractItems_eq_error {e : LoopError} (h : compileContractItems rawItems = .error e) :
    ∃ id, Relation.TransGen (DependsOn (partitionAll rawItems)) id id := by
  have houtcome := visitAll_outcome rawItems
  rw [compile_eq_visitAll hnd] at h
  cases hresult : visitAll rawItems with
  | error e =>
    rw [hresult] at houtcome
    exact houtcome
  | ok v => simp [hresult, Except.map] at h

end AgentPipeline.Loop
