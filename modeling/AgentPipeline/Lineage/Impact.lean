import AgentPipeline.Foundation.Search
import AgentPipeline.Lineage.Schema
import Mathlib.Data.List.Chain

/-!
# Lineage.Impact: what a change upstream reaches

The walk goes breadth first over the edges of a graph. A node is marked when it is taken from the queue, so it
can be queued several times; every arrival is merged into what is recorded of it.

* `visitEdge`, `walk`, `computeForwardImpact`: the walk as the code makes it;
* `Leads`, `Impacts`: one step downstream, and the nodes that steps reach;
* `Walked`: what holds of the walk after some edges of some nodes;
* `computeForwardImpact_exact`: the walk ends, and records exactly what is reachable.
-/

namespace AgentPipeline.Lineage

open List

/-! ## The walk -/

/-- `FORWARD_RELATIONSHIPS`. -/
def forwardRelationships : List LineageRelationship :=
  [.decomposesTo, .implements, .verifies, .mapsEvidence, .deliveredBy, .outcomeOf, .ownedBy, .affectedByPolicy,
    .invalidates, .derivedFrom]

/-- Where an edge leads from a node. -/
def nextOf (nodeId : String) (e : LineageEdge) : Option String :=
  if e.relationship ∉ forwardRelationships then none
  else if e.sourceId = nodeId ∧ e.relationship ≠ .derivedFrom then some e.targetId
  else if e.targetId = nodeId ∧ e.relationship = .derivedFrom then some e.sourceId
  else if e.targetId = nodeId ∧ e.relationship = .implements then some e.sourceId
  else if e.targetId = nodeId ∧ e.relationship = .outcomeOf then some e.sourceId
  else none

structure LineageGraph where
  nodes : List LineageNode
  edges : List LineageEdge

/-- `indexNodes(nodes).get(id)`. -/
def LineageGraph.node? (graph : LineageGraph) (id : String) : Option LineageNode :=
  graph.nodes.reverse.find? fun node => node.nodeId = id

structure ImpactAffectedItem where
  nodeId : String
  nodeType : LineageNodeType
  edgeIds : List String
  driftReasonCodes : List DriftReasonCode
  pathNodeIds : List String
deriving DecidableEq, Repr

/-- An entry of the queue. -/
structure Arrival where
  nodeId : String
  path : List String
  edgeIds : List String

structure ImpactDiagnostic where
  code : String
  message : String
deriving DecidableEq, Repr

/-- The state of the loop; `affected` is `affectedMap` in the order of insertion. -/
structure Walk where
  queue : List Arrival
  visited : List String
  affected : List ImpactAffectedItem
  diagnostics : List ImpactDiagnostic

/-- Push what is not there yet. -/
def pushNew {α : Type} [DecidableEq α] (present : List α) (new : List α) : List α :=
  new.foldl (fun l a => if a ∈ l then l else l ++ [a]) present

/-- The codes of an arrival: the primary reason, the one of an objective, and those of the edge that are known. -/
def arrivalReasons (primaryReason : DriftReasonCode) (nodeType : LineageNodeType) (e : LineageEdge) :
    List DriftReasonCode :=
  let own := if nodeType = .objective then pushNew [primaryReason] [.objectiveContentHashChanged] else [primaryReason]
  pushNew own ((e.reasonCodes.getD []).filterMap DriftReasonCode.ofText?)

/-- A later arrival at a recorded node. -/
def ImpactAffectedItem.merge (item : ImpactAffectedItem) (edgeIds : List String)
    (reasons : List DriftReasonCode) : ImpactAffectedItem :=
  { item with edgeIds := pushNew item.edgeIds edgeIds, driftReasonCodes := pushNew item.driftReasonCodes reasons }

/-- `affectedMap.get(next)` is extended, or a new item is set. -/
def recordArrival (affected : List ImpactAffectedItem) (item : ImpactAffectedItem) : List ImpactAffectedItem :=
  if affected.any (·.nodeId = item.nodeId) then
    affected.map fun existing =>
      if existing.nodeId = item.nodeId then existing.merge item.edgeIds item.driftReasonCodes else existing
  else affected ++ [item]

/-- An arrival is recorded, and queued unless the node is marked. -/
def Walk.arrive (w : Walk) (item : ImpactAffectedItem) : Walk :=
  { w with
    affected := recordArrival w.affected item
    queue := if item.nodeId ∈ w.visited then w.queue
      else w.queue ++ [⟨item.nodeId, item.pathNodeIds, item.edgeIds⟩] }

section Walking

variable (graph : LineageGraph) (upstream : String) (primaryReason : DriftReasonCode)

/-- The body of the loop over the edges. -/
def visitEdge (cur : Arrival) (w : Walk) (e : LineageEdge) : Walk :=
  match nextOf cur.nodeId e with
  | none => w
  | some next =>
    if next = cur.nodeId ∨ next = upstream then w
    else
      match graph.node? next with
      | none =>
        { w with diagnostics := w.diagnostics ++
            [⟨"missing_downstream_link", "edge " ++ e.edgeId ++ " points to missing node " ++ next⟩] }
      | some nextNode =>
        w.arrive
          { nodeId := next
            nodeType := nextNode.nodeType
            edgeIds := cur.edgeIds ++ [e.edgeId]
            driftReasonCodes := arrivalReasons primaryReason nextNode.nodeType e
            pathNodeIds := cur.path ++ [next] }

/-- The loop over the queue; `fuel` bounds its turns. -/
def walk : Nat → Walk → Walk
  | 0, w => w
  | fuel + 1, w =>
    match w.queue with
    | [] => w
    | cur :: rest =>
      if cur.nodeId ∈ w.visited then walk fuel { w with queue := rest }
      else
        walk fuel (graph.edges.foldl (visitEdge graph upstream primaryReason cur)
          { w with queue := rest, visited := cur.nodeId :: w.visited })

def Walk.start (upstream : String) : Walk := ⟨[⟨upstream, [upstream], []⟩], [], [], []⟩

/-- The turns of the loop that suffice. -/
def walkFuel : Nat := graph.nodes.length * (graph.edges.length + 1) + 1

end Walking

structure ForwardImpactOpts where
  upstreamNodeId : String
  priorRevision : Option String := none
  newRevision : Option String := none
  priorContentHash : Option String := none
  newContentHash : Option String := none
  reason : Option DriftReasonCode := none

structure ImpactUpstream where
  nodeId : String
  nodeType : String
  priorRevision : Option String
  newRevision : Option String
  priorContentHash : Option String
  newContentHash : Option String
deriving DecidableEq, Repr

structure ForwardImpactReport where
  upstream : ImpactUpstream
  affected : List ImpactAffectedItem
  driftReasonCodes : List DriftReasonCode
  diagnostics : List ImpactDiagnostic
deriving DecidableEq, Repr

/-- `opts.reason`, or the reason that the type of the upstream node gives. -/
def primaryReasonOf (reason : Option DriftReasonCode) (nodeType : LineageNodeType) : DriftReasonCode :=
  reason.getD <| match nodeType with
    | .requirement => .upstreamRequirementRevised
    | .objective => .objectiveContentHashChanged
    | .component => .componentOwnershipChanged
    | .policyEvent => .policyEventInvalidated
    | _ => .upstreamRequirementRevised

def computeForwardImpact (localeCompare : String → String → Int) (graph : LineageGraph)
    (opts : ForwardImpactOpts) : ForwardImpactReport :=
  match graph.node? opts.upstreamNodeId with
  | none =>
    { upstream := ⟨opts.upstreamNodeId, "unknown", opts.priorRevision, opts.newRevision, opts.priorContentHash,
        opts.newContentHash⟩
      affected := []
      driftReasonCodes := []
      diagnostics :=
        [⟨"unknown_upstream", "upstream node " ++ opts.upstreamNodeId ++ " not in graph"⟩] }
  | some upstream =>
    let w := walk graph upstream.nodeId (primaryReasonOf opts.reason upstream.nodeType) (walkFuel graph)
      (.start upstream.nodeId)
    let affected := (w.affected.filter (·.nodeId ≠ upstream.nodeId)).mergeSort fun a b =>
      decide (localeCompare a.nodeId b.nodeId ≤ 0)
    { upstream := ⟨upstream.nodeId, upstream.nodeType.text,
        opts.priorRevision.orElse fun _ => some upstream.revision, opts.newRevision,
        opts.priorContentHash.orElse fun _ => upstream.contentHash, opts.newContentHash⟩
      affected := affected
      driftReasonCodes := (affected.foldl (fun codes item => pushNew codes item.driftReasonCodes) []).mergeSort
        fun a b => decide (a.text ≤ b.text)
      diagnostics := w.diagnostics }

/-! ## What is downstream -/

/-- An edge leads from a node to another: along a forward relationship, or against one of three. -/
def StepsTo (e : LineageEdge) (a b : String) : Prop :=
  (e.relationship ∈ forwardRelationships ∧ e.relationship ≠ .derivedFrom ∧ e.sourceId = a ∧ e.targetId = b) ∨
    (e.relationship ∈ [LineageRelationship.derivedFrom, .implements, .outcomeOf] ∧ e.targetId = a ∧ e.sourceId = b)

variable {e : LineageEdge} {a : String}

lemma nextOf_eq_some_iff {b : String} : nextOf a e = some b ↔ StepsTo e a b := by
  obtain ⟨edgeId, source, target, relationship, reasonCodes⟩ := e
  unfold nextOf StepsTo
  cases relationship <;> simp [forwardRelationships] <;> grind

variable {id : String}

section Downstream

variable (graph : LineageGraph)

/-- One step downstream, to a node that exists. -/
def Impacts (a b : String) : Prop :=
  b ∈ graph.nodes.map (·.nodeId) ∧ ∃ e ∈ graph.edges, StepsTo e a b

/-- A path of steps without repeated nodes. -/
structure ImpactPath (upstream id : String) (path : List String) : Prop where
  starts : path.head? = some upstream
  ends : path.getLast? = some id
  steps : path.IsChain (Impacts graph)
  nodup : path.Nodup

variable {graph}

lemma isSome_node?_iff : (graph.node? id).isSome ↔ id ∈ graph.nodes.map (·.nodeId) := by
  simp [LineageGraph.node?]

lemma nodeId_of_node? {node : LineageNode} (h : graph.node? id = some node) : node.nodeId = id := by
  simpa using find?_some h

lemma ImpactPath.reaches {upstream : String} {path : List String} (h : ImpactPath graph upstream id path) :
    Relation.ReflTransGen (Impacts graph) upstream id := by
  obtain ⟨rest, rfl⟩ : ∃ rest, path = upstream :: rest := by
    cases path with
    | nil => simpa using h.starts
    | cons a rest => exact ⟨rest, by simpa using h.starts⟩
  refine relationReflTransGen_of_exists_isChain_cons rest h.steps ?_
  have hends := h.ends
  rw [getLast?_eq_some_getLast (by simp)] at hends
  simpa using hends

lemma ImpactPath.push {upstream next : String} {path : List String} (h : ImpactPath graph upstream id path)
    (hstep : Impacts graph id next) (hnew : next ∉ path) : ImpactPath graph upstream next (path ++ [next]) where
  starts := by rw [head?_append, h.starts]; rfl
  ends := by simp
  steps := by
    refine isChain_append.2 ⟨h.steps, by simp, ?_⟩
    intro x hx y hy
    obtain rfl : id = x := by simpa [h.ends] using hx
    obtain rfl : next = y := by simpa using hy
    exact hstep
  nodup := by
    refine nodup_append.2 ⟨h.nodup, by simp, ?_⟩
    rintro x hx y hy rfl
    exact hnew (by simpa using mem_singleton.1 hy ▸ hx)

end Downstream

/-! ## What an arrival adds -/

lemma mem_pushNew {α : Type} [DecidableEq α] {present new : List α} {a : α} :
    a ∈ pushNew present new ↔ a ∈ present ∨ a ∈ new := by
  unfold pushNew
  induction new generalizing present with
  | nil => simp
  | cons b new ih =>
    rw [foldl_cons, ih]
    split
    · next hb =>
      constructor
      · rintro (h | h)
        · exact .inl h
        · exact .inr (by simp [h])
      · rintro (h | h)
        · exact .inl h
        · rcases mem_cons.1 h with rfl | h
          · exact .inl hb
          · exact .inr h
    · simp [or_assoc]

/-- The codes of an edge that are known. -/
def knownReasons (e : LineageEdge) : List DriftReasonCode := (e.reasonCodes.getD []).filterMap DriftReasonCode.ofText?

lemma mem_arrivalReasons {primaryReason code : DriftReasonCode} {nodeType : LineageNodeType} :
    code ∈ arrivalReasons primaryReason nodeType e ↔ code = primaryReason ∨
      (nodeType = .objective ∧ code = .objectiveContentHashChanged) ∨ code ∈ knownReasons e := by
  unfold arrivalReasons
  rw [mem_pushNew]
  split
  · next hobjective => simp [mem_pushNew, hobjective, knownReasons, or_assoc]
  · next hother => simp [hother, knownReasons]

variable {affected : List ImpactAffectedItem} {item : ImpactAffectedItem}

lemma ids_recordArrival :
    (recordArrival affected item).map (·.nodeId) =
      if item.nodeId ∈ affected.map (·.nodeId) then affected.map (·.nodeId)
      else affected.map (·.nodeId) ++ [item.nodeId] := by
  unfold recordArrival
  by_cases h : item.nodeId ∈ affected.map (·.nodeId)
  · have hany : affected.any (·.nodeId = item.nodeId) = true := by simpa using h
    rw [if_pos h, if_pos hany, map_map]
    refine map_congr_left fun existing _ => ?_
    simp only [Function.comp_apply]
    split <;> rfl
  · have hany : ¬ affected.any (·.nodeId = item.nodeId) = true := by simpa using h
    rw [if_neg h, if_neg hany, map_append]
    rfl

lemma mem_ids_recordArrival :
    id ∈ (recordArrival affected item).map (·.nodeId) ↔ id ∈ affected.map (·.nodeId) ∨ id = item.nodeId := by
  rw [ids_recordArrival]
  split
  · next h =>
    constructor
    · exact .inl
    · rintro (hid | rfl)
      · exact hid
      · exact h
  · rw [mem_append, mem_singleton]

lemma nodup_recordArrival
    (h : (affected.map (·.nodeId)).Nodup) : ((recordArrival affected item).map (·.nodeId)).Nodup := by
  rw [ids_recordArrival]
  split
  · exact h
  · next hnew =>
    refine nodup_append.2 ⟨h, by simp, ?_⟩
    rintro x hx y hy rfl
    exact hnew (mem_singleton.1 hy ▸ hx)

lemma mem_recordArrival {x : ImpactAffectedItem} (h : x ∈ recordArrival affected item) :
    (x ∈ affected ∧ x.nodeId ≠ item.nodeId) ∨
      (∃ old ∈ affected, old.nodeId = item.nodeId ∧ x = old.merge item.edgeIds item.driftReasonCodes) ∨
      (x = item ∧ item.nodeId ∉ affected.map (·.nodeId)) := by
  unfold recordArrival at h
  split at h
  · obtain ⟨old, hold, rfl⟩ := mem_map.1 h
    by_cases hid : old.nodeId = item.nodeId
    · rw [if_pos hid]
      exact .inr (.inl ⟨old, hold, hid, rfl⟩)
    · rw [if_neg hid]
      exact .inl ⟨hold, hid⟩
  · next hany =>
    have hnew : item.nodeId ∉ affected.map (·.nodeId) := by simpa using hany
    rcases mem_append.1 h with h | h
    · refine .inl ⟨h, fun hid => hnew (hid ▸ mem_map_of_mem h)⟩
    · exact .inr (.inr ⟨mem_singleton.1 h, hnew⟩)

/-! ## The invariant -/

variable {w : Walk} {edges : List LineageEdge}

section Invariant

variable (graph : LineageGraph) (upstream : String) (primaryReason : DriftReasonCode)

/-- An edge leads from a node to one that is recorded. -/
def Leads (a : String) (e : LineageEdge) (b : String) : Prop :=
  StepsTo e a b ∧ b ≠ a ∧ b ≠ upstream ∧ b ∈ graph.nodes.map (·.nodeId)

/-- The nodes that are marked or queued. -/
def Walk.Known (w : Walk) (id : String) : Prop := id ∈ w.visited ∨ id ∈ w.queue.map (·.nodeId)

/-- What holds of the walk when the edges `seen` have been walked, from their ends. -/
structure Walked (seen : String → LineageEdge → Prop) (w : Walk) : Prop where
  started : w.Known upstream
  queued : ∀ q ∈ w.queue, q.nodeId ∈ graph.nodes.map (·.nodeId) ∧ ImpactPath graph upstream q.nodeId q.path ∧
    ∀ x ∈ q.path, x = q.nodeId ∨ x ∈ w.visited
  marked : ∀ id ∈ w.visited, Relation.ReflTransGen (Impacts graph) upstream id
  recorded : ∀ id, id ∈ w.affected.map (·.nodeId) ↔ w.Known id ∧ id ≠ upstream
  once : (w.affected.map (·.nodeId)).Nodup
  paths : ∀ item ∈ w.affected, ImpactPath graph upstream item.nodeId item.pathNodeIds
  covered : ∀ a e b, seen a e → Leads graph upstream a e b → w.Known b
  reasons : ∀ item ∈ w.affected, ∀ code, code ∈ item.driftReasonCodes ↔ code = primaryReason ∨
    ((graph.node? item.nodeId).map (·.nodeType) = some .objective ∧ code = .objectiveContentHashChanged) ∨
    ∃ a e, seen a e ∧ Leads graph upstream a e item.nodeId ∧ code ∈ knownReasons e

/-- The node whose edges are walked. -/
structure Current (w : Walk) (cur : Arrival) : Prop where
  marked : cur.nodeId ∈ w.visited
  path : ImpactPath graph upstream cur.nodeId cur.path
  behind : ∀ x ∈ cur.path, x ∈ w.visited

lemma visited_visitEdge (cur : Arrival) (w : Walk) (e : LineageEdge) :
    (visitEdge graph upstream primaryReason cur w e).visited = w.visited := by
  unfold visitEdge
  split
  · rfl
  · split
    · rfl
    · split <;> rfl

lemma length_queue_visitEdge (cur : Arrival) (w : Walk) (e : LineageEdge) :
    (visitEdge graph upstream primaryReason cur w e).queue.length ≤ w.queue.length + 1 := by
  unfold visitEdge
  split
  · exact Nat.le_succ _
  · split
    · exact Nat.le_succ _
    · split
      · exact Nat.le_succ _
      · unfold Walk.arrive
        split
        · exact Nat.le_succ _
        · simp

variable {graph upstream primaryReason} {seen : String → LineageEdge → Prop}

lemma Walked.congr {seen' : String → LineageEdge → Prop}
    (h : Walked graph upstream primaryReason seen w)
    (hsame : ∀ a e b, Leads graph upstream a e b → (seen' a e ↔ seen a e)) :
    Walked graph upstream primaryReason seen' w where
  started := h.started
  queued := h.queued
  marked := h.marked
  recorded := h.recorded
  once := h.once
  paths := h.paths
  covered := fun a e b hseen hleads => h.covered a e b ((hsame a e b hleads).1 hseen) hleads
  reasons := by
    intro item hitem code
    rw [h.reasons item hitem code]
    refine or_congr_right (or_congr_right (exists₂_congr fun a e => ?_))
    constructor
    · rintro ⟨hseen, hleads, hcode⟩
      exact ⟨(hsame a e _ hleads).2 hseen, hleads, hcode⟩
    · rintro ⟨hseen, hleads, hcode⟩
      exact ⟨(hsame a e _ hleads).1 hseen, hleads, hcode⟩

lemma Walked.diagnose (h : Walked graph upstream primaryReason seen w) (diagnostics : List ImpactDiagnostic) :
    Walked graph upstream primaryReason seen { w with diagnostics := diagnostics } where
  started := h.started
  queued := h.queued
  marked := h.marked
  recorded := h.recorded
  once := h.once
  paths := h.paths
  covered := h.covered
  reasons := h.reasons

lemma StepsTo.unique {b c : String} (h : StepsTo e a b) (h' : StepsTo e a c) : b = c :=
  Option.some.inj ((nextOf_eq_some_iff.2 h).symm.trans (nextOf_eq_some_iff.2 h'))

lemma known_arrive : (w.arrive item).Known id ↔ w.Known id ∨ id = item.nodeId := by
  unfold Walk.Known Walk.arrive
  simp only
  split
  · next hmarked =>
    constructor
    · exact .inl
    · rintro (hid | rfl)
      · exact hid
      · exact .inl hmarked
  · simp [or_assoc]

lemma exists_reason_iff {next : String} (h : Leads graph upstream a e next) (id : String) (code : DriftReasonCode) :
    (∃ a' e', (seen a' e' ∨ (a' = a ∧ e' = e)) ∧ Leads graph upstream a' e' id ∧ code ∈ knownReasons e') ↔
      (∃ a' e', seen a' e' ∧ Leads graph upstream a' e' id ∧ code ∈ knownReasons e') ∨
        (id = next ∧ code ∈ knownReasons e) := by
  constructor
  · rintro ⟨a', e', hseen | ⟨rfl, rfl⟩, hb, hcode⟩
    · exact .inl ⟨a', e', hseen, hb, hcode⟩
    · exact .inr ⟨hb.1.unique h.1, hcode⟩
  · rintro (⟨a', e', hseen, hb, hcode⟩ | ⟨rfl, hcode⟩)
    · exact ⟨a', e', .inl hseen, hb, hcode⟩
    · exact ⟨a, e, .inr ⟨rfl, rfl⟩, h, hcode⟩

lemma Walked.reasons_arrive {nextNode : LineageNode} (h : Walked graph upstream primaryReason seen w)
    (hleads : Leads graph upstream a e item.nodeId) (hnode : graph.node? item.nodeId = some nextNode)
    (hreasons : item.driftReasonCodes = arrivalReasons primaryReason nextNode.nodeType e)
    {x : ImpactAffectedItem} (hx : x ∈ recordArrival w.affected item) (code : DriftReasonCode) :
    code ∈ x.driftReasonCodes ↔ code = primaryReason ∨
      ((graph.node? x.nodeId).map (·.nodeType) = some .objective ∧ code = .objectiveContentHashChanged) ∨
      ∃ a' e', (seen a' e' ∨ (a' = a ∧ e' = e)) ∧ Leads graph upstream a' e' x.nodeId ∧ code ∈ knownReasons e' := by
  rw [exists_reason_iff hleads]
  rcases mem_recordArrival hx with ⟨hold, hid⟩ | ⟨old, hold, hid, rfl⟩ | ⟨rfl, hnew⟩
  · rw [h.reasons x hold code]
    simp only [hid, false_and, or_false]
  · have hcodes := h.reasons old hold code
    simp only [ImpactAffectedItem.merge, mem_pushNew, hcodes, hreasons, mem_arrivalReasons, hid, hnode,
      Option.map_some, Option.some.injEq, true_and]
    generalize (∃ a' e', seen a' e' ∧ Leads graph upstream a' e' item.nodeId ∧ code ∈ knownReasons e') = earlier
    tauto
  · have hnone : ¬ ∃ a' e', seen a' e' ∧ Leads graph upstream a' e' x.nodeId ∧ code ∈ knownReasons e' := by
      rintro ⟨a', e', hseen, hb, -⟩
      exact hnew ((h.recorded x.nodeId).2 ⟨h.covered a' e' x.nodeId hseen hb, hleads.2.2.1⟩)
    rw [hreasons, mem_arrivalReasons]
    simp only [hnone, hnode, Option.map_some, Option.some.injEq, false_or, true_and]

variable {cur : Arrival}

section

variable (h : Walked graph upstream primaryReason seen w)
include h

variable (hcur : Current graph upstream w cur)
include hcur

lemma Walked.arrive {nextNode : LineageNode} (he : e ∈ graph.edges)
    (hleads : Leads graph upstream cur.nodeId e item.nodeId) (hnode : graph.node? item.nodeId = some nextNode)
    (hreasons : item.driftReasonCodes = arrivalReasons primaryReason nextNode.nodeType e)
    (hitem : item.pathNodeIds = cur.path ++ [item.nodeId]) :
    Walked graph upstream primaryReason (fun a e' => seen a e' ∨ (a = cur.nodeId ∧ e' = e)) (w.arrive item) := by
  obtain ⟨hstep, -, hup, hexists⟩ := id hleads
  have hpath : item.nodeId ∉ w.visited → ImpactPath graph upstream item.nodeId item.pathNodeIds := by
    intro hnew
    rw [hitem]
    exact hcur.path.push ⟨hexists, e, he, hstep⟩ fun hin => hnew (hcur.behind item.nodeId hin)
  refine ⟨known_arrive.2 (.inl h.started), fun q hq => ?_, h.marked, fun id => ?_, nodup_recordArrival h.once, fun x hx => ?_, ?_,
    fun x hx => h.reasons_arrive hleads hnode hreasons hx⟩
  · change q ∈ (if item.nodeId ∈ w.visited then w.queue
      else w.queue ++ [⟨item.nodeId, item.pathNodeIds, item.edgeIds⟩]) at hq
    split at hq
    · exact h.queued q hq
    · next hnew =>
      rcases mem_append.1 hq with hq | hq
      · exact h.queued q hq
      · obtain rfl := mem_singleton.1 hq
        refine ⟨hexists, hpath hnew, fun x hx => ?_⟩
        rw [hitem] at hx
        rcases mem_append.1 hx with hx | hx
        · exact .inr (hcur.behind x hx)
        · exact .inl (mem_singleton.1 hx)
  · rw [known_arrive]
    refine mem_ids_recordArrival.trans ?_
    rw [h.recorded]
    constructor
    · rintro (⟨hid, hidUp⟩ | rfl)
      · exact ⟨.inl hid, hidUp⟩
      · exact ⟨.inr rfl, hup⟩
    · rintro ⟨hid | rfl, hidUp⟩
      · exact .inl ⟨hid, hidUp⟩
      · exact .inr rfl
  · rcases mem_recordArrival hx with ⟨hold, -⟩ | ⟨old, hold, -, rfl⟩ | ⟨rfl, hnew⟩
    · exact h.paths x hold
    · exact h.paths old hold
    · -- what is recorded for the first time is not marked, so it is not on the path
      exact hpath fun hin => hnew ((h.recorded x.nodeId).2 ⟨.inl hin, hup⟩)
  · rintro a e' b (hseen | ⟨rfl, rfl⟩) hb
    · exact known_arrive.2 (.inl (h.covered a e' b hseen hb))
    · exact known_arrive.2 (.inr (hb.1.unique hstep))

/-- The edge `e` has been walked from `cur`. -/
theorem Walked.visitEdge (he : e ∈ graph.edges) :
    Walked graph upstream primaryReason (fun a e' => seen a e' ∨ (a = cur.nodeId ∧ e' = e))
      (Lineage.visitEdge graph upstream primaryReason cur w e) := by
  have hnowhere : (∀ b, ¬ Leads graph upstream cur.nodeId e b) →
      Walked graph upstream primaryReason (fun a e' => seen a e' ∨ (a = cur.nodeId ∧ e' = e)) w := by
    intro hno
    refine h.congr fun a e' b hb => or_iff_left ?_
    rintro ⟨rfl, rfl⟩
    exact hno b hb
  unfold Lineage.visitEdge
  split
  · next hnext =>
    refine hnowhere fun b hb => ?_
    rw [nextOf_eq_some_iff.2 hb.1] at hnext
    exact absurd hnext (by simp)
  · next next hnext =>
    have hstep := nextOf_eq_some_iff.1 hnext
    split
    · next hskip =>
      refine hnowhere fun b hb => ?_
      obtain rfl := hb.1.unique hstep
      exact hskip.elim hb.2.1 hb.2.2.1
    · next hgo =>
      split
      · next hmissing =>
        refine (hnowhere fun b hb => ?_).diagnose _
        obtain rfl := hb.1.unique hstep
        have hsome := isSome_node?_iff.2 hb.2.2.2
        rw [hmissing] at hsome
        exact absurd hsome (by simp)
      · next nextNode hnode =>
        rw [not_or] at hgo
        exact h.arrive hcur he ⟨hstep, hgo.1, hgo.2, isSome_node?_iff.1 (by rw [hnode]; rfl)⟩ hnode rfl rfl

/-- All edges have been walked from `cur`. -/
lemma Walked.visitEdges (hedges : ∀ e ∈ edges, e ∈ graph.edges) :
    Walked graph upstream primaryReason (fun a e => seen a e ∨ (a = cur.nodeId ∧ e ∈ edges))
      (edges.foldl (Lineage.visitEdge graph upstream primaryReason cur) w) := by
  induction edges generalizing seen w with
  | nil => exact h.congr (by simp)
  | cons e edges ih =>
    have hvisited := visited_visitEdge graph upstream primaryReason cur w e
    have hfirst := h.visitEdge hcur (hedges e (by simp))
    have hrest := ih hfirst ⟨hvisited ▸ hcur.marked, hcur.path, fun x hx => hvisited ▸ hcur.behind x hx⟩
      fun e' he' => hedges e' (by simp [he'])
    refine hrest.congr fun a e' b _ => ?_
    rw [mem_cons]
    tauto

end

variable (graph upstream primaryReason) in
lemma visited_visitEdges (cur : Arrival) (w : Walk) (edges : List LineageEdge) :
    (edges.foldl (visitEdge graph upstream primaryReason cur) w).visited = w.visited := by
  induction edges generalizing w with
  | nil => rfl
  | cons e edges ih => rw [foldl_cons, ih, visited_visitEdge]

variable (graph upstream primaryReason) in
lemma length_queue_visitEdges (cur : Arrival) (w : Walk) (edges : List LineageEdge) :
    (edges.foldl (visitEdge graph upstream primaryReason cur) w).queue.length ≤ w.queue.length + edges.length := by
  induction edges generalizing w with
  | nil => exact Nat.le_refl _
  | cons e edges ih =>
    have hfirst := length_queue_visitEdge graph upstream primaryReason cur w e
    have hrest := ih (visitEdge graph upstream primaryReason cur w e)
    rw [foldl_cons, length_cons]
    omega

/-! ## The loop -/

/-- What holds between two turns: the edges of the marked nodes have been walked. -/
abbrev Between (graph : LineageGraph) (upstream : String) (primaryReason : DriftReasonCode) (w : Walk) : Prop :=
  Walked graph upstream primaryReason (fun a e => a ∈ w.visited ∧ e ∈ graph.edges) w

/-- The nodes that are not marked yet. -/
def unmarkedNodes (graph : LineageGraph) (visited : List String) : Nat :=
  ((graph.nodes.map (·.nodeId)).toFinset \ visited.toFinset).card

lemma unmarkedNodes_cons_lt {visited : List String} (hid : id ∈ graph.nodes.map (·.nodeId))
    (hnew : id ∉ visited) : unmarkedNodes graph (id :: visited) < unmarkedNodes graph visited := by
  refine Finset.card_lt_card (Finset.ssubset_iff_of_subset ?_ |>.2 ⟨id, ?_, ?_⟩)
  · intro x hx
    simp only [Finset.mem_sdiff, mem_toFinset, mem_cons, not_or] at hx ⊢
    exact ⟨hx.1, hx.2.2⟩
  · simpa using ⟨by simpa using hid, hnew⟩
  · simp

section

variable (h : Between graph upstream primaryReason w)
include h

lemma Between.skip {rest : List Arrival} (hqueue : w.queue = cur :: rest) (hmarked : cur.nodeId ∈ w.visited) :
    Between graph upstream primaryReason { w with queue := rest } := by
  have hknown : ∀ id, Walk.Known { w with queue := rest } id ↔ w.Known id := by
    intro id
    unfold Walk.Known
    rw [hqueue, map_cons, mem_cons]
    constructor
    · tauto
    · rintro (hid | rfl | hid)
      · exact .inl hid
      · exact .inl hmarked
      · exact .inr hid
  exact
    { started := (hknown upstream).2 h.started
      queued := fun q hq => h.queued q (by rw [hqueue]; exact mem_cons_of_mem _ hq)
      marked := h.marked
      recorded := fun id => by rw [hknown]; exact h.recorded id
      once := h.once
      paths := h.paths
      covered := fun a e b hseen hb => (hknown b).2 (h.covered a e b hseen hb)
      reasons := h.reasons }

lemma Between.take {rest : List Arrival} (hqueue : w.queue = cur :: rest) :
    Between graph upstream primaryReason (graph.edges.foldl (visitEdge graph upstream primaryReason cur)
      { w with queue := rest, visited := cur.nodeId :: w.visited }) := by
  obtain ⟨-, hpath, hbehind⟩ := h.queued cur (by simp [hqueue])
  have hknown : ∀ id, Walk.Known { w with queue := rest, visited := cur.nodeId :: w.visited } id ↔ w.Known id := by
    intro id
    unfold Walk.Known
    rw [hqueue, map_cons, mem_cons, mem_cons]
    tauto
  have hmarked : Walked graph upstream primaryReason (fun a e => a ∈ w.visited ∧ e ∈ graph.edges)
      { w with queue := rest, visited := cur.nodeId :: w.visited } :=
    { started := (hknown upstream).2 h.started
      queued := fun q hq => by
        obtain ⟨hnode, hq', hin⟩ := h.queued q (by rw [hqueue]; exact mem_cons_of_mem _ hq)
        exact ⟨hnode, hq', fun x hx => (hin x hx).imp_right (mem_cons_of_mem _)⟩
      marked := fun id hid => by
        rcases mem_cons.1 hid with rfl | hid
        · exact hpath.reaches
        · exact h.marked id hid
      recorded := fun id => by rw [hknown]; exact h.recorded id
      once := h.once
      paths := h.paths
      covered := fun a e b hseen hb => (hknown b).2 (h.covered a e b hseen hb)
      reasons := h.reasons }
  have hcurrent : Current graph upstream { w with queue := rest, visited := cur.nodeId :: w.visited } cur :=
    { marked := by simp
      path := hpath
      behind := fun x hx => by
        rcases hbehind x hx with rfl | hx
        · exact mem_cons_self
        · exact mem_cons_of_mem _ hx }
  have hwalked := hmarked.visitEdges hcurrent fun _ he => he
  refine hwalked.congr fun a e b _ => ?_
  rw [visited_visitEdges, mem_cons]
  tauto

lemma Between.walk {fuel : Nat}
    (hfuel : unmarkedNodes graph w.visited * (graph.edges.length + 1) + w.queue.length ≤ fuel) :
    Between graph upstream primaryReason (Lineage.walk graph upstream primaryReason fuel w) ∧
      (Lineage.walk graph upstream primaryReason fuel w).queue = [] := by
  induction fuel generalizing w with
  | zero =>
    have hempty : w.queue = [] := length_eq_zero_iff.1 (by omega)
    exact ⟨h, hempty⟩
  | succ fuel ih =>
    cases hqueue : w.queue with
    | nil =>
      have hdone : Lineage.walk graph upstream primaryReason (fuel + 1) w = w := by rw [Lineage.walk, hqueue]
      rw [hdone]
      exact ⟨h, hqueue⟩
    | cons cur rest =>
      rw [hqueue, length_cons] at hfuel
      rw [Lineage.walk, hqueue]
      simp only
      split
      · next hmarked => exact ih (h.skip hqueue hmarked) (by simp only; omega)
      · next hnew =>
        refine ih (h.take hqueue) ?_
        have hpushed := length_queue_visitEdges graph upstream primaryReason cur
          { w with queue := rest, visited := cur.nodeId :: w.visited } graph.edges
        have hdrop := unmarkedNodes_cons_lt (h.queued cur (by simp [hqueue])).1 hnew
        rw [visited_visitEdges]
        simp only at hpushed ⊢
        have hscaled := Nat.mul_le_mul_right (graph.edges.length + 1) hdrop
        rw [Nat.succ_mul] at hscaled
        omega

end

lemma walk_of_done {fuel extra : Nat} (h : (Lineage.walk graph upstream primaryReason fuel w).queue = []) :
    Lineage.walk graph upstream primaryReason (fuel + extra) w = Lineage.walk graph upstream primaryReason fuel w := by
  induction fuel generalizing w with
  | zero =>
    cases extra with
    | zero => rfl
    | succ extra =>
      change w.queue = [] at h
      rw [Nat.zero_add]
      change Lineage.walk graph upstream primaryReason (extra + 1) w = w
      unfold Lineage.walk
      rw [h]
  | succ fuel ih =>
    rw [Nat.add_right_comm]
    cases hqueue : w.queue with
    | nil => rw [Lineage.walk, Lineage.walk, hqueue]
    | cons cur rest =>
      rw [Lineage.walk, hqueue] at h
      rw [Lineage.walk, Lineage.walk, hqueue]
      simp only at h ⊢
      split at h
      · next hmarked => rw [if_pos hmarked, if_pos hmarked, ih h]
      · next hnew => rw [if_neg hnew, if_neg hnew, ih h]

lemma between_start (h : upstream ∈ graph.nodes.map (·.nodeId)) :
    Between graph upstream primaryReason (.start upstream) where
  started := .inr (by simp [Walk.start])
  queued := fun q hq => by
    obtain rfl : q = ⟨upstream, [upstream], []⟩ := mem_singleton.1 hq
    exact ⟨h, ⟨rfl, rfl, by simp, by simp⟩, fun x hx => .inl (mem_singleton.1 hx)⟩
  marked := fun id hid => absurd hid not_mem_nil
  recorded := fun id => by simp [Walk.start, Walk.Known]
  once := nodup_nil
  paths := fun item hitem => absurd hitem not_mem_nil
  covered := fun a e b hseen => absurd hseen.1 not_mem_nil
  reasons := fun item hitem => absurd hitem not_mem_nil

lemma between_walk (h : upstream ∈ graph.nodes.map (·.nodeId)) :
    Between graph upstream primaryReason (walk graph upstream primaryReason (walkFuel graph) (.start upstream)) ∧
      (walk graph upstream primaryReason (walkFuel graph) (.start upstream)).queue = [] := by
  refine (between_start h).walk ?_
  have hunmarked : unmarkedNodes graph [] ≤ graph.nodes.length := by
    have hcard := toFinset_card_le (graph.nodes.map (·.nodeId))
    simpa [unmarkedNodes] using hcard
  have hscaled := Nat.mul_le_mul_right (graph.edges.length + 1) hunmarked
  change unmarkedNodes graph [] * (graph.edges.length + 1) + 1 ≤ walkFuel graph
  unfold walkFuel
  omega

end Invariant

/-! ## Exactness -/

/-- The codes of a node: the primary reason, the one of objectives, and those of the edges that lead to it from
what the changed node reaches. -/
def ImpactReason (graph : LineageGraph) (upstream : String) (primaryReason : DriftReasonCode) (id : String)
    (code : DriftReasonCode) : Prop :=
  code = primaryReason ∨ ((graph.node? id).map (·.nodeType) = some .objective ∧ code = .objectiveContentHashChanged) ∨
    ∃ a, ∃ e ∈ graph.edges, Relation.ReflTransGen (Impacts graph) upstream a ∧ Leads graph upstream a e id ∧
      code ∈ knownReasons e

/-- The items are those of the nodes that are reachable, once each, with their codes and a path. -/
structure Exact (graph : LineageGraph) (upstream : String) (primaryReason : DriftReasonCode)
    (affected : List ImpactAffectedItem) : Prop where
  ids : ∀ id, id ∈ affected.map (·.nodeId) ↔ id ≠ upstream ∧ Relation.ReflTransGen (Impacts graph) upstream id
  once : (affected.map (·.nodeId)).Nodup
  paths : ∀ item ∈ affected, ImpactPath graph upstream item.nodeId item.pathNodeIds
  reasons : ∀ item ∈ affected, ∀ code,
    code ∈ item.driftReasonCodes ↔ ImpactReason graph upstream primaryReason item.nodeId code

section Exactness

variable {graph : LineageGraph} {upstream : String} {primaryReason : DriftReasonCode}

lemma Between.mem_visited_iff (h : Between graph upstream primaryReason w)
    (hqueue : w.queue = []) : id ∈ w.visited ↔ Relation.ReflTransGen (Impacts graph) upstream id := by
  have hknown : ∀ x, w.Known x → x ∈ w.visited := by
    rintro x (hx | hx)
    · exact hx
    · rw [hqueue] at hx
      exact absurd hx not_mem_nil
  refine ⟨h.marked id, fun hpath => ?_⟩
  induction hpath with
  | refl => exact hknown upstream h.started
  | @tail a b _ hstep ih =>
    obtain ⟨hnode, e, he, hsteps⟩ := hstep
    by_cases hself : b = a
    · exact hself ▸ ih
    · by_cases hup : b = upstream
      · exact hup ▸ hknown upstream h.started
      · exact hknown b (h.covered a e b ⟨ih, he⟩ ⟨hsteps, hself, hup, hnode⟩)

lemma Between.exact (h : Between graph upstream primaryReason w) (hqueue : w.queue = []) :
    Exact graph upstream primaryReason w.affected where
  ids := fun id => by
    rw [h.recorded id, Walk.Known, hqueue, h.mem_visited_iff hqueue]
    simp [and_comm]
  once := h.once
  paths := h.paths
  reasons := fun item hitem code => by
    rw [h.reasons item hitem code]
    refine or_congr_right (or_congr_right (exists_congr fun a => ?_))
    constructor
    · rintro ⟨e, ⟨ha, he⟩, hleads, hcode⟩
      exact ⟨e, he, (h.mem_visited_iff hqueue).1 ha, hleads, hcode⟩
    · rintro ⟨e, he, ha, hleads, hcode⟩
      exact ⟨e, ⟨(h.mem_visited_iff hqueue).2 ha, he⟩, hleads, hcode⟩

lemma Exact.perm {affected' : List ImpactAffectedItem} (h : Exact graph upstream primaryReason affected)
    (hperm : affected'.Perm affected) : Exact graph upstream primaryReason affected' where
  ids := fun id => ((hperm.map _).mem_iff).trans (h.ids id)
  once := (hperm.map _).nodup_iff.2 h.once
  paths := fun item hitem => h.paths item (hperm.mem_iff.1 hitem)
  reasons := fun item hitem => h.reasons item (hperm.mem_iff.1 hitem)

lemma exact_affected (localeCompare : String → String → Int) {opts : ForwardImpactOpts}
    (h : opts.upstreamNodeId ∈ graph.nodes.map (·.nodeId)) :
    ∃ primaryReason, (∃ node, graph.node? opts.upstreamNodeId = some node ∧
        primaryReason = primaryReasonOf opts.reason node.nodeType) ∧
      Exact graph opts.upstreamNodeId primaryReason (computeForwardImpact localeCompare graph opts).affected := by
  obtain ⟨node, hnode⟩ := Option.isSome_iff_exists.1 (isSome_node?_iff.2 h)
  refine ⟨_, ⟨node, hnode, rfl⟩, ?_⟩
  have hid := nodeId_of_node? hnode
  obtain ⟨hbetween, hqueue⟩ := @between_walk _ _ (primaryReasonOf opts.reason node.nodeType) h
  have hexact := hbetween.exact hqueue
  unfold computeForwardImpact
  rw [hnode]
  simp only [hid]
  refine hexact.perm ((mergeSort_perm _ _).trans ?_)
  rw [filter_eq_self.2]
  intro item hitem
  simpa using ((hexact.ids item.nodeId).1 (mem_map_of_mem hitem)).1

lemma impacts_perm (h : edges.Perm graph.edges) : Impacts { graph with edges := edges } = Impacts graph := by
  funext a b
  refine propext (and_congr_right fun _ => exists_congr fun e => ?_)
  rw [h.mem_iff]

lemma impactReason_perm (h : edges.Perm graph.edges)
    {code : DriftReasonCode} : ImpactReason { graph with edges := edges } upstream primaryReason id code ↔
      ImpactReason graph upstream primaryReason id code := by
  unfold ImpactReason
  rw [impacts_perm h]
  refine or_congr_right (or_congr_right (exists₂_congr fun a e => ?_))
  rw [h.mem_iff]
  rfl

/-- The affected nodes are exactly those that are reachable, each with a path, and neither they nor their codes
depend on the order of the edges; the loop ends by itself. -/
theorem computeForwardImpact_exact (localeCompare : String → String → Int) (graph : LineageGraph)
    (opts : ForwardImpactOpts) (hupstream : opts.upstreamNodeId ∈ graph.nodes.map (·.nodeId)) :
    (∀ primaryReason extra, (walk graph opts.upstreamNodeId primaryReason (walkFuel graph)
        (.start opts.upstreamNodeId)).queue = [] ∧
      walk graph opts.upstreamNodeId primaryReason (walkFuel graph + extra) (.start opts.upstreamNodeId) =
        walk graph opts.upstreamNodeId primaryReason (walkFuel graph) (.start opts.upstreamNodeId)) ∧
    (∀ id, id ∈ (computeForwardImpact localeCompare graph opts).affected.map (·.nodeId) ↔
      id ≠ opts.upstreamNodeId ∧ Relation.ReflTransGen (Impacts graph) opts.upstreamNodeId id) ∧
    ((computeForwardImpact localeCompare graph opts).affected.map (·.nodeId)).Nodup ∧
    (∀ item ∈ (computeForwardImpact localeCompare graph opts).affected,
      ImpactPath graph opts.upstreamNodeId item.nodeId item.pathNodeIds) ∧
    ∀ edges : List LineageEdge, edges.Perm graph.edges → ∀ id,
      (id ∈ (computeForwardImpact localeCompare { graph with edges := edges } opts).affected.map (·.nodeId) ↔
        id ∈ (computeForwardImpact localeCompare graph opts).affected.map (·.nodeId)) ∧
      ∀ item ∈ (computeForwardImpact localeCompare graph opts).affected,
        ∀ item' ∈ (computeForwardImpact localeCompare { graph with edges := edges } opts).affected,
          item.nodeId = id → item'.nodeId = id →
            ∀ code, code ∈ item'.driftReasonCodes ↔ code ∈ item.driftReasonCodes := by
  obtain ⟨primaryReason, ⟨node, hnode, rfl⟩, hexact⟩ := exact_affected localeCompare hupstream
  refine ⟨fun primaryReason extra => ?_, hexact.ids, hexact.once, hexact.paths, fun edges hperm id => ?_⟩
  · have hqueue := (@between_walk _ _ primaryReason hupstream).2
    exact ⟨hqueue, walk_of_done hqueue⟩
  · obtain ⟨_, ⟨node', hnode', rfl⟩, hexact'⟩ :=
      @exact_affected { graph with edges := edges } localeCompare opts hupstream
    obtain rfl := Option.some.inj (hnode.symm.trans hnode')
    refine ⟨?_, fun item hitem item' hitem' hid hid' code => ?_⟩
    · rw [hexact.ids, hexact'.ids, impacts_perm hperm]
    · rw [hexact.reasons item hitem, hexact'.reasons item' hitem', impactReason_perm hperm, hid, hid']

end Exactness

/-- An objective, a run that implements it, and the requirement that it is derived from, which the run verifies. -/
def cycleGraph : LineageGraph :=
  let node (id : String) (nodeType : LineageNodeType) : LineageNode :=
    { nodeId := id, nodeType, domain := "app", revision := "1", contentHash := none, componentId := .absent
      capabilityId := .absent, summary := none, identity := [], provenance := ⟨"lineage", none⟩
      ownership := .absent, decisionStatus := .absent }
  { nodes := [node "app::requirement:r" .requirement, node "app::objective:o" .objective, node "app::run:n" .run]
    edges := [⟨"e1", "app::objective:o", "app::requirement:r", .derivedFrom, none⟩,
      ⟨"e2", "app::run:n", "app::objective:o", .implements, some ["policy_event_invalidated"]⟩,
      ⟨"e3", "app::run:n", "app::requirement:r", .verifies, none⟩] }

theorem computeForwardImpact_cycle :
    "app::run:n" ∈ (computeForwardImpact (fun a b => if a ≤ b then -1 else 1) cycleGraph
        { upstreamNodeId := "app::requirement:r" }).affected.map (·.nodeId) ↔
      "app::run:n" ≠ "app::requirement:r" ∧
        Relation.ReflTransGen (Impacts cycleGraph) "app::requirement:r" "app::run:n" :=
  (computeForwardImpact_exact (fun a b => if a ≤ b then -1 else 1) cycleGraph
    { upstreamNodeId := "app::requirement:r" } (by decide)).2.1 "app::run:n"

end AgentPipeline.Lineage
