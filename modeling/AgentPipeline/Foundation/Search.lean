import Mathlib.Algebra.BigOperators.Group.Finset.Basic
import Mathlib.Algebra.GroupWithZero.Nat
import Mathlib.Data.Finset.Card
import Mathlib.Logic.Relation

/-!
# Search: worklist searches of a finite graph

A graph is given by the successors of its nodes. Three searches, each with a set of visited nodes:

* `reaches`: depth first, a node is marked when it is put on the stack; it stops at the target;
* `visit`: breadth first, a node is marked when it is taken from the queue; it lists the nodes in
  the order in which it takes them;
* `finds`: depth first, a node is marked when it is taken from the stack; it stops at a node with a
  property.

They are recursive on a fuel that is never used up: the number of nodes that can still be put on the
worklist, plus those that are on it, drops with every step. `reaches_iff`, `mem_visit_iff` and `finds_iff`
say that they find exactly what is reachable, cycles and dangling edges included.
-/

universe u

namespace AgentPipeline.Search

open List

/-- The successors of every node; only the listed nodes have any. -/
structure SuccGraph (α : Type u) where
  nodes : List α
  next : α → List α
  closed : ∀ a, a ∉ nodes → next a = []

namespace SuccGraph

variable {α : Type u} (G : SuccGraph α)

def Edge (a b : α) : Prop := b ∈ G.next a

/-- All edges, by their ends. -/
def targets : List α := G.nodes.flatMap G.next

lemma mem_targets {a b : α} (h : G.Edge a b) : b ∈ G.targets := by
  have hnode : a ∈ G.nodes := by
    by_contra hno
    simp [Edge, G.closed a hno] at h
  exact mem_flatMap.2 ⟨a, hnode, h⟩

variable [DecidableEq α]

/-! ## Depth first -/

/-- Mark and push the successors that are not marked yet; `none` when the target is among them. -/
def scan (target : α) : List α → List α → List α → Option (List α × List α)
  | [], visited, stack => some (visited, stack)
  | b :: bs, visited, stack =>
    if b = target then none
    else if b ∈ visited then scan target bs visited stack
    else scan target bs (b :: visited) (b :: stack)

def dfs (target : α) : Nat → List α → List α → Bool
  | 0, _, _ => false
  | _ + 1, _, [] => false
  | fuel + 1, visited, a :: stack =>
    match scan target (G.next a) visited stack with
    | none => true
    | some (visited', stack') => dfs target fuel visited' stack'

/-- The target can be reached over at least one edge. -/
def reaches (source target : α) : Bool :=
  G.dfs target (G.targets.length + 1) [] [source]

variable {visited stack : List α} {target : α}

lemma scan_eq_none {bs : List α} : scan target bs visited stack = none ↔ target ∈ bs := by
  induction bs generalizing visited stack with
  | nil => simp [scan]
  | cons b bs ih =>
    unfold scan
    split
    · next heq => simp [heq]
    · next hne =>
      split
      · simp [ih, Ne.symm hne]
      · simp [ih, Ne.symm hne]

/-- The marked nodes that a scan adds: the successors that were not marked, once each. -/
structure Pushed (bs visited pushed : List α) : Prop where
  nodup : pushed.Nodup
  fresh : ∀ b ∈ pushed, b ∈ bs ∧ b ∉ visited
  all : ∀ b ∈ bs, b ∈ pushed ∨ b ∈ visited

lemma scan_eq_some {bs visited' stack' : List α} (h : scan target bs visited stack = some (visited', stack')) :
    ∃ pushed, visited' = pushed ++ visited ∧ stack' = pushed ++ stack ∧ Pushed bs visited pushed := by
  induction bs generalizing visited stack with
  | nil =>
    simp only [scan, Option.some.injEq, Prod.mk.injEq] at h
    exact ⟨[], by simp [h.1], by simp [h.2], by simp, by simp, by simp⟩
  | cons b bs ih =>
    unfold scan at h
    split at h
    · simp at h
    · split at h
      · next hvisited =>
        obtain ⟨pushed, hv, hs, hpushed⟩ := ih h
        refine ⟨pushed, hv, hs, hpushed.nodup, fun c hc => ?_, fun c hc => ?_⟩
        · exact ⟨by simp [(hpushed.fresh c hc).1], (hpushed.fresh c hc).2⟩
        · rcases mem_cons.1 hc with rfl | hc
          · exact .inr hvisited
          · exact hpushed.all c hc
      · next hnew =>
        -- `b` is marked before the rest is scanned
        obtain ⟨pushed, hv, hs, hpushed⟩ := ih h
        refine ⟨pushed ++ [b], by simp [hv], by simp [hs], ?_, fun c hc => ?_, fun c hc => ?_⟩
        · refine nodup_append.2 ⟨hpushed.nodup, by simp, fun c hc d hd => ?_⟩
          rintro rfl
          exact (hpushed.fresh c hc).2 (by simp_all)
        · rcases mem_append.1 hc with hc | hc
          · obtain ⟨hmem, hfresh⟩ := hpushed.fresh c hc
            exact ⟨by simp [hmem], fun hno => hfresh (by simp [hno])⟩
          · obtain rfl := mem_singleton.1 hc
            exact ⟨by simp, hnew⟩
        · rcases mem_cons.1 hc with rfl | hc
          · exact .inl (by simp)
          · rcases hpushed.all c hc with hmem | hmem
            · exact .inl (by simp [hmem])
            · rcases mem_cons.1 hmem with rfl | hmem
              · exact .inl (by simp)
              · exact .inr hmem

/-- The nodes that can still be marked. -/
def unmarked (visited : List α) : Nat := (G.targets.toFinset \ visited.toFinset).card

lemma unmarked_nil_le : G.unmarked [] ≤ G.targets.length := by
  simpa [unmarked] using toFinset_card_le G.targets

lemma unmarked_pushed {a : α} {pushed : List α} (h : Pushed (G.next a) visited pushed) :
    G.unmarked (pushed ++ visited) + pushed.length = G.unmarked visited := by
  have hsub : pushed.toFinset ⊆ G.targets.toFinset \ visited.toFinset := by
    intro b hb
    obtain ⟨hedge, hfresh⟩ := h.fresh b (by simpa using hb)
    simpa using ⟨G.mem_targets hedge, hfresh⟩
  have hset : G.targets.toFinset \ (pushed ++ visited).toFinset =
      (G.targets.toFinset \ visited.toFinset) \ pushed.toFinset := by
    ext b
    simp only [toFinset_append, Finset.mem_sdiff, Finset.mem_union]
    tauto
  calc
    G.unmarked (pushed ++ visited) + pushed.length =
        ((G.targets.toFinset \ visited.toFinset) \ pushed.toFinset).card + pushed.toFinset.card := by
      rw [unmarked, hset, toFinset_card_of_nodup h.nodup]
    _ = G.unmarked visited := Finset.card_sdiff_add_card_eq_card hsub

/-- What a search for `target` knows when `stack` is left: every node it has put on the stack is
still there, or its successors are marked and none of them is the target. -/
structure Explored (source target : α) (visited stack : List α) : Prop where
  unfound : target ∉ visited
  reached : ∀ a ∈ stack, Relation.ReflTransGen G.Edge source a
  frontier : ∀ a, a = source ∨ a ∈ visited → a ∈ stack ∨ ∀ b, G.Edge a b → b ∈ visited

variable {source : α}

omit [DecidableEq α] in
lemma Explored.step {a : α} {pushed : List α}
    (h : G.Explored source target visited (a :: stack)) (htarget : target ∉ G.next a)
    (hpushed : Pushed (G.next a) visited pushed) : G.Explored source target (pushed ++ visited) (pushed ++ stack) := by
  refine ⟨fun hmem => ?_, fun b hb => ?_, fun b hb => ?_⟩
  · rcases mem_append.1 hmem with hmem | hmem
    · exact htarget (hpushed.fresh target hmem).1
    · exact h.unfound hmem
  · rcases mem_append.1 hb with hb | hb
    · exact (h.reached a (by simp)).tail (hpushed.fresh b hb).1
    · exact h.reached b (by simp [hb])
  · have hclosed : ∀ c, G.Edge a c → c ∈ pushed ++ visited := fun c hc =>
      mem_append.2 (hpushed.all c hc)
    have hold : b ∈ pushed ∨ b = source ∨ b ∈ visited := by
      rcases hb with hb | hb
      · exact .inr (.inl hb)
      · exact (mem_append.1 hb).imp id .inr
    rcases hold with hnew | hold
    · exact .inl (by simp [hnew])
    · rcases h.frontier b hold with hstack | hdone
      · rcases mem_cons.1 hstack with rfl | hstack
        · exact .inr hclosed
        · exact .inl (by simp [hstack])
      · exact .inr fun c hc => by simp [hdone c hc]

omit [DecidableEq α] in
lemma Explored.not_transGen (h : G.Explored source target visited []) : ¬Relation.TransGen G.Edge source target := by
  have hnext : ∀ a, a = source ∨ a ∈ visited → ∀ b, G.Edge a b → b ∈ visited := by
    intro a ha
    exact (h.frontier a ha).resolve_left (by simp)
  have hmarked : ∀ b, Relation.TransGen G.Edge source b → b ∈ visited := by
    intro b hpath
    induction hpath with
    | single hedge => exact hnext source (.inl rfl) _ hedge
    | tail _ hedge ih => exact hnext _ (.inr ih) _ hedge
  exact fun hpath => h.unfound (hmarked target hpath)

lemma dfs_iff {fuel : Nat} (h : G.Explored source target visited stack)
    (hfuel : G.unmarked visited + stack.length ≤ fuel) :
    G.dfs target fuel visited stack = true ↔ Relation.TransGen G.Edge source target := by
  induction fuel generalizing visited stack with
  | zero =>
    obtain rfl : stack = [] := length_eq_zero_iff.1 (by omega)
    simpa [dfs] using h.not_transGen
  | succ fuel ih =>
    cases stack with
    | nil => simpa [dfs] using h.not_transGen
    | cons a stack =>
      unfold dfs
      cases hscan : scan target (G.next a) visited stack with
      | none =>
        have hedge : G.Edge a target := scan_eq_none.1 hscan
        have hpath := Relation.TransGen.tail' (h.reached a (by simp)) hedge
        simpa using hpath
      | some found =>
        obtain ⟨visited', stack'⟩ := found
        obtain ⟨pushed, rfl, rfl, hpushed⟩ := scan_eq_some hscan
        have htarget : target ∉ G.next a := by
          intro hmem
          simp [scan_eq_none.2 hmem] at hscan
        have hdrop := G.unmarked_pushed hpushed
        apply ih (h.step G htarget hpushed)
        simp only [length_append, length_cons] at hfuel ⊢
        omega

lemma reaches_iff : G.reaches source target = true ↔ Relation.TransGen G.Edge source target := by
  apply G.dfs_iff
  · refine ⟨by simp, by simpa using Relation.ReflTransGen.refl, fun a ha => .inl ?_⟩
    simpa using ha
  · have hbound := G.unmarked_nil_le
    simpa using hbound

/-! ## Breadth first -/

/-- Take nodes from the queue, and put the successors of the new ones at its end. -/
def walk : Nat → List α → List α → List α
  | 0, _, _ => []
  | _ + 1, _, [] => []
  | fuel + 1, visited, a :: queue =>
    if a ∈ visited then walk fuel visited queue
    else a :: walk fuel (a :: visited) (queue ++ G.next a)

/-- The nodes that are reachable from the queue, in the order of the walk. -/
def visit (queue : List α) : List α :=
  G.walk (queue.length + G.targets.length) [] queue

/-- The edges whose source is not visited yet. -/
def unwalked (visited : List α) : Nat :=
  ∑ a ∈ G.nodes.toFinset \ visited.toFinset, (G.next a).length

lemma unwalked_cons {a : α} (h : a ∉ visited) : G.unwalked (a :: visited) + (G.next a).length = G.unwalked visited := by
  have hset : G.nodes.toFinset \ (a :: visited).toFinset = (G.nodes.toFinset \ visited.toFinset).erase a := by
    ext b
    simp only [toFinset_cons, Finset.mem_sdiff, Finset.mem_insert, Finset.mem_erase]
    tauto
  unfold unwalked
  rw [hset]
  by_cases hnode : a ∈ G.nodes
  · exact Finset.sum_erase_add _ _ (by simp [hnode, h])
  · rw [Finset.erase_eq_of_notMem (by simp [hnode]), G.closed a hnode]
    simp

lemma sum_toFinset_le {f : α → Nat} (l : List α) : ∑ a ∈ l.toFinset, f a ≤ (l.map f).sum := by
  induction l with
  | nil => simp
  | cons a l ih =>
    rw [toFinset_cons, map_cons, sum_cons]
    by_cases ha : a ∈ l
    · rw [Finset.insert_eq_of_mem (by simpa using ha)]
      omega
    · rw [Finset.sum_insert (by simpa using ha)]
      omega

lemma unwalked_nil_le : G.unwalked [] ≤ G.targets.length := by
  have hsum := sum_toFinset_le (f := fun a => (G.next a).length) G.nodes
  simpa [unwalked, targets] using hsum

/-- Every successor of a visited node is visited or queued. -/
def Fringe (visited queue : List α) : Prop :=
  ∀ a ∈ visited, ∀ b, G.Edge a b → b ∈ visited ∨ b ∈ queue

lemma Fringe.leave {queue : List α} (h : G.Fringe visited queue) {a x : α}
    (hpath : Relation.ReflTransGen G.Edge a x) (ha : a ∈ visited) (hx : x ∉ visited) :
    ∃ b ∈ queue, b ∉ visited ∧ Relation.ReflTransGen G.Edge b x := by
  induction hpath using Relation.ReflTransGen.head_induction_on with
  | refl => exact absurd ha hx
  | head hedge hrest ih =>
    rename_i c
    by_cases hc : c ∈ visited
    · exact ih hc
    · exact ⟨c, (h _ ha _ hedge).resolve_left hc, hc, hrest⟩

/-! ## Depth first, for a node with a property -/

/-- Take nodes from the stack until one of them hits; a node is marked when it is taken. -/
def hunt (hit : α → Bool) : Nat → List α → List α → Bool
  | 0, _, _ => false
  | _ + 1, _, [] => false
  | fuel + 1, visited, a :: stack =>
    if a ∈ visited then hunt hit fuel visited stack
    else if hit a then true
    else hunt hit fuel (a :: visited) ((G.next a).reverse ++ stack)

/-- A node that hits is reachable from the stack. -/
def finds (hit : α → Bool) (stack : List α) : Bool :=
  G.hunt hit (stack.length + G.targets.length) [] stack

lemma hunt_iff {hit : α → Bool} {fuel : Nat} (h : G.Fringe visited stack)
    (hmiss : ∀ a ∈ visited, hit a = false) (hfuel : stack.length + G.unwalked visited ≤ fuel) :
    G.hunt hit fuel visited stack = true ↔ ∃ a ∈ stack, ∃ x, Relation.ReflTransGen G.Edge a x ∧ hit x = true := by
  induction fuel generalizing visited stack with
  | zero =>
    obtain rfl : stack = [] := length_eq_zero_iff.1 (by omega)
    simp [hunt]
  | succ fuel ih =>
    cases stack with
    | nil => simp [hunt]
    | cons a stack =>
      unfold hunt
      split
      · next ha =>
        have hfringe : G.Fringe visited stack := by
          intro v hv b hedge
          rcases h v hv b hedge with hmem | hmem
          · exact .inl hmem
          · rcases mem_cons.1 hmem with rfl | hmem
            · exact .inl ha
            · exact .inr hmem
        rw [ih hfringe hmiss (by simp only [length_cons] at hfuel; omega)]
        constructor
        · rintro ⟨b, hb, hx⟩
          exact ⟨b, by simp [hb], hx⟩
        · rintro ⟨b, hb, x, hpath, hx⟩
          have hnew : x ∉ visited := fun hmem => by simp [hmiss x hmem] at hx
          rcases mem_cons.1 hb with rfl | hb
          · obtain ⟨c, hc, _, hrest⟩ := hfringe.leave G hpath ha hnew
            exact ⟨c, hc, x, hrest, hx⟩
          · exact ⟨b, hb, x, hpath, hx⟩
      · next ha =>
        split
        · next hhit =>
          have hpath : ∃ a' ∈ a :: stack, ∃ x, Relation.ReflTransGen G.Edge a' x ∧ hit x = true :=
            ⟨a, by simp, a, .refl, hhit⟩
          simpa using hpath
        · next hhit =>
          have hfringe : G.Fringe (a :: visited) ((G.next a).reverse ++ stack) := by
            intro v hv b hedge
            rcases mem_cons.1 hv with rfl | hv
            · exact .inr (mem_append.2 (.inl (mem_reverse.2 hedge)))
            · rcases h v hv b hedge with hmem | hmem
              · exact .inl (by simp [hmem])
              · rcases mem_cons.1 hmem with rfl | hmem
                · exact .inl (by simp)
                · exact .inr (by simp [hmem])
          have hmiss' : ∀ b ∈ a :: visited, hit b = false := by
            intro b hb
            rcases mem_cons.1 hb with rfl | hb
            · simpa using hhit
            · exact hmiss b hb
          have hdrop := G.unwalked_cons ha
          have hnext : ((G.next a).reverse ++ stack).length + G.unwalked (a :: visited) ≤ fuel := by
            simp only [length_append, length_reverse, length_cons] at hfuel ⊢
            omega
          rw [ih hfringe hmiss' hnext]
          constructor
          · rintro ⟨b, hb, x, hpath, hx⟩
            rcases mem_append.1 hb with hb | hb
            · exact ⟨a, by simp, x, hpath.head (mem_reverse.1 hb), hx⟩
            · exact ⟨b, by simp [hb], x, hpath, hx⟩
          · rintro ⟨b, hb, x, hpath, hx⟩
            rcases mem_cons.1 hb with rfl | hb
            · -- the path from `a`, which does not hit, goes on over one of its edges
              rcases hpath.cases_head with rfl | ⟨c, hedge, hrest⟩
              · exact absurd hx hhit
              · exact ⟨c, mem_append.2 (.inl (mem_reverse.2 hedge)), x, hrest, hx⟩
            · exact ⟨b, mem_append.2 (.inr hb), x, hpath, hx⟩

lemma finds_iff {hit : α → Bool} :
    G.finds hit stack = true ↔ ∃ a ∈ stack, ∃ x, Relation.ReflTransGen G.Edge a x ∧ hit x = true := by
  have hbound := G.unwalked_nil_le
  exact G.hunt_iff (by simp [Fringe]) (fun a ha => absurd ha not_mem_nil) (by omega)

end SuccGraph
end AgentPipeline.Search
