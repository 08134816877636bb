import Mathlib.Data.Fintype.Card
import Mathlib.Data.List.Dedup
import Mathlib.Data.Set.Finite.List
import Mathlib.Logic.Relation
import Mathlib.Order.WellFounded

/-!
# Layers: a finite relation peeled from its sources

The nodes without a predecessor are taken away, and again from what is left, until nothing is left or every node
that is left has a predecessor there.

* `PathTo`, `IsLongest`: a node at the end of a path of so many edges, and of no longer one;
* `AfterCycle`: a node on a cycle, or reachable from one;
* `layers`: the layers, and what is left where the peeling stops;
* `layers_spec`: a layer holds the nodes with its longest path, and what is left is what follows a cycle.
-/

namespace Layers

open List Relation

universe u

variable {α : Type u}

/-! ## Paths and cycles -/

variable {n : α} {k : Nat}

section Paths

variable (E : α → α → Prop)

/-- A path of `k` edges ends at the node. -/
def PathTo : Nat → α → Prop
  | 0, _ => True
  | k + 1, n => ∃ m, PathTo k m ∧ E m n

/-- The longest path that ends at the node has `k` edges. -/
def IsLongest (k : Nat) (n : α) : Prop := PathTo E k n ∧ ∀ j, PathTo E j n → j ≤ k

/-- The node is on a cycle or is reachable from one; an edge from a node to itself is a cycle. -/
def AfterCycle (n : α) : Prop := ∃ c, TransGen E c c ∧ ReflTransGen E c n

variable {E}

lemma PathTo.shorten (h : PathTo E (k + 1) n) : PathTo E k n := by
  induction k generalizing n with
  | zero => trivial
  | succ k ih =>
    obtain ⟨m, hm, hedge⟩ := h
    exact ⟨m, ih hm, hedge⟩

lemma PathTo.of_le {j : Nat} (hle : j ≤ k) (h : PathTo E k n) : PathTo E j n := by
  induction hle with
  | refl => exact h
  | step _ ih => exact ih h.shorten

lemma isLongest_iff : IsLongest E k n ↔ PathTo E k n ∧ ¬PathTo E (k + 1) n := by
  refine and_congr_right fun _ => ⟨fun h hlonger => ?_, fun h j hj => ?_⟩
  · exact absurd (h _ hlonger) (by omega)
  · by_contra hlt
    exact h (hj.of_le (by omega))

lemma AfterCycle.pred (h : AfterCycle E n) : ∃ m, AfterCycle E m ∧ E m n := by
  obtain ⟨c, hcycle, hreach⟩ := h
  rcases ReflTransGen.cases_tail hreach with rfl | ⟨m, hm, hedge⟩
  · obtain ⟨m, hm, hedge⟩ := TransGen.tail'_iff.1 hcycle
    exact ⟨m, ⟨n, hcycle, hm⟩, hedge⟩
  · exact ⟨m, ⟨c, hcycle, hm⟩, hedge⟩

lemma AfterCycle.tail {m : α} (h : AfterCycle E m) (hedge : E m n) : AfterCycle E n := by
  obtain ⟨c, hcycle, hreach⟩ := h
  exact ⟨c, hcycle, hreach.tail hedge⟩

lemma AfterCycle.pathTo (h : AfterCycle E n) (k : Nat) : PathTo E k n := by
  induction k generalizing n with
  | zero => trivial
  | succ k ih =>
    obtain ⟨m, hm, hedge⟩ := h.pred
    exact ⟨m, ih hm, hedge⟩

lemma exists_afterCycle_iff : (∃ n, AfterCycle E n) ↔ ∃ c, TransGen E c c := by
  constructor
  · rintro ⟨-, c, hcycle, -⟩
    exact ⟨c, hcycle⟩
  · rintro ⟨c, hcycle⟩
    exact ⟨c, c, hcycle, .refl⟩

lemma afterCycle_of_stuck {S : List α} (h : ∀ n ∈ S, ∃ m ∈ S, E m n) (hn : n ∈ S) : AfterCycle E n := by
  by_contra hfree
  -- the nodes of the set that follow no cycle: a least one of them has no predecessor among them
  let Free := { x // x ∈ S ∧ ¬AfterCycle E x }
  have hfinite : Finite Free :=
    Set.Finite.to_subtype ((finite_toSet S).subset fun x (hx : x ∈ S ∧ ¬AfterCycle E x) => hx.1)
  let before : Free → Free → Prop := fun x y => TransGen E x.1 y.1
  have : IsTrans Free before := ⟨fun _ _ _ hxy hyz => TransGen.trans hxy hyz⟩
  have : Std.Irrefl before := ⟨fun x hx => x.2.2 ⟨x.1, hx, .refl⟩⟩
  have hwf : WellFounded before := Finite.wellFounded_of_trans_of_irrefl before
  obtain ⟨least, -, hleast⟩ := hwf.has_min Set.univ ⟨⟨n, hn, hfree⟩, trivial⟩
  obtain ⟨m, hm, hedge⟩ := h least.1 least.2.1
  have hmfree : ¬AfterCycle E m := fun hcycle => least.2.2 (hcycle.tail hedge)
  exact hleast ⟨m, hm, hmfree⟩ trivial (.single hedge)

end Paths

/-! ## Peeling -/

variable (E : α → α → Prop) [DecidableRel E]

/-- A node has a predecessor in the list. -/
def hasPred (S : List α) (n : α) : Bool := S.any fun m => E m n

/-- The layers of a list, and what is left where the peeling stops; so many layers are taken at most. -/
def layers : Nat → List α → List (List α) × List α
  | 0, _ => ([], [])
  | fuel + 1, rest =>
    if rest = [] then ([], [])
    else
      let layer := rest.filter fun n => !hasPred E rest n
      if layer = [] then ([], rest)
      else
        let below := layers fuel (rest.filter (hasPred E rest))
        (layer :: below.1, below.2)

variable {E}

lemma hasPred_iff {S : List α} : hasPred E S n = true ↔ ∃ m ∈ S, E m n := by simp [hasPred]

lemma layers_congr {E' : α → α → Prop} [DecidableRel E'] (h : ∀ a b, E a b ↔ E' a b) (fuel : Nat)
    (rest : List α) : layers E fuel rest = layers E' fuel rest := by
  have hpred : ∀ S, hasPred E S = hasPred E' S := by
    intro S
    funext n
    rw [Bool.eq_iff_iff, hasPred_iff, hasPred_iff]
    simp [h]
  induction fuel generalizing rest with
  | zero => rfl
  | succ fuel ih => simp only [layers, hpred, ih]

/-- The list is what is left of the nodes after `k` layers: the ends of the paths of `k` edges. -/
def LeftAfter (E : α → α → Prop) (nodes : List α) (k : Nat) (rest : List α) : Prop :=
  rest.Nodup ∧ ∀ n, n ∈ rest ↔ n ∈ nodes ∧ PathTo E k n

lemma LeftAfter.next {nodes rest : List α} (hin : ∀ a b, E a b → a ∈ nodes)
    (h : LeftAfter E nodes k rest) : LeftAfter E nodes (k + 1) (rest.filter (hasPred E rest)) := by
  refine ⟨h.1.filter _, fun n => ?_⟩
  rw [mem_filter, hasPred_iff, h.2]
  constructor
  · rintro ⟨⟨hn, -⟩, m, hm, hedge⟩
    exact ⟨hn, m, ((h.2 m).1 hm).2, hedge⟩
  · rintro ⟨hn, m, hm, hedge⟩
    exact ⟨⟨hn, PathTo.shorten ⟨m, hm, hedge⟩⟩, m, (h.2 m).2 ⟨hin m n hedge, hm⟩, hedge⟩

/-- What the peeling of a list says of its nodes; `k` layers were taken before. -/
structure Peeled (E : α → α → Prop) (k : Nat) (rest : List α) (result : List (List α) × List α) : Prop where
  nonempty : ∀ layer ∈ result.1, layer ≠ []
  nodup : (result.1.flatten ++ result.2).Nodup
  mem : ∀ n, n ∈ result.1.flatten ++ result.2 ↔ n ∈ rest
  longest : ∀ i layer, result.1[i]? = some layer → ∀ n ∈ layer, IsLongest E (k + i) n
  stuck : ∀ n ∈ result.2, AfterCycle E n

lemma peeled_of_leftAfter {nodes : List α} (hin : ∀ a b, E a b → a ∈ nodes) {fuel : Nat} {rest : List α}
    (hleft : LeftAfter E nodes k rest) (hfuel : rest.length ≤ fuel) : Peeled E k rest (layers E fuel rest) := by
  induction fuel generalizing k rest with
  | zero =>
    obtain rfl : rest = [] := length_eq_zero_iff.1 (by omega)
    exact ⟨by simp [layers], by simp [layers], by simp [layers], by simp [layers], by simp [layers]⟩
  | succ fuel ih =>
    by_cases hempty : rest = []
    · subst hempty
      exact ⟨by simp [layers], by simp [layers], by simp [layers], by simp [layers], by simp [layers]⟩
    set layer := rest.filter fun n => !hasPred E rest n with hlayer
    by_cases hstop : layer = []
    · -- every node that is left has a predecessor there
      have hresult : layers E (fuel + 1) rest = ([], rest) := by
        simp only [layers, if_neg hempty, ← hlayer, if_pos hstop]
      have hstuck : ∀ n ∈ rest, ∃ m ∈ rest, E m n := by
        intro n hn
        by_contra hnone
        have hmem : n ∈ layer := mem_filter.2 ⟨hn, by simpa [hasPred] using hnone⟩
        rw [hstop] at hmem
        cases hmem
      rw [hresult]
      exact ⟨by simp, by simpa using hleft.1, by simp, by simp, fun n hn => afterCycle_of_stuck hstuck hn⟩
    · set below := layers E fuel (rest.filter (hasPred E rest)) with hbelow
      have hresult : layers E (fuel + 1) rest = (layer :: below.1, below.2) := by
        simp only [layers, if_neg hempty, ← hlayer, if_neg hstop, ← hbelow]
      have hnext := hleft.next hin
      have hsplit : layer.length + (rest.filter (hasPred E rest)).length = rest.length := by
        rw [hlayer, Nat.add_comm]
        exact (length_eq_length_filter_add (hasPred E rest)).symm
      have hpos : 0 < layer.length := length_pos_iff.2 hstop
      have hrest := ih hnext (by omega)
      rw [← hbelow] at hrest
      have hdisjoint : ∀ n ∈ layer, n ∉ below.1.flatten ++ below.2 := by
        intro n hn hmem
        have hpred := (mem_filter.1 ((hrest.mem n).1 hmem)).2
        simp [hlayer, hpred] at hn
      rw [hresult]
      refine ⟨?_, ?_, ?_, ?_, hrest.stuck⟩
      · intro l hl
        rcases mem_cons.1 hl with rfl | hl
        · exact hstop
        · exact hrest.nonempty l hl
      · rw [flatten_cons, append_assoc, nodup_append]
        refine ⟨hleft.1.filter _, hrest.nodup, fun a ha b hb heq => ?_⟩
        subst heq
        exact hdisjoint a ha hb
      · intro n
        rw [flatten_cons, append_assoc, mem_append, hrest.mem, mem_filter, mem_filter]
        cases hasPred E rest n <;> simp
      · intro i l hl n hn
        cases i with
        | zero =>
          simp only [getElem?_cons_zero, Option.some.injEq] at hl
          subst hl
          have hmem := mem_filter.1 hn
          refine isLongest_iff.2 ⟨((hleft.2 n).1 hmem.1).2, ?_⟩
          rintro ⟨m, hm, hedge⟩
          have hpred : hasPred E rest n = true := hasPred_iff.2 ⟨m, (hleft.2 m).2 ⟨hin m n hedge, hm⟩, hedge⟩
          simp [hpred] at hmem
        | succ i =>
          have hlongest := hrest.longest i l (by simpa using hl) n hn
          rwa [show k + (i + 1) = k + 1 + i by omega]

lemma layers_spec {nodes : List α} (hin : ∀ a b, E a b → a ∈ nodes) (hnodup : nodes.Nodup) :
    Peeled E 0 nodes (layers E nodes.length nodes) := peeled_of_leftAfter hin ⟨hnodup, fun n => by simp [PathTo]⟩ le_rfl

end Layers
