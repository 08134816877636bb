import AgentPipeline.Foundation.Layers

/-!
# Depgraph: the tiers of a roadmap

`topoSort` counts for every issue the edges that come into it, and takes away, turn after turn, the issues with a
count of zero; their edges are taken off the counts of their targets. An edge counts as often as it is listed, and
only when both its ends are among the issues.

* `topoSort`: the tiers, and a report when a cycle is left;
* `Degrees`: a count is the number of edges from the issues that remain;
* `peel_eq_layers`: the turns peel the relation of the edges;
* `topoSort_tiers`: a tier holds the issues with its longest path, and the reported one what follows a cycle.
-/

namespace AgentPipeline.Roadmap

open Layers Relation

/-! ## The edges and their counts -/

/-- `DepEdge`: `src` must come before `dst`. -/
structure DepEdge where
  src : Nat
  dst : Nat
deriving DecidableEq, Repr

structure CycleReport where
  issues : List Nat
  description : String
deriving DecidableEq, Repr

structure TopoSort where
  tiers : List (List Nat)
  cycleReports : List CycleReport
deriving DecidableEq, Repr

section Kahn

variable (issueNumbers : List Nat) (mustPrecede : List DepEdge)

/-- The edges with both ends among the issues. -/
def keptEdges : List DepEdge :=
  mustPrecede.filter fun e => issueNumbers.contains e.src && issueNumbers.contains e.dst

/-- `outEdges.get(n)`. -/
def outEdges (n : Nat) : List Nat :=
  ((keptEdges issueNumbers mustPrecede).filter fun e => e.src = n).map (·.dst)

/-- `inDegree`, after the edges were counted. -/
def initialDegrees : Nat → Int :=
  (keptEdges issueNumbers mustPrecede).foldl
    (fun inDegree e => Function.update inDegree e.dst (inDegree e.dst + 1)) fun _ => 0

/-- One issue of a tier is released: the counts of its targets go down. -/
def release (inDegree : Nat → Int) (n : Nat) : Nat → Int :=
  (outEdges issueNumbers mustPrecede n).foldl
    (fun inDegree succ => Function.update inDegree succ (inDegree succ - 1)) inDegree

/-- `tier.sort((a, b) => a - b)`. -/
def sortTier (tier : List Nat) : List Nat := tier.insertionSort (· ≤ ·)

def describeCycle (issues : List Nat) : String :=
  "Cycle detected among issues: " ++ ", ".intercalate (issues.map fun n => "#" ++ toString n) ++
    ". Cannot determine a definitive ordering."

/-- The `while` loop; every turn takes an issue away, so there are at most `fuel` of them. -/
def peel : Nat → (Nat → Int) → List Nat → TopoSort
  | 0, _, _ => ⟨[], []⟩
  | fuel + 1, inDegree, remaining =>
    if remaining = [] then ⟨[], []⟩
    else
      let tier := remaining.filter fun n => inDegree n = 0
      if tier = [] then ⟨[remaining], [⟨remaining, describeCycle remaining⟩]⟩
      else
        let sorted := sortTier tier
        let below := peel fuel (sorted.foldl (release issueNumbers mustPrecede) inDegree)
          (remaining.filter fun n => !sorted.contains n)
        ⟨sorted :: below.tiers, below.cycleReports⟩

/-- `topoSort(issueNumbers, mustPrecede)`. -/
def topoSort : TopoSort :=
  peel issueNumbers mustPrecede issueNumbers.eraseDups.length (initialDegrees issueNumbers mustPrecede)
    issueNumbers.eraseDups

/-! ## The counts -/

/-- `a` must come before `b`, and both are among the issues. -/
def Precedes (a b : Nat) : Prop := (⟨a, b⟩ : DepEdge) ∈ keptEdges issueNumbers mustPrecede

instance : DecidableRel (Precedes issueNumbers mustPrecede) := fun _ _ => inferInstanceAs (Decidable (_ ∈ _))

/-- The kept edges into an issue that come from the list. -/
def comingFrom (remaining : List Nat) (n : Nat) : List DepEdge :=
  (keptEdges issueNumbers mustPrecede).filter fun e => e.dst = n && remaining.contains e.src

/-- The count of every issue is the number of edges from the issues that remain. -/
def Degrees (remaining : List Nat) (inDegree : Nat → Int) : Prop :=
  ∀ n, inDegree n = (comingFrom issueNumbers mustPrecede remaining n).length

end Kahn

variable {issueNumbers : List Nat} {mustPrecede : List DepEdge}

lemma precedes_iff {a b : Nat} : Precedes issueNumbers mustPrecede a b ↔
    ⟨a, b⟩ ∈ mustPrecede ∧ a ∈ issueNumbers ∧ b ∈ issueNumbers := by
  simp [Precedes, keptEdges]

lemma foldl_update_add (edges : List DepEdge) (inDegree : Nat → Int) (n : Nat) :
    (edges.foldl (fun inDegree e => Function.update inDegree e.dst (inDegree e.dst + 1)) inDegree) n =
      inDegree n + (edges.filter fun e => e.dst = n).length := by
  induction edges generalizing inDegree with
  | nil => simp
  | cons e edges ih =>
    rw [List.foldl_cons, ih, List.filter_cons]
    by_cases hn : e.dst = n
    · subst hn
      simp
      omega
    · simp [hn, Function.update_of_ne (Ne.symm hn)]

lemma foldl_update_sub (succs : List Nat) (inDegree : Nat → Int) (n : Nat) :
    (succs.foldl (fun inDegree succ => Function.update inDegree succ (inDegree succ - 1)) inDegree) n =
      inDegree n - succs.count n := by
  induction succs generalizing inDegree with
  | nil => simp
  | cons s succs ih =>
    rw [List.foldl_cons, ih, List.count_cons]
    by_cases hn : s = n
    · subst hn
      simp
      omega
    · simp [hn, Function.update_of_ne (Ne.symm hn)]

lemma release_apply (inDegree : Nat → Int) (m n : Nat) : release issueNumbers mustPrecede inDegree m n =
      inDegree n - (comingFrom issueNumbers mustPrecede [m] n).length := by
  rw [release, foldl_update_sub, outEdges, List.count_eq_length_filter, List.filter_map, List.length_map,
    List.filter_filter]
  have hsame : (fun e : DepEdge => ((· == n) ∘ (·.dst)) e && decide (e.src = m)) =
      fun e => decide (e.dst = n) && [m].contains e.src := by
    funext e
    simp [beq_eq_decide]
  rw [hsame, comingFrom]

lemma initialDegrees_spec (remaining : List Nat) (h : ∀ n ∈ issueNumbers, n ∈ remaining) :
    Degrees issueNumbers mustPrecede remaining (initialDegrees issueNumbers mustPrecede) := by
  intro n
  rw [initialDegrees, foldl_update_add, comingFrom, zero_add]
  congr 2
  refine List.filter_congr fun e he => ?_
  have hsrc : e.src ∈ issueNumbers := by
    have hkept := (List.mem_filter.1 he).2
    simp only [Bool.and_eq_true, List.contains_iff_mem] at hkept
    exact hkept.1
  simp [h e.src hsrc]

lemma foldl_release_apply (tier : List Nat) (inDegree : Nat → Int) (n : Nat) (hnodup : tier.Nodup) :
    (tier.foldl (release issueNumbers mustPrecede) inDegree) n =
      inDegree n - (comingFrom issueNumbers mustPrecede tier n).length := by
  induction tier generalizing inDegree with
  | nil => simp [comingFrom]
  | cons m tier ih =>
    have hm := List.nodup_cons.1 hnodup
    rw [List.foldl_cons, ih _ hm.2, release_apply]
    have hsplit : (comingFrom issueNumbers mustPrecede (m :: tier) n).length =
        (comingFrom issueNumbers mustPrecede [m] n).length + (comingFrom issueNumbers mustPrecede tier n).length := by
      simp only [comingFrom]
      generalize keptEdges issueNumbers mustPrecede = edges
      induction edges with
      | nil => rfl
      | cons e edges ihe =>
        have hone : ¬(e.src = m ∧ e.src ∈ tier) := fun h => hm.1 (h.1 ▸ h.2)
        by_cases hdst : e.dst = n <;> by_cases hsrc : e.src = m <;> by_cases htier : e.src ∈ tier <;>
          simp_all <;> omega
    omega

variable {remaining : List Nat} {inDegree : Nat → Int} {tier : List Nat}

lemma Degrees.release
    (h : Degrees issueNumbers mustPrecede remaining inDegree) (hnodup : tier.Nodup)
    (hsub : ∀ n ∈ tier, n ∈ remaining) :
    Degrees issueNumbers mustPrecede (remaining.filter fun n => !tier.contains n)
      (tier.foldl (release issueNumbers mustPrecede) inDegree) := by
  intro n
  rw [foldl_release_apply tier inDegree n hnodup, h n]
  have hsplit : (comingFrom issueNumbers mustPrecede remaining n).length =
      (comingFrom issueNumbers mustPrecede tier n).length +
        (comingFrom issueNumbers mustPrecede (remaining.filter fun n => !tier.contains n) n).length := by
    simp only [comingFrom]
    generalize keptEdges issueNumbers mustPrecede = edges
    induction edges with
    | nil => rfl
    | cons e edges ihe =>
      have hin := hsub e.src
      by_cases hdst : e.dst = n <;> by_cases hrem : e.src ∈ remaining <;> by_cases htier : e.src ∈ tier <;>
        simp_all <;> omega
  omega

lemma Degrees.eq_zero_iff (h : Degrees issueNumbers mustPrecede remaining inDegree) (n : Nat) :
    inDegree n = 0 ↔ hasPred (Precedes issueNumbers mustPrecede) remaining n = false := by
  rw [h n, Int.natCast_eq_zero, List.length_eq_zero_iff, Bool.eq_false_iff, ne_eq, hasPred_iff]
  simp only [comingFrom, List.filter_eq_nil_iff, Bool.and_eq_true, List.contains_iff_mem, decide_eq_true_eq,
    Precedes, not_exists, not_and]
  constructor
  · intro hnone m hm hedge
    exact hnone _ hedge rfl hm
  · rintro hnone ⟨src, dst⟩ he rfl hsrc
    exact hnone src hsrc he

/-! ## The turns -/

/-- What the turns make of the layers: they are sorted, and what is left is reported. -/
def reported (result : List (List Nat) × List Nat) : TopoSort :=
  if result.2 = [] then ⟨result.1.map sortTier, []⟩
  else ⟨result.1.map sortTier ++ [result.2], [⟨result.2, describeCycle result.2⟩]⟩

variable {n : Nat}

lemma mem_sortTier : n ∈ sortTier tier ↔ n ∈ tier := (List.perm_insertionSort _ tier).mem_iff

lemma peel_eq_layers {fuel : Nat} (h : Degrees issueNumbers mustPrecede remaining inDegree) (hnodup : remaining.Nodup) :
    peel issueNumbers mustPrecede fuel inDegree remaining =
      reported (layers (Precedes issueNumbers mustPrecede) fuel remaining) := by
  induction fuel generalizing inDegree remaining with
  | zero => rfl
  | succ fuel ih =>
    by_cases hempty : remaining = []
    · subst hempty
      rfl
    have htier : (remaining.filter fun n => decide (inDegree n = 0)) =
        remaining.filter fun n => !hasPred (Precedes issueNumbers mustPrecede) remaining n := by
      refine List.filter_congr fun n _ => ?_
      rw [Bool.eq_iff_iff, decide_eq_true_eq, h.eq_zero_iff n, Bool.not_eq_true']
    have hpeel : peel issueNumbers mustPrecede (fuel + 1) inDegree remaining =
        let tier := remaining.filter fun n => decide (inDegree n = 0)
        if tier = [] then ⟨[remaining], [⟨remaining, describeCycle remaining⟩]⟩
        else
          let sorted := sortTier tier
          let below := peel issueNumbers mustPrecede fuel
            (sorted.foldl (release issueNumbers mustPrecede) inDegree)
            (remaining.filter fun n => !sorted.contains n)
          ⟨sorted :: below.tiers, below.cycleReports⟩ := by
      rw [peel, if_neg hempty]
    rw [hpeel, htier, layers, if_neg hempty]
    set tier := remaining.filter fun n => !hasPred (Precedes issueNumbers mustPrecede) remaining n with htierdef
    by_cases hstop : tier = []
    · simp [hstop, reported, hempty]
    · have hsub : ∀ n ∈ sortTier tier, n ∈ remaining := fun n hn =>
        (List.mem_filter.1 (mem_sortTier.1 hn)).1
      have hsorted : (sortTier tier).Nodup := (List.perm_insertionSort _ tier).nodup_iff.2 (hnodup.filter _)
      have hrest : (remaining.filter fun n => !(sortTier tier).contains n) =
          remaining.filter (hasPred (Precedes issueNumbers mustPrecede) remaining) := by
        refine List.filter_congr fun n hn => ?_
        rw [Bool.eq_iff_iff, Bool.not_eq_true', Bool.eq_false_iff, ne_eq, List.contains_iff_mem, mem_sortTier,
          htierdef, List.mem_filter]
        simp [hn]
      have hbelow := ih (h.release hsorted hsub) (hnodup.filter _)
      rw [hrest] at hbelow
      simp only [if_neg hstop, hrest, hbelow]
      unfold reported
      split <;> simp

/-! ## The tiers -/

lemma nodup_eraseDups (l : List Nat) : l.eraseDups.Nodup := by
  induction hn : l.length using Nat.strong_induction_on generalizing l with
  | _ n ih =>
    cases l with
    | nil => simp
    | cons a l =>
      rw [List.eraseDups_cons, List.nodup_cons, List.mem_eraseDups]
      have hle := List.length_filter_le (fun b => !(b == a)) l
      exact ⟨by simp, ih _ (by simp at hn; omega) _ rfl⟩

variable (issueNumbers mustPrecede) in
lemma topoSort_eq : topoSort issueNumbers mustPrecede =
    reported (layers (Precedes issueNumbers mustPrecede) issueNumbers.eraseDups.length issueNumbers.eraseDups) :=
  peel_eq_layers (initialDegrees_spec _ fun _ hn => List.mem_eraseDups.2 hn) (nodup_eraseDups _)

variable (issueNumbers mustPrecede) in
lemma peeled_issues : Peeled (Precedes issueNumbers mustPrecede) 0 issueNumbers.eraseDups
    (layers (Precedes issueNumbers mustPrecede) issueNumbers.eraseDups.length issueNumbers.eraseDups) := by
  refine layers_spec (fun a b hedge => ?_) (nodup_eraseDups _)
  exact List.mem_eraseDups.2 (precedes_iff.1 hedge).2.1

/-- What the tiers of a roadmap say of its issues. -/
structure TierLaws (issueNumbers : List Nat) (mustPrecede : List DepEdge) (result : TopoSort) : Prop where
  nonempty : ∀ tier ∈ result.tiers, tier ≠ []
  disjoint : result.tiers.flatten.Nodup
  covers : ∀ n, n ∈ result.tiers.flatten ↔ n ∈ issueNumbers
  acyclic : result.cycleReports = [] ↔ ¬∃ c, TransGen (Precedes issueNumbers mustPrecede) c c
  layer : ∀ n ∈ issueNumbers, ¬AfterCycle (Precedes issueNumbers mustPrecede) n →
    ∃ k tier, IsLongest (Precedes issueNumbers mustPrecede) k n ∧ result.tiers[k]? = some tier ∧ n ∈ tier
  cyclic : ∀ report ∈ result.cycleReports, result.cycleReports = [report] ∧ result.tiers.getLast? = some report.issues
  reportedTier : ∀ n, (∃ report ∈ result.cycleReports, n ∈ report.issues) ↔
    n ∈ issueNumbers ∧ AfterCycle (Precedes issueNumbers mustPrecede) n
  edgeSet : ∀ mustPrecede' : List DepEdge, (∀ e, e ∈ mustPrecede' ↔ e ∈ mustPrecede) →
    topoSort issueNumbers mustPrecede' = result

lemma reported_tiers (result : List (List Nat) × List Nat) :
    (reported result).tiers = result.1.map sortTier ++ if result.2 = [] then [] else [result.2] := by
  unfold reported
  split <;> simp

lemma reported_cycleReports (result : List (List Nat) × List Nat) : (reported result).cycleReports =
    if result.2 = [] then [] else [⟨result.2, describeCycle result.2⟩] := by
  unfold reported
  split <;> rfl

lemma flatten_map_sortTier_perm (tiers : List (List Nat)) : (tiers.map sortTier).flatten.Perm tiers.flatten := by
  induction tiers with
  | nil => rfl
  | cons tier tiers ih => exact (List.perm_insertionSort _ tier).append ih

lemma flatten_reported_perm (result : List (List Nat) × List Nat) :
    (reported result).tiers.flatten.Perm (result.1.flatten ++ result.2) := by
  have hlast : (if result.2 = [] then [] else [result.2]).flatten = result.2 := by
    by_cases h : result.2 = [] <;> simp [h]
  rw [reported_tiers, List.flatten_append, hlast]
  exact (flatten_map_sortTier_perm result.1).append_right result.2

variable {E : Nat → Nat → Prop} {k : Nat} {rest : List Nat} {result : List (List Nat) × List Nat}

lemma not_afterCycle_of_mem_layer (h : Peeled E k rest result) (hn : n ∈ result.1.flatten) : ¬AfterCycle E n := by
  intro hcycle
  obtain ⟨layer, hlayer, hmem⟩ := List.mem_flatten.1 hn
  obtain ⟨i, hi⟩ := List.mem_iff_getElem?.1 hlayer
  have hle := (h.longest i layer hi n hmem).2 (k + i + 1) (hcycle.pathTo _)
  omega

lemma mem_issues_of_afterCycle (h : AfterCycle (Precedes issueNumbers mustPrecede) n) : n ∈ issueNumbers := by
  obtain ⟨m, -, hedge⟩ := h.pred
  exact (precedes_iff.1 hedge).2.2

lemma mem_stuck_iff (h : Peeled E k rest result) (n : Nat) : n ∈ result.2 ↔ n ∈ rest ∧ AfterCycle E n := by
  constructor
  · intro hn
    exact ⟨(h.mem n).1 (List.mem_append_right _ hn), h.stuck n hn⟩
  · rintro ⟨hn, hcycle⟩
    rcases List.mem_append.1 ((h.mem n).2 hn) with hlayer | hstuck
    · exact absurd hcycle (not_afterCycle_of_mem_layer h hlayer)
    · exact hstuck

/-- Roadmap tiers are longest-path layers. -/
theorem topoSort_tiers (issueNumbers : List Nat) (mustPrecede : List DepEdge) :
    TierLaws issueNumbers mustPrecede (topoSort issueNumbers mustPrecede) := by
  have hpeeled := peeled_issues issueNumbers mustPrecede
  have hresult := topoSort_eq issueNumbers mustPrecede
  set E := Precedes issueNumbers mustPrecede with hE
  set result := layers E issueNumbers.eraseDups.length issueNumbers.eraseDups with hlayers
  have hperm : (topoSort issueNumbers mustPrecede).tiers.flatten.Perm (result.1.flatten ++ result.2) := by
    rw [hresult]
    exact flatten_reported_perm result
  have hstuck : ∀ n, n ∈ result.2 ↔ n ∈ issueNumbers ∧ AfterCycle E n := fun n => by
    rw [mem_stuck_iff hpeeled, List.mem_eraseDups]
  constructor
  case nonempty =>
    intro tier htier
    rw [hresult, reported_tiers, List.mem_append] at htier
    rcases htier with hlayer | hlast
    · obtain ⟨layer, hmem, rfl⟩ := List.mem_map.1 hlayer
      intro hnil
      have hperm := List.perm_insertionSort (· ≤ ·) layer
      rw [show layer.insertionSort (· ≤ ·) = [] from hnil] at hperm
      exact hpeeled.nonempty layer hmem hperm.nil_eq.symm
    · by_cases hempty : result.2 = []
      · simp [hempty] at hlast
      · rw [if_neg hempty, List.mem_singleton] at hlast
        rwa [hlast]
  case disjoint => exact hperm.nodup_iff.2 hpeeled.nodup
  case covers =>
    intro n
    rw [hperm.mem_iff, hpeeled.mem, List.mem_eraseDups]
  case acyclic =>
    have hnone : result.2 = [] ↔ ¬∃ n, AfterCycle E n := by
      rw [List.eq_nil_iff_forall_not_mem, not_exists]
      refine forall_congr' fun n => not_congr ?_
      rw [hstuck]
      exact ⟨And.right, fun h => ⟨mem_issues_of_afterCycle h, h⟩⟩
    rw [← exists_afterCycle_iff, ← hnone, hresult, reported_cycleReports]
    by_cases hempty : result.2 = [] <;> simp [hempty]
  case layer =>
    intro n hn hfree
    have hmem : n ∈ result.1.flatten ++ result.2 := (hpeeled.mem n).2 (List.mem_eraseDups.2 hn)
    rcases List.mem_append.1 hmem with hlayer | hleft
    · obtain ⟨layer, hlayer, hn⟩ := List.mem_flatten.1 hlayer
      obtain ⟨i, hi⟩ := List.mem_iff_getElem?.1 hlayer
      have hlongest := hpeeled.longest i layer hi n hn
      rw [Nat.zero_add] at hlongest
      refine ⟨i, sortTier layer, hlongest, ?_, mem_sortTier.2 hn⟩
      rw [hresult, reported_tiers, List.getElem?_append_left]
      · rw [List.getElem?_map, hi]
        rfl
      · rw [List.length_map]
        exact (List.getElem?_eq_some_iff.1 hi).1
    · exact absurd ((hstuck n).1 hleft).2 hfree
  case cyclic =>
    intro report hreport
    rw [hresult, reported_cycleReports] at hreport ⊢
    rw [reported_tiers]
    by_cases hempty : result.2 = []
    · simp [hempty] at hreport
    · rw [if_neg hempty, List.mem_singleton] at hreport
      subst hreport
      simp [hempty]
  case reportedTier =>
    intro n
    rw [← hstuck, hresult, reported_cycleReports]
    by_cases hempty : result.2 = [] <;> simp [hempty]
  case edgeSet =>
    intro mustPrecede' hsame
    rw [hresult, topoSort_eq]
    refine congrArg reported (layers_congr (fun a b => ?_) _ _)
    rw [precedes_iff, hsame, ← precedes_iff]

end AgentPipeline.Roadmap
