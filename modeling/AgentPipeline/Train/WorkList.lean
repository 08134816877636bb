import AgentPipeline.Foundation.Search
import AgentPipeline.Loop.ContractOrder
import AgentPipeline.Loop.WorkListDeps

/-!
# WorkList: the issues of a train and what they wait for

* `pipelineStageFromLabels`: the most advanced stage among the labels of an issue;
* `orderIssuesForTrain`, `codeDependencyMap`: the order of a train and its graph of prerequisites;
* `computeBaseEligibleFrontier`, `isIndependentOfHeld`: what may be advanced, and what depends on a held issue.
-/

namespace AgentPipeline.Train

open List
open Loop (RawContractItem LoopContractItem compileContractItems)

/-! ## Stages -/

inductive Stage where
  | backlog | needsSpec | ready | planning | planReview | preCodeAttestation | implementing | designGate
  | review1 | fix1 | review2 | fix2 | preMerge | visualGate | evalGate | shipcheckGate | readyToDeploy
  | needsHuman
deriving DecidableEq, Repr

def Stage.name : Stage → String
  | .backlog => "backlog"
  | .needsSpec => "needs-spec"
  | .ready => "ready"
  | .planning => "planning"
  | .planReview => "plan-review"
  | .preCodeAttestation => "pre-code-attestation"
  | .implementing => "implementing"
  | .designGate => "design-gate"
  | .review1 => "review-1"
  | .fix1 => "fix-1"
  | .review2 => "review-2"
  | .fix2 => "fix-2"
  | .preMerge => "pre-merge"
  | .visualGate => "visual-gate"
  | .evalGate => "eval-gate"
  | .shipcheckGate => "shipcheck-gate"
  | .readyToDeploy => "ready-to-deploy"
  | .needsHuman => "needs-human"

/-- `STAGES`. -/
def stages : List Stage :=
  [.backlog, .needsSpec, .ready, .planning, .planReview, .preCodeAttestation, .implementing, .designGate,
    .review1, .fix1, .review2, .fix2, .preMerge, .visualGate, .evalGate, .shipcheckGate, .readyToDeploy,
    .needsHuman]

def labelPrefix : String := "pipeline:"

def Stage.label (stage : Stage) : String := labelPrefix ++ stage.name

def Stage.index (stage : Stage) : Nat := stages.idxOf stage

/-- The stage of one label, if it is one. -/
def stageOfLabel (label : String) : Option Stage := stages.find? (·.label = label)

/-- One turn of the loop over the labels. -/
def betterStage (best : Option Stage) (label : String) : Option Stage :=
  match stageOfLabel label with
  | some stage => if best.all (·.index < stage.index) then some stage else best
  | none => best

def pipelineStageFromLabels (labels : List String) : Option Stage := labels.foldl betterStage none

variable {labels : List String} {stage : Stage}

lemma index_le_foldl {best : Option Stage} (h : ∃ b, best = some b ∧ stage.index ≤ b.index) :
    ∃ b, labels.foldl betterStage best = some b ∧ stage.index ≤ b.index := by
  induction labels generalizing best with
  | nil => exact h
  | cons label labels ih =>
    obtain ⟨b, rfl, hle⟩ := h
    rw [foldl_cons]
    apply ih
    unfold betterStage
    cases stageOfLabel label with
    | none => exact ⟨b, rfl, hle⟩
    | some s =>
      by_cases hlt : b.index < s.index
      · exact ⟨s, by simp [hlt], hle.trans hlt.le⟩
      · exact ⟨b, by simp [hlt], hle⟩

lemma index_le_of_label (h : stage.label ∈ labels)
    (hstage : stageOfLabel stage.label = some stage) (best : Option Stage) :
    ∃ b, labels.foldl betterStage best = some b ∧ stage.index ≤ b.index := by
  induction labels generalizing best with
  | nil => simp at h
  | cons label labels ih =>
    rw [foldl_cons]
    rcases mem_cons.1 h with rfl | h
    · apply index_le_foldl
      unfold betterStage
      rw [hstage]
      cases best with
      | none => exact ⟨stage, rfl, le_rfl⟩
      | some b =>
        by_cases hlt : b.index < stage.index
        · exact ⟨stage, by simp [hlt], le_rfl⟩
        · exact ⟨b, by simp [hlt], not_lt.1 hlt⟩
    · exact ih h _

/-- Only `needs-human` comes after `ready-to-deploy`. -/
lemma stage_of_readyToDeploy (h : Stage.readyToDeploy.label ∈ labels) :
    pipelineStageFromLabels labels = some .readyToDeploy ∨ pipelineStageFromLabels labels = some .needsHuman := by
  obtain ⟨b, hb, hle⟩ := index_le_of_label h (by decide) none
  have hlast : ∀ s : Stage, Stage.readyToDeploy.index ≤ s.index → s = .readyToDeploy ∨ s = .needsHuman := by
    intro s
    cases s <;> decide
  unfold pipelineStageFromLabels
  rw [hb]
  exact (hlast b hle).imp (congrArg some) (congrArg some)

structure TrainIssueSnapshot where
  number : Nat
  labels : List String
  closed : Bool := false
deriving DecidableEq, Repr

def isReadyToDeploySnapshot (s : TrainIssueSnapshot) : Bool :=
  pipelineStageFromLabels s.labels = some .readyToDeploy

def isBlockedOrNeedsHumanSnapshot (s : TrainIssueSnapshot) : Bool :=
  s.labels.contains "blocked" || pipelineStageFromLabels s.labels = some .needsHuman

def isFreezeEligibleIssue (s : TrainIssueSnapshot) : Bool :=
  if s.closed then pipelineStageFromLabels s.labels = some .readyToDeploy
  else pipelineStageFromLabels s.labels ≠ some .backlog

/-! ## The order of a train -/

/-- `String(n)`. -/
def idOf (issue : Nat) : String := toString issue

/-- `Number(id)`; an id is a string of digits, any other text is no number here. -/
def numberOf (id : String) : Option Nat :=
  if id.toList.all Char.isDigit then (JsText.parseInt id).map Int.toNat else none

lemma numberOf_idOf (issue : Nat) : numberOf (idOf issue) = some issue := by
  have hdigits : (toString issue).toList.all Char.isDigit = true := by
    rw [all_eq_true]
    intro c hc
    exact Nat.isDigit_of_mem_toDigits (b := 10) (n := issue) (by decide) (by decide) (by simpa using hc)
  unfold numberOf idOf
  rw [if_pos hdigits, JsText.parseInt_numeral]
  rfl

/-- `byId.get(id)`, of the map in which the last item of an id stays. -/
def itemOf (items : List RawContractItem) (id : String) : Option RawContractItem :=
  items.reverse.find? (·.id = id)

/-- The admitted items of the snapshots, in their order. -/
def itemsOfSnapshots (admittedItems : List RawContractItem) :
    List TrainIssueSnapshot → Except String (List RawContractItem)
  | [] => .ok []
  | s :: rest =>
    match itemOf admittedItems (idOf s.number) with
    | none => .error ("discovery omitted issue #" ++ toString s.number)
    | some item => (itemsOfSnapshots admittedItems rest).map (item :: ·)

def orderRawContractItems (raw : List RawContractItem) : Except String (List Nat) :=
  match compileContractItems raw with
  | .ok ordered => .ok (ordered.filterMap fun item => numberOf item.id)
  | .error e => .error ("dependency validation failed: " ++ e.message)

def orderIssuesByAdmittedItems (snapshots : List TrainIssueSnapshot) (admittedItems : List RawContractItem) :
    Except String (List Nat) :=
  if snapshots = [] then .error "work list is empty"
  else
    match itemsOfSnapshots admittedItems snapshots with
    | .error e => .error e
    | .ok raw => orderRawContractItems raw

/-- `byNumber`, of the map in which the last snapshot of a number stays. -/
def snapshotOf (snapshots : List TrainIssueSnapshot) (issue : Nat) : Option TrainIssueSnapshot :=
  snapshots.reverse.find? (·.number = issue)

def orderIssuesForTrain (snapshots : List TrainIssueSnapshot) (mergeMode : Bool)
    (admittedItems : List RawContractItem) : Except String (List Nat) :=
  match orderIssuesByAdmittedItems snapshots admittedItems with
  | .error e => .error e
  | .ok base =>
    if mergeMode then
      let isR2d := fun n => ((snapshotOf snapshots n).map isReadyToDeploySnapshot).getD false
      .ok (base.filter isR2d ++ base.filter fun n => !isR2d n)
    else .ok base

variable {admittedItems : List RawContractItem} {snapshots : List TrainIssueSnapshot}

lemma id_of_itemsOfSnapshots {raw : List RawContractItem}
    (h : itemsOfSnapshots admittedItems snapshots = .ok raw) :
    raw.map RawContractItem.id = snapshots.map fun s => idOf s.number := by
  induction snapshots generalizing raw with
  | nil =>
    obtain rfl : [] = raw := by simpa [itemsOfSnapshots] using h
    rfl
  | cons s rest ih =>
    unfold itemsOfSnapshots at h
    cases hitem : itemOf admittedItems (idOf s.number) with
    | none => simp [hitem] at h
    | some item =>
      cases hrest : itemsOfSnapshots admittedItems rest with
      | error e => simp [hitem, hrest, Except.map] at h
      | ok items =>
        obtain rfl : item :: items = raw := by simpa [hitem, hrest, Except.map] using h
        have hid : item.id = idOf s.number := by simpa using find?_some hitem
        rw [map_cons, map_cons, ih hrest, hid]

variable {ordered : List Nat}

lemma order_of_snapshots {mergeMode : Bool} (h : orderIssuesForTrain snapshots mergeMode admittedItems = .ok ordered) :
    (snapshots.map TrainIssueSnapshot.number).Nodup ∧ ordered.Perm (snapshots.map TrainIssueSnapshot.number) := by
  obtain ⟨base, hbase, hpart⟩ : ∃ base, orderIssuesByAdmittedItems snapshots admittedItems = .ok base ∧
      ordered.Perm base := by
    unfold orderIssuesForTrain at h
    cases hbase : orderIssuesByAdmittedItems snapshots admittedItems with
    | error e => simp [hbase] at h
    | ok base =>
      refine ⟨base, rfl, ?_⟩
      rw [hbase] at h
      dsimp only at h
      split at h
      · rw [← Except.ok.inj h]
        exact filter_append_perm _ base
      · rw [← Except.ok.inj h]
  obtain ⟨raw, items, hraw, hitems, hnumbers⟩ : ∃ raw items, itemsOfSnapshots admittedItems snapshots = .ok raw ∧
      compileContractItems raw = .ok items ∧ (items.filterMap fun item => numberOf item.id) = base := by
    unfold orderIssuesByAdmittedItems at hbase
    split at hbase
    · cases hbase
    · cases hraw : itemsOfSnapshots admittedItems snapshots with
      | error e => simp [hraw] at hbase
      | ok raw =>
        rw [hraw] at hbase
        dsimp only at hbase
        unfold orderRawContractItems at hbase
        cases hitems : compileContractItems raw with
        | error e => simp [hitems] at hbase
        | ok items => exact ⟨raw, items, rfl, hitems, by simpa [hitems] using hbase⟩
  have hids : (items.map LoopContractItem.id).Perm (snapshots.map fun s => idOf s.number) := by
    rw [← id_of_itemsOfSnapshots hraw]
    have hperm := (Loop.compiledFrom_of_ok hitems).permuted.map LoopContractItem.id
    rwa [map_map] at hperm
  have hbase : base.Perm (snapshots.map TrainIssueSnapshot.number) := by
    have hperm := hids.filterMap numberOf
    rw [filterMap_map, filterMap_map] at hperm
    have hall : (snapshots.filterMap (numberOf ∘ fun s => idOf s.number)) =
        snapshots.map TrainIssueSnapshot.number := by
      rw [← filterMap_eq_map]
      exact filterMap_congr fun s _ => numberOf_idOf s.number
    rw [hall] at hperm
    rwa [← hnumbers]
  have hnodup : (snapshots.map TrainIssueSnapshot.number).Nodup := by
    have hnd := Loop.nodup_of_compiled hitems
    rw [id_of_itemsOfSnapshots hraw] at hnd
    exact List.Nodup.of_map idOf (by rwa [map_map])
  exact ⟨hnodup, hpart.trans hbase⟩

/-! ## Prerequisites -/

/-- `codeDependencyMap(items)`: the entries, the one that was set last first. -/
def codeDependencyMap (items : List RawContractItem) : List (Nat × List Nat) :=
  let inList := items.filterMap fun item => numberOf item.id
  (items.filterMap fun item => (numberOf item.id).map fun n =>
    (n, (item.dependsOn.filterMap numberOf).filter (· ∈ inList))).reverse

/-- `codeDeps.get(issue) ?? []`. -/
def prereqsOf (codeDeps : List (Nat × List Nat)) (issue : Nat) : List Nat := (codeDeps.lookup issue).getD []

def Prereq (codeDeps : List (Nat × List Nat)) (issue prereq : Nat) : Prop := prereq ∈ prereqsOf codeDeps issue

/-- A dependency path. -/
abbrev Path (codeDeps : List (Nat × List Nat)) (issue prereq : Nat) : Prop :=
  Relation.TransGen (Prereq codeDeps) issue prereq

lemma lookup_eq_none {entries : List (Nat × List Nat)} {n : Nat} (h : n ∉ entries.map Prod.fst) :
    entries.lookup n = none := by
  induction entries with
  | nil => rfl
  | cons entry entries ih =>
    obtain ⟨m, deps⟩ := entry
    rw [map_cons, mem_cons, not_or] at h
    rw [lookup_cons, beq_eq_false_iff_ne.2 h.1]
    exact ih h.2

/-- The graph that `isIndependentOfHeld` walks. -/
def prereqGraph (codeDeps : List (Nat × List Nat)) : Search.SuccGraph Nat where
  nodes := codeDeps.map Prod.fst
  next := prereqsOf codeDeps
  closed n hn := by
    unfold prereqsOf
    rw [lookup_eq_none hn]
    rfl

/-- `isIndependentOfHeld(issue, held, codeDeps)`; the last element of a stack is taken first. -/
def isIndependentOfHeld (issue : Nat) (held : List Nat) (codeDeps : List (Nat × List Nat)) : Bool :=
  if held = [] then true
  else !(prereqGraph codeDeps).finds (held.contains ·) (prereqsOf codeDeps issue).reverse

variable {issue : Nat} {held : List Nat} {codeDeps : List (Nat × List Nat)}

lemma isIndependentOfHeld_iff :
    isIndependentOfHeld issue held codeDeps = true ↔ ∀ h ∈ held, ¬ Path codeDeps issue h := by
  unfold isIndependentOfHeld
  by_cases hheld : held = []
  · simp [hheld]
  · rw [if_neg hheld, Bool.not_eq_true', ← Bool.not_eq_true, Search.SuccGraph.finds_iff]
    constructor
    · intro hnone h hmem hpath
      obtain ⟨b, hb, hrest⟩ := Relation.TransGen.head'_iff.1 hpath
      exact hnone ⟨b, mem_reverse.2 hb, h, hrest, by simpa using hmem⟩
    · rintro hnone ⟨b, hb, x, hrest, hx⟩
      exact hnone x (by simpa using hx) (Relation.TransGen.head' (mem_reverse.1 hb) hrest)

def computeBaseEligibleFrontier (ordered finished held integrated : List Nat)
    (codeDeps : List (Nat × List Nat)) : List Nat :=
  ordered.filter fun issue =>
    !finished.contains issue && !held.contains issue && (prereqsOf codeDeps issue).all (integrated.contains ·)

lemma mem_frontier
    {finished integrated : List Nat} : issue ∈ computeBaseEligibleFrontier ordered finished held integrated codeDeps ↔
      issue ∈ ordered ∧ issue ∉ finished ∧ issue ∉ held ∧ ∀ p ∈ prereqsOf codeDeps issue, p ∈ integrated := by
  unfold computeBaseEligibleFrontier
  simp [and_assoc]

end AgentPipeline.Train
