import AgentPipeline.Loop.WorkListDeps

/-!
# DiscoveryExact: what a discovery of dependencies records

The raw edges of a discovery are those that some source declared between distinct canonical ids
(`RawEdge`). Admission splits them by their target alone: an edge is admitted when its target is
on the list and open (`Admits`), and ignored otherwise.

The items list the admitted edges of the issues on the list; the provenance lists all admitted
edges. A roadmap also declares edges of issues that are not on the list, so the two agree exactly
when no such edge is admitted (`discovery_exact_iff`).
-/

namespace AgentPipeline.Loop

open List

/-! ## Edge keys -/

lemma colon_not_mem_of_canonical {id : String} (h : isCanonicalIssueId id = true) : ':' ∉ id.toList := by
  intro hmem
  have hdigits : ∀ c ∈ id.toList, c.isDigit = true := by
    unfold isCanonicalIssueId at h
    cases hid : id.toList with
    | nil => simp
    | cons c cs =>
      rw [hid] at h
      simp only [isCanonicalDigits, Bool.and_eq_true, all_eq_true] at h
      intro c' hc'
      rcases mem_cons.1 hc' with rfl | hrest
      · exact h.1.1
      · exact h.2 c' hrest
  simpa using hdigits ':' hmem

lemma edgeKey_inj {d d' t t' : String} (hd : isCanonicalIssueId d = true)
    (hd' : isCanonicalIssueId d' = true) (h : edgeKey d t = edgeKey d' t') : d = d' ∧ t = t' := by
  have hlist : d.toList ++ ':' :: t.toList = d'.toList ++ ':' :: t'.toList := by
    simpa [edgeKey] using congrArg String.toList h
  obtain ⟨h₁, h₂⟩ := Lists.append_cons_inj_left (colon_not_mem_of_canonical hd)
    (colon_not_mem_of_canonical hd') hlist
  exact ⟨String.toList_inj.1 h₁, String.toList_inj.1 h₂⟩

/-! ## Admission -/

section Admission

variable (selectorIds : List String) (openState : JsObject PrerequisiteOpenClass)

/-- An edge between distinct canonical ids. -/
def DeclaredEdge.Proper (e : DeclaredEdge) : Prop :=
  isCanonicalIssueId e.depender = true ∧ isCanonicalIssueId e.prerequisite = true ∧ e.depender ≠ e.prerequisite

/-- The keys that the loop has seen are those of the edges it recorded. -/
structure Admission.Recorded (acc : Admission) : Prop where
  proper : ∀ e ∈ acc.admitted, e.Proper
  keys : ∀ k, k ∈ acc.seenAdmitted ↔ ∃ e ∈ acc.admitted, edgeKey e.depender e.prerequisite = k
  nodup : acc.admitted.Nodup
  ignoredProper : ∀ i ∈ acc.ignored, DeclaredEdge.Proper ⟨i.depender, i.target⟩
  ignoredKeys : ∀ k, k ∈ acc.seenIgnored ↔ ∃ i ∈ acc.ignored, edgeKey i.depender i.target ++ ":" ++ i.reason.name = k

/-- What one edge adds. -/
structure Admission.Adds (acc acc' : Admission) (edge : DeclaredEdge) : Prop where
  admitted : ∀ e, e ∈ acc'.admitted ↔ e ∈ acc.admitted ∨
    (e = edge ∧ e.Proper ∧ ignoredReason selectorIds openState e.prerequisite = none)
  ignored : ∀ i, i ∈ acc'.ignored ↔ i ∈ acc.ignored ∨ (⟨i.depender, i.target⟩ = edge ∧ edge.Proper ∧
      ignoredReason selectorIds openState i.target = some i.reason)

lemma ignoredKey_inj {i j : IgnoredDep} (hi : DeclaredEdge.Proper ⟨i.depender, i.target⟩)
    (hj : DeclaredEdge.Proper ⟨j.depender, j.target⟩) (h : edgeKey i.depender i.target ++ ":" ++ i.reason.name =
      edgeKey j.depender j.target ++ ":" ++ j.reason.name) : i = j := by
  have hlist : i.depender.toList ++ ':' :: (i.target.toList ++ ':' :: i.reason.name.toList) =
      j.depender.toList ++ ':' :: (j.target.toList ++ ':' :: j.reason.name.toList) := by
    simpa [edgeKey] using congrArg String.toList h
  obtain ⟨hdep, hrest⟩ := Lists.append_cons_inj_left (colon_not_mem_of_canonical hi.1)
    (colon_not_mem_of_canonical hj.1) hlist
  obtain ⟨htarget, hreason⟩ := Lists.append_cons_inj_left (colon_not_mem_of_canonical hi.2.1)
    (colon_not_mem_of_canonical hj.2.1) hrest
  have hname : i.reason = j.reason := by
    have hnames : i.reason.name = j.reason.name := String.toList_inj.1 hreason
    revert hnames
    cases i.reason <;> cases j.reason <;> simp [IgnoredDepReason.name]
  cases i
  cases j
  simp_all [String.toList_inj]

variable {edge : DeclaredEdge}

lemma proper_of_not
    (h : ¬(!isCanonicalIssueId edge.depender || !isCanonicalIssueId edge.prerequisite) = true)
    (hne : edge.depender ≠ edge.prerequisite) : edge.Proper := by
  simp only [Bool.or_eq_true, Bool.not_eq_true', not_or, Bool.not_eq_false] at h
  exact ⟨h.1, h.2, hne⟩

variable {acc : Admission}

lemma admitEdge_improper (h : ¬edge.Proper) : admitEdge selectorIds openState acc edge = acc := by
  unfold admitEdge
  split
  · rfl
  · next hcanonical =>
    split
    · rfl
    · next hne => exact absurd (proper_of_not hcanonical hne) h

lemma admitEdge_admitted (h : edge.Proper)
    (hreason : ignoredReason selectorIds openState edge.prerequisite = none) :
    admitEdge selectorIds openState acc edge = if edgeKey edge.depender edge.prerequisite ∈ acc.seenAdmitted then acc
      else { acc with
        seenAdmitted := edgeKey edge.depender edge.prerequisite :: acc.seenAdmitted
        admitted := acc.admitted ++ [edge] } := by
  simp [admitEdge, h.1, h.2.1, h.2.2, hreason]

lemma admitEdge_ignored (h : edge.Proper)
    {reason : IgnoredDepReason}
    (hreason : ignoredReason selectorIds openState edge.prerequisite = some reason) :
    admitEdge selectorIds openState acc edge =
      if edgeKey edge.depender edge.prerequisite ++ ":" ++ reason.name ∈ acc.seenIgnored then acc
      else { acc with
        seenIgnored := (edgeKey edge.depender edge.prerequisite ++ ":" ++ reason.name) :: acc.seenIgnored
        ignored := acc.ignored ++ [⟨edge.depender, edge.prerequisite, reason⟩] } := by
  simp [admitEdge, h.1, h.2.1, h.2.2, hreason]

lemma ignored_eq_iff {i : IgnoredDep} {reason : IgnoredDepReason}
    (hreason : ignoredReason selectorIds openState edge.prerequisite = some reason) :
    i = ⟨edge.depender, edge.prerequisite, reason⟩ ↔ (⟨i.depender, i.target⟩ = edge ∧
        ignoredReason selectorIds openState i.target = some i.reason) := by
  constructor
  · rintro rfl
    exact ⟨rfl, hreason⟩
  · rintro ⟨rfl, h⟩
    obtain rfl : i.reason = reason := by simpa [h] using hreason
    rfl

lemma admitEdge_spec (h : acc.Recorded) (edge : DeclaredEdge) : (admitEdge selectorIds openState acc edge).Recorded ∧
      acc.Adds selectorIds openState (admitEdge selectorIds openState acc edge) edge := by
  by_cases hproper : edge.Proper
  swap
  · rw [admitEdge_improper selectorIds openState hproper]
    exact ⟨h, ⟨by grind, by grind⟩⟩
  cases hreason : ignoredReason selectorIds openState edge.prerequisite with
  | none =>
    rw [admitEdge_admitted selectorIds openState hproper hreason]
    split
    · next hseen =>
      -- a repeated edge
      obtain ⟨e, he, hkey⟩ := (h.keys _).1 hseen
      obtain ⟨hd, hp⟩ := edgeKey_inj (h.proper e he).1 hproper.1 hkey
      obtain rfl : e = edge := by
        cases e
        cases edge
        simp_all
      exact ⟨h, ⟨by grind, by grind⟩⟩
    · next hnot =>
      have hnew : edge ∉ acc.admitted := fun hmem => hnot ((h.keys _).2 ⟨edge, hmem, rfl⟩)
      refine ⟨⟨?_, ?_, ?_, h.ignoredProper, h.ignoredKeys⟩, ⟨?_, ?_⟩⟩
      · grind [h.proper]
      · intro k
        have hk := h.keys k
        grind
      · rw [nodup_append]
        exact ⟨h.nodup, by simp, by grind⟩
      · grind
      · grind
  | some reason =>
    rw [admitEdge_ignored selectorIds openState hproper hreason]
    have hrecord : ∀ i : IgnoredDep, i = ⟨edge.depender, edge.prerequisite, reason⟩ ↔
        (⟨i.depender, i.target⟩ = edge ∧ edge.Proper ∧
          ignoredReason selectorIds openState i.target = some i.reason) := by
      intro i
      rw [ignored_eq_iff selectorIds openState hreason]
      simp [hproper]
    split
    · next hseen =>
      obtain ⟨i, hi, hkey⟩ := (h.ignoredKeys _).1 hseen
      obtain rfl : i = ⟨edge.depender, edge.prerequisite, reason⟩ :=
        ignoredKey_inj (h.ignoredProper i hi) hproper hkey
      refine ⟨h, ⟨by grind, fun i => ?_⟩⟩
      rw [← hrecord i]
      grind
    · next hnot =>
      refine ⟨⟨h.proper, h.keys, h.nodup, ?_, ?_⟩, ⟨by grind, fun i => ?_⟩⟩
      · intro i hi
        rcases mem_append.1 hi with hold | hnew
        · exact h.ignoredProper i hold
        · rw [mem_singleton.1 hnew]
          exact hproper
      · intro k
        rw [mem_cons, h.ignoredKeys k]
        simp [or_and_right, exists_or, or_comm, eq_comm]
      · rw [← hrecord i]
        simp

lemma foldl_admitEdge (h : acc.Recorded) (edges : List DeclaredEdge) :
    (edges.foldl (admitEdge selectorIds openState) acc).Recorded ∧
      (∀ e, e ∈ (edges.foldl (admitEdge selectorIds openState) acc).admitted ↔
        e ∈ acc.admitted ∨ (e ∈ edges ∧ e.Proper ∧ ignoredReason selectorIds openState e.prerequisite = none)) ∧
      ∀ i, i ∈ (edges.foldl (admitEdge selectorIds openState) acc).ignored ↔
        i ∈ acc.ignored ∨ ((⟨i.depender, i.target⟩ : DeclaredEdge) ∈ edges ∧
          DeclaredEdge.Proper ⟨i.depender, i.target⟩ ∧
          ignoredReason selectorIds openState i.target = some i.reason) := by
  induction edges generalizing acc with
  | nil => simpa using h
  | cons edge edges ih =>
    obtain ⟨hrecorded, hadds⟩ := admitEdge_spec selectorIds openState h edge
    obtain ⟨hrec, hadmitted, hignored⟩ := ih hrecorded
    refine ⟨hrec, fun e => ?_, fun i => ?_⟩
    · rw [foldl_cons, hadmitted, hadds.admitted]
      grind
    · rw [foldl_cons, hignored, hadds.ignored]
      grind

lemma recorded_empty : Admission.Recorded {} where
  proper := by simp
  keys := by simp
  nodup := by simp
  ignoredProper := by simp
  ignoredKeys := by simp

/-- What `admitHardWaits` returns. -/
lemma admitHardWaits_spec (edges : List DeclaredEdge) : (admitHardWaits edges selectorIds openState).1.Nodup ∧
      (∀ e, e ∈ (admitHardWaits edges selectorIds openState).1 ↔
        e ∈ edges ∧ e.Proper ∧ ignoredReason selectorIds openState e.prerequisite = none) ∧
      ∀ i, i ∈ (admitHardWaits edges selectorIds openState).2 ↔ (⟨i.depender, i.target⟩ : DeclaredEdge) ∈ edges ∧
          DeclaredEdge.Proper ⟨i.depender, i.target⟩ ∧
          ignoredReason selectorIds openState i.target = some i.reason := by
  obtain ⟨hrecorded, hadmitted, hignored⟩ :=
    foldl_admitEdge selectorIds openState recorded_empty edges
  refine ⟨hrecorded.nodup, fun e => ?_, fun i => ?_⟩
  · simpa [admitHardWaits] using hadmitted e
  · simpa [admitHardWaits] using hignored i

end Admission

/-! ## The sources -/

/-- The map has an edge. -/
def Provenance.Has (p : Provenance) (e : DeclaredEdge) : Prop :=
  ∃ byPrereq sources, p.get? e.depender = some byPrereq ∧ byPrereq.get? e.prerequisite = some sources

lemma has_addEdge (p : Provenance) (edge : DeclaredEdge) (source : DependencyEdgeSource) (e : DeclaredEdge) :
    Provenance.Has (addEdge p edge source) e ↔ p.Has e ∨ (e = edge ∧ isCanonicalIssueId edge.prerequisite = true ∧
        edge.depender ≠ edge.prerequisite) := by
  unfold addEdge
  split
  · next hself => simp [hself]
  · next hne =>
    split
    · next hnot => simp [by simpa using hnot]
    · next hcanonical =>
      have hcanonical : isCanonicalIssueId edge.prerequisite = true := by simpa using hcanonical
      obtain ⟨d, t⟩ := e
      by_cases hd : d = edge.depender
      · subst hd
        by_cases ht : t = edge.prerequisite
        · subst ht
          simp [Provenance.Has, hne, hcanonical]
        · have hother : (⟨edge.depender, t⟩ : DeclaredEdge) ≠ edge :=
            fun heq => ht (congrArg DeclaredEdge.prerequisite heq)
          cases hget : p.get? edge.depender <;> simp [Provenance.Has, hget, ht, hother]
      · have hother : (⟨d, t⟩ : DeclaredEdge) ≠ edge := fun heq => hd (congrArg DeclaredEdge.depender heq)
        simp [Provenance.Has, hd, hother]

lemma has_foldl_addEdge (edges : List DeclaredEdge) (source : DependencyEdgeSource)
    (p : Provenance) (e : DeclaredEdge) :
    Provenance.Has (edges.foldl (fun p edge => addEdge p edge source) p) e ↔ p.Has e ∨
      (e ∈ edges ∧ isCanonicalIssueId e.prerequisite = true ∧ e.depender ≠ e.prerequisite) := by
  induction edges generalizing p with
  | nil => simp
  | cons edge edges ih =>
    rw [foldl_cons, ih, has_addEdge]
    grind

/-- The edges a roadmap declares. -/
def RoadmapDeclares (deps : WorkListDependencyDiscoverDeps) (e : DeclaredEdge) : Prop :=
  ∃ edges, deps.getRoadmapDeclaredEdges = some (.ok (some edges)) ∧ e ∈ edges

section Sources

variable (rt : JsRuntime)

/-- The edges that an issue declares itself, in its text or by a native relation. -/
def IssueDeclares (deps : WorkListDependencyDiscoverDeps) (e : DeclaredEdge) : Prop :=
  (∃ text, deps.getIssueTitleBody e.depender = .ok (some text) ∧ e.prerequisite ∈ parseDeclaredDependencyIds
      (text.title.getD "" ++ "\n" ++ text.body.getD "") e.depender) ∨
  ∃ blockedBy, deps.getBlockedByIssueNumbers e.depender = .ok (some blockedBy) ∧
    e.prerequisite ∈ blockedBy.map (numberString rt)

/-- The raw edges of a discovery. -/
def RawEdge (issueIds : List String) (deps : WorkListDependencyDiscoverDeps) (e : DeclaredEdge) :
    Prop :=
  e.Proper ∧ (RoadmapDeclares deps e ∨ (e.depender ∈ issueIds ∧ IssueDeclares rt deps e))

section

variable (deps : WorkListDependencyDiscoverDeps)
include deps

lemma has_discoverRoadmap (e : DeclaredEdge) :
    (discoverRoadmap deps {}).provenance.Has e ↔ e.Proper ∧ RoadmapDeclares deps e := by
  have hempty : ¬Provenance.Has .empty e := by simp [Provenance.Has]
  unfold discoverRoadmap RoadmapDeclares
  split
  · next h => simpa [h] using hempty
  · next h => simpa [h, Discovery.miss] using hempty
  · next edges h =>
    simp only [Discovery.record, has_foldl_addEdge, h]
    simp [hempty, countedRoadmapEdges, DeclaredEdge.Proper]
    grind
  · next h => simpa [h, Discovery.miss] using hempty

lemma has_discoverLexical (id : String) (d : Discovery) (e : DeclaredEdge) :
    (discoverLexical deps id d).provenance.Has e ↔ d.provenance.Has e ∨
      (e.depender = id ∧ isCanonicalIssueId e.prerequisite = true ∧ e.depender ≠ e.prerequisite ∧
        ∃ text, deps.getIssueTitleBody id = .ok (some text) ∧ e.prerequisite ∈ parseDeclaredDependencyIds
            (text.title.getD "" ++ "\n" ++ text.body.getD "") id) := by
  unfold discoverLexical
  split
  · next h => simp [h, Discovery.miss]
  · next text h =>
    have hmem : e ∈ lexicalEdges id text ↔ e.depender = id ∧ e.prerequisite ∈
        parseDeclaredDependencyIds (text.title.getD "" ++ "\n" ++ text.body.getD "") id := by
      obtain ⟨dep, pre⟩ := e
      simp [lexicalEdges, and_comm, eq_comm]
    simp only [Discovery.record, has_foldl_addEdge, hmem, h]
    simp
    grind
  · next h => simp [h, Discovery.miss]

lemma has_discoverNative (id : String) (d : Discovery) (e : DeclaredEdge) :
    (discoverNative rt deps id d).provenance.Has e ↔ d.provenance.Has e ∨
      (e.depender = id ∧ isCanonicalIssueId e.prerequisite = true ∧ e.depender ≠ e.prerequisite ∧
        ∃ blockedBy, deps.getBlockedByIssueNumbers id = .ok (some blockedBy) ∧
          e.prerequisite ∈ blockedBy.map (numberString rt)) := by
  unfold discoverNative
  split
  · next h => simp [h, Discovery.miss]
  · next blockedBy h =>
    have hmem : e ∈ nativeEdges rt id blockedBy ↔ e.depender = id ∧
        isCanonicalIssueId e.prerequisite = true ∧ e.prerequisite ≠ id ∧
          e.prerequisite ∈ blockedBy.map (numberString rt) := by
      obtain ⟨dep, pre⟩ := e
      simp only [nativeEdges, mem_filterMap]
      grind
    simp only [Discovery.record, has_foldl_addEdge, hmem, h]
    simp
    grind
  · next h => simp [h, Discovery.miss]

lemma has_discoverIssue (d : Discovery) (id : String) (e : DeclaredEdge) :
    (discoverIssue rt deps d id).provenance.Has e ↔ d.provenance.Has e ∨
      (e.depender = id ∧ e.Proper ∧ IssueDeclares rt deps e) := by
  unfold discoverIssue
  split
  · next hcanonical =>
    rw [has_discoverNative, has_discoverLexical]
    unfold IssueDeclares DeclaredEdge.Proper
    grind
  · next hnot =>
    have hnone : ¬(e.depender = id ∧ e.Proper ∧ IssueDeclares rt deps e) := by
      rintro ⟨rfl, hproper, _⟩
      exact hnot hproper.1
    simp [hnone]

lemma has_foldl_discoverIssue (issueIds : List String) (d : Discovery) (e : DeclaredEdge) :
    (issueIds.foldl (discoverIssue rt deps) d).provenance.Has e ↔ d.provenance.Has e ∨
      (e.depender ∈ issueIds ∧ e.Proper ∧ IssueDeclares rt deps e) := by
  induction issueIds generalizing d with
  | nil => simp
  | cons id issueIds ih =>
    rw [foldl_cons, ih, has_discoverIssue]
    grind

end

lemma has_discoverSources (issueIds : List String) (deps : WorkListDependencyDiscoverDeps) (e : DeclaredEdge) :
    (discoverSources rt issueIds deps).provenance.Has e ↔ RawEdge rt issueIds deps e := by
  rw [discoverSources, has_foldl_discoverIssue, has_discoverRoadmap]
  unfold RawEdge
  tauto

/-! ## The views of the result -/

variable {e : DeclaredEdge}

lemma mem_rawEdges {p : Provenance} : e ∈ rawEdges p ↔ p.Has e := by
  obtain ⟨d, t⟩ := e
  simp [rawEdges, Provenance.Has, JsObject.get?_eq_some_iff]

lemma mem_provenanceOf {p : Provenance} {keys : List String} : (∃ row ∈ provenanceOf p keys, row.toDeclaredEdge = e) ↔
      p.Has e ∧ edgeKey e.depender e.prerequisite ∈ keys := by
  obtain ⟨d, t⟩ := e
  simp only [provenanceOf, mem_flatMap, mem_filterMap, Provenance.Has, JsObject.get?_eq_some_iff]
  constructor
  · rintro ⟨row, ⟨⟨d', byPrereq⟩, hd, ⟨t', sources⟩, ht, hrow⟩, heq⟩
    split at hrow
    · next hkey =>
      cases hrow
      obtain ⟨rfl, rfl⟩ : d' = d ∧ t' = t := by simpa using heq
      exact ⟨⟨byPrereq, sources, hd, ht⟩, hkey⟩
    · simp at hrow
  · rintro ⟨⟨byPrereq, sources, hd, ht⟩, hkey⟩
    exact ⟨⟨⟨d, t⟩, sources⟩, ⟨⟨d, byPrereq⟩, hd, ⟨t, sources⟩, ht, by simp [hkey]⟩, rfl⟩

lemma get?_groupByDepender (admitted : List DeclaredEdge) (id : String) :
    ((groupByDepender admitted).get? id).getD [] = (admitted.filter (·.depender = id)).map (·.prerequisite) := by
  suffices h : ∀ m : JsObject (List String), ((admitted.foldl (fun m edge => m.set edge.depender
        ((m.get? edge.depender).getD [] ++ [edge.prerequisite])) m).get? id).getD [] =
      (m.get? id).getD [] ++ (admitted.filter (·.depender = id)).map (·.prerequisite) by
    simpa [groupByDepender] using h .empty
  induction admitted with
  | nil => simp
  | cons edge admitted ih =>
    intro m
    rw [foldl_cons, ih]
    by_cases hd : edge.depender = id
    · simp [hd]
    · have hne : id ≠ edge.depender := fun h => hd h.symm
      simp [hd, hne]

lemma get?_observeOpenState (deps : WorkListDependencyDiscoverDeps) {targets : List String}
    {target : String} (h : target ∈ targets) :
    (observeOpenState deps targets).get? target = some (observeOpenClass deps target) := by
  have hget := JsObject.get?_foldl_set (fun t => t) (observeOpenClass deps) targets .empty target
  cases hfind : targets.reverse.find? fun t => t = target with
  | none =>
    have hnone := find?_eq_none.1 hfind target (by simpa using h)
    simp at hnone
  | some found =>
    obtain rfl : found = target := by simpa using find?_some hfind
    simpa [hfind, observeOpenState] using hget

/-- An edge that is waited for: its target is on the list and open. -/
def Admits (issueIds : List String) (deps : WorkListDependencyDiscoverDeps) (e : DeclaredEdge) :
    Prop :=
  e.prerequisite ∈ issueIds ∧ observeOpenClass deps e.prerequisite = .opened

lemma ignoredReason_eq_none {issueIds : List String} {deps : WorkListDependencyDiscoverDeps}
    {edges : List DeclaredEdge} (hmem : e ∈ edges) (hproper : e.Proper) :
    ignoredReason (issueIds.filter isCanonicalIssueId)
      (observeOpenState deps (edges.map DeclaredEdge.prerequisite)) e.prerequisite = none ↔ Admits issueIds deps e := by
  have hget := get?_observeOpenState deps (mem_map_of_mem (f := DeclaredEdge.prerequisite) hmem)
  have hselector : e.prerequisite ∈ issueIds.filter isCanonicalIssueId ↔
      e.prerequisite ∈ issueIds := by simp [hproper.2.1]
  simp only [ignoredReason, hget, Option.getD_some, hselector, Admits]
  cases observeOpenClass deps e.prerequisite <;> grind

/-- The edges that a discovery admits. -/
def admittedEdges (issueIds : List String) (deps : WorkListDependencyDiscoverDeps) :
    List DeclaredEdge :=
  let edges := rawEdges (discoverSources rt issueIds deps).provenance
  (admitHardWaits edges (issueIds.filter isCanonicalIssueId)
    (observeOpenState deps (edges.map DeclaredEdge.prerequisite))).1

lemma mem_admittedEdges {issueIds : List String} {deps : WorkListDependencyDiscoverDeps} :
    e ∈ admittedEdges rt issueIds deps ↔ RawEdge rt issueIds deps e ∧ Admits issueIds deps e := by
  obtain ⟨_, hadmitted, _⟩ := admitHardWaits_spec (issueIds.filter isCanonicalIssueId)
    (observeOpenState deps ((rawEdges (discoverSources rt issueIds deps).provenance).map
      DeclaredEdge.prerequisite)) (rawEdges (discoverSources rt issueIds deps).provenance)
  rw [admittedEdges, hadmitted, mem_rawEdges, has_discoverSources]
  constructor
  · rintro ⟨hraw, hproper, hreason⟩
    exact ⟨hraw, (ignoredReason_eq_none (mem_rawEdges.2
      ((has_discoverSources rt issueIds deps e).2 hraw)) hproper).1 hreason⟩
  · rintro ⟨hraw, hadmits⟩
    exact ⟨hraw, hraw.1, (ignoredReason_eq_none (mem_rawEdges.2
      ((has_discoverSources rt issueIds deps e).2 hraw)) hraw.1).2 hadmits⟩

/-- The edge is in the items of a result, in its provenance, in its ignored records. -/
def DeclaredDependencyDiscoveryResult.Lists (r : DeclaredDependencyDiscoveryResult)
    (e : DeclaredEdge) : Prop :=
  ∃ item ∈ r.items, item.id = e.depender ∧ e.prerequisite ∈ item.dependsOn

def DeclaredDependencyDiscoveryResult.Proves (r : DeclaredDependencyDiscoveryResult)
    (e : DeclaredEdge) : Prop :=
  ∃ row ∈ r.edgeProvenance, row.toDeclaredEdge = e

def DeclaredDependencyDiscoveryResult.Ignores (r : DeclaredDependencyDiscoveryResult)
    (e : DeclaredEdge) : Prop :=
  ∃ i ∈ r.ignoredDeps, i.depender = e.depender ∧ i.target = e.prerequisite

variable {issueIds : List String} {deps : WorkListDependencyDiscoverDeps}

lemma dependsOn_eq {item : RawContractItem} (h : item ∈ (discoverDeclaredDependencies rt issueIds deps).items) :
    item.id ∈ issueIds ∧ item.dependsOn =
      ((admittedEdges rt issueIds deps).filter (·.depender = item.id)).map (·.prerequisite) := by
  obtain ⟨id, hid, rfl⟩ := mem_map.1 h
  exact ⟨hid, get?_groupByDepender _ _⟩

lemma lists_iff : (discoverDeclaredDependencies rt issueIds deps).Lists e ↔
      e.depender ∈ issueIds ∧ e ∈ admittedEdges rt issueIds deps := by
  constructor
  · rintro ⟨item, hitem, hid, hdep⟩
    obtain ⟨hmem, heq⟩ := dependsOn_eq rt hitem
    rw [heq] at hdep
    obtain ⟨edge, hedge, hpre⟩ := mem_map.1 hdep
    obtain ⟨hadmitted, hdepender⟩ := mem_filter.1 hedge
    have hsame : edge = e := by
      cases edge
      cases e
      simp_all
    exact ⟨hid ▸ hmem, hsame ▸ hadmitted⟩
  · rintro ⟨hmem, hadmitted⟩
    refine ⟨_, mem_map.2 ⟨e.depender, hmem, rfl⟩, rfl, ?_⟩
    rw [(dependsOn_eq rt (mem_map.2 ⟨e.depender, hmem, rfl⟩)).2]
    exact mem_map.2 ⟨e, mem_filter.2 ⟨hadmitted, by simp⟩, rfl⟩

lemma proves_iff : (discoverDeclaredDependencies rt issueIds deps).Proves e ↔ e ∈ admittedEdges rt issueIds deps := by
  have hkeys : (discoverDeclaredDependencies rt issueIds deps).Proves e ↔
      (discoverSources rt issueIds deps).provenance.Has e ∧ edgeKey e.depender e.prerequisite ∈
          (admittedEdges rt issueIds deps).map fun e => edgeKey e.depender e.prerequisite := by
    rw [← mem_provenanceOf]
    simp [DeclaredDependencyDiscoveryResult.Proves, discoverDeclaredDependencies, admittedEdges]
  rw [hkeys, has_discoverSources]
  constructor
  · rintro ⟨hraw, hkey⟩
    obtain ⟨e', he', hsame⟩ := mem_map.1 hkey
    have hraw' := ((mem_admittedEdges rt).1 he').1
    obtain ⟨hd, ht⟩ := edgeKey_inj hraw'.1.1 hraw.1.1 hsame
    obtain rfl : e' = e := by
      cases e'
      cases e
      simp_all
    exact he'
  · intro he
    exact ⟨((mem_admittedEdges rt).1 he).1, mem_map.2 ⟨e, he, rfl⟩⟩

lemma ignores_iff : (discoverDeclaredDependencies rt issueIds deps).Ignores e ↔
      RawEdge rt issueIds deps e ∧ ¬Admits issueIds deps e := by
  obtain ⟨_, _, hignored⟩ := admitHardWaits_spec (issueIds.filter isCanonicalIssueId)
    (observeOpenState deps ((rawEdges (discoverSources rt issueIds deps).provenance).map
      DeclaredEdge.prerequisite)) (rawEdges (discoverSources rt issueIds deps).provenance)
  constructor
  · rintro ⟨i, hi, hd, ht⟩
    obtain ⟨hmem, hproper, hreason⟩ := (hignored i).1 hi
    obtain rfl : e = ⟨i.depender, i.target⟩ := by
      cases e
      simp_all
    refine ⟨(has_discoverSources rt issueIds deps _).1 (mem_rawEdges.1 hmem), fun hadmits => ?_⟩
    have hnone := (ignoredReason_eq_none hmem hproper).2 hadmits
    simp [hreason] at hnone
  · rintro ⟨hraw, hnot⟩
    have hmem := mem_rawEdges.2 ((has_discoverSources rt issueIds deps e).2 hraw)
    cases hreason : ignoredReason (issueIds.filter isCanonicalIssueId)
        (observeOpenState deps ((rawEdges (discoverSources rt issueIds deps).provenance).map
          DeclaredEdge.prerequisite)) e.prerequisite with
    | none => exact absurd ((ignoredReason_eq_none hmem hraw.1).1 hreason) hnot
    | some reason =>
      exact ⟨⟨e.depender, e.prerequisite, reason⟩, (hignored _).2 ⟨hmem, hraw.1, hreason⟩, rfl, rfl⟩

/-- What the claim of exactness says of a result. -/
structure ExactDiscovery (issueIds : List String) (deps : WorkListDependencyDiscoverDeps)
    (r : DeclaredDependencyDiscoveryResult) : Prop where
  order : r.items.map RawContractItem.id = issueIds
  agree : ∀ e, r.Lists e ↔ r.Proves e
  sound : ∀ e, r.Lists e ∨ r.Proves e → RawEdge rt issueIds deps e ∧ e.Proper ∧ e.prerequisite ∈ issueIds ∧
      observeOpenClass deps e.prerequisite = .opened
  /-- Every raw edge of an issue on the list is in exactly one of the two views. -/
  split : ∀ e, RawEdge rt issueIds deps e → e.depender ∈ issueIds → Xor (r.Lists e) (r.Ignores e)
  nodup : ∀ item ∈ r.items, item.dependsOn.Nodup
  /-- A result that is not refused for a cycle compiles to items without external dependencies. -/
  compiled : match compileContractItems r.items with
    | .ok items => (∀ item ∈ items, item.externalDependsOn = []) ∧ ∀ id ∈ issueIds, ∃ item ∈ items, item.id = id
    | .error _ => ∃ id, Relation.TransGen (DependsOn (partitionAll r.items)) id id

/-- An issue that is not on the list has an edge that is admitted. -/
def ForeignAdmitted (issueIds : List String) (deps : WorkListDependencyDiscoverDeps) : Prop :=
  ∃ e, RoadmapDeclares deps e ∧ e.Proper ∧ e.depender ∉ issueIds ∧ Admits issueIds deps e

lemma order_items : (discoverDeclaredDependencies rt issueIds deps).items.map RawContractItem.id = issueIds := by
  simp [discoverDeclaredDependencies, Function.comp_def]

lemma nodup_dependsOn {item : RawContractItem} (h : item ∈ (discoverDeclaredDependencies rt issueIds deps).items) :
    item.dependsOn.Nodup := by
  rw [(dependsOn_eq rt h).2]
  have hnd : (admittedEdges rt issueIds deps).Nodup := (admitHardWaits_spec _ _ _).1
  refine List.Nodup.map_on ?_ (hnd.filter _)
  -- the edges of one depender differ in their target
  intro e he e' he' hpre
  have hd : e.depender = item.id := by simpa using (mem_filter.1 he).2
  have hd' : e'.depender = item.id := by simpa using (mem_filter.1 he').2
  cases e
  cases e'
  simp_all

lemma compiled_discovery (hnd : issueIds.Nodup) :
    match compileContractItems (discoverDeclaredDependencies rt issueIds deps).items with
    | .ok items => (∀ item ∈ items, item.externalDependsOn = []) ∧ ∀ id ∈ issueIds, ∃ item ∈ items, item.id = id
    | .error _ => ∃ id, Relation.TransGen (DependsOn
        (partitionAll (discoverDeclaredDependencies rt issueIds deps).items)) id id := by
  have hids : (discoverDeclaredDependencies rt issueIds deps).items.map RawContractItem.id = issueIds := order_items rt
  have hnd' : ((discoverDeclaredDependencies rt issueIds deps).items.map RawContractItem.id).Nodup := by rwa [hids]
  split
  · next items hok =>
    obtain ⟨hsplit, hcover⟩ := compileContractItems_eq_ok hnd' hok
    refine ⟨fun item hitem => ?_, fun id hid => ?_⟩
    · obtain ⟨raw, hraw, rfl⟩ := hsplit item hitem
      rw [hids]
      -- every dependency of a raw item is on the list
      simp only [partitionDeclared, filter_eq_nil_iff, decide_eq_true_eq, not_not]
      intro dep hdep
      rw [(dependsOn_eq rt hraw).2] at hdep
      obtain ⟨e, he, rfl⟩ := mem_map.1 hdep
      exact ((mem_admittedEdges rt).1 (mem_filter.1 he).1).2.1
    · obtain ⟨raw, hraw, hraw'⟩ := mem_map.1 (by rw [hids]; exact hid :
        id ∈ (discoverDeclaredDependencies rt issueIds deps).items.map RawContractItem.id)
      obtain ⟨item, hitem, heq⟩ := hcover raw hraw
      exact ⟨item, hitem, heq.trans hraw'⟩
  · next e herror => exact compileContractItems_eq_error hnd' herror

lemma not_exact_of_foreign (h : ForeignAdmitted issueIds deps) :
    ¬ExactDiscovery rt issueIds deps (discoverDeclaredDependencies rt issueIds deps) := by
  obtain ⟨e, hroadmap, hproper, hforeign, hadmits⟩ := h
  intro hexact
  have hadmitted : e ∈ admittedEdges rt issueIds deps := (mem_admittedEdges rt).2 ⟨⟨hproper, .inl hroadmap⟩, hadmits⟩
  have hlists := (hexact.agree e).2 ((proves_iff rt).2 hadmitted)
  exact hforeign ((lists_iff rt).1 hlists).1

/-- A discovery over distinct issues is exact, unless the roadmap has an edge of an issue that is
not on the list to an open one that is. -/
theorem discovery_exact_iff (hnd : issueIds.Nodup) :
    ExactDiscovery rt issueIds deps (discoverDeclaredDependencies rt issueIds deps) ↔
      ¬ForeignAdmitted issueIds deps := by
  constructor
  · exact fun hexact hforeign => not_exact_of_foreign rt hforeign hexact
  · intro hno
    have hlisted : ∀ e, e ∈ admittedEdges rt issueIds deps → e.depender ∈ issueIds := by
      intro e he
      obtain ⟨⟨hproper, hdeclared⟩, hadmits⟩ := (mem_admittedEdges rt).1 he
      rcases hdeclared with hroadmap | ⟨hmem, _⟩
      · by_contra hforeign
        exact hno ⟨e, hroadmap, hproper, hforeign, hadmits⟩
      · exact hmem
    constructor
    · exact order_items rt
    · intro e
      rw [lists_iff, proves_iff]
      exact ⟨fun h => h.2, fun h => ⟨hlisted e h, h⟩⟩
    · intro e he
      have hadmitted : e ∈ admittedEdges rt issueIds deps :=
        he.elim (fun h => ((lists_iff rt).1 h).2) (proves_iff rt).1
      obtain ⟨hraw, hadmits⟩ := (mem_admittedEdges rt).1 hadmitted
      exact ⟨hraw, hraw.1, hadmits.1, hadmits.2⟩
    · intro e hraw hmem
      rw [lists_iff, ignores_iff, mem_admittedEdges]
      by_cases hadmits : Admits issueIds deps e
      · exact .inl ⟨⟨hmem, hraw, hadmits⟩, fun h => h.2 hadmits⟩
      · exact .inr ⟨⟨hraw, hadmits⟩, fun h => hadmits h.2.2⟩
    · exact fun item hitem => nodup_dependsOn rt hitem
    · exact compiled_discovery rt hnd

end Sources

/-! ## A roadmap that knows more issues -/

/-- Seams of which only the roadmap declares anything, on a repository of open issues. -/
def roadmapOnly (edges : List DeclaredEdge) : WorkListDependencyDiscoverDeps where
  getIssueTitleBody _ := .ok (some ⟨some "", some ""⟩)
  getBlockedByIssueNumbers _ := .ok (some [])
  getRoadmapDeclaredEdges := some (.ok (some edges))
  getIssueOpenState := none

/-- The list has one issue; the roadmap says that another one depends on it. -/
theorem foreign_depender_not_exact :
    ¬∀ (rt : JsRuntime) (issueIds : List String) (deps : WorkListDependencyDiscoverDeps), issueIds.Nodup →
        ExactDiscovery rt issueIds deps (discoverDeclaredDependencies rt issueIds deps) := by
  intro h
  refine not_exact_of_foreign (.onFirstDay []) ?_ (h (.onFirstDay []) ["5"]
    (roadmapOnly [⟨"9", "5"⟩]) (by decide))
  refine ⟨⟨"9", "5"⟩, ⟨_, rfl, by simp⟩, ⟨by decide, by decide, by decide⟩, by decide, ?_, rfl⟩
  simp

/-- With both issues on the list the same edge is exact. -/
theorem discovery_exact_both :
    ["9", "5"].Nodup ∧ ExactDiscovery (.onFirstDay []) ["9", "5"] (roadmapOnly [⟨"9", "5"⟩])
      (discoverDeclaredDependencies (.onFirstDay []) ["9", "5"] (roadmapOnly [⟨"9", "5"⟩])) := by
  refine ⟨by decide, (discovery_exact_iff _ (by decide)).2 ?_⟩
  rintro ⟨e, ⟨edges, hedges, he⟩, _, hforeign, _⟩
  obtain rfl : [⟨"9", "5"⟩] = edges := by simpa [roadmapOnly] using hedges
  obtain rfl : e = ⟨"9", "5"⟩ := by simpa using he
  simp at hforeign

end AgentPipeline.Loop
