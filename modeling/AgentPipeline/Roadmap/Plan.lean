import AgentPipeline.Roadmap.Apply

/-!
# Plan: what a manifest without blockers says

* `Binding`: the milestone that a target stands for, and the actions that follow from it;
* `Planned`: the actions are those of the targets, and then those of the issues;
* `preview_of_unblocked`: a manifest without blockers binds every target, and every open issue is in one.
-/

namespace AgentPipeline.Roadmap

open List

/-! ## Maps without repeated keys -/

section Maps

variable {κ α : Type} [DecidableEq κ] {entries : List (κ × α)}

lemma mapSet_of_not_mem {key : κ} {value : α} (h : key ∉ entries.map Prod.fst) :
    mapSet key value entries = entries ++ [(key, value)] := by
  induction entries with
  | nil => rfl
  | cons entry entries ih =>
    obtain ⟨k, v⟩ := entry
    simp only [map_cons, mem_cons, not_or] at h
    rw [mapSet, if_neg (Ne.symm h.1), ih h.2]
    rfl

lemma mapOf_of_nodup (h : (entries.map Prod.fst).Nodup) : mapOf entries = entries := by
  have hfold : ∀ map : List (κ × α), ((map ++ entries).map Prod.fst).Nodup →
      entries.foldl (fun map entry => mapSet entry.1 entry.2 map) map = map ++ entries := by
    clear h
    induction entries with
    | nil => simp
    | cons entry entries ih =>
      intro map hnodup
      have hnew : entry.1 ∉ map.map Prod.fst := by
        intro hmem
        rw [map_append, nodup_append] at hnodup
        exact hnodup.2.2 _ hmem entry.1 (by simp) rfl
      rw [foldl_cons, mapSet_of_not_mem hnew, ih _ (by simpa using hnodup)]
      simp
  simpa [mapOf] using hfold [] (by simpa using h)

lemma mapGet_eq_some_iff (h : (entries.map Prod.fst).Nodup) {key : κ} {value : α} :
    mapGet entries key = some value ↔ (key, value) ∈ entries := by
  induction entries with
  | nil => simp
  | cons entry entries ih =>
    obtain ⟨k, v⟩ := entry
    simp only [map_cons, nodup_cons] at h
    have hrest := ih h.2
    simp only [mapGet] at hrest ⊢
    by_cases hk : k = key
    · subst hk
      have hnot : (k, value) ∉ entries := fun hmem => h.1 (mem_map_of_mem (f := Prod.fst) hmem)
      simp [hnot, eq_comm]
    · simp [hk, Ne.symm hk, hrest]

end Maps

variable {catalog : List MilestoneCatalogEntry}

lemma uniqueCatalog_of_nodup (h : (catalog.map (·.number)).Nodup) : uniqueCatalog catalog = catalog := by
  have hfold : ∀ (catalog : List MilestoneCatalogEntry) (byNumber : List (Nat × MilestoneCatalogEntry)),
      (byNumber.map Prod.fst ++ catalog.map (·.number)).Nodup →
      catalog.foldl (fun byNumber m => if (mapGet byNumber m.number).isSome then byNumber
        else mapSet m.number m byNumber) byNumber = byNumber ++ catalog.map fun m => (m.number, m) := by
    intro catalog
    induction catalog with
    | nil => simp
    | cons m catalog ih =>
      intro byNumber hnodup
      have hnew : m.number ∉ byNumber.map Prod.fst := by
        intro hmem
        rw [nodup_append] at hnodup
        exact hnodup.2.2 _ hmem m.number (by simp) rfl
      have hnone : mapGet byNumber m.number = none := by
        rw [mapGet, Option.map_eq_none_iff, find?_eq_none]
        intro entry hentry heq
        have heq : entry.1 = m.number := by simpa using heq
        exact hnew (heq ▸ mem_map_of_mem hentry)
      rw [foldl_cons, hnone]
      simp only [Option.isSome_none, Bool.false_eq_true, if_false]
      rw [mapSet_of_not_mem hnew, ih _ (by simpa using hnodup)]
      simp
  rw [uniqueCatalog, hfold catalog [] (by simpa using h)]
  simp [Function.comp_def]

/-! ## Memberships -/

lemma memberships_eq (specs : List MilestoneSpec) (openNumbers : List Nat) :
    memberships specs openNumbers = (specs.flatMap fun m => m.issueNumbers.map fun n => (n, m.title)).foldl
        (fun state entry => seeMembership openNumbers entry.2 state entry.1) ([], []) := by
  simp only [memberships, foldl_flatMap, foldl_map]

variable {openNumbers : List Nat}

lemma seen_of_no_dual {entries : List (Nat × String)}
    {state : List (Nat × String) × List CoverageBlocker} (hstate : state.2 = [])
    (hseen : (state.1.map Prod.fst).Nodup)
    (h : (entries.foldl (fun state entry => seeMembership openNumbers entry.2 state entry.1) state).2 = []) :
    (entries.foldl (fun state entry => seeMembership openNumbers entry.2 state entry.1) state).1 =
        state.1 ++ entries.filter (fun entry => openNumbers.contains entry.1) ∧
      ((state.1 ++ entries.filter fun entry => openNumbers.contains entry.1).map Prod.fst).Nodup := by
  have hgrows : ∀ (entries : List (Nat × String)) (state : List (Nat × String) × List CoverageBlocker),
      (entries.foldl (fun state entry => seeMembership openNumbers entry.2 state entry.1) state).2 = [] →
      state.2 = [] := by
    intro entries
    induction entries with
    | nil => exact fun _ h => h
    | cons entry entries ih =>
      intro state h
      have hnext := ih _ h
      dsimp only [seeMembership] at hnext
      split at hnext
      · exact hnext
      · split at hnext
        · simp at hnext
        · exact hnext
  induction entries generalizing state with
  | nil => simpa using hseen
  | cons entry entries ih =>
    rw [foldl_cons] at h ⊢
    have hnext := hgrows entries _ h
    by_cases hopen : openNumbers.contains entry.1 = true
    · have hstep : seeMembership openNumbers entry.2 state entry.1 = (state.1 ++ [entry], state.2) ∧
          entry.1 ∉ state.1.map Prod.fst := by
        unfold seeMembership at hnext ⊢
        simp only [hopen, Bool.not_true, Bool.false_eq_true, if_false] at hnext ⊢
        cases hget : mapGet state.1 entry.1 with
        | some prev => simp [hget] at hnext
        | none =>
          have hnew : entry.1 ∉ state.1.map Prod.fst := by
            intro hmem
            obtain ⟨e, he, heq⟩ := mem_map.1 hmem
            have hsome := (mapGet_eq_some_iff hseen).2 (show (e.1, e.2) ∈ state.1 from he)
            rw [heq, hget] at hsome
            cases hsome
          exact ⟨by simp [mapSet_of_not_mem hnew], hnew⟩
      obtain ⟨hstep, hnew⟩ := hstep
      rw [hstep] at h ⊢
      have hnodup : ((state.1 ++ [entry]).map Prod.fst).Nodup := by
        rw [map_append, nodup_append]
        refine ⟨hseen, by simp, fun a ha b hb hab => hnew ?_⟩
        obtain rfl : b = entry.1 := by simpa using hb
        exact hab ▸ ha
      obtain ⟨hmap, hall⟩ := @ih (state.1 ++ [entry], state.2) hstate hnodup h
      rw [filter_cons_of_pos (by exact hopen)]
      simp only [append_assoc, singleton_append] at hmap hall
      exact ⟨hmap, hall⟩
    · have hstep : seeMembership openNumbers entry.2 state entry.1 = state := by
        unfold seeMembership
        rw [if_pos (by simpa using hopen)]
      rw [hstep] at h ⊢
      rw [filter_cons_of_neg (by exact hopen)]
      exact ih hstate hseen h

/-! ## Bindings -/

/-- The description of the milestone that a target is bound to. -/
def descriptionDrafts (t : ReconciliationTargetMilestone) (m : MilestoneCatalogEntry) : List Draft :=
  if m.description ≠ t.description then [descriptionDraft t m] else []

/-- The milestone that a target is bound to, and the actions that follow from it. -/
inductive Binding (milestones : List MilestoneCatalogEntry) (shipped : List String)
    (t : ReconciliationTargetMilestone) : List Draft → Option Nat → Prop
  | free (hnumber : t.number = none)
      (hclosed : ∀ m ∈ milestones, m.title = t.title → m.state = .closed)
      (hnone : ∀ m ∈ milestones, m.title = t.title → isReusableClosedEmpty m shipped = false) :
      Binding milestones shipped t [createDraft t] none
  | isOpen (m : MilestoneCatalogEntry) (hm : m ∈ milestones) (hnumber : t.number = some m.number)
      (htitle : m.title = t.title) (hstate : m.state = .open)
      (honly : ∀ m' ∈ milestones, m'.title = t.title → m'.state = .open → m' = m) :
      Binding milestones shipped t (reuseDraft m :: descriptionDrafts t m) (some m.number)
  | isClosed (m : MilestoneCatalogEntry) (hm : m ∈ milestones) (hnumber : t.number = some m.number)
      (htitle : m.title = t.title) (hreusable : isReusableClosedEmpty m shipped = true)
      (hclosed : ∀ m' ∈ milestones, m'.title = t.title → m'.state = .closed)
      (honly : ∀ m' ∈ milestones, m'.title = t.title → isReusableClosedEmpty m' shipped = true → m' = m) :
      Binding milestones shipped t (reopenDraft t m :: descriptionDrafts t m) (some m.number)

variable {m : MilestoneCatalogEntry} {shipped : List String}

lemma not_isShipped_of_open (h : m.state = .open) : isShipped m shipped = false := by
  simp [isShipped, h]

lemma closed_of_reusable
    (h : isReusableClosedEmpty m shipped = true) : m.state = .closed ∧ isShipped m shipped = false := by
  simp only [isReusableClosedEmpty, Bool.and_eq_true, decide_eq_true_eq, Bool.not_eq_true'] at h
  exact ⟨h.1.1.1, h.2⟩

variable {title : String}

section

variable (hcatalog : (catalog.map (·.number)).Nodup)
include hcatalog

lemma mem_openMatches : m ∈ openMatches catalog title shipped ↔ m ∈ catalog ∧ m.title = title ∧ m.state = .open := by
  rw [openMatches, uniqueCatalog_of_nodup hcatalog, mem_filter]
  constructor
  · rintro ⟨hm, h⟩
    simp only [Bool.and_eq_true, decide_eq_true_eq] at h
    exact ⟨hm, h.1⟩
  · rintro ⟨hm, htitle, hstate⟩
    exact ⟨hm, by simp [htitle, hstate, not_isShipped_of_open hstate]⟩

lemma mem_closedMatches : m ∈ closedMatches catalog title shipped ↔
      m ∈ catalog ∧ m.title = title ∧ isReusableClosedEmpty m shipped = true := by
  rw [closedMatches, uniqueCatalog_of_nodup hcatalog, mem_filter]
  simp

lemma find?_number (hm : m ∈ catalog) : catalog.find?
    (fun m' => m'.number = m.number) = some m := by
  cases hfind : catalog.find? fun m' => m'.number = m.number with
  | none => simpa using find?_eq_none.1 hfind m hm
  | some m' =>
    have hnumber : m'.number = m.number := by simpa using find?_some hfind
    rw [inj_on_of_nodup_map hcatalog (mem_of_find?_eq_some hfind) hm hnumber]

end

lemma bindTarget_keeps (live : ReconcileLiveState) (t : ReconciliationTargetMilestone) :
    (bindTarget live t).1.title = t.title ∧ (bindTarget live t).1.description = t.description ∧
      (bindTarget live t).1.issueNumbers = t.issueNumbers := by
  unfold bindTarget
  split
  · exact ⟨rfl, rfl, rfl⟩
  split
  · exact ⟨rfl, rfl, rfl⟩
  · split <;> exact ⟨rfl, rfl, rfl⟩
  · exact ⟨rfl, rfl, rfl⟩

variable {t : ReconciliationTargetMilestone}

lemma adjustDrafts_of_title (h : m.title = t.title) : adjustDrafts t m = descriptionDrafts t m := by
  simp [adjustDrafts, descriptionDrafts, h]

variable {live : ReconcileLiveState}

lemma binding_of_bindTarget (hcatalog : (live.milestones.map (·.number)).Nodup) {raw : ReconciliationTargetMilestone}
    (hraw : raw.number = none) (hbound : (bindTarget live raw).2 = []) :
    ∃ drafts number, targetDrafts live (bindTarget live raw).1 = .ok (drafts, number) ∧
      Binding live.milestones live.shippedTitles (bindTarget live raw).1 drafts number := by
  have hmatches : ∀ m, m ∈ openMatches live.milestones raw.title live.shippedTitles ↔
      m ∈ live.milestones ∧ m.title = raw.title ∧ m.state = .open := fun m => mem_openMatches hcatalog
  unfold bindTarget at hbound ⊢
  simp only [hraw, Option.isSome_none, Bool.false_eq_true, if_false] at hbound ⊢
  split
  · next m hopen =>
    obtain ⟨hm, htitle, hstate⟩ := (hmatches m).1 (by rw [hopen]; simp)
    have honly : ∀ m' ∈ live.milestones, m'.title = raw.title → m'.state = .open → m' = m :=
      fun m' hm' htitle' hstate' =>
        mem_singleton.1 (hopen ▸ (hmatches m').2 ⟨hm', htitle', hstate'⟩)
    refine ⟨_, _, ?_, .isOpen m hm rfl htitle hstate honly⟩
    simp only [targetDrafts, resolveMilestoneIdentity, find?_number hcatalog hm,
      not_isShipped_of_open hstate, Bool.false_eq_true, if_false, hstate, reduceCtorEq, Except.map]
    have hadjust : adjustDrafts { raw with number := some m.number } m =
        descriptionDrafts { raw with number := some m.number } m := adjustDrafts_of_title htitle
    rw [hadjust]
  · next hopen =>
    have hnone : ∀ m ∈ live.milestones, m.title = raw.title → m.state = .closed := by
      intro m hm htitle
      cases hstate : m.state with
      | closed => rfl
      | «open» =>
        have hmem := (hmatches m).2 ⟨hm, htitle, hstate⟩
        rw [hopen] at hmem
        cases hmem
    rw [hopen] at hbound
    simp only at hbound
    split
    · next m hclosed =>
      obtain ⟨hm, htitle, hreusable⟩ := (mem_closedMatches hcatalog).1
        (show m ∈ closedMatches live.milestones raw.title live.shippedTitles by rw [hclosed]; simp)
      obtain ⟨hstate, hshipped⟩ := closed_of_reusable hreusable
      have honly : ∀ m' ∈ live.milestones, m'.title = raw.title →
          isReusableClosedEmpty m' live.shippedTitles = true → m' = m :=
        fun m' hm' htitle' hreusable' => mem_singleton.1
          (hclosed ▸ (mem_closedMatches hcatalog).2 ⟨hm', htitle', hreusable'⟩)
      refine ⟨_, _, ?_, .isClosed m hm rfl htitle hreusable hnone honly⟩
      simp only [targetDrafts, resolveMilestoneIdentity, find?_number hcatalog hm, hshipped,
        Bool.false_eq_true, if_false, hstate, if_true, hreusable, Except.map]
      have hadjust : adjustDrafts { raw with number := some m.number } m =
          descriptionDrafts { raw with number := some m.number } m := adjustDrafts_of_title htitle
      rw [hadjust]
    · next hclosed =>
      have hbusy : ∀ m ∈ live.milestones, m.title = raw.title → isReusableClosedEmpty m live.shippedTitles = false := by
        intro m hm htitle
        cases hreusable : isReusableClosedEmpty m live.shippedTitles with
        | false => rfl
        | true =>
          have hmem := (mem_closedMatches hcatalog).2 ⟨hm, htitle, hreusable⟩
          rw [hclosed] at hmem
          cases hmem
      refine ⟨_, _, ?_, .free hraw hnone hbusy⟩
      simp only [targetDrafts, resolveMilestoneIdentity, hraw, hopen, Except.map]
    · next ms hne hne' =>
      split at hbound
      · next m hclosed => exact absurd hclosed (hne m)
      · next hclosed => exact absurd hclosed hne'
      · cases hbound
  · next hne hne' =>
    split at hbound
    · next m hopen => exact absurd hopen (hne m)
    · next hopen => exact absurd hopen hne'
    · cases hbound

/-! ## The plan -/

/-- The actions of the issues, with the number that is written into the assignments to a title. -/
def issuePlan (live : ReconcileLiveState) (targets : List ReconciliationTargetMilestone)
    (boundOf : String → Option Nat) : List Draft :=
  (issueTargets targets).flatMap fun (issueNumber, title) =>
    match live.openIssues.find? fun i => i.number = issueNumber with
    | none => []
    | some snap => issueDrafts snap title (boundOf title)

/-- An action without its id. -/
def ReconciliationAction.blank (a : ReconciliationAction) : ReconciliationAction := { a with id := "" }

/-- The actions are those of the targets, and then those of the issues. -/
def Planned (live : ReconcileLiveState) (targets : List ReconciliationTargetMilestone)
    (actions : List ReconciliationAction) : Prop :=
  ∃ (draftsOf : ReconciliationTargetMilestone → List Draft) (boundOf : String → Option Nat),
    (∀ t ∈ targets, Binding live.milestones live.shippedTitles t (draftsOf t) t.number) ∧
      actions.map (·.blank) = (targets.flatMap draftsOf ++ issuePlan live targets boundOf).map (·.action)

variable {drafts : List Draft} {milestones : List MilestoneCatalogEntry} {number : Option Nat}

lemma Binding.number_eq (h : Binding milestones shipped t drafts number) : t.number = number := by
  cases h with
  | free hnumber => exact hnumber
  | isOpen m _ hnumber => exact hnumber
  | isClosed m _ hnumber => exact hnumber

/-- A draft carries no id. -/
def Draft.Blank (draft : Draft) : Prop := draft.action.id = ""

lemma Binding.blank (h : Binding milestones shipped t drafts number) : ∀ draft ∈ drafts, draft.Blank := by
  have hdescription : ∀ m, ∀ draft ∈ descriptionDrafts t m, draft.Blank := by
    intro m draft hdraft
    unfold descriptionDrafts at hdraft
    split at hdraft
    · rw [mem_singleton.1 hdraft]
      rfl
    · cases hdraft
  cases h with
  | free => exact fun draft hdraft => by rw [mem_singleton.1 hdraft]; rfl
  | isOpen m =>
    intro draft hdraft
    rcases mem_cons.1 hdraft with rfl | hdraft
    · rfl
    · exact hdescription m draft hdraft
  | isClosed m =>
    intro draft hdraft
    rcases mem_cons.1 hdraft with rfl | hdraft
    · rfl
    · exact hdescription m draft hdraft

lemma issueDrafts_blank {snap : IssueMilestoneSnapshot} {bound : Option Nat} :
    ∀ draft ∈ issueDrafts snap title bound, draft.Blank := by
  intro draft hdraft
  unfold issueDrafts at hdraft
  split at hdraft
  · cases hdraft
  rcases mem_append.1 hdraft with hdraft | hdraft
  · split at hdraft
    · cases hdraft
    · split at hdraft
      · cases hdraft
      · rw [mem_singleton.1 hdraft]
        rfl
  · rw [mem_singleton.1 hdraft]
    rfl

lemma mapIdx_drafts (h : ∀ draft ∈ drafts, draft.Blank) :
    (drafts.mapIdx fun i draft => { draft.action with id := nextId (i + 1) draft.idKind draft.idKey }).map
        (·.blank) = drafts.map (·.action) := by
  refine ext_getElem? fun i => ?_
  rw [getElem?_map, getElem?_mapIdx, getElem?_map, Option.map_map]
  cases hdraft : drafts[i]? with
  | none => rfl
  | some draft =>
    have hblank : draft.action.id = "" := h draft (mem_of_getElem? hdraft)
    simp only [Option.map_some, Function.comp_apply, Option.some_inj, ReconciliationAction.blank]
    rw [← hblank]

variable {host : NodeHost} {localeLe : String → String → Bool} {stampText : Nat → String}

/-- The input of a preview: every open issue of the tracker is in scope. -/
def previewInput (stampText : Nat → String) (specs : List MilestoneSpec)
    (classifications : List CompatibilityClassification) (shippedTitles : List String) (generatedAt : String)
    (t : Tracker) : BuildManifestInput where
  milestones := specs
  classifications
  openIssueNumbers := t.issues.map (·.number)
  live := t.snapshot stampText shippedTitles
  generatedAt

lemma find?_snapshot {t : Tracker} {i : TrackerIssue} (hi : i ∈ t.issues) :
    (t.snapshot stampText shipped).openIssues.find? (fun s => s.number = i.number) =
      some (t.snapshotIssue stampText i) := by
  have hfind : t.issues.find? (fun i' => i'.number = i.number) = some i := by
    cases hfind : t.issues.find? fun i' => i'.number = i.number with
    | none => simpa using find?_eq_none.1 hfind i hi
    | some i' =>
      have hnumber : i'.number = i.number := by simpa using find?_some hfind
      rw [inj_on_of_nodup_map t.listed (mem_of_find?_eq_some hfind) hi hnumber]
  simp only [Tracker.snapshot, find?_map]
  have hcomp : ((fun s : IssueMilestoneSnapshot => decide (s.number = i.number)) ∘ t.snapshotIssue stampText) =
      fun i' => decide (i'.number = i.number) := rfl
  rw [hcomp, hfind]
  rfl

lemma mapGet_openByNumber {t : Tracker} (n : Nat) :
    mapGet (mapOf (((t.snapshot stampText shipped).openIssues.filter (·.isOpen)).map fun i => (i.number, i))) n =
      (t.snapshot stampText shipped).openIssues.find? fun i => i.number = n := by
  have hall : (t.snapshot stampText shipped).openIssues.filter (·.isOpen) =
      (t.snapshot stampText shipped).openIssues := by
    refine filter_eq_self.2 fun s hs => ?_
    obtain ⟨i, -, rfl⟩ := mem_map.1 hs
    rfl
  have hnodup : (((t.snapshot stampText shipped).openIssues.map fun i => (i.number, i)).map Prod.fst).Nodup := by
    simpa [Tracker.snapshot, Tracker.snapshotIssue, Function.comp_def] using t.listed
  rw [hall, mapOf_of_nodup hnodup, mapGet, find?_map]
  have hcomp : ((fun entry : Nat × IssueMilestoneSnapshot => decide (entry.1 = n)) ∘
      fun i : IssueMilestoneSnapshot => (i.number, i)) = fun i => decide (i.number = n) := rfl
  rw [hcomp]
  cases (t.snapshot stampText shipped).openIssues.find? fun i => i.number = n <;> rfl

/-- What a manifest without blockers says: every target is bound, every open issue is in one target, and the
actions are those of the targets and then of the issues. -/
structure Preview (stampText : Nat → String) (shipped : List String) (t : Tracker)
    (specs : List MilestoneSpec) (manifest : ReconciliationManifest) : Prop where
  planned : Planned (t.snapshot stampText shipped) manifest.targets manifest.actions
  targets : manifest.targets = specs.map fun spec =>
    (bindTarget (t.snapshot stampText shipped) (targetOf (t.issues.map (·.number)) spec)).1
  members : ((manifest.targets.flatMap fun target => target.issueNumbers)).Nodup
  covered : ∀ i ∈ t.issues, ∃ target ∈ manifest.targets, i.number ∈ target.issueNumbers
  listedOpen : ∀ target ∈ manifest.targets, ∀ n ∈ target.issueNumbers, n ∈ t.issues.map (·.number)

lemma issueBlockers_nil {classByIssue : List (Nat × CompatibilityClassification)}
    {seen : List (Nat × String)} {n : Nat} (h : issueBlockers classByIssue seen n = []) :
    (mapGet seen n).isSome = true := by
  unfold issueBlockers at h
  split at h
  · cases h
  · cases h
  · cases h
  · split at h
    · assumption
    · cases h

variable {specs : List MilestoneSpec}

lemma targets_members :
    ((specs.map (targetOf openNumbers)).map fun raw => (bindTarget live raw).1).flatMap (·.issueNumbers) =
      ((specs.flatMap fun m => m.issueNumbers.map fun n => (n, m.title)).filter
        fun entry => openNumbers.contains entry.1).map Prod.fst := by
  have hissues : ∀ m : MilestoneSpec, (bindTarget live (targetOf openNumbers m)).1.issueNumbers =
      m.issueNumbers.filter openNumbers.contains := fun m => (bindTarget_keeps live (targetOf openNumbers m)).2.2
  induction specs with
  | nil => rfl
  | cons m specs ih =>
    rw [map_cons, map_cons, flatMap_cons, flatMap_cons, ih, hissues, filter_append, map_append]
    congr 1
    rw [filter_map, map_map]
    have hcontains : openNumbers.contains = fun n => decide (n ∈ openNumbers) := by
      funext n
      exact contains_eq_mem n openNumbers
    simp [Function.comp_def, hcontains]

/-- The drafts of a target that was resolved. -/
def resolvedDrafts (live : ReconcileLiveState) (target : ReconciliationTargetMilestone) :
    List Draft :=
  match targetDrafts live target with
  | .error _ => []
  | .ok (drafts, _) => drafts

/-- The number of a title that was resolved. -/
def resolvedNumber (live : ReconcileLiveState) (targets : List ReconciliationTargetMilestone) (title : String) :
    Option Nat :=
  mapGet (mapOf ((targets.map fun target => (target, targetDrafts live target)).filterMap fun r =>
    match r.2 with
    | .ok (_, some number) => some (r.1.title, number)
    | _ => none)) title

lemma planned_of_binding {targets : List ReconciliationTargetMilestone}
    (prior : List CoverageBlocker)
    (hopen : ∀ n, mapGet (mapOf ((live.openIssues.filter (·.isOpen)).map fun i => (i.number, i))) n =
      live.openIssues.find? fun i => i.number = n)
    (hbinding : ∀ target ∈ targets, ∃ drafts number, targetDrafts live target = .ok (drafts, number) ∧
      Binding live.milestones live.shippedTitles target drafts number) :
    Planned live targets (planReconciliationActions targets live prior).1 := by
  refine ⟨resolvedDrafts live, resolvedNumber live targets, fun target htarget => ?_, ?_⟩
  · obtain ⟨drafts, number, hdrafts, hbind⟩ := hbinding target htarget
    simp only [resolvedDrafts, hdrafts]
    rw [hbind.number_eq]
    exact hbind
  · unfold planReconciliationActions
    dsimp only
    rw [flatMap_map, mapIdx_drafts]
    · simp only [issuePlan, hopen]
      rfl
    · intro draft hdraft
      rcases mem_append.1 hdraft with hdraft | hdraft
      · obtain ⟨target, htarget, hmem⟩ := mem_flatMap.1 hdraft
        obtain ⟨drafts, number, hdrafts, hbind⟩ := hbinding target htarget
        rw [hdrafts] at hmem
        exact hbind.blank draft hmem
      · obtain ⟨⟨issueNumber, title⟩, -, hmem⟩ := mem_flatMap.1 hdraft
        split at hmem
        · cases hmem
        · exact issueDrafts_blank draft hmem

lemma preview_of_unblocked {classes : List CompatibilityClassification} {generatedAt : String} {t : Tracker}
    (h : (buildReconciliationManifest host localeLe
      (previewInput stampText specs classes shipped generatedAt t)).coverageBlockers = []) :
    Preview stampText shipped t specs (buildReconciliationManifest host localeLe
      (previewInput stampText specs classes shipped generatedAt t)) := by
  set openNumbers := t.issues.map (·.number) with hopenNumbers
  set live := t.snapshot stampText shipped with hlive
  set raws := specs.map (targetOf openNumbers) with hraws
  set targets := raws.map fun raw => (bindTarget live raw).1 with htargets
  have hcatalog : (live.milestones.map (·.number)).Nodup := t.numbered
  -- no blocker of any kind
  simp only [buildReconciliationManifest, planReconciliationActions, buildReconciliationTargets,
    bindTargetMilestoneIdentities, previewInput, append_eq_nil_iff] at h
  obtain ⟨⟨⟨hdual, hissues⟩, hbound⟩, hresolved⟩ := h
  rw [memberships_eq] at hdual hissues
  obtain ⟨hseen, hnodup⟩ := seen_of_no_dual rfl (by simp) hdual
  rw [nil_append] at hseen hnodup
  have hbinding : ∀ target ∈ targets, ∃ drafts number, targetDrafts live target = .ok (drafts, number) ∧
      Binding live.milestones live.shippedTitles target drafts number := by
    intro target htarget
    obtain ⟨raw, hraw, rfl⟩ := mem_map.1 htarget
    refine binding_of_bindTarget hcatalog ?_ (flatMap_eq_nil_iff.1 hbound raw hraw)
    obtain ⟨m, -, rfl⟩ := mem_map.1 hraw
    rfl
  have hplanned := planned_of_binding ((buildReconciliationTargets specs classes openNumbers).2 ++
    (bindTargetMilestoneIdentities raws live).2) mapGet_openByNumber hbinding
  refine ⟨hplanned, ?_, ?_, ?_, ?_⟩
  · simp only [buildReconciliationManifest, previewInput, bindTargetMilestoneIdentities,
      buildReconciliationTargets, map_map]
    rfl
  · show (targets.flatMap (·.issueNumbers)).Nodup
    rw [htargets, hraws, targets_members]
    exact hnodup
  · intro i hi
    have hclear := flatMap_eq_nil_iff.1 hissues i.number (mem_map_of_mem hi)
    have hsome := issueBlockers_nil hclear
    rw [hseen] at hsome
    obtain ⟨title, htitle⟩ := Option.isSome_iff_exists.1 hsome
    have hmem := (mapGet_eq_some_iff hnodup).1 htitle
    have hnumber : i.number ∈ targets.flatMap (·.issueNumbers) := by
      rw [htargets, hraws, targets_members]
      exact mem_map_of_mem hmem
    exact mem_flatMap.1 hnumber
  · intro target htarget n hn
    obtain ⟨raw, hraw, rfl⟩ := mem_map.1 (show target ∈ targets from htarget)
    obtain ⟨m, -, rfl⟩ := mem_map.1 hraw
    rw [(bindTarget_keeps live (targetOf openNumbers m)).2.2] at hn
    exact contains_iff_mem.1 (mem_filter.1 hn).2

end AgentPipeline.Roadmap
