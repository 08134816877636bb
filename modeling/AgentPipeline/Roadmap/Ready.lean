import AgentPipeline.Roadmap.Unbound

/-!
# Ready: the actions of the targets, from any point on

* `Ready`: a local copy that is exact while no issue was moved;
* `Assignable`: an assigned title has an open milestone, or gets one;
* `runAll_of_ready`: the pending actions go through from a ready desk.
-/

namespace AgentPipeline.Roadmap

open List Option

/-! ## Titles -/

/-- A title that some milestone has. -/
def HasTitle (title : String) (d : Desk) : Prop := ∃ m ∈ d.tracker.milestones, m.title = title

/-- A title that an open milestone has. -/
def Opened (title : String) (d : Desk) : Prop := ∃ m ∈ d.tracker.milestones, m.title = title ∧ m.state = .open

variable {titles : List (String × Nat)} {title : String}

lemma isSome_mapSet_all {entries : List (String × Nat)} :
    (mapGet (entries.foldl (fun titles entry => mapSet entry.1 entry.2 titles) titles) title).isSome = true ↔
      (mapGet titles title).isSome = true ∨ ∃ entry ∈ entries, entry.1 = title := by
  induction entries generalizing titles with
  | nil => simp
  | cons entry entries ih =>
    rw [foldl_cons, ih, mapGet_mapSet]
    by_cases hsame : title = entry.1
    · simp [hsame]
    · simp [hsame, Ne.symm hsame]

lemma startingTitles_isSome {live : ReconcileLiveState} {created : List (String × Nat)} (title : String)
    (hcreated : ∀ entry ∈ created, ∃ m ∈ live.milestones, m.title = entry.1) :
    (mapGet (startingTitles live created) title).isSome = true ↔ ∃ m ∈ live.milestones, m.title = title := by
  rw [startingTitles, isSome_mapSet_all, mapOf, isSome_mapSet_all]
  constructor
  · rintro ((h | ⟨entry, hentry, rfl⟩) | ⟨entry, hentry, rfl⟩)
    · simp at h
    · obtain ⟨m, hm, rfl⟩ := mem_map.1 hentry
      exact ⟨m, hm, rfl⟩
    · exact hcreated entry hentry
  · rintro ⟨m, hm, rfl⟩
    exact .inl (.inr ⟨(m.title, m.number), mem_map_of_mem (f := fun m => (m.title, m.number)) hm, rfl⟩)

/-! ## A ready desk -/

/-- The desk while no issue was moved: the local copy is exact, and the milestones of the preview are there. -/
structure Ready (stampText : Nat → String) (shipped : List String) (t₀ : Tracker) (d : Desk) : Prop where
  copy : d.live.milestones = d.tracker.milestones
  issues : d.tracker.issues = t₀.issues
  clock : d.tracker.clock = t₀.clock
  copiedIssues : d.live.openIssues = (t₀.snapshot stampText shipped).openIssues
  shippedTitles : d.live.shippedTitles = shipped
  bound : ∀ title, (mapGet d.titleToNumber title).isSome = true ↔ HasTitle title d
  old : ∀ m₀ ∈ t₀.milestones, ∃ m ∈ d.tracker.milestones, m.number = m₀.number ∧ m.title = m₀.title ∧
    (m₀.state = .open → m.state = .open) ∧
    (isReusableClosedEmpty m₀ shipped = true → m.state = .open ∨ isReusableClosedEmpty m shipped = true)
  fresh : ∀ m ∈ d.tracker.milestones, m.state = .closed → ∃ m₀ ∈ t₀.milestones, m₀.title = m.title

variable {stampText : Nat → String} {shipped : List String} {t₀ : Tracker} {d : Desk}

lemma Ready.snapshotIssue (h : Ready stampText shipped t₀ d) {i : TrackerIssue} (hi : i ∈ t₀.issues) :
    d.tracker.snapshotIssue stampText i = t₀.snapshotIssue stampText i := by
  simp only [Tracker.snapshotIssue]
  cases hmilestone : i.milestone with
  | none => rfl
  | some number =>
    obtain ⟨m₀, hm₀, rfl⟩ := mem_map.1 (t₀.placed i hi number hmilestone)
    obtain ⟨m, hm, hnumber, htitle, -⟩ := h.old m₀ hm₀
    have hfind : d.tracker.milestones.find? (fun m => m.number = m₀.number) = some m :=
      hnumber ▸ find?_number d.tracker.numbered hm
    simp only [bind_some, hfind, Tracker.milestone?, find?_number t₀.numbered hm₀, map_some, htitle]

lemma Ready.exact (h : Ready stampText shipped t₀ d) : d.live = d.tracker.snapshot stampText shipped := by
  have hissues : d.live.openIssues = d.tracker.issues.map (d.tracker.snapshotIssue stampText) := by
    rw [h.copiedIssues, h.issues]
    exact map_congr_left fun i hi => (h.snapshotIssue hi).symm
  have hlive : d.live = ⟨d.live.milestones, d.live.openIssues, d.live.shippedTitles⟩ := rfl
  rw [hlive, h.copy, hissues, h.shippedTitles]
  rfl

lemma ready_firstDesk : Ready stampText shipped t₀ (firstDesk stampText shipped t₀) where
  copy := rfl
  issues := rfl
  clock := rfl
  copiedIssues := rfl
  shippedTitles := rfl
  bound := fun title => startingTitles_isSome title (by simp)
  old := fun m₀ hm₀ => ⟨m₀, hm₀, rfl, rfl, id, .inr⟩
  fresh := fun m hm _ => ⟨m, hm, rfl⟩

variable {d' : Desk}

section

variable (h : Ready stampText shipped t₀ d)
include h

lemma Ready.edited {number : Nat} {edit : MilestoneCatalogEntry → MilestoneCatalogEntry}
    (hedited : Edited number edit title d d') (hclock : d'.tracker.clock = d.tracker.clock)
    (hkeeps : ∀ m, (edit m).number = m.number ∧ (edit m).title = m.title)
    (hopens : ∀ m, m.state = .open → (edit m).state = .open) (hstays : ∀ m, isReusableClosedEmpty m shipped = true →
      (edit m).state = .open ∨ isReusableClosedEmpty (edit m) shipped = true)
    (hold : ∀ m, (edit m).state = .closed → m.state = .closed)
    (htitle : HasTitle title d) (htitles : KeepsTitles d d') : Ready stampText shipped t₀ d' := by
  have hmem : ∀ m ∈ d.tracker.milestones, ∃ m' ∈ d'.tracker.milestones, m'.number = m.number ∧
      m'.title = m.title ∧ (m.state = .open → m'.state = .open) ∧
      (isReusableClosedEmpty m shipped = true → m'.state = .open ∨ isReusableClosedEmpty m' shipped = true) := by
    intro m hm
    refine ⟨if m.number = number then edit m else m, ?_, ?_⟩
    · rw [hedited.tracker]
      exact mem_map_of_mem (f := fun m => if m.number = number then edit m else m) hm
    · split
      · exact ⟨(hkeeps m).1, (hkeeps m).2, hopens m, hstays m⟩
      · exact ⟨rfl, rfl, id, .inr⟩
  have hkept : ∀ title, HasTitle title d' ↔ HasTitle title d := by
    intro title
    constructor
    · rintro ⟨m, hm, rfl⟩
      rw [hedited.tracker] at hm
      obtain ⟨m', hm', rfl⟩ := mem_map.1 hm
      refine ⟨m', hm', ?_⟩
      split
      · exact (hkeeps m').2.symm
      · rfl
    · rintro ⟨m, hm, rfl⟩
      obtain ⟨m', hm', -, htitle', -⟩ := hmem m hm
      exact ⟨m', hm', htitle'⟩
  refine ⟨?_, hedited.issues.trans h.issues, hclock.trans h.clock, hedited.copiedIssues.trans h.copiedIssues,
    hedited.shipped.trans h.shippedTitles, fun other => ?_, fun m₀ hm₀ => ?_, fun m hm hstate => ?_⟩
  · rw [hedited.copy, hedited.tracker, h.copy]
  · rw [hkept]
    by_cases hsame : other = title
    · rw [hsame]
      exact ⟨fun _ => htitle, fun _ => htitles title ((h.bound title).2 htitle)⟩
    · rw [hedited.titles other hsame]
      exact h.bound other
  · obtain ⟨m, hm, hnumber, htitle', hopen, hreusable⟩ := h.old m₀ hm₀
    obtain ⟨m', hm', hnumber', htitle'', hopen', hreusable'⟩ := hmem m hm
    refine ⟨m', hm', hnumber'.trans hnumber, htitle''.trans htitle', fun hstate => hopen' (hopen hstate),
      fun hstate => ?_⟩
    rcases hreusable hstate with hstate | hstate
    · exact .inl (hopen' hstate)
    · exact hreusable' hstate
  · rw [hedited.tracker] at hm
    obtain ⟨m', hm', rfl⟩ := mem_map.1 hm
    split at hstate
    · rw [if_pos (by assumption), (hkeeps m').2]
      exact h.fresh m' hm' (hold m' hstate)
    · rw [if_neg (by assumption)]
      exact h.fresh m' hm' hstate

lemma Ready.created {description : String}
    (htitles : ∀ other, other ≠ title → mapGet titles other = mapGet d.titleToNumber other)
    (htitle : (mapGet titles title).isSome = true) :
    Ready stampText shipped t₀ ⟨d.tracker.createMilestone title description,
      { d.live with milestones := d.live.milestones ++ [⟨d.tracker.next, title, .open, description, 0, 0⟩] },
      titles⟩ where
  copy := by
    show d.live.milestones ++ _ = d.tracker.milestones ++ _
    rw [h.copy]
  issues := h.issues
  clock := h.clock
  copiedIssues := h.copiedIssues
  shippedTitles := h.shippedTitles
  bound := by
    intro other
    by_cases hsame : other = title
    · rw [hsame]
      exact ⟨fun _ => ⟨_, mem_append_right _ (mem_singleton_self _), rfl⟩, fun _ => htitle⟩
    · show (mapGet titles other).isSome = true ↔ _
      rw [htitles other hsame, h.bound other]
      constructor
      · rintro ⟨m, hm, htitle'⟩
        exact ⟨m, mem_append_left _ hm, htitle'⟩
      · rintro ⟨m, hm, htitle'⟩
        rcases mem_append.1 hm with hm | hm
        · exact ⟨m, hm, htitle'⟩
        · rw [mem_singleton.1 hm] at htitle'
          exact absurd htitle'.symm hsame
  old := by
    intro m₀ hm₀
    obtain ⟨m, hm, hrest⟩ := h.old m₀ hm₀
    exact ⟨m, mem_append_left _ hm, hrest⟩
  fresh := by
    intro m hm hstate
    rcases mem_append.1 hm with hm | hm
    · exact h.fresh m hm hstate
    · rw [mem_singleton.1 hm] at hstate
      cases hstate

lemma Ready.titled (hbound : ∀ title, (mapGet titles title).isSome = true ↔ HasTitle title d) :
    Ready stampText shipped t₀ { d with titleToNumber := titles } :=
  ⟨h.copy, h.issues, h.clock, h.copiedIssues, h.shippedTitles, hbound, h.old, h.fresh⟩

end

variable {m₀ : MilestoneCatalogEntry}

lemma Ready.hasTitle (h : Ready stampText shipped t₀ d) (hm₀ : m₀ ∈ t₀.milestones) : HasTitle m₀.title d := by
  obtain ⟨m, hm, -, htitle, -⟩ := h.old m₀ hm₀
  exact ⟨m, hm, htitle⟩

lemma Ready.noted (h : Ready stampText shipped t₀ d) (htitle : HasTitle title d) (hothers : ∀ other, other ≠ title →
      mapGet titles other = mapGet d.titleToNumber other) (hkeeps : (mapGet d.titleToNumber title).isSome = true →
      (mapGet titles title).isSome = true) : Ready stampText shipped t₀ { d with titleToNumber := titles } := by
  refine h.titled fun other => ?_
  by_cases hsame : other = title
  · rw [hsame]
    exact ⟨fun _ => htitle, fun _ => hkeeps ((h.bound title).2 htitle)⟩
  · rw [hothers other hsame]
    exact h.bound other

/-- What an action of a target leaves for the ones after it. -/
structure Leaves (stampText : Nat → String) (shipped : List String) (t₀ : Tracker) (a : ReconciliationAction)
    (d : Desk) : Prop where
  ready : Ready stampText shipped t₀ d
  created : a.kind = .create → ∀ title ∈ a.milestoneTitle, HasTitle title d
  reopened : a.kind = .reopen → ∀ title ∈ a.milestoneTitle, Opened title d

lemma leaves_create (h : Ready stampText shipped t₀ d) (target : ReconciliationTargetMilestone) :
    ∃ r, runAction d (createDraft target).action = .ok r ∧
      Leaves stampText shipped t₀ (createDraft target).action r.2 := by
  have hkind : (createDraft target).action.kind ≠ .reopen := by simp [createDraft]
  cases hfind : d.live.milestones.find? fun m => m.title = target.title && m.state = .open with
  | some m =>
    have hm : m ∈ d.tracker.milestones := h.copy ▸ mem_of_find?_eq_some hfind
    have htitle : m.title = target.title ∧ m.state = .open := by simpa using find?_some hfind
    have hexecute : executeAction d (createDraft target).action = .ok (⟨false, some m.number⟩,
        { d with titleToNumber := mapSet target.title m.number d.titleToNumber }) := by
      unfold executeAction executeCreate createDraft
      dsimp only [getD_some]
      rw [hfind]
    have hhas : HasTitle target.title d := ⟨m, hm, htitle.1⟩
    refine ⟨_, runAction_of_executeAction hexecute, h.noted hhas (fun other hother => ?_)
      (fun hsome => isSome_noteTitles (isSome_mapSet hsome)), fun _ title hmem => ?_,
      fun hreopen => absurd hreopen hkind⟩
    · rw [noteTitles_other rfl rfl hother, mapGet_mapSet, if_neg hother]
    · obtain rfl : target.title = title := some.inj hmem
      exact hhas
  | none =>
    cases hbound : mapGet d.titleToNumber target.title with
    | some number =>
      have hexecute : executeAction d (createDraft target).action = .ok (⟨false, some number⟩, d) := by
        unfold executeAction executeCreate createDraft
        dsimp only [getD_some]
        rw [hfind]
        dsimp only
        rw [hbound]
      have hhas : HasTitle target.title d := (h.bound _).1 (by rw [hbound]; rfl)
      refine ⟨_, runAction_of_executeAction hexecute, h.noted hhas (fun other hother => ?_)
        (fun hsome => isSome_noteTitles hsome), fun _ title hmem => ?_,
        fun hreopen => absurd hreopen hkind⟩
      · rw [noteTitles_other rfl rfl hother]
      · obtain rfl : target.title = title := some.inj hmem
        exact hhas
    | none =>
      have hfree : titled target.title d.tracker.milestones = [] := by
        rw [titled, filter_eq_nil_iff]
        intro m hm htitle
        have hsome := (h.bound target.title).2 ⟨m, hm, by simpa using htitle⟩
        rw [hbound] at hsome
        cases hsome
      have hexecute := executeAction_create h.copy hfree hbound
      refine ⟨_, runAction_of_executeAction hexecute, h.created (fun other hother => ?_)
        (isSome_noteTitles (by simp)), fun _ title hmem => ?_, fun hreopen => absurd hreopen hkind⟩
      · rw [noteTitles_other rfl rfl hother, mapGet_mapSet, if_neg hother]
      · obtain rfl : target.title = title := some.inj hmem
        exact ⟨_, mem_append_right _ (mem_singleton_self _), rfl⟩

lemma Ready.find (h : Ready stampText shipped t₀ d)
    (hm₀ : m₀ ∈ t₀.milestones) (husable : m₀.state = .open ∨ isReusableClosedEmpty m₀ shipped = true) :
    ∃ m ∈ d.tracker.milestones, d.localMilestone? m₀.number = some m ∧ m.title = m₀.title ∧
      (m.state = .open ∨ isReusableClosedEmpty m shipped = true) := by
  obtain ⟨m, hm, hnumber, htitle, hopen, hreusable⟩ := h.old m₀ hm₀
  have hfind : d.localMilestone? m.number = some m := localMilestone?_eq h.copy (h.copy ▸ hm)
  exact ⟨m, hm, hnumber ▸ hfind, htitle, husable.elim (fun hstate => .inl (hopen hstate)) hreusable⟩

variable {m : MilestoneCatalogEntry}

lemma leaves_reopen (h : Ready stampText shipped t₀ d) (target : ReconciliationTargetMilestone)
    (hm : m ∈ t₀.milestones) (hreusable : isReusableClosedEmpty m shipped = true) :
    ∃ r, runAction d (reopenDraft target m).action = .ok r ∧
      Leaves stampText shipped t₀ (reopenDraft target m).action r.2 := by
  have hkind : (reopenDraft target m).action.kind ≠ .create := by simp [reopenDraft]
  have htitles : ∀ (result : ActionResult) (titles : List (String × Nat)),
      ∀ other, other ≠ m.title → mapGet (noteTitles (reopenDraft target m).action result titles) other =
        mapGet titles other := fun result titles other hother => noteTitles_other rfl rfl hother
  obtain ⟨entry, hentry, hfind, htitle, hstate⟩ := h.find hm (.inr hreusable)
  rcases hstate with hstate | hstate
  · have hexecute : executeAction d (reopenDraft target m).action = .ok (⟨false, some m.number⟩, d) := by
      simp [executeAction, executeReopen, reopenDraft, hfind, not_isShipped_of_open hstate, hstate]
    refine ⟨_, runAction_of_executeAction hexecute, h.noted (h.hasTitle hm) (htitles _ _) isSome_noteTitles,
      fun hcreate => absurd hcreate hkind, fun _ title hmem => ?_⟩
    obtain rfl : m.title = title := some.inj hmem
    exact ⟨entry, hentry, htitle, hstate⟩
  · obtain ⟨hclosed, hshipped⟩ := closed_of_reusable hstate
    have hexecute : executeAction d (reopenDraft target m).action = .ok (⟨true, some m.number⟩,
        { d with tracker := d.tracker.reopenMilestone m.number }.editLocal m.number
          fun m => { m with state := .open }) := by
      simp [executeAction, executeReopen, reopenDraft, hfind, h.shippedTitles, hshipped, hstate, hclosed]
    refine ⟨_, runAction_of_executeAction hexecute, ?_, fun hcreate => absurd hcreate hkind, fun _ title hmem => ?_⟩
    · exact h.edited ⟨rfl, rfl, rfl, rfl, rfl, htitles _ _⟩ rfl (fun _ => ⟨rfl, rfl⟩) (fun _ _ => rfl)
        (fun _ _ => .inl rfl) (fun _ hcl => by cases hcl) (h.hasTitle hm) fun _ => isSome_noteTitles
    · obtain rfl : m.title = title := some.inj hmem
      have hnumber : entry.number = m.number := by simpa using find?_some hfind
      exact ⟨{ entry with state := .open }, mem_map.2 ⟨entry, hentry, if_pos hnumber⟩, htitle, rfl⟩

lemma leaves_describe (h : Ready stampText shipped t₀ d) (target : ReconciliationTargetMilestone)
    (hm : m ∈ t₀.milestones) (htitle : m.title = target.title)
    (husable : m.state = .open ∨ isReusableClosedEmpty m shipped = true) :
    ∃ r, runAction d (descriptionDraft target m).action = .ok r ∧
      Leaves stampText shipped t₀ (descriptionDraft target m).action r.2 := by
  have hcreate : (descriptionDraft target m).action.kind ≠ .create := by simp [descriptionDraft]
  have hreopen : (descriptionDraft target m).action.kind ≠ .reopen := by simp [descriptionDraft]
  have htitles : ∀ (result : ActionResult) (titles : List (String × Nat)),
      ∀ other, other ≠ target.title → mapGet (noteTitles (descriptionDraft target m).action result titles) other =
        mapGet titles other := fun result titles other hother => noteTitles_other rfl rfl hother
  have hhas : HasTitle target.title d := htitle ▸ h.hasTitle hm
  obtain ⟨entry, hentry, hfind, -, hstate⟩ := h.find hm husable
  have hshipped : isShipped entry d.live.shippedTitles = false := by
    rcases hstate with hstate | hstate
    · exact not_isShipped_of_open hstate
    · rw [h.shippedTitles]
      exact (closed_of_reusable hstate).2
  by_cases hsame : entry.description = target.description
  · have hexecute : executeAction d (descriptionDraft target m).action = .ok (⟨false, some m.number⟩, d) := by
      simp [executeAction, executeUpdateDescription, descriptionDraft, hfind, hshipped, hsame]
    exact ⟨_, runAction_of_executeAction hexecute, h.noted hhas (htitles _ _) isSome_noteTitles,
      fun hkind => absurd hkind hcreate, fun hkind => absurd hkind hreopen⟩
  · have hexecute : executeAction d (descriptionDraft target m).action = .ok (⟨true, some m.number⟩,
        { d with tracker := d.tracker.updateMilestone m.number none (some target.description) }.editLocal m.number
          fun m => { m with description := target.description }) := by
      simp [executeAction, executeUpdateDescription, descriptionDraft, hfind, hshipped, hsame]
    refine ⟨_, runAction_of_executeAction hexecute, ?_, fun hkind => absurd hkind hcreate,
      fun hkind => absurd hkind hreopen⟩
    exact h.edited ⟨rfl, rfl, rfl, rfl, rfl, htitles _ _⟩ rfl (fun _ => ⟨rfl, rfl⟩) (fun _ hopen => hopen)
      (fun _ hstays => .inr hstays) (fun _ hclosed => hclosed) hhas fun _ => isSome_noteTitles

variable {targets : List ReconciliationTargetMilestone} {a : ReconciliationAction}

lemma Form.leaves (hform : Form t₀ stampText shipped targets a) (hmoves : a.movesIssue = false)
    (h : Ready stampText shipped t₀ d) : ∃ r, runAction d a = .ok r ∧ Leaves stampText shipped t₀ a r.2 := by
  cases hform with
  | create target => exact leaves_create h target
  | reuse m hm =>
    exact ⟨_, runAction_of_executeAction rfl, h.noted (h.hasTitle hm)
      (fun other hother => noteTitles_other rfl rfl hother) isSome_noteTitles, nofun, nofun⟩
  | reopen target m hm hreusable => exact leaves_reopen h target hm hreusable
  | describe target m hm htitle husable => exact leaves_describe h target hm htitle husable
  | clear => cases hmoves
  | assign => cases hmoves

lemma Change.keeps (hchange : Change t₀ stampText shipped targets d d'.tracker) (title : String) :
    (HasTitle title d → HasTitle title d') ∧ (Opened title d → Opened title d') := by
  unfold HasTitle Opened
  generalize d'.tracker = tracker at hchange
  cases hchange with
  | same => exact ⟨id, id⟩
  | created target =>
    constructor
    · rintro ⟨m, hm, htitle⟩
      exact ⟨m, mem_append_left _ hm, htitle⟩
    · rintro ⟨m, hm, htitle⟩
      exact ⟨m, mem_append_left _ hm, htitle⟩
  | reopened m₀ =>
    constructor
    · rintro ⟨m, hm, htitle⟩
      refine ⟨_, mem_map_of_mem hm, ?_⟩
      split <;> exact htitle
    · rintro ⟨m, hm, htitle, hstate⟩
      refine ⟨_, mem_map_of_mem hm, ?_⟩
      split
      · exact ⟨htitle, rfl⟩
      · exact ⟨htitle, hstate⟩
  | described number text =>
    constructor
    · rintro ⟨m, hm, htitle⟩
      refine ⟨_, mem_map_of_mem hm, ?_⟩
      split <;> exact htitle
    · rintro ⟨m, hm, htitle, hstate⟩
      refine ⟨_, mem_map_of_mem hm, ?_⟩
      split <;> exact ⟨htitle, hstate⟩
  | moved i hi title' hentry hoff tracker hcatalog =>
    constructor
    · rintro ⟨m, hm, htitle⟩
      obtain ⟨m', hm', hplain⟩ := mem_plain hcatalog.symm hm
      exact ⟨m', hm', (plain_eq_iff.1 hplain).2.1.trans htitle⟩
    · rintro ⟨m, hm, htitle, hstate⟩
      obtain ⟨m', hm', hplain⟩ := mem_plain hcatalog.symm hm
      obtain ⟨-, htitle', hstate', -⟩ := plain_eq_iff.1 hplain
      exact ⟨m', hm', htitle'.trans htitle, hstate'.trans hstate⟩

/-! ## The actions of the targets -/

/-- The desk when some actions of the targets are done. -/
structure Reached (stampText : Nat → String) (shipped : List String) (t₀ : Tracker)
    (done : List ReconciliationAction) (d : Desk) : Prop where
  ready : Ready stampText shipped t₀ d
  created : ∀ a ∈ done, a.kind = .create → ∀ title ∈ a.milestoneTitle, HasTitle title d
  reopened : ∀ a ∈ done, a.kind = .reopen → ∀ title ∈ a.milestoneTitle, Opened title d

variable {specs : List MilestoneSpec} {manifest : ReconciliationManifest} {done : List ReconciliationAction}

lemma Reached.step (h : Preview stampText shipped t₀ specs manifest)
    (hd : Reached stampText shipped t₀ done d) (ha : a ∈ manifest.actions) (hmoves : a.movesIssue = false) :
    ∃ r, runAction d a = .ok r ∧ Reached stampText shipped t₀ (done ++ [a]) r.2 := by
  obtain ⟨r, hrun, hready, hcreated, hreopened⟩ := (h.form ha).leaves hmoves hd.ready
  have hrun := runAction_blank.1 hrun
  have hkeeps := (h.change ha hrun).1.keeps
  refine ⟨r, hrun, hready, fun b hb hkind title htitle => ?_, fun b hb hkind title htitle => ?_⟩
  · rcases mem_append.1 hb with hb | hb
    · exact (hkeeps title).1 (hd.created b hb hkind title htitle)
    · rw [mem_singleton.1 hb] at hkind htitle
      exact hcreated hkind title htitle
  · rcases mem_append.1 hb with hb | hb
    · exact (hkeeps title).2 (hd.reopened b hb hkind title htitle)
    · rw [mem_singleton.1 hb] at hkind htitle
      exact hreopened hkind title htitle

variable {as : List ReconciliationAction}

lemma Reached.run (h : Preview stampText shipped t₀ specs manifest)
    (hd : Reached stampText shipped t₀ done d) (has : ∀ a ∈ as, a ∈ manifest.actions ∧ a.movesIssue = false) :
    ∃ d', runAll as d = .ok d' ∧ Reached stampText shipped t₀ (done ++ as) d' := by
  induction as generalizing done d with
  | nil => exact ⟨d, rfl, by simpa using hd⟩
  | cons a as ih =>
    obtain ⟨r, hrun, hstep⟩ := hd.step h (has a mem_cons_self).1 (has a mem_cons_self).2
    obtain ⟨d', hrest, hafter⟩ := ih hstep fun b hb => has b (mem_cons_of_mem _ hb)
    refine ⟨d', ?_, by simpa using hafter⟩
    rw [runAll, hrun]
    exact hrest

/-! ## The actions of the issues -/

/-- An assigned title has an open milestone, or one that is opened again, or is created. -/
def Assignable (shipped : List String) (t : Tracker) (actions : List ReconciliationAction) : Prop :=
  ∀ a ∈ actions, a.kind = .assign → ∀ title ∈ a.milestoneTitle, title ≠ "" ∧
    ((∃ m ∈ t.milestones, m.title = title ∧ (m.state = .open ∨ isReusableClosedEmpty m shipped = true)) ∨
      ∀ m ∈ t.milestones, m.title ≠ title)

lemma run_issueAction (hform : Form t₀ stampText shipped targets a) (hmoves : a.movesIssue = true)
    (hopen : a.kind = .assign → ∀ title ∈ a.milestoneTitle, title ≠ "" ∧ Opened title d) :
    ∃ r, runAction d a = .ok r := by
  have hexecute : ∃ r, executeAction d a = .ok r := by
    cases hform with
    | create => cases hmoves
    | reuse => cases hmoves
    | reopen => cases hmoves
    | describe => cases hmoves
    | clear i hi title liveTitle =>
      unfold executeAction executeClearStale clearDraft
      dsimp only
      split <;> exact ⟨_, rfl⟩
    | assign i hi title bound =>
      obtain ⟨hne, m, hm, htitle, hstate⟩ := hopen rfl title rfl
      obtain ⟨m', hm', hplain⟩ := mem_plain (plain_uncount d.tracker i.number).symm hm
      obtain ⟨-, htitle', hstate', -⟩ := plain_eq_iff.1 hplain
      obtain ⟨tracker, hassign⟩ := assignIssueMilestone_ok hm' (htitle'.trans htitle) (hstate'.trans hstate)
      simp only [executeAction, executeAssign, assignDraft, Option.filter, hne, ne_eq, not_false_eq_true,
        decide_true, if_true, hassign, Except.map]
      split <;> exact ⟨_, rfl⟩
  obtain ⟨r, hexecute⟩ := hexecute
  exact ⟨_, runAction_of_executeAction hexecute⟩

variable (h : Preview stampText shipped t₀ specs manifest)
include h

lemma runAll_issueActions (has : ∀ a ∈ as, a ∈ manifest.actions ∧ a.movesIssue = true)
    (hopen : ∀ a ∈ as, a.kind = .assign → ∀ title ∈ a.milestoneTitle, title ≠ "" ∧ Opened title d) :
    ∃ d', runAll as d = .ok d' := by
  induction as generalizing d with
  | nil => exact ⟨d, rfl⟩
  | cons a as ih =>
    obtain ⟨ha, hmoves⟩ := has a mem_cons_self
    obtain ⟨r, hrun⟩ := run_issueAction (h.form ha) hmoves (hopen a mem_cons_self)
    have hrun := runAction_blank.1 hrun
    obtain ⟨d', hrest⟩ := ih (fun b hb => has b (mem_cons_of_mem _ hb)) fun b hb hkind title htitle => by
      obtain ⟨hne, hopened⟩ := hopen b (mem_cons_of_mem _ hb) hkind title htitle
      exact ⟨hne, ((h.change ha hrun).1.keeps title).2 hopened⟩
    refine ⟨d', ?_⟩
    rw [runAll, hrun]
    exact hrest

lemma Preview.assign_form (ha : a ∈ manifest.actions) (hkind : a.kind = .assign) (htitle : title ∈ a.milestoneTitle) :
    ∃ (i : TrackerIssue) (bound : Option Nat), i ∈ t₀.issues ∧ (i.number, title) ∈ memberTitles manifest.targets ∧
      (t₀.snapshotIssue stampText i).milestoneTitle ≠ some title ∧
      a.blank = (assignDraft title bound i.number).action := by
  have hform := h.form ha
  have hkind : a.blank.kind = .assign := hkind
  have htitle : title ∈ a.blank.milestoneTitle := htitle
  generalize a.blank = action at hform hkind htitle
  cases hform with
  | create => cases hkind
  | reuse => cases hkind
  | reopen => cases hkind
  | describe => cases hkind
  | clear => cases hkind
  | assign i hi other bound hentry hoff =>
    obtain rfl : other = title := some.inj htitle
    exact ⟨i, bound, hi, hentry, hoff, rfl⟩

lemma opened_of_assignable
    (hassignable : Assignable shipped t₀ manifest.actions) (hd : Reached stampText shipped t₀ done d)
    (hdone : ∀ a ∈ manifest.actions, a.movesIssue = false → a ∈ done)
    (ha : a ∈ manifest.actions) (hkind : a.kind = .assign) (htitle : title ∈ a.milestoneTitle) :
    title ≠ "" ∧ Opened title d := by
  obtain ⟨hne, hassign⟩ := hassignable a ha hkind title htitle
  refine ⟨hne, ?_⟩
  obtain ⟨i, _, -, hentry, -⟩ := h.assign_form ha hkind htitle
  obtain ⟨target, htarget, -, rfl⟩ := mem_memberTitles.1 hentry
  obtain ⟨draftsOf, boundOf, hbinding, hactions⟩ := h.planned
  have hbound : Binding t₀.milestones shipped target (draftsOf target) target.number := hbinding target htarget
  -- each draft of the target was carried out
  have hcarried : ∀ draft ∈ draftsOf target, draft.action.movesIssue = false →
      ∃ a ∈ done, a.kind = draft.action.kind ∧ a.milestoneTitle = draft.action.milestoneTitle := by
    intro draft hdraft hmoves
    have hmem : draft.action ∈ manifest.actions.map (·.blank) := by
      rw [hactions]
      exact mem_map_of_mem (mem_append_left _ (mem_flatMap.2 ⟨target, htarget, hdraft⟩))
    obtain ⟨b, hb, hblank⟩ := mem_map.1 hmem
    have hkind' : b.kind = draft.action.kind := congrArg (·.kind) hblank
    refine ⟨b, hdone b hb ?_, hkind', congrArg (·.milestoneTitle) hblank⟩
    rw [← hmoves]
    simp only [ReconciliationAction.movesIssue, hkind']
  generalize draftsOf target = drafts at hbound hcarried
  generalize target.number = number at hbound
  cases hbound with
  | free _ hclosed hnone =>
    obtain ⟨b, hb, hkind', htitle'⟩ := hcarried _ (mem_singleton_self _) rfl
    obtain ⟨m, hm, hsame⟩ := hd.created b hb hkind' target.title htitle'
    refine ⟨m, hm, hsame, ?_⟩
    cases hstate : m.state with
    | «open» => rfl
    | closed =>
      obtain ⟨m₀, hm₀, htitle₀⟩ := hd.ready.fresh m hm hstate
      have htitled : m₀.title = target.title := htitle₀.trans hsame
      rcases hassign with ⟨m', hm', hm'title, hopen | hreusable⟩ | hfree
      · rw [hclosed m' hm' hm'title] at hopen
        cases hopen
      · rw [hnone m' hm' hm'title] at hreusable
        cases hreusable
      · exact absurd htitled (hfree m₀ hm₀)
  | isOpen m hm _ hsame hstate =>
    obtain ⟨m', hm', -, htitle', hopen, -⟩ := hd.ready.old m hm
    exact ⟨m', hm', htitle'.trans hsame, hopen hstate⟩
  | isClosed m hm _ hsame =>
    obtain ⟨b, hb, hkind', htitle'⟩ := hcarried _ mem_cons_self rfl
    exact hsame ▸ hd.reopened b hb hkind' m.title htitle'

lemma runAll_of_ready (hassignable : Assignable shipped t₀ manifest.actions) {pending : List ReconciliationAction}
    (hsplit : manifest.actions = done ++ pending) (hmoves : ∀ a ∈ done, a.movesIssue = false)
    (hd : Reached stampText shipped t₀ done d) : ∃ d', runAll pending d = .ok d' := by
  obtain ⟨before, after, hsorted, hbefore, hafter⟩ := h.sorted
  obtain ⟨middle, hpending, hmiddle⟩ : ∃ middle, pending = middle ++ after ∧ before = done ++ middle := by
    rw [hsplit] at hsorted
    rcases append_eq_append_iff.1 hsorted with ⟨middle, hbefore', hpending⟩ | ⟨extra, hdone, hafter'⟩
    · exact ⟨middle, hpending, hbefore'⟩
    · -- an action of an issue would be done
      cases extra with
      | nil => exact ⟨[], by simpa using hafter'.symm, by simpa using hdone.symm⟩
      | cons a extra =>
        have hmem : a ∈ after := by
          rw [hafter']
          simp
        have hfalse := hmoves a (by rw [hdone]; simp)
        rw [(hafter a hmem).2] at hfalse
        cases hfalse
  have hall : ∀ a ∈ before, a ∈ manifest.actions := fun a ha => by
    rw [hsorted]
    exact mem_append_left _ ha
  have hmiddleActions : ∀ a ∈ middle, a ∈ manifest.actions ∧ a.movesIssue = false := by
    intro a ha
    have hmem : a ∈ before := by
      rw [hmiddle]
      exact mem_append_right _ ha
    exact ⟨hall a hmem, (hbefore a hmem).2⟩
  obtain ⟨d₁, hrun₁, hreached⟩ := hd.run h hmiddleActions
  rw [← hmiddle] at hreached
  have hdone : ∀ a ∈ manifest.actions, a.movesIssue = false → a ∈ before := by
    intro a ha hfalse
    rw [hsorted] at ha
    rcases mem_append.1 ha with ha | ha
    · exact ha
    · rw [(hafter a ha).2] at hfalse
      cases hfalse
  have hafterActions : ∀ a ∈ after, a ∈ manifest.actions ∧ a.movesIssue = true := by
    intro a ha
    refine ⟨?_, (hafter a ha).2⟩
    rw [hsorted]
    exact mem_append_right _ ha
  obtain ⟨d₂, hrun₂⟩ := runAll_issueActions h hafterActions fun a ha hkind title htitle =>
    opened_of_assignable h hassignable hreached hdone (hafterActions a ha).1 hkind htitle
  refine ⟨d₂, ?_⟩
  rw [hpending, runAll_append hrun₁]
  exact hrun₂

end AgentPipeline.Roadmap
