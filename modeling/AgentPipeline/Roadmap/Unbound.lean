import AgentPipeline.Roadmap.Settled

/-!
# Unbound: what keeps a run from settling the tracker

* `Form`, `Change`: an action of a reviewed manifest, and what it can do to the tracker;
* `Unopened`, `Stuck`: a title that stays without an open milestone, and an issue that stays on a closed one;
* `converges_iff`: a call settles the tracker just when the plan is bindable.
-/

namespace AgentPipeline.Roadmap

open List

/-! ## The actions of a plan -/

/-- An action of a plan, without its id. -/
inductive Form (t : Tracker) (stampText : Nat → String) (shipped : List String)
    (targets : List ReconciliationTargetMilestone) : ReconciliationAction → Prop
  | create (target : ReconciliationTargetMilestone) (htarget : target ∈ targets)
      (hbusy : ∀ m ∈ t.milestones, m.title = target.title →
        m.state = .closed ∧ isReusableClosedEmpty m shipped = false) :
      Form t stampText shipped targets (createDraft target).action
  | reuse (m : MilestoneCatalogEntry) (hm : m ∈ t.milestones) :
      Form t stampText shipped targets (reuseDraft m).action
  | reopen (target : ReconciliationTargetMilestone) (m : MilestoneCatalogEntry) (hm : m ∈ t.milestones)
      (hreusable : isReusableClosedEmpty m shipped = true)
      (hclosed : ∀ m' ∈ t.milestones, m'.title = m.title → m'.state = .closed) :
      Form t stampText shipped targets (reopenDraft target m).action
  | describe (target : ReconciliationTargetMilestone) (m : MilestoneCatalogEntry) (hm : m ∈ t.milestones)
      (htitle : m.title = target.title) (husable : m.state = .open ∨ isReusableClosedEmpty m shipped = true) :
      Form t stampText shipped targets (descriptionDraft target m).action
  | clear (i : TrackerIssue) (hi : i ∈ t.issues) (title liveTitle : String)
      (hentry : (i.number, title) ∈ memberTitles targets)
      (hlive : (t.snapshotIssue stampText i).milestoneTitle = some liveTitle) (hoff : liveTitle ≠ title)
      (hne : liveTitle ≠ "") :
      Form t stampText shipped targets (clearDraft title liveTitle (t.snapshotIssue stampText i)).action
  | assign (i : TrackerIssue) (hi : i ∈ t.issues) (title : String) (bound : Option Nat)
      (hentry : (i.number, title) ∈ memberTitles targets)
      (hoff : (t.snapshotIssue stampText i).milestoneTitle ≠ some title) :
      Form t stampText shipped targets (assignDraft title bound i.number).action

/-- The action moves an issue. -/
def ReconciliationAction.movesIssue (a : ReconciliationAction) : Bool :=
  a.kind = .clearStale || a.kind = .assign

variable {a : ReconciliationAction}

section Plans

variable {stampText : Nat → String} {shipped : List String} {t : Tracker} {specs : List MilestoneSpec}
  {manifest : ReconciliationManifest}

variable {draft : Draft}

lemma form_of_target {targets : List ReconciliationTargetMilestone} {target : ReconciliationTargetMilestone}
    (htarget : target ∈ targets) {drafts : List Draft} {number : Option Nat}
    (hbinding : Binding t.milestones shipped target drafts number) (hdraft : draft ∈ drafts) :
    Form t stampText shipped targets draft.action ∧ draft.action.movesIssue = false := by
  have hdescription : ∀ m ∈ t.milestones, m.title = target.title →
      (m.state = .open ∨ isReusableClosedEmpty m shipped = true) → draft ∈ descriptionDrafts target m →
      Form t stampText shipped targets draft.action ∧ draft.action.movesIssue = false := by
    intro m hm htitle husable hmem
    unfold descriptionDrafts at hmem
    split at hmem
    · rw [mem_singleton.1 hmem]
      exact ⟨.describe target m hm htitle husable, rfl⟩
    · cases hmem
  cases hbinding with
  | free _ hclosed hnone =>
    rw [mem_singleton.1 hdraft]
    exact ⟨.create target htarget fun m hm htitle => ⟨hclosed m hm htitle, hnone m hm htitle⟩, rfl⟩
  | isOpen m hm _ htitle hstate =>
    rcases mem_cons.1 hdraft with rfl | hdraft
    · exact ⟨.reuse m hm, rfl⟩
    · exact hdescription m hm htitle (.inl hstate) hdraft
  | isClosed m hm _ htitle hreusable hclosed =>
    rcases mem_cons.1 hdraft with rfl | hdraft
    · exact ⟨.reopen target m hm hreusable fun m' hm' htitle' => hclosed m' hm' (htitle'.trans htitle), rfl⟩
    · exact hdescription m hm htitle (.inr hreusable) hdraft

variable (h : Preview stampText shipped t specs manifest)
include h

lemma Preview.form_of_issue {boundOf : String → Option Nat}
    (hdraft : draft ∈ issuePlan (t.snapshot stampText shipped) manifest.targets boundOf) :
    Form t stampText shipped manifest.targets draft.action ∧ draft.action.movesIssue = true := by
  rw [issuePlan, h.issueTargets] at hdraft
  obtain ⟨⟨n, title⟩, hentry, hdraft⟩ := mem_flatMap.1 hdraft
  obtain ⟨target, htarget, hn, -⟩ := mem_memberTitles.1 hentry
  obtain ⟨i, hi, rfl⟩ := mem_map.1 (h.listedOpen target htarget n hn)
  simp only [find?_snapshot hi] at hdraft
  by_cases hoff : (t.snapshotIssue stampText i).milestoneTitle = some title
  · rw [issueDrafts, if_pos hoff] at hdraft
    cases hdraft
  · rw [issueDrafts_eq hoff] at hdraft
    rcases mem_append.1 hdraft with hdraft | hdraft
    · unfold clearDrafts at hdraft
      split at hdraft
      · cases hdraft
      · next liveTitle hlive =>
        split at hdraft
        · cases hdraft
        · next hne =>
          rw [mem_singleton.1 hdraft]
          have hother : liveTitle ≠ title := by
            rintro rfl
            exact hoff hlive
          exact ⟨.clear i hi title liveTitle hentry hlive hother hne, rfl⟩
    · rw [mem_singleton.1 hdraft]
      exact ⟨.assign i hi title _ hentry hoff, rfl⟩

lemma Preview.sorted : ∃ before after, manifest.actions = before ++ after ∧
      (∀ a ∈ before, Form t stampText shipped manifest.targets a.blank ∧ a.movesIssue = false) ∧
      ∀ a ∈ after, Form t stampText shipped manifest.targets a.blank ∧ a.movesIssue = true := by
  obtain ⟨draftsOf, boundOf, hbinding, hactions⟩ := h.planned
  rw [map_append] at hactions
  obtain ⟨before, after, hsplit, hbefore, hafter⟩ := map_eq_append_iff.1 hactions
  refine ⟨before, after, hsplit, fun a ha => ?_, fun a ha => ?_⟩
  · have hmem : a.blank ∈ (manifest.targets.flatMap draftsOf).map (·.action) := hbefore ▸ mem_map_of_mem ha
    obtain ⟨draft, hdraft, haction⟩ := mem_map.1 hmem
    obtain ⟨target, htarget, hdraft⟩ := mem_flatMap.1 hdraft
    have hform : Form _ stampText _ _ draft.action ∧ _ := form_of_target htarget (hbinding target htarget) hdraft
    rw [haction] at hform
    exact hform
  · have hmem : a.blank ∈ (issuePlan (t.snapshot stampText shipped) manifest.targets boundOf).map (·.action) :=
      hafter ▸ mem_map_of_mem ha
    obtain ⟨draft, hdraft, haction⟩ := mem_map.1 hmem
    have hform := h.form_of_issue hdraft
    rw [haction] at hform
    exact hform

lemma Preview.form (ha : a ∈ manifest.actions) : Form t stampText shipped manifest.targets a.blank := by
  obtain ⟨before, after, hsplit, hbefore, hafter⟩ := h.sorted
  rw [hsplit] at ha
  rcases mem_append.1 ha with ha | ha
  · exact (hbefore a ha).1
  · exact (hafter a ha).1

end Plans

/-! ## One action -/

/-- What an action does to the tracker. -/
inductive Change (t₀ : Tracker) (stampText : Nat → String) (shipped : List String)
    (targets : List ReconciliationTargetMilestone) (d : Desk) : Tracker → Prop
  | same : Change t₀ stampText shipped targets d d.tracker
  | created (target : ReconciliationTargetMilestone) (htarget : target ∈ targets)
      (hunbound : mapGet d.titleToNumber target.title = none) :
      Change t₀ stampText shipped targets d (d.tracker.createMilestone target.title target.description)
  | reopened (m : MilestoneCatalogEntry) (hm : m ∈ t₀.milestones)
      (hreusable : isReusableClosedEmpty m shipped = true)
      (hclosed : ∀ m' ∈ t₀.milestones, m'.title = m.title → m'.state = .closed) :
      Change t₀ stampText shipped targets d (d.tracker.reopenMilestone m.number)
  | described (number : Nat) (text : String) :
      Change t₀ stampText shipped targets d (d.tracker.updateMilestone number none (some text))
  | moved (i : TrackerIssue) (hi : i ∈ t₀.issues) (title : String)
      (hentry : (i.number, title) ∈ memberTitles targets)
      (hoff : (t₀.snapshotIssue stampText i).milestoneTitle ≠ some title) (tracker : Tracker)
      (hcatalog : tracker.milestones.map plain = d.tracker.milestones.map plain)
      (hothers : ∀ i' ∈ tracker.issues, i'.number ≠ i.number → i' ∈ d.tracker.issues)
      (hnext : tracker.next = d.tracker.next) :
      Change t₀ stampText shipped targets d tracker

/-- A title that is bound stays bound. -/
def KeepsTitles (d d' : Desk) : Prop :=
  ∀ title, (mapGet d.titleToNumber title).isSome = true → (mapGet d'.titleToNumber title).isSome = true

variable {title : String} {titles : List (String × Nat)}

lemma isSome_mapSet {key : String} {number : Nat}
    (h : (mapGet titles title).isSome = true) : (mapGet (mapSet key number titles) title).isSome = true := by
  rw [mapGet_mapSet]
  split
  · rfl
  · exact h

variable {action : ReconciliationAction}

lemma isSome_noteTitles {result : ActionResult} (h : (mapGet titles title).isSome = true) :
    (mapGet (noteTitles action result titles) title).isSome = true := by
  unfold noteTitles
  split
  · split
    · exact isSome_mapSet (isSome_mapSet h)
    · exact isSome_mapSet h
  · exact h

variable {r : ActionResult × Desk}

lemma runAction_ok {d : Desk} (h : runAction d action = .ok r) : ∃ d', executeAction d action = .ok (r.1, d') ∧
      r.2.tracker = d'.tracker ∧ (KeepsTitles d d' → KeepsTitles d r.2) := by
  unfold runAction at h
  cases hexecute : executeAction d action with
  | error message => simp [hexecute, Except.map] at h
  | ok r' =>
    rw [hexecute] at h
    cases h
    exact ⟨r'.2, rfl, rfl, fun hkeeps title htitle => isSome_noteTitles (hkeeps title htitle)⟩

variable {m : MilestoneCatalogEntry} {i : TrackerIssue} {issueNumber : Nat}

section Steps

variable {t₀ : Tracker} {stampText : Nat → String} {shipped : List String}
  {targets : List ReconciliationTargetMilestone} {d d' : Desk} {result : ActionResult}

lemma change_create {target : ReconciliationTargetMilestone} (htarget : target ∈ targets)
    (h : executeAction d (createDraft target).action = .ok (result, d')) :
    Change t₀ stampText shipped targets d d'.tracker ∧ KeepsTitles d d' := by
  unfold executeAction executeCreate createDraft at h
  dsimp only [Option.getD_some] at h
  split at h
  · cases h
    exact ⟨.same, fun _ => isSome_mapSet⟩
  · split at h
    · cases h
      exact ⟨.same, fun _ => id⟩
    · next hunbound =>
      cases h
      exact ⟨.created target htarget hunbound, fun _ => isSome_mapSet⟩

lemma change_reopen {target : ReconciliationTargetMilestone}
    (hm : m ∈ t₀.milestones) (hreusable : isReusableClosedEmpty m shipped = true)
    (hclosed : ∀ m' ∈ t₀.milestones, m'.title = m.title → m'.state = .closed)
    (h : executeAction d (reopenDraft target m).action = .ok (result, d')) :
    Change t₀ stampText shipped targets d d'.tracker ∧ KeepsTitles d d' := by
  unfold executeAction executeReopen reopenDraft at h
  dsimp only at h
  split at h
  · cases h
  split at h
  · cases h
  split at h
  · cases h
    exact ⟨.same, fun _ => id⟩
  · cases h
    exact ⟨.reopened m hm hreusable hclosed, fun _ => id⟩

lemma change_description {target : ReconciliationTargetMilestone}
    (h : executeAction d (descriptionDraft target m).action = .ok (result, d')) :
    Change t₀ stampText shipped targets d d'.tracker ∧ KeepsTitles d d' := by
  unfold executeAction executeUpdateDescription descriptionDraft at h
  dsimp only at h
  split at h
  · cases h
  split at h
  · cases h
    exact ⟨.same, fun _ => id⟩
  · cases h
    exact ⟨.described m.number _, fun _ => id⟩

lemma change_clear (hi : i ∈ t₀.issues) {liveTitle : String} (hentry : (i.number, title) ∈ memberTitles targets)
    (hoff : (t₀.snapshotIssue stampText i).milestoneTitle ≠ some title)
    (h : executeAction d (clearDraft title liveTitle (t₀.snapshotIssue stampText i)).action = .ok (result, d')) :
    Change t₀ stampText shipped targets d d'.tracker ∧ KeepsTitles d d' := by
  unfold executeAction executeClearStale clearDraft at h
  dsimp only at h
  split at h
  · cases h
    exact ⟨.same, fun _ => id⟩
  · cases h
    exact ⟨.moved i hi title hentry hoff _ (plain_uncount d.tracker i.number)
      (clearIssueMilestone_issues d.tracker i.number).2 (uncount_next d.tracker i.number), fun _ => id⟩

variable {bound : Option Nat}

lemma assign_title
    (h : executeAction d (assignDraft title bound issueNumber).action = .ok (result, d')) : title ≠ "" := by
  rintro rfl
  simp [executeAction, executeAssign, assignDraft, Option.filter] at h

lemma change_assign (hi : i ∈ t₀.issues) (hentry : (i.number, title) ∈ memberTitles targets)
    (hoff : (t₀.snapshotIssue stampText i).milestoneTitle ≠ some title)
    (h : executeAction d (assignDraft title bound i.number).action = .ok (result, d')) :
    Change t₀ stampText shipped targets d d'.tracker ∧ KeepsTitles d d' := by
  have hne := assign_title h
  simp only [executeAction, executeAssign, assignDraft, Option.filter, hne, ne_eq, not_false_eq_true,
    decide_true, if_true] at h
  split at h
  · cases h
    exact ⟨.same, fun _ => id⟩
  · cases hassign : d.tracker.assignIssueMilestone i.number title with
    | error message => simp [hassign, Except.map] at h
    | ok tracker =>
      rw [hassign] at h
      cases h
      obtain ⟨m, -, -, -, hplain, -, hothers, hnext⟩ := assignIssueMilestone_spec hassign
      exact ⟨.moved i hi title hentry hoff _ hplain (fun i' hi' => (hothers i' hi').1) hnext, fun _ => id⟩

end Steps

section Actions

variable {stampText : Nat → String} {shipped : List String} {t : Tracker} {specs : List MilestoneSpec}
  {manifest : ReconciliationManifest}

lemma Preview.change (h : Preview stampText shipped t specs manifest)
    (ha : a ∈ manifest.actions) {d : Desk} (hrun : runAction d a = .ok r) :
    Change t stampText shipped manifest.targets d r.2.tracker ∧ KeepsTitles d r.2 := by
  obtain ⟨d', hexecute, htracker, hkeeps⟩ := runAction_ok (runAction_blank.2 hrun)
  rw [htracker]
  refine (?_ : Change t stampText shipped manifest.targets d d'.tracker ∧ KeepsTitles d d').imp_right hkeeps
  have hform := h.form ha
  revert hexecute
  generalize a.blank = action at hform
  intro hexecute
  cases hform with
  | create target htarget => exact change_create htarget hexecute
  | reuse m =>
    obtain rfl : d = d' := congrArg Prod.snd (Except.ok.inj hexecute)
    exact ⟨.same, fun _ => id⟩
  | reopen target m hm hreusable hclosed => exact change_reopen hm hreusable hclosed hexecute
  | describe target m => exact change_description hexecute
  | clear i hi title liveTitle hentry hlive hoff hne =>
    have hother : (t.snapshotIssue stampText i).milestoneTitle ≠ some title := by
      rw [hlive]
      exact fun hsame => hoff (Option.some.inj hsame)
    exact change_clear hi hentry hother hexecute
  | assign i hi title bound hentry hoff => exact change_assign hi hentry hoff hexecute

variable {targets : List ReconciliationTargetMilestone}

/-- A milestone after an action is a created one, or one from before: it keeps its number and its title, and its
state unless it is opened again. -/
lemma Change.milestones {d : Desk} {tracker : Tracker}
    (h : Change t stampText shipped targets d tracker) : d.tracker.next ≤ tracker.next ∧ ∀ x ∈ tracker.milestones,
      (x.number = d.tracker.next ∧ mapGet d.titleToNumber x.title = none) ∨
      ∃ y ∈ d.tracker.milestones, y.number = x.number ∧ y.title = x.title ∧ (y.state = x.state ∨
        ∃ m ∈ t.milestones, m.number = x.number ∧ isReusableClosedEmpty m shipped = true ∧
          ∀ m' ∈ t.milestones, m'.title = m.title → m'.state = .closed) := by
  cases h with
  | same => exact ⟨Nat.le_refl _, fun x hx => .inr ⟨x, hx, rfl, rfl, .inl rfl⟩⟩
  | created target htarget hunbound =>
    refine ⟨Nat.le_succ _, fun x hx => ?_⟩
    rcases mem_append.1 hx with hx | hx
    · exact .inr ⟨x, hx, rfl, rfl, .inl rfl⟩
    · rw [mem_singleton.1 hx]
      exact .inl ⟨rfl, hunbound⟩
  | reopened m hm hreusable hclosed =>
    refine ⟨Nat.le_refl _, fun x hx => ?_⟩
    obtain ⟨y, hy, rfl⟩ := mem_map.1 hx
    refine .inr ⟨y, hy, ?_⟩
    split
    · next hsame => exact ⟨rfl, rfl, .inr ⟨m, hm, hsame.symm, hreusable, hclosed⟩⟩
    · exact ⟨rfl, rfl, .inl rfl⟩
  | described number text =>
    refine ⟨Nat.le_refl _, fun x hx => ?_⟩
    obtain ⟨y, hy, rfl⟩ := mem_map.1 hx
    refine .inr ⟨y, hy, ?_⟩
    split <;> exact ⟨rfl, rfl, .inl rfl⟩
  | moved i hi title hentry hoff tracker hcatalog hothers hnext =>
    refine ⟨Nat.le_of_eq hnext.symm, fun x hx => ?_⟩
    obtain ⟨y, hy, hplain⟩ := mem_plain hcatalog hx
    obtain ⟨hnumber, htitle, hstate, -⟩ := plain_eq_iff.1 hplain
    exact .inr ⟨y, hy, hnumber, htitle, .inl hstate⟩

/-! ## A title without an open milestone -/

/-- The title is bound, so that it is not created, and none of its milestones is open. -/
structure Unopened (t₀ : Tracker) (title : String) (d : Desk) : Prop where
  bound : (mapGet d.titleToNumber title).isSome = true
  closed : ∀ m ∈ d.tracker.milestones, m.title = title → m.state = .closed
  titles : ∀ m ∈ d.tracker.milestones, ∀ m₀ ∈ t₀.milestones, m.number = m₀.number → m.title = m₀.title
  next : t₀.next ≤ d.tracker.next

lemma Unopened.change {d d' : Desk} (h : Unopened t title d) (hkeeps : KeepsTitles d d')
    (hbusy : ∀ m ∈ t.milestones, m.title = title → isReusableClosedEmpty m shipped = false)
    (hchange : Change t stampText shipped targets d d'.tracker) : Unopened t title d' := by
  obtain ⟨hnext, hms⟩ := hchange.milestones
  refine ⟨hkeeps title h.bound, fun x hx htitle => ?_, fun x hx m₀ hm₀ hnumber => ?_, h.next.trans hnext⟩
  · rcases hms x hx with ⟨-, hunbound⟩ | ⟨y, hy, hnumber, htitle', hstate | ⟨m, hm, hm', hreusable, -⟩⟩
    · have hbound := h.bound
      rw [← htitle, hunbound] at hbound
      cases hbound
    · exact hstate ▸ h.closed y hy (htitle'.trans htitle)
    · have hsame := h.titles y hy m hm (hnumber.trans hm'.symm)
      rw [hbusy m hm (hsame.symm.trans (htitle'.trans htitle))] at hreusable
      cases hreusable
  · rcases hms x hx with ⟨hfresh, -⟩ | ⟨y, hy, hnumber', htitle', -⟩
    · exact absurd (hfresh.symm.trans hnumber) (Nat.ne_of_gt ((t.fresh m₀ hm₀).trans_le h.next))
    · exact htitle'.symm.trans (h.titles y hy m₀ hm₀ (hnumber'.trans hnumber))

/-! ## An issue on a closed milestone -/

/-- The milestone stays closed and the issue stays on it. -/
structure Stuck (t₀ : Tracker) (issueNumber milestoneNumber : Nat) (d : Desk) : Prop where
  closed : ∀ m ∈ d.tracker.milestones, m.number = milestoneNumber → m.state = .closed
  on : ∀ i ∈ d.tracker.issues, i.number = issueNumber → i.milestone = some milestoneNumber
  next : t₀.next ≤ d.tracker.next

lemma Stuck.change {m₀ : MilestoneCatalogEntry} {d d' : Desk}
    (h : Stuck t issueNumber m₀.number d) (hm₀ : m₀ ∈ t.milestones)
    (hshut : ¬(isReusableClosedEmpty m₀ shipped = true ∧ ∀ m' ∈ t.milestones, m'.title = m₀.title → m'.state = .closed))
    (hstays : ∀ i ∈ t.issues, i.number = issueNumber → ∀ title, (i.number, title) ∈ memberTitles targets →
      (t.snapshotIssue stampText i).milestoneTitle = some title)
    (hchange : Change t stampText shipped targets d d'.tracker) : Stuck t issueNumber m₀.number d' := by
  obtain ⟨hnext, hms⟩ := hchange.milestones
  refine ⟨fun x hx hnumber => ?_, ?_, h.next.trans hnext⟩
  · rcases hms x hx with ⟨hfresh, -⟩ | ⟨y, hy, hnumber', -, hstate | ⟨m, hm, hm', hreusable, hclosed⟩⟩
    · exact absurd (hfresh.symm.trans hnumber) (Nat.ne_of_gt ((t.fresh m₀ hm₀).trans_le h.next))
    · exact hstate ▸ h.closed y hy (hnumber'.trans hnumber)
    · obtain rfl := inj_on_of_nodup_map t.numbered hm hm₀ (hm'.trans hnumber)
      exact absurd ⟨hreusable, hclosed⟩ hshut
  · generalize d'.tracker = tracker at hchange
    cases hchange with
    | moved i hi title hentry hoff tracker hcatalog hothers =>
      have hother : i.number ≠ issueNumber := fun hsame => hoff (hstays i hi hsame title hentry)
      exact fun i' hi' hnumber => h.on i' (hothers i' hi' (hnumber ▸ Ne.symm hother)) hnumber
    | _ => exact h.on

/-! ## What a settled tracker says of the plan -/

lemma startingTitles_bound {live : ReconcileLiveState} (hm : m ∈ live.milestones) :
    (mapGet (startingTitles live []) m.title).isSome = true := by
  have hfold : ∀ (entries map : List (String × Nat)),
      ((mapGet map m.title).isSome = true ∨ ∃ entry ∈ entries, entry.1 = m.title) →
      (mapGet (entries.foldl (fun map entry => mapSet entry.1 entry.2 map) map) m.title).isSome = true := by
    intro entries
    induction entries with
    | nil =>
      rintro map (hmap | ⟨entry, hentry, -⟩)
      · exact hmap
      · cases hentry
    | cons entry entries ih =>
      intro map hmap
      refine ih _ ?_
      rcases hmap with hmap | ⟨entry', hentry', htitle⟩
      · exact .inl (isSome_mapSet hmap)
      · rcases mem_cons.1 hentry' with rfl | hentry'
        · left
          rw [mapGet_mapSet, if_pos htitle.symm]
          rfl
        · exact .inr ⟨entry', hentry', htitle⟩
  exact hfold _ [] (.inr ⟨(m.title, m.number), mem_map_of_mem (f := fun m => (m.title, m.number)) hm, rfl⟩)

variable {spec : MilestoneSpec} (h : Preview stampText shipped t specs manifest)
include h

lemma free_of_settled {d : Desk} (hrun : runAll manifest.actions (firstDesk stampText shipped t) = .ok d)
    (hnamed : ∀ target ∈ manifest.targets, Named target d.tracker.milestones)
    (hspec : spec ∈ specs) (hm : m ∈ t.milestones) (htitle : m.title = spec.title) :
    ∃ m' ∈ t.milestones, m'.title = spec.title ∧ (m'.state = .open ∨ isReusableClosedEmpty m' shipped = true) := by
  by_contra hnone
  have hclosed : ∀ m' ∈ t.milestones, m'.title = spec.title → m'.state = .closed := by
    intro m' hm' htitle'
    cases hstate : m'.state with
    | closed => rfl
    | «open» => exact absurd ⟨m', hm', htitle', .inl hstate⟩ hnone
  have hbusy : ∀ m' ∈ t.milestones, m'.title = spec.title → isReusableClosedEmpty m' shipped = false := by
    intro m' hm' htitle'
    cases hreusable : isReusableClosedEmpty m' shipped with
    | false => rfl
    | true => exact absurd ⟨m', hm', htitle', .inr hreusable⟩ hnone
  have hstart : Unopened t spec.title (firstDesk stampText shipped t) := by
    refine ⟨?_, hclosed, fun x hx m₀ hm₀ hnumber => ?_, le_rfl⟩
    · rw [← htitle]
      exact startingTitles_bound hm
    · rw [inj_on_of_nodup_map t.numbered hx hm₀ hnumber]
  have hend : Unopened t spec.title d := runAll_induct (fun a ha d r hd hr => by
    obtain ⟨hchange, hkeeps⟩ := h.change ha hr
    exact hd.change hkeeps hbusy hchange) hstart hrun
  have hmem : spec.title ∈ manifest.targets.map (·.title) := by
    rw [h.titles]
    exact mem_map_of_mem hspec
  obtain ⟨target, htarget, hsame⟩ := mem_map.1 hmem
  obtain ⟨m', hm', htitle', hstate, -⟩ := hnamed target htarget
  rw [hend.closed m' hm' (htitle'.trans hsame)] at hstate
  cases hstate

lemma Preview.target (hspec : spec ∈ specs) : ∃ target ∈ manifest.targets, target.title = spec.title ∧
      ∀ n, n ∈ target.issueNumbers ↔ n ∈ spec.issueNumbers ∧ n ∈ t.issues.map (·.number) := by
  obtain ⟨htitle, -, hissues⟩ :=
    bindTarget_keeps (t.snapshot stampText shipped) (targetOf (t.issues.map (·.number)) spec)
  refine ⟨_, ?_, htitle, fun n => ?_⟩
  · rw [h.targets]
    exact mem_map_of_mem (f := fun spec => (bindTarget _ (targetOf _ spec)).1) hspec
  · rw [hissues]
    simp [targetOf]

lemma homed_of_settled {d : Desk}
    (hdistinct : (specs.map (·.title)).Nodup) (hrun : runAll manifest.actions (firstDesk stampText shipped t) = .ok d)
    (hissues : d.tracker.issues.map (·.number) = t.issues.map (·.number))
    (hplaced : ∀ i ∈ d.tracker.issues, ∃ title, OnTitle d.tracker.milestones title i)
    (hspec : spec ∈ specs) (hi : i ∈ t.issues) (hmember : i.number ∈ spec.issueNumbers) (hm : m ∈ t.milestones) (hon : i.milestone = some m.number)
    (htitle : m.title = spec.title) : m.state = .open ∨
      (isReusableClosedEmpty m shipped = true ∧ ∀ m' ∈ t.milestones, m'.title = spec.title → m'.state = .closed) := by
  by_contra hnone
  rw [not_or] at hnone
  obtain ⟨hnotOpen, hshut⟩ := hnone
  rw [← htitle] at hshut
  have hclosed : m.state = .closed := by
    cases hstate : m.state with
    | closed => rfl
    | «open» => exact absurd hstate hnotOpen
  obtain ⟨target, htarget, htargetTitle, hmembers⟩ := h.target hspec
  have hn : i.number ∈ target.issueNumbers := (hmembers _).2 ⟨hmember, mem_map_of_mem hi⟩
  have hstays : ∀ i' ∈ t.issues, i'.number = i.number → ∀ title, (i'.number, title) ∈ memberTitles manifest.targets →
      (t.snapshotIssue stampText i').milestoneTitle = some title := by
    intro i' hi' hnumber title hentry
    obtain rfl := inj_on_of_nodup_map t.listed hi' hi hnumber
    obtain ⟨other, hother, hn', rfl⟩ := mem_memberTitles.1 hentry
    rw [h.unique hdistinct htarget hother hn hn', htargetTitle, ← htitle]
    exact snapshotIssue_of_milestone hm hon
  have hstart : Stuck t i.number m.number (firstDesk stampText shipped t) := by
    refine ⟨fun x hx hnumber => ?_, fun i' hi' hnumber => ?_, le_rfl⟩
    · rw [inj_on_of_nodup_map t.numbered hx hm hnumber]
      exact hclosed
    · rw [inj_on_of_nodup_map t.listed hi' hi hnumber]
      exact hon
  have hend : Stuck t i.number m.number d := runAll_induct (fun a ha d r hd hr =>
    hd.change hm hshut hstays (h.change ha hr).1) hstart hrun
  have hlisted : i.number ∈ d.tracker.issues.map (·.number) := hissues ▸ mem_map_of_mem hi
  obtain ⟨i', hi', hnumber⟩ := mem_map.1 hlisted
  obtain ⟨title, m', hm', -, hstate, hon'⟩ := hplaced i' hi'
  have hsame : m'.number = m.number := Option.some.inj (hon'.symm.trans (hend.on i' hi' hnumber))
  rw [hend.closed m' hm' hsame] at hstate
  cases hstate

lemma untitled_of_settled {d : Desk} (hrun : runAll manifest.actions (firstDesk stampText shipped t) = .ok d)
    (hspec : spec ∈ specs) (hempty : spec.title = "") (hi : i ∈ t.issues) (hmember : i.number ∈ spec.issueNumbers) :
    ∃ m ∈ t.milestones, i.milestone = some m.number ∧ m.title = "" := by
  refine @snapshotIssue_title stampText _ _ _ ?_
  by_contra hoff
  obtain ⟨draftsOf, boundOf, -, hactions⟩ := h.planned
  obtain ⟨target, htarget, htitle, hmembers⟩ := h.target hspec
  have hentry : (i.number, "") ∈ memberTitles manifest.targets :=
    mem_memberTitles.2 ⟨target, htarget, (hmembers _).2 ⟨hmember, mem_map_of_mem hi⟩, htitle.trans hempty⟩
  have hdraft : assignDraft "" (boundOf "") i.number ∈
      issuePlan (t.snapshot stampText shipped) manifest.targets boundOf := by
    rw [issuePlan, h.issueTargets]
    refine mem_flatMap.2 ⟨_, hentry, ?_⟩
    simp only [find?_snapshot hi]
    rw [issueDrafts_eq hoff]
    exact mem_append_right _ (mem_singleton_self _)
  have hblank : (assignDraft "" (boundOf "") i.number).action ∈ manifest.actions.map (·.blank) := by
    rw [hactions]
    exact mem_map_of_mem (mem_append_right _ hdraft)
  obtain ⟨a, ha, hsame⟩ := mem_map.1 hblank
  obtain ⟨e, r, -, hrun'⟩ := exists_of_runAll (I := fun _ => True) (fun _ _ _ _ _ _ => trivial) trivial hrun ha
  obtain ⟨d', hexecute, -, -⟩ := runAction_ok (runAction_blank.2 hrun')
  rw [hsame] at hexecute
  exact assign_title hexecute rfl

end Actions

/-! ## When a run converges -/

variable (host : NodeHost) (localeLe : String → String → Bool) (stampText : Nat → String)

/-- The manifest of a preview. -/
def previewManifest (specs : List MilestoneSpec) (classes : List CompatibilityClassification)
    (shipped : List String) (generatedAt : String) (t : Tracker) : ReconciliationManifest :=
  buildReconciliationManifest host localeLe (previewInput stampText specs classes shipped generatedAt t)

/-- Applying the manifest of a preview, with nothing changed and nothing interrupted, settles the tracker. -/
def Converges (specs : List MilestoneSpec) (classes : List CompatibilityClassification) (shipped : List String)
    (generatedAt : String) (t : Tracker) : Prop :=
  let manifest := previewManifest host localeLe stampText specs classes shipped generatedAt t
  ∃ t', settledTracker (applySemverReconciliation host localeLe stampText (fun _ => none) manifest
      (t.snapshot stampText shipped) (some manifest.identity) ⟨t, none, []⟩) = some t' ∧
    Settled host localeLe stampText specs classes shipped generatedAt manifest.targets t t'

variable {host localeLe stampText}

/-- The actions of a manifest without blockers, of which the titles are distinct, settle the tracker just when the
plan is bindable. -/
theorem converges_iff {specs : List MilestoneSpec} {classes : List CompatibilityClassification}
    {shipped : List String} {generatedAt : String} {t : Tracker}
    (hunblocked : (previewManifest host localeLe stampText specs classes shipped generatedAt t).coverageBlockers = [])
    (hdistinct : (specs.map (·.title)).Nodup) :
    Converges host localeLe stampText specs classes shipped generatedAt t ↔ Bindable shipped t specs := by
  have h := preview_of_unblocked hunblocked
  have hidentity : manifestIdentityMatches host localeLe
      (previewManifest host localeLe stampText specs classes shipped generatedAt t) = true := by
    rw [manifestIdentityMatches, decide_eq_true_eq]
    rfl
  unfold Converges
  dsimp only
  rw [settledTracker_apply hunblocked hidentity rfl]
  constructor
  · rintro ⟨t', hrun, hsettled⟩
    split at hrun
    · next d hd =>
      obtain rfl : d.tracker = t' := Option.some.inj hrun
      refine ⟨fun spec hspec m hm htitle => free_of_settled h hd hsettled.named hspec hm htitle,
        fun spec hspec i hi hmember m hm hon htitle => homed_of_settled h hdistinct hd hsettled.issues ?_ hspec hi
          hmember hm hon htitle,
        fun spec hspec hempty i hi hmember => untitled_of_settled h hd hspec hempty hi hmember⟩
      intro i' hi'
      obtain ⟨target, -, -, -, hon'⟩ := hsettled.placed i' hi'
      exact ⟨target.title, hon'⟩
    · cases hrun
  · intro hbindable
    obtain ⟨d, hrun, hsettled⟩ := settled_of_bindable classes generatedAt h hdistinct hbindable
    refine ⟨d.tracker, ?_, hsettled⟩
    rw [show runAll (previewManifest host localeLe stampText specs classes shipped generatedAt t).actions
      (firstDesk stampText shipped t) = .ok d from hrun]

/-- The tracker of the cases: a milestone of a planned title that is closed with its issues done. -/
def closedRelease : Tracker where
  milestones := [⟨1, "v1.0.0", .closed, "First release", 0, 3⟩]
  issues := [⟨7, none, 0⟩]
  next := 2
  clock := 1
  numbered := by decide
  fresh := by decide
  listed := by decide
  placed := by decide
  past := by decide

def releasePlan (title : String) : List MilestoneSpec := [⟨title, [7], "Release", some .minor⟩]

def releaseClasses : List CompatibilityClassification := [⟨7, .resolved, some .minor, none⟩]

theorem converges_iff_next :
    Converges (.onFirstDay [] []) (fun _ _ => true) toString (releasePlan "v1.1.0") releaseClasses [] "" closedRelease ↔
      Bindable [] closedRelease (releasePlan "v1.1.0") :=
  converges_iff (by decide +kernel) (by decide)

/-- A closed milestone is in the way of a target with its title. -/
theorem closed_title_unsettled :
    (previewManifest (.onFirstDay [] []) (fun _ _ => true) toString (releasePlan "v1.0.0") releaseClasses [] ""
        closedRelease).coverageBlockers = [] ∧
      ((releasePlan "v1.0.0").map (·.title)).Nodup ∧
      ¬ Converges (.onFirstDay [] []) (fun _ _ => true) toString (releasePlan "v1.0.0") releaseClasses [] ""
        closedRelease := by
  refine ⟨by decide +kernel, by decide, ?_⟩
  rintro ⟨t', hrun, -⟩
  have hthrown : (settledTracker (applySemverReconciliation (.onFirstDay [] []) (fun _ _ => true) toString
      (fun _ => none) (previewManifest (.onFirstDay [] []) (fun _ _ => true) toString (releasePlan "v1.0.0")
        releaseClasses [] "" closedRelease) (closedRelease.snapshot toString [])
      (some (previewManifest (.onFirstDay [] []) (fun _ _ => true) toString (releasePlan "v1.0.0")
        releaseClasses [] "" closedRelease).identity) ⟨closedRelease, none, []⟩)).isNone = true := by
    decide +kernel
  rw [hrun] at hthrown
  cases hthrown

end AgentPipeline.Roadmap
