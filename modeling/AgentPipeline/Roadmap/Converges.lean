import AgentPipeline.Roadmap.Run

/-!
# Converges: the tracker after a complete run

The actions of the targets come first, and each target touches the milestones of its own title only; the
actions of the issues come after them and move one issue each.

* `Edited`, `Moves`: what the actions of one target and of one issue change;
* `AfterTargets`, `AfterIssues`: the state between two targets, and between two issues;
* `afterTargets`, `afterIssues`: the state after all of them.
-/

namespace AgentPipeline.Roadmap

open List

/-! ## The milestones of a title -/

/-- The milestones of a title. -/
def titled (title : String) (ms : List MilestoneCatalogEntry) : List MilestoneCatalogEntry :=
  ms.filter fun m => m.title = title

/-- Change the milestone of a number. -/
def editNumber (number : Nat) (edit : MilestoneCatalogEntry → MilestoneCatalogEntry)
    (ms : List MilestoneCatalogEntry) : List MilestoneCatalogEntry :=
  ms.map fun m => if m.number = number then edit m else m

variable {title : String} {m : MilestoneCatalogEntry}

@[simp] lemma mem_titled {ms : List MilestoneCatalogEntry} : m ∈ titled title ms ↔ m ∈ ms ∧ m.title = title := by
  simp [titled]

lemma titled_append (title : String) (ms ms' : List MilestoneCatalogEntry) :
    titled title (ms ++ ms') = titled title ms ++ titled title ms' := filter_append ..

variable {number : Nat} {edit : MilestoneCatalogEntry → MilestoneCatalogEntry}

lemma titled_editNumber (hedit : ∀ m, (edit m).title = m.title) (title : String) (ms : List MilestoneCatalogEntry) :
    titled title (editNumber number edit ms) = editNumber number edit (titled title ms) := by
  have htitle : ∀ m : MilestoneCatalogEntry, (if m.number = number then edit m else m).title = m.title := by
    intro m
    split
    · exact hedit m
    · rfl
  simp only [titled, editNumber, filter_map, Function.comp_def, htitle]

lemma editNumber_of_not_mem
    {ms : List MilestoneCatalogEntry} (h : ∀ m ∈ ms, m.number ≠ number) : editNumber number edit ms = ms := by
  rw [editNumber, map_congr_left (g := id) fun m hm => by rw [if_neg (h m hm)]; rfl, map_id]

variable {edit' : MilestoneCatalogEntry → MilestoneCatalogEntry}

lemma editNumber_editNumber (hedit : ∀ m, (edit m).number = m.number) (ms : List MilestoneCatalogEntry) :
    editNumber number edit' (editNumber number edit ms) = editNumber number (edit' ∘ edit) ms := by
  rw [editNumber, editNumber, editNumber, map_map]
  refine map_congr_left fun m _ => ?_
  by_cases h : m.number = number
  · simp [h, hedit]
  · simp [h]

lemma editNumber_congr {number : Nat} {edit edit' : MilestoneCatalogEntry → MilestoneCatalogEntry}
    {ms : List MilestoneCatalogEntry} (h : ∀ m ∈ ms, m.number = number → edit m = edit' m) :
    editNumber number edit ms = editNumber number edit' ms := by
  refine map_congr_left fun m hm => ?_
  by_cases hnumber : m.number = number
  · rw [if_pos hnumber, if_pos hnumber, h m hm hnumber]
  · rw [if_neg hnumber, if_neg hnumber]

/-- A desk on which one milestone was changed. -/
structure Edited (number : Nat) (edit : MilestoneCatalogEntry → MilestoneCatalogEntry) (title : String)
    (d d' : Desk) : Prop where
  tracker : d'.tracker.milestones = editNumber number edit d.tracker.milestones
  copy : d'.live.milestones = editNumber number edit d.live.milestones
  issues : d'.tracker.issues = d.tracker.issues
  copiedIssues : d'.live.openIssues = d.live.openIssues
  shipped : d'.live.shippedTitles = d.live.shippedTitles
  titles : ∀ other, other ≠ title → mapGet d'.titleToNumber other = mapGet d.titleToNumber other

variable {d d' : Desk} {d'' : Desk}

lemma Edited.trans (hedit : ∀ m, (edit m).number = m.number) (h : Edited number edit title d d')
    (h' : Edited number edit' title d' d'') : Edited number (edit' ∘ edit) title d d'' where
  tracker := by rw [h'.tracker, h.tracker, editNumber_editNumber hedit]
  copy := by rw [h'.copy, h.copy, editNumber_editNumber hedit]
  issues := h'.issues.trans h.issues
  copiedIssues := h'.copiedIssues.trans h.copiedIssues
  shipped := h'.shipped.trans h.shipped
  titles := fun other hother => (h'.titles other hother).trans (h.titles other hother)

variable {action : ReconciliationAction} {result : ActionResult}

lemma noteTitles_other {titles : List (String × Nat)}
    {other : String} (htitle : action.milestoneTitle = some title) (hnew : action.newTitle = none)
    (hother : other ≠ title) : mapGet (noteTitles action result titles) other = mapGet titles other := by
  unfold noteTitles
  rw [htitle, hnew]
  cases result.milestoneNumber with
  | none => rfl
  | some number =>
    by_cases hempty : title = ""
    · simp [Option.filter, hempty]
    · simp [Option.filter, hempty, hother]

/-! ## The actions of one target -/

lemma runAction_of_executeAction (h : executeAction d action = .ok (result, d')) : runAction d action =
      .ok (result, { d' with titleToNumber := noteTitles action result d'.titleToNumber }) := by
  rw [runAction, h]
  rfl

lemma localMilestone?_eq (hcopy : d.live.milestones = d.tracker.milestones)
    (hm : m ∈ d.live.milestones) : d.localMilestone? m.number = some m :=
  find?_number (by rw [hcopy]; exact d.tracker.numbered) hm

lemma run_reuse (d : Desk) : ∃ r, runAction d (reuseDraft m).action = .ok r ∧ Edited m.number id m.title d r.2 := by
  refine ⟨_, runAction_of_executeAction rfl, ?_, ?_, rfl, rfl, rfl, fun other hother => ?_⟩
  · simp [editNumber]
  · simp [editNumber]
  · exact noteTitles_other rfl rfl hother

lemma run_reopen (hcopy : d.live.milestones = d.tracker.milestones)
    (hm : m ∈ d.live.milestones) (hreusable : isReusableClosedEmpty m d.live.shippedTitles = true)
    (t : ReconciliationTargetMilestone) :
    ∃ r, runAction d (reopenDraft t m).action = .ok r ∧
      Edited m.number (fun m => { m with state := .open }) m.title d r.2 := by
  obtain ⟨hstate, hshipped⟩ := closed_of_reusable hreusable
  have hexecute : executeAction d (reopenDraft t m).action = .ok (⟨true, some m.number⟩,
      { d with tracker := d.tracker.reopenMilestone m.number }.editLocal m.number
        fun m => { m with state := .open }) := by
    simp [executeAction, executeReopen, reopenDraft, localMilestone?_eq hcopy hm, hshipped, hreusable, hstate]
  exact ⟨_, runAction_of_executeAction hexecute, rfl, rfl, rfl, rfl, rfl,
    fun other hother => noteTitles_other rfl rfl hother⟩

lemma run_description (hcopy : d.live.milestones = d.tracker.milestones)
    {entry : MilestoneCatalogEntry} (hentry : entry ∈ d.live.milestones) (hnumber : entry.number = m.number)
    (hdescription : entry.description = m.description)
    (hshipped : isShipped entry d.live.shippedTitles = false) (t : ReconciliationTargetMilestone) :
    ∃ d', runAll ((descriptionDrafts t m).map (·.action)) d = .ok d' ∧
      Edited m.number (fun m => { m with description := t.description }) t.title d d' := by
  have hfind : d.localMilestone? m.number = some entry := hnumber ▸ localMilestone?_eq hcopy hentry
  by_cases hsame : m.description = t.description
  · have hkept : editNumber m.number (fun m => { m with description := t.description }) d.live.milestones =
        d.live.milestones := by
      rw [@editNumber_congr _ _ id, editNumber, map_congr_left (g := id) fun m _ => by split <;> rfl, map_id]
      intro m' hm' hnumber'
      have hfind' := hfind
      rw [← hnumber', localMilestone?_eq hcopy hm'] at hfind'
      cases hfind'
      rw [← hsame, ← hdescription]
      rfl
    refine ⟨d, by simp [descriptionDrafts, hsame, runAll], ?_, hkept.symm, rfl, rfl, rfl, fun _ _ => rfl⟩
    rw [← hcopy, hkept]
  · have hexecute : executeAction d (descriptionDraft t m).action = .ok (⟨true, some m.number⟩,
        { d with tracker := d.tracker.updateMilestone m.number none (some t.description) }.editLocal m.number
          fun m => { m with description := t.description }) := by
      simp [executeAction, executeUpdateDescription, descriptionDraft, hfind, hshipped, hdescription, hsame]
    refine ⟨{ d with
        tracker := d.tracker.updateMilestone m.number none (some t.description)
        titleToNumber := noteTitles (descriptionDraft t m).action ⟨true, some m.number⟩ d.titleToNumber }.editLocal
          m.number fun m => { m with description := t.description }, ?_, rfl, rfl, rfl, rfl, rfl,
      fun other hother => noteTitles_other rfl rfl hother⟩
    rw [descriptionDrafts, if_pos hsame, map_singleton, runAll, runAction_of_executeAction hexecute]
    rfl

/-- A target that is bound to a milestone opens it and gives it its description. -/
def settleEdit (t : ReconciliationTargetMilestone) (m : MilestoneCatalogEntry) : MilestoneCatalogEntry :=
  { m with state := .open, description := t.description }

variable {t : ReconciliationTargetMilestone}

lemma settleEdit_title (m : MilestoneCatalogEntry) : (settleEdit t m).title = m.title := rfl

section

variable (hcopy : d.live.milestones = d.tracker.milestones)
include hcopy

lemma run_isOpen (hm : m ∈ d.live.milestones) (hstate : m.state = .open) (htitle : m.title = t.title) :
    ∃ d', runAll ((reuseDraft m :: descriptionDrafts t m).map (·.action)) d = .ok d' ∧
      Edited m.number (settleEdit t) t.title d d' := by
  obtain ⟨r, hrun, hreuse⟩ := run_reuse d (m := m)
  have hcopy' : r.2.live.milestones = r.2.tracker.milestones := by rw [hreuse.copy, hreuse.tracker, hcopy]
  have hm' : m ∈ r.2.live.milestones := by
    rw [hreuse.copy]
    exact mem_map.2 ⟨m, hm, by simp⟩
  obtain ⟨d', hrest, hdescription⟩ := run_description hcopy' hm' rfl rfl (not_isShipped_of_open hstate) t
  have hboth := (htitle ▸ hreuse).trans (fun _ => rfl) hdescription
  have hsettle : ∀ ms : List MilestoneCatalogEntry, ms = d.live.milestones →
      editNumber m.number ((fun m => { m with description := t.description }) ∘ id) ms =
        editNumber m.number (settleEdit t) ms := by
    rintro ms rfl
    refine editNumber_congr fun m' hm' hnumber => ?_
    obtain rfl : m' = m := by
      have hfind := localMilestone?_eq hcopy hm'
      rw [hnumber, localMilestone?_eq hcopy hm] at hfind
      exact (Option.some.inj hfind).symm
    simp [settleEdit, hstate]
  refine ⟨d', ?_, ?_, ?_, hboth.issues, hboth.copiedIssues, hboth.shipped, hboth.titles⟩
  · rw [map_cons, runAll, hrun]
    exact hrest
  · exact hboth.tracker.trans (hsettle _ hcopy.symm)
  · exact hboth.copy.trans (hsettle _ rfl)

lemma run_isClosed
    (hm : m ∈ d.live.milestones) (hreusable : isReusableClosedEmpty m d.live.shippedTitles = true) (htitle : m.title = t.title) :
    ∃ d', runAll ((reopenDraft t m :: descriptionDrafts t m).map (·.action)) d = .ok d' ∧
      Edited m.number (settleEdit t) t.title d d' := by
  obtain ⟨r, hrun, hreopen⟩ := run_reopen hcopy hm hreusable t
  have hcopy' : r.2.live.milestones = r.2.tracker.milestones := by rw [hreopen.copy, hreopen.tracker, hcopy]
  have hm' : { m with state := .open } ∈ r.2.live.milestones := by
    rw [hreopen.copy]
    exact mem_map.2 ⟨m, hm, by simp⟩
  obtain ⟨d', hrest, hdescription⟩ := run_description (m := m) hcopy' hm' rfl rfl (not_isShipped_of_open rfl) t
  have hnumbers : ∀ m : MilestoneCatalogEntry, ({ m with state := .open } : MilestoneCatalogEntry).number = m.number :=
    fun _ => rfl
  rw [htitle] at hreopen
  refine ⟨d', ?_, hreopen.trans hnumbers hdescription⟩
  rw [map_cons, runAll, hrun]
  exact hrest

lemma executeAction_create
    (hfree : titled t.title d.tracker.milestones = []) (hunbound : mapGet d.titleToNumber t.title = none) :
    executeAction d (createDraft t).action = .ok (⟨true, some d.tracker.next⟩,
      { tracker := d.tracker.createMilestone t.title t.description
        live := { d.live with milestones := d.live.milestones ++
          [⟨d.tracker.next, t.title, .open, t.description, 0, 0⟩] }
        titleToNumber := mapSet t.title d.tracker.next d.titleToNumber }) := by
  have hnone : ∀ m ∈ d.live.milestones, m.title ≠ t.title := by
    intro m hm htitle
    have hmem : m ∈ titled t.title d.tracker.milestones := mem_titled.2 ⟨hcopy ▸ hm, htitle⟩
    rw [hfree] at hmem
    cases hmem
  have hfind : d.live.milestones.find? (fun m => m.title = t.title && m.state = .open) = none := by
    rw [find?_eq_none]
    intro m hm
    simp [hnone m hm]
  have hany : d.live.milestones.any (fun m => m.number = d.tracker.next || m.title = t.title) = false := by
    rw [any_eq_false]
    intro m hm
    have hnumber : m.number ≠ d.tracker.next := Nat.ne_of_lt (d.tracker.fresh m (hcopy ▸ hm))
    simp [hnone m hm, hnumber]
  unfold executeAction executeCreate createDraft
  dsimp only [Option.getD_some]
  rw [hfind]
  dsimp only
  rw [hunbound]
  dsimp only
  rw [hany]
  rfl

lemma run_create (hfree : titled t.title d.tracker.milestones = [])
    (hunbound : mapGet d.titleToNumber t.title = none) : ∃ d', runAll [(createDraft t).action] d = .ok d' ∧
      d'.tracker.milestones = d.tracker.milestones ++ [⟨d.tracker.next, t.title, .open, t.description, 0, 0⟩] ∧
      d'.live.milestones = d'.tracker.milestones ∧ d'.tracker.issues = d.tracker.issues ∧
      d'.live.openIssues = d.live.openIssues ∧ d'.live.shippedTitles = d.live.shippedTitles ∧
      ∀ other, other ≠ t.title → mapGet d'.titleToNumber other = mapGet d.titleToNumber other := by
  have hexecute := executeAction_create hcopy hfree hunbound
  refine ⟨⟨d.tracker.createMilestone t.title t.description,
      { d.live with milestones := d.live.milestones ++ [⟨d.tracker.next, t.title, .open, t.description, 0, 0⟩] },
      noteTitles (createDraft t).action ⟨true, some d.tracker.next⟩
        (mapSet t.title d.tracker.next d.titleToNumber)⟩, ?_, rfl, ?_, rfl, rfl, rfl, fun other hother => ?_⟩
  · rw [runAll, runAction_of_executeAction hexecute]
    rfl
  · show d.live.milestones ++ _ = d.tracker.milestones ++ _
    rw [hcopy]
  · rw [noteTitles_other rfl rfl hother]
    simp [hother]

end

/-! ## Between two targets -/

/-- What a target makes of the milestones of its title. -/
def Fits (t₀ : Tracker) (t : ReconciliationTargetMilestone) (ms : List MilestoneCatalogEntry) : Prop :=
  (∃ number, t.number = some number ∧
      titled t.title ms = editNumber number (settleEdit t) (titled t.title t₀.milestones)) ∨
    (t.number = none ∧ titled t.title t₀.milestones = [] ∧
      ∃ number, titled t.title ms = [⟨number, t.title, .open, t.description, 0, 0⟩])

/-- The desk when the actions of some targets are done. -/
structure AfterTargets (stampText : Nat → String) (shipped : List String) (t₀ : Tracker)
    (done : List ReconciliationTargetMilestone) (d : Desk) : Prop where
  copy : d.live.milestones = d.tracker.milestones
  issues : d.tracker.issues = t₀.issues
  copiedIssues : d.live.openIssues = (t₀.snapshot stampText shipped).openIssues
  shipped : d.live.shippedTitles = shipped
  untouched : ∀ title, (∀ t ∈ done, t.title ≠ title) → titled title d.tracker.milestones = titled title t₀.milestones
  unbound : ∀ title, (∀ t ∈ done, t.title ≠ title) → titled title t₀.milestones = [] →
    mapGet d.titleToNumber title = none
  fits : ∀ t ∈ done, Fits t₀ t d.tracker.milestones

lemma mapGet_startingTitles {live : ReconcileLiveState}
    (h : ∀ m ∈ live.milestones, m.title ≠ title) : mapGet (startingTitles live []) title = none := by
  have hfold : ∀ (entries map : List (String × Nat)), (∀ entry ∈ entries, entry.1 ≠ title) → mapGet map title = none →
      mapGet (entries.foldl (fun map entry => mapSet entry.1 entry.2 map) map) title = none := by
    intro entries
    induction entries with
    | nil => exact fun _ _ h => h
    | cons entry entries ih =>
      intro map hentries hmap
      refine ih _ (fun e he => hentries e (mem_cons_of_mem _ he)) ?_
      rw [mapGet_mapSet, if_neg (Ne.symm (hentries entry mem_cons_self)), hmap]
  refine hfold _ [] (fun entry hentry => ?_) rfl
  obtain ⟨m, hm, rfl⟩ := mem_map.1 hentry
  exact h m hm

variable {drafts : List Draft}

section Targets

variable {stampText : Nat → String} {shipped : List String} {t₀ : Tracker}

lemma afterTargets_nil : AfterTargets stampText shipped t₀ [] (firstDesk stampText shipped t₀) where
  copy := rfl
  issues := rfl
  copiedIssues := rfl
  shipped := rfl
  untouched := fun _ _ => rfl
  unbound := by
    intro title _ hfree
    refine mapGet_startingTitles fun m hm htitle => ?_
    have hmem : m ∈ titled title t₀.milestones := mem_titled.2 ⟨hm, htitle⟩
    rw [hfree] at hmem
    cases hmem
  fits := by simp

variable {done : List ReconciliationTargetMilestone}

section

variable (h : AfterTargets stampText shipped t₀ done d)
include h

variable (hnew : ∀ t' ∈ done, t'.title ≠ t.title)
include hnew

lemma AfterTargets.other (hcopy : d'.live.milestones = d'.tracker.milestones)
    (hissues : d'.tracker.issues = d.tracker.issues) (hcopied : d'.live.openIssues = d.live.openIssues)
    (hshipped : d'.live.shippedTitles = d.live.shippedTitles)
    (hother : ∀ title, title ≠ t.title → titled title d'.tracker.milestones = titled title d.tracker.milestones)
    (htitles : ∀ other, other ≠ t.title → mapGet d'.titleToNumber other = mapGet d.titleToNumber other)
    (hfits : Fits t₀ t d'.tracker.milestones) : AfterTargets stampText shipped t₀ (done ++ [t]) d' where
  copy := hcopy
  issues := hissues.trans h.issues
  copiedIssues := hcopied.trans h.copiedIssues
  shipped := hshipped.trans h.shipped
  untouched := by
    intro title hdone
    have htitle : title ≠ t.title := Ne.symm (hdone t (by simp))
    rw [hother title htitle]
    exact h.untouched title fun t' ht' => hdone t' (mem_append_left _ ht')
  unbound := by
    intro title hdone hfree
    have htitle : title ≠ t.title := Ne.symm (hdone t (by simp))
    rw [htitles title htitle]
    exact h.unbound title (fun t' ht' => hdone t' (mem_append_left _ ht')) hfree
  fits := by
    intro t' ht'
    rcases mem_append.1 ht' with ht' | ht'
    · unfold Fits
      rw [hother t'.title (hnew t' ht')]
      exact h.fits t' ht'
    · rw [mem_singleton.1 ht']
      exact hfits

lemma AfterTargets.edited (hm : m ∈ t₀.milestones) (htitle : m.title = t.title) (hnumber : t.number = some m.number)
    (hedited : Edited m.number (settleEdit t) t.title d d') : AfterTargets stampText shipped t₀ (done ++ [t]) d' := by
  have hsame := h.untouched t.title hnew
  have hhere : m ∈ d.tracker.milestones := by
    have hmem : m ∈ titled t.title t₀.milestones := mem_titled.2 ⟨hm, htitle⟩
    rw [← hsame] at hmem
    exact (mem_titled.1 hmem).1
  have htitled : ∀ title, titled title d'.tracker.milestones =
      editNumber m.number (settleEdit t) (titled title d.tracker.milestones) := by
    intro title
    rw [hedited.tracker, titled_editNumber settleEdit_title]
  refine h.other hnew ?_ hedited.issues hedited.copiedIssues hedited.shipped (fun title hother => ?_)
    hedited.titles (.inl ⟨m.number, hnumber, ?_⟩)
  · rw [hedited.copy, hedited.tracker, h.copy]
  · rw [htitled, editNumber_of_not_mem]
    intro m' hm' hnumber'
    obtain ⟨hm', htitle'⟩ := mem_titled.1 hm'
    obtain rfl : m' = m := inj_on_of_nodup_map d.tracker.numbered hm' hhere hnumber'
    exact hother (htitle'.symm.trans htitle)
  · rw [htitled, hsame]

lemma AfterTargets.step (hbinding : Binding t₀.milestones shipped t drafts t.number)
    (hfree : t.number = none → titled t.title t₀.milestones = []) :
    ∃ d', runAll (drafts.map (·.action)) d = .ok d' ∧ AfterTargets stampText shipped t₀ (done ++ [t]) d' := by
  have hsame := h.untouched t.title hnew
  have hhere : ∀ m ∈ t₀.milestones, m.title = t.title → m ∈ d.live.milestones := by
    intro m hm htitle
    have hmem : m ∈ titled t.title t₀.milestones := mem_titled.2 ⟨hm, htitle⟩
    rw [← hsame] at hmem
    rw [h.copy]
    exact (mem_titled.1 hmem).1
  generalize hnumber : t.number = number at hbinding
  cases hbinding with
  | free =>
    have hfree := hfree hnumber
    obtain ⟨d', hrun, htracker, hcopy, hissues, hcopied, hshipped, htitles⟩ :=
      run_create h.copy (t := t) (by rw [hsame, hfree]) (h.unbound t.title hnew hfree)
    refine ⟨d', hrun, h.other hnew hcopy hissues hcopied hshipped (fun title hother => ?_) htitles
      (.inr ⟨hnumber, hfree, d.tracker.next, ?_⟩)⟩
    · rw [htracker, titled_append]
      simp [titled, Ne.symm hother]
    · rw [htracker, titled_append, hsame, hfree]
      simp [titled]
  | isOpen m hm hbound htitle hstate =>
    obtain ⟨d', hrun, hedited⟩ := run_isOpen h.copy (hhere m hm htitle) hstate htitle
    exact ⟨d', hrun, h.edited hnew hm htitle hbound hedited⟩
  | isClosed m hm hbound htitle hreusable =>
    obtain ⟨d', hrun, hedited⟩ := run_isClosed h.copy (hhere m hm htitle) (by rw [h.shipped]; exact hreusable) htitle
    exact ⟨d', hrun, h.edited hnew hm htitle hbound hedited⟩

end

lemma afterTargets (stampText : Nat → String) {draftsOf : ReconciliationTargetMilestone → List Draft}
    {targets : List ReconciliationTargetMilestone} (hdistinct : (targets.map (·.title)).Nodup)
    (hbinding : ∀ t ∈ targets, Binding t₀.milestones shipped t (draftsOf t) t.number)
    (hfree : ∀ t ∈ targets, t.number = none → titled t.title t₀.milestones = []) :
    ∃ d, runAll ((targets.flatMap draftsOf).map (·.action)) (firstDesk stampText shipped t₀) = .ok d ∧
      AfterTargets stampText shipped t₀ targets d := by
  have hrest : ∀ (rest done : List ReconciliationTargetMilestone) (d : Desk), done ++ rest = targets →
      AfterTargets stampText shipped t₀ done d → ∃ d', runAll ((rest.flatMap draftsOf).map (·.action)) d = .ok d' ∧
        AfterTargets stampText shipped t₀ targets d' := by
    intro rest
    induction rest with
    | nil =>
      intro done d hsplit h
      obtain rfl : done = targets := by simpa using hsplit
      exact ⟨d, rfl, h⟩
    | cons t rest ih =>
      intro done d hsplit h
      have ht : t ∈ targets := by
        rw [← hsplit]
        simp
      have hnew : ∀ t' ∈ done, t'.title ≠ t.title := by
        intro t' ht' htitle
        rw [← hsplit, map_append, nodup_append] at hdistinct
        exact hdistinct.2.2 _ (mem_map_of_mem ht') t.title (by simp) htitle
      obtain ⟨d', hrun, hstep⟩ := h.step hnew (hbinding t ht) (hfree t ht)
      obtain ⟨d'', hrun', hafter⟩ := ih (done ++ [t]) d' (by simpa using hsplit) hstep
      refine ⟨d'', ?_, hafter⟩
      rw [flatMap_cons, map_append, runAll_append hrun]
      exact hrun'
  exact hrest targets [] _ rfl afterTargets_nil

end Targets

/-! ## After the targets -/

/-- A target has the one open milestone of its title. -/
def Named (t : ReconciliationTargetMilestone) (ms : List MilestoneCatalogEntry) : Prop :=
  ∃ m ∈ ms, m.title = t.title ∧ m.state = .open ∧ m.description = t.description ∧
    ∀ m' ∈ ms, m'.title = t.title → m'.state = .open → m' = m

lemma open_of_fits {t₀ : Tracker} {shipped : List String} {ms : List MilestoneCatalogEntry} (h : Fits t₀ t ms)
    (hbinding : Binding t₀.milestones shipped t drafts t.number) : ∃ m, m ∈ titled t.title ms ∧ m.state = .open ∧
      m.description = t.description ∧ (∀ number ∈ t.number, number = m.number) ∧
      ∀ m' ∈ titled t.title ms, m'.state = .open → m' = m := by
  rcases h with ⟨number, hnumber, hms⟩ | ⟨hnumber, -, number, hms⟩
  · have hbound : ∃ m ∈ t₀.milestones, m.title = t.title ∧ m.number = number ∧
        ∀ m' ∈ t₀.milestones, m'.title = t.title → m'.state = .open → m' = m := by
      generalize ht : t.number = bound at hbinding
      cases hbinding with
      | free => simp [ht] at hnumber
      | isOpen m hm hm' htitle hstate honly =>
        exact ⟨m, hm, htitle, by simpa [hnumber] using hm'.symm, honly⟩
      | isClosed m hm hm' htitle hreusable hclosed =>
        refine ⟨m, hm, htitle, by simpa [hnumber] using hm'.symm, fun m' hm' htitle' hstate => ?_⟩
        rw [hclosed m' hm' htitle'] at hstate
        cases hstate
    obtain ⟨m, hm, htitle, rfl, honly⟩ := hbound
    rw [hms]
    refine ⟨settleEdit t m, ?_, rfl, rfl, by simp [hnumber, settleEdit], ?_⟩
    · exact mem_map.2 ⟨m, mem_titled.2 ⟨hm, htitle⟩, if_pos rfl⟩
    · intro m' hm' hstate
      obtain ⟨entry, hentry, rfl⟩ := mem_map.1 hm'
      obtain ⟨hentry, htitle'⟩ := mem_titled.1 hentry
      by_cases hsame : entry.number = m.number
      · rw [if_pos hsame, inj_on_of_nodup_map t₀.numbered hentry hm hsame]
      · rw [if_neg hsame] at hstate ⊢
        exact absurd (congrArg (·.number) (honly entry hentry htitle' hstate)) hsame
  · rw [hms]
    exact ⟨_, mem_singleton_self _, rfl, rfl, by simp [hnumber], fun m' hm' _ => mem_singleton.1 hm'⟩

/-! ## The actions of one issue -/

/-- A milestone without its counts. -/
def plain (m : MilestoneCatalogEntry) : MilestoneCatalogEntry := { m with openIssues := 0, closedIssues := 0 }

/-- Nothing but the counts and one issue changed. -/
structure Moves (number : Nat) (d d' : Desk) : Prop where
  catalog : d'.tracker.milestones.map plain = d.tracker.milestones.map plain
  numbers : d'.tracker.issues.map (·.number) = d.tracker.issues.map (·.number)
  others : ∀ i ∈ d'.tracker.issues, i.number ≠ number → i ∈ d.tracker.issues
  copied : ∀ other, other ≠ number →
    d'.live.openIssues.find? (fun s => s.number = other) = d.live.openIssues.find? fun s => s.number = other

lemma Moves.refl (number : Nat) (d : Desk) : Moves number d d := ⟨rfl, rfl, fun _ h _ => h, fun _ _ => rfl⟩

lemma Moves.trans (h : Moves number d d') (h' : Moves number d' d'') : Moves number d d'' where
  catalog := h'.catalog.trans h.catalog
  numbers := h'.numbers.trans h.numbers
  others := fun i hi hother => h.others i (h'.others i hi hother) hother
  copied := fun other hother => (h'.copied other hother).trans (h.copied other hother)

lemma plain_countIssue (t : Tracker) (number : Nat) (count : Nat → Nat) :
    (t.countIssue number count).milestones.map plain = t.milestones.map plain := by
  simp only [Tracker.countIssue, Tracker.editMilestone, map_map]
  refine map_congr_left fun m _ => ?_
  simp only [Function.comp_apply]
  split <;> rfl

lemma plain_uncount (t : Tracker) (issueNumber : Nat) :
    (t.uncount issueNumber).milestones.map plain = t.milestones.map plain := by
  unfold Tracker.uncount
  split
  · rfl
  · exact plain_countIssue ..

lemma issues_uncount (t : Tracker) (issueNumber : Nat) : (t.uncount issueNumber).issues = t.issues := by
  unfold Tracker.uncount
  split <;> rfl

lemma uncount_next (t : Tracker) (issueNumber : Nat) : (t.uncount issueNumber).next = t.next := by
  unfold Tracker.uncount
  split <;> rfl

lemma placeIssue_issues {t : Tracker} {n : Nat} {m : Option Nat} (hplaced : ∀ k ∈ m, k ∈ t.milestones.map (·.number)) :
    (t.placeIssue n m hplaced).issues.map (·.number) = t.issues.map (·.number) ∧
      ∀ i ∈ (t.placeIssue n m hplaced).issues, (i.number ≠ n → i ∈ t.issues) ∧ (i.number = n → i.milestone = m) := by
  simp only [Tracker.placeIssue]
  refine ⟨?_, fun i hi => ?_⟩
  · rw [map_map]
    refine map_congr_left fun i _ => ?_
    simp only [Function.comp_apply]
    split <;> rfl
  · obtain ⟨i', hi', rfl⟩ := mem_map.1 hi
    split
    · next hnumber => exact ⟨fun hne => absurd hnumber hne, fun _ => rfl⟩
    · next hnumber => exact ⟨fun _ => hi', fun heq => absurd heq hnumber⟩

lemma clearIssueMilestone_issues (t : Tracker) (issueNumber : Nat) :
    (t.clearIssueMilestone issueNumber).issues.map (·.number) = t.issues.map (·.number) ∧
      ∀ i ∈ (t.clearIssueMilestone issueNumber).issues, i.number ≠ issueNumber → i ∈ t.issues := by
  obtain ⟨hnumbers, hothers⟩ := placeIssue_issues (t := t.uncount issueNumber) (n := issueNumber) (m := none)
    (by simp)
  rw [issues_uncount] at hnumbers hothers
  exact ⟨hnumbers, fun i hi => (hothers i hi).1⟩

lemma find?_editLocalIssue (d : Desk) (issueNumber other : Nat)
    {edit : IssueMilestoneSnapshot → IssueMilestoneSnapshot} (hedit : ∀ s, (edit s).number = s.number) :
    (d.editLocalIssue issueNumber edit).live.openIssues.find? (fun s => s.number = other) =
      (d.live.openIssues.find? fun s => s.number = other).map fun s =>
        if s.number = issueNumber then edit s else s := by
  have hsame : ((fun s : IssueMilestoneSnapshot => decide (s.number = other)) ∘ fun s =>
      if s.number = issueNumber then edit s else s) = fun s => decide (s.number = other) := by
    funext s
    simp only [Function.comp_apply]
    split
    · rw [hedit]
    · rfl
  simp only [Desk.editLocalIssue, find?_map, hsame]

variable {issueNumber : Nat}

lemma find?_editLocalIssue_other (d : Desk) {other : Nat} (h : other ≠ issueNumber)
    {edit : IssueMilestoneSnapshot → IssueMilestoneSnapshot} (hedit : ∀ s, (edit s).number = s.number) :
    (d.editLocalIssue issueNumber edit).live.openIssues.find? (fun s => s.number = other) =
      d.live.openIssues.find? fun s => s.number = other := by
  rw [find?_editLocalIssue d issueNumber other hedit]
  cases hfind : d.live.openIssues.find? fun s => s.number = other with
  | none => rfl
  | some s =>
    have hnumber : s.number = other := by simpa using find?_some hfind
    simp [hnumber, h]

/-- The milestone that an issue leaves. -/
def clearDrafts (title : String) (snap : IssueMilestoneSnapshot) : List Draft :=
  match snap.milestoneTitle with
  | none => []
  | some liveTitle => if liveTitle = "" then [] else [clearDraft title liveTitle snap]

variable {snap : IssueMilestoneSnapshot}

lemma issueDrafts_eq {bound : Option Nat} (h : snap.milestoneTitle ≠ some title) :
    issueDrafts snap title bound = clearDrafts title snap ++ [assignDraft title bound snap.number] := by
  rw [issueDrafts, if_neg h]
  rfl

lemma run_clear {liveTitle : String}
    (hsnap : d.live.openIssues.find? (fun s => s.number = snap.number) = some snap)
    (hlive : snap.milestoneTitle = some liveTitle) (hne : liveTitle ≠ "") (title : String) :
    ∃ r, runAction d (clearDraft title liveTitle snap).action = .ok r ∧ Moves snap.number d r.2 ∧
      r.2.live.openIssues.find? (fun s => s.number = snap.number) =
        some { snap with milestoneNumber := none, milestoneTitle := none } := by
  have hexecute : executeAction d (clearDraft title liveTitle snap).action = .ok (⟨true, none⟩,
      { d with tracker := d.tracker.clearIssueMilestone snap.number }.editLocalIssue snap.number
        fun i => { i with milestoneNumber := none, milestoneTitle := none }) := by
    simp [executeAction, executeClearStale, clearDraft, hsnap, hlive, Option.filter, hne]
  obtain ⟨hnumbers, hothers⟩ := clearIssueMilestone_issues d.tracker snap.number
  refine ⟨_, runAction_of_executeAction hexecute, ⟨plain_uncount .., ?_, fun i hi hother => ?_,
    fun other hother => find?_editLocalIssue_other _ hother (by exact fun _ => rfl)⟩, ?_⟩
  · exact hnumbers
  · exact hothers i hi hother
  · refine (find?_editLocalIssue _ snap.number snap.number (by exact fun _ => rfl)).trans ?_
    simp [hsnap]

/-- An issue is on an open milestone of a title. -/
def OnTitle (ms : List MilestoneCatalogEntry) (title : String) (i : TrackerIssue) : Prop :=
  ∃ m ∈ ms, m.title = title ∧ m.state = .open ∧ i.milestone = some m.number

lemma mem_plain {ms ms' : List MilestoneCatalogEntry} (h : ms.map plain = ms'.map plain)
    (hm : m ∈ ms) : ∃ m' ∈ ms', plain m' = plain m := mem_map.1 (h ▸ mem_map_of_mem hm)

lemma plain_eq_iff {m' : MilestoneCatalogEntry} :
    plain m = plain m' ↔ m.number = m'.number ∧ m.title = m'.title ∧ m.state = m'.state ∧
      m.description = m'.description := by
  simp [plain]

lemma assignIssueMilestone_ok {t : Tracker}
    (hm : m ∈ (t.uncount issueNumber).milestones) (htitle : m.title = title) (hstate : m.state = .open) :
    ∃ tracker, t.assignIssueMilestone issueNumber title = .ok tracker := by
  unfold Tracker.assignIssueMilestone
  split
  · next hfind =>
    have hnot := find?_eq_none.1 hfind m hm
    simp [htitle, hstate] at hnot
  · exact ⟨_, rfl⟩

lemma assignIssueMilestone_spec {t tracker : Tracker} (h : t.assignIssueMilestone issueNumber title = .ok tracker) :
    ∃ m ∈ (t.uncount issueNumber).milestones, m.title = title ∧ m.state = .open ∧
      tracker.milestones.map plain = t.milestones.map plain ∧ tracker.issues.map (·.number) = t.issues.map (·.number) ∧
      (∀ i ∈ tracker.issues, (i.number ≠ issueNumber → i ∈ t.issues) ∧
        (i.number = issueNumber → i.milestone = some m.number)) ∧ tracker.next = t.next := by
  unfold Tracker.assignIssueMilestone at h
  split at h
  · cases h
  · next m hfind =>
    cases h
    have hfound : m.title = title ∧ m.state = .open := by simpa using find?_some hfind
    obtain ⟨hnumbers, hothers⟩ := placeIssue_issues (t := t.uncount issueNumber)
      (n := issueNumber) (m := some m.number) fun n hn => by
        obtain rfl : m.number = n := by simpa using hn
        exact mem_map_of_mem (mem_of_find?_eq_some hfind)
    rw [issues_uncount] at hnumbers hothers
    exact ⟨m, mem_of_find?_eq_some hfind, hfound.1, hfound.2,
      (plain_countIssue ..).trans (plain_uncount ..), hnumbers, hothers, uncount_next t issueNumber⟩

lemma run_assign
    (hsnap : d.live.openIssues.find? (fun s => s.number = snap.number) = some snap)
    (hlive : snap.milestoneTitle ≠ some title) (hne : title ≠ "") (bound : Option Nat)
    {ms : List MilestoneCatalogEntry}
    (hcatalog : d.tracker.milestones.map plain = ms.map plain)
    (hopen : ∃ m ∈ ms, m.title = title ∧ m.state = .open) :
    ∃ r, runAction d (assignDraft title bound snap.number).action = .ok r ∧ Moves snap.number d r.2 ∧
      ∀ i ∈ r.2.tracker.issues, i.number = snap.number → OnTitle ms title i := by
  have hcatalog' : (d.tracker.uncount snap.number).milestones.map plain = ms.map plain := by
    rw [plain_uncount, hcatalog]
  obtain ⟨tracker, hassign⟩ : ∃ tracker, d.tracker.assignIssueMilestone snap.number title = .ok tracker := by
    obtain ⟨m, hm, htitle, hstate⟩ := hopen
    obtain ⟨m', hm', hplain⟩ := mem_plain hcatalog'.symm hm
    obtain ⟨-, htitle', hstate', -⟩ := plain_eq_iff.1 hplain
    exact assignIssueMilestone_ok hm' (htitle'.trans htitle) (hstate'.trans hstate)
  obtain ⟨m, hm, htitle, hstate, hplain, hnumbers, hothers, -⟩ := assignIssueMilestone_spec hassign
  have hexecute : ∃ live, executeAction d (assignDraft title bound snap.number).action = .ok (⟨true, none⟩,
      { d with tracker, live := live }) ∧ ∀ other, other ≠ snap.number →
        live.openIssues.find? (fun s => s.number = other) = d.live.openIssues.find? fun s => s.number = other := by
    refine ⟨({ d with tracker }.editLocalIssue snap.number fun i => { i with
        milestoneTitle := some title
        milestoneNumber := (mapGet d.titleToNumber title).or bound }).live, ?_,
      fun other hother => find?_editLocalIssue_other _ hother (by exact fun _ => rfl)⟩
    simp only [executeAction, executeAssign, assignDraft, hsnap, Option.filter, hne, Option.bind_some, hlive,
      hassign, Except.map, ne_eq, not_false_eq_true, decide_true, if_true, if_false]
    rfl
  obtain ⟨live, hexecute, hcopied⟩ := hexecute
  refine ⟨_, runAction_of_executeAction hexecute, ⟨hplain, hnumbers, fun i hi hother => (hothers i hi).1 hother,
    hcopied⟩, fun i hi hnumber => ?_⟩
  obtain ⟨m', hm', hplain'⟩ := mem_plain hcatalog' hm
  obtain ⟨hnumber', htitle', hstate', -⟩ := plain_eq_iff.1 hplain'
  refine ⟨m', hm', htitle'.trans htitle, hstate'.trans hstate, ?_⟩
  rw [hnumber']
  exact (hothers i hi).2 hnumber

/-! ## Between two issues -/

/-- The desk when the actions of some issues are done. -/
structure AfterIssues (stampText : Nat → String) (shipped : List String) (t₀ : Tracker)
    (ms : List MilestoneCatalogEntry) (done : List (Nat × String)) (d : Desk) : Prop where
  catalog : d.tracker.milestones.map plain = ms.map plain
  numbers : d.tracker.issues.map (·.number) = t₀.issues.map (·.number)
  placed : ∀ entry ∈ done, ∀ i ∈ d.tracker.issues, i.number = entry.1 → OnTitle ms entry.2 i
  untouched : ∀ i ∈ d.tracker.issues, i.number ∉ done.map Prod.fst → i ∈ t₀.issues
  copied : ∀ number, number ∉ done.map Prod.fst → d.live.openIssues.find? (fun s => s.number = number) =
      (t₀.snapshot stampText shipped).openIssues.find? fun s => s.number = number

variable {stampText : Nat → String} {shipped : List String} {t₀ : Tracker} {ms : List MilestoneCatalogEntry}

lemma AfterIssues.moved {done : List (Nat × String)}
    (h : AfterIssues stampText shipped t₀ ms done d) {entry : Nat × String} (hnew : entry.1 ∉ done.map Prod.fst)
    (hmoves : Moves entry.1 d d')
    (hplaced : ∀ i ∈ d'.tracker.issues, i.number = entry.1 → OnTitle ms entry.2 i) :
    AfterIssues stampText shipped t₀ ms (done ++ [entry]) d' where
  catalog := hmoves.catalog.trans h.catalog
  numbers := hmoves.numbers.trans h.numbers
  placed := by
    intro e he i hi hnumber
    rcases mem_append.1 he with he | he
    · have hother : i.number ≠ entry.1 := by
        rintro heq
        exact hnew (heq ▸ hnumber ▸ mem_map_of_mem he)
      exact h.placed e he i (hmoves.others i hi hother) hnumber
    · obtain rfl := mem_singleton.1 he
      exact hplaced i hi hnumber
  untouched := by
    intro i hi hdone
    rw [map_append, mem_append, not_or] at hdone
    exact h.untouched i (hmoves.others i hi (by simpa using hdone.2)) hdone.1
  copied := by
    intro number hdone
    rw [map_append, mem_append, not_or] at hdone
    rw [hmoves.copied number (by simpa using hdone.2)]
    exact h.copied number hdone.1

lemma AfterIssues.step {done : List (Nat × String)}
    (h : AfterIssues stampText shipped t₀ ms done d) {i : TrackerIssue} (hi : i ∈ t₀.issues)
    (hnew : i.number ∉ done.map Prod.fst) (bound : Option Nat) (hopen : ∃ m ∈ ms, m.title = title ∧ m.state = .open)
    (hstays : (t₀.snapshotIssue stampText i).milestoneTitle = some title → OnTitle ms title i)
    (hempty : title = "" → (t₀.snapshotIssue stampText i).milestoneTitle = some "") :
    ∃ d', runAll ((issueDrafts (t₀.snapshotIssue stampText i) title bound).map (·.action)) d = .ok d' ∧
      AfterIssues stampText shipped t₀ ms (done ++ [(i.number, title)]) d' := by
  have hsnap : d.live.openIssues.find? (fun s => s.number = i.number) = some (t₀.snapshotIssue stampText i) := by
    rw [h.copied i.number hnew]
    exact find?_snapshot hi
  by_cases hlive : (t₀.snapshotIssue stampText i).milestoneTitle = some title
  · refine ⟨d, by simp [issueDrafts, hlive, runAll], h.moved hnew (Moves.refl ..) fun i' hi' hnumber => ?_⟩
    have hmem := h.untouched i' hi' (hnumber ▸ hnew)
    rw [inj_on_of_nodup_map t₀.listed hmem hi hnumber]
    exact hstays hlive
  · have hne : title ≠ "" := by
      rintro rfl
      exact hlive (hempty rfl)
    rw [issueDrafts_eq hlive, map_append]
    -- the old milestone goes first, where there is one with a title
    have hclear : ∃ d' snap, runAll ((clearDrafts title (t₀.snapshotIssue stampText i)).map (·.action)) d = .ok d' ∧
        Moves i.number d d' ∧ d'.live.openIssues.find? (fun s => s.number = i.number) = some snap ∧
        snap.number = i.number ∧ snap.milestoneTitle ≠ some title := by
      cases htitle : (t₀.snapshotIssue stampText i).milestoneTitle with
      | none => exact ⟨d, _, by simp [clearDrafts, htitle, runAll], Moves.refl .., hsnap, rfl, hlive⟩
      | some liveTitle =>
        by_cases hnone : liveTitle = ""
        · exact ⟨d, _, by simp [clearDrafts, htitle, hnone, runAll], Moves.refl .., hsnap, rfl, hlive⟩
        · obtain ⟨r, hrun, hmoves, hcopied⟩ := run_clear (d := d) hsnap htitle hnone title
          refine ⟨r.2, _, ?_, hmoves, hcopied, rfl, by simp⟩
          simp only [clearDrafts, htitle, hnone, if_false, map_singleton, runAll, hrun]
    obtain ⟨d', snap, hrun, hmoves, hcopied, hnumber, hother⟩ := hclear
    rw [← hnumber] at hcopied
    obtain ⟨r, hassign, hmoves', hplaced⟩ := run_assign hcopied hother hne bound (hmoves.catalog.trans h.catalog) hopen
    rw [hnumber] at hassign hmoves' hplaced
    refine ⟨r.2, ?_, h.moved hnew (hmoves.trans hmoves') hplaced⟩
    rw [runAll_append hrun, map_singleton, runAll]
    exact hassign ▸ rfl

lemma afterIssues (h : AfterIssues stampText shipped t₀ ms [] d) {entries : List (Nat × String)}
    (hentries : (entries.map Prod.fst).Nodup) (boundOf : String → Option Nat)
    (hlisted : ∀ entry ∈ entries, entry.1 ∈ t₀.issues.map (·.number))
    (hopen : ∀ entry ∈ entries, ∃ m ∈ ms, m.title = entry.2 ∧ m.state = .open)
    (hstays : ∀ i ∈ t₀.issues, ∀ title, (i.number, title) ∈ entries →
      (t₀.snapshotIssue stampText i).milestoneTitle = some title → OnTitle ms title i)
    (hempty : ∀ i ∈ t₀.issues, (i.number, "") ∈ entries → (t₀.snapshotIssue stampText i).milestoneTitle = some "") :
    ∃ d', runAll ((entries.flatMap fun (issueNumber, title) =>
        match (t₀.snapshot stampText shipped).openIssues.find? fun i => i.number = issueNumber with
        | none => []
        | some snap => issueDrafts snap title (boundOf title)).map (·.action)) d = .ok d' ∧
      AfterIssues stampText shipped t₀ ms entries d' := by
  have hrest : ∀ (rest done : List (Nat × String)) (d : Desk), done ++ rest = entries →
      AfterIssues stampText shipped t₀ ms done d →
      ∃ d', runAll ((rest.flatMap fun (issueNumber, title) =>
          match (t₀.snapshot stampText shipped).openIssues.find? fun i => i.number = issueNumber with
          | none => []
          | some snap => issueDrafts snap title (boundOf title)).map (·.action)) d = .ok d' ∧
        AfterIssues stampText shipped t₀ ms entries d' := by
    intro rest
    induction rest with
    | nil =>
      intro done d hsplit h
      obtain rfl : done = entries := by simpa using hsplit
      exact ⟨d, rfl, h⟩
    | cons entry rest ih =>
      intro done d hsplit h
      obtain ⟨issueNumber, title⟩ := entry
      have hentry : (issueNumber, title) ∈ entries := by
        rw [← hsplit]
        simp
      obtain ⟨i, hi, hnumber⟩ := mem_map.1 (hlisted _ hentry)
      obtain rfl : i.number = issueNumber := hnumber
      have hnew : i.number ∉ done.map Prod.fst := by
        intro hmem
        rw [← hsplit, map_append, nodup_append] at hentries
        exact hentries.2.2 _ hmem i.number (by simp) rfl
      obtain ⟨d', hrun, hstep⟩ := h.step hi hnew (boundOf title) (hopen _ hentry) (hstays i hi title hentry)
        (by rintro rfl; exact hempty i hi hentry)
      obtain ⟨d'', hrun', hafter⟩ := ih (done ++ [(i.number, title)]) d' (by simpa using hsplit) hstep
      refine ⟨d'', ?_, hafter⟩
      rw [flatMap_cons, map_append]
      simp only [find?_snapshot hi]
      rw [runAll_append hrun]
      exact hrun'
  exact hrest entries [] d rfl h

end AgentPipeline.Roadmap
