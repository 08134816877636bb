import AgentPipeline.Roadmap.Converges

/-!
# Settled: a plan that can be bound settles the tracker

* `Settled`: what the release plan asks of the tracker;
* `Bindable`: what the plan and the tracker have to be for a run to get there;
* `rebuilt_of_named`: a manifest of a settled tracker has nothing to do;
* `settled_of_bindable`: a run on a bindable plan.

A milestone that is closed, but not empty or already shipped, is in the way of a target with its title: the
target is to be created, but the run finds the number of the title and takes it for done.
-/

namespace AgentPipeline.Roadmap

open List

section Settled

variable (host : NodeHost) (localeLe : String → String → Bool) (stampText : Nat → String)

/-- The milestones and issues of the tracker are those of the plan. -/
structure Settled (specs : List MilestoneSpec) (classes : List CompatibilityClassification)
    (shipped : List String) (generatedAt : String) (targets : List ReconciliationTargetMilestone)
    (t₀ t : Tracker) : Prop where
  named : ∀ target ∈ targets, Named target t.milestones
  issues : t.issues.map (·.number) = t₀.issues.map (·.number)
  placed : ∀ i ∈ t.issues, ∃ target ∈ targets, i.number ∈ target.issueNumbers ∧
    (∀ other ∈ targets, i.number ∈ other.issueNumbers → other = target) ∧ OnTitle t.milestones target.title i
  /-- Only the counts of a shipped milestone follow the issues that leave it. -/
  kept : ∀ m ∈ t₀.milestones, isShipped m shipped = true → ∃ m' ∈ t.milestones, plain m' = plain m
  rebuilt : ∀ a ∈ (buildReconciliationManifest host localeLe
    (previewInput stampText specs classes shipped generatedAt t)).actions, a.kind = .reuse

end Settled

/-- A title of the plan is free or can be bound, and its issues are on the milestone that it is bound to or can
be moved there. -/
structure Bindable (shipped : List String) (t : Tracker) (specs : List MilestoneSpec) : Prop where
  /-- A title that is taken has a milestone that is open or can be opened again. -/
  free : ∀ spec ∈ specs, ∀ m ∈ t.milestones, m.title = spec.title →
    ∃ m' ∈ t.milestones, m'.title = spec.title ∧ (m'.state = .open ∨ isReusableClosedEmpty m' shipped = true)
  /-- An issue on a milestone of the title is on the open one, or on the one that is opened again. -/
  homed : ∀ spec ∈ specs, ∀ i ∈ t.issues, i.number ∈ spec.issueNumbers → ∀ m ∈ t.milestones,
    i.milestone = some m.number → m.title = spec.title → m.state = .open ∨
      (isReusableClosedEmpty m shipped = true ∧ ∀ m' ∈ t.milestones, m'.title = spec.title → m'.state = .closed)
  /-- No issue can be moved to an empty title. -/
  untitled : ∀ spec ∈ specs, spec.title = "" → ∀ i ∈ t.issues, i.number ∈ spec.issueNumbers →
    ∃ m ∈ t.milestones, i.milestone = some m.number ∧ m.title = ""

variable {target : ReconciliationTargetMilestone} {m : MilestoneCatalogEntry} {title : String} {drafts : List Draft}

section Bound

variable {stampText : Nat → String} {shipped : List String} {t : Tracker} {specs : List MilestoneSpec}
  {manifest : ReconciliationManifest}

lemma Preview.spec (h : Preview stampText shipped t specs manifest) (htarget : target ∈ manifest.targets) :
    ∃ spec ∈ specs, target.title = spec.title ∧ target.description = spec.rationale ∧
      ∀ n, n ∈ target.issueNumbers ↔ n ∈ spec.issueNumbers ∧ n ∈ t.issues.map (·.number) := by
  rw [h.targets] at htarget
  obtain ⟨spec, hspec, rfl⟩ := mem_map.1 htarget
  obtain ⟨htitle, hdescription, hissues⟩ :=
    bindTarget_keeps (t.snapshot stampText shipped) (targetOf (t.issues.map (·.number)) spec)
  refine ⟨spec, hspec, htitle, hdescription, fun n => ?_⟩
  rw [hissues]
  simp [targetOf]

lemma Preview.titles (h : Preview stampText shipped t specs manifest) :
    manifest.targets.map (·.title) = specs.map (·.title) := by
  rw [h.targets, map_map]
  exact map_congr_left fun spec _ => (bindTarget_keeps _ _).1

/-- The titles of the issues, in the order of the targets. -/
def memberTitles (targets : List ReconciliationTargetMilestone) : List (Nat × String) :=
  targets.flatMap fun target => target.issueNumbers.map fun n => (n, target.title)

variable {targets : List ReconciliationTargetMilestone} {n : Nat}

lemma mem_memberTitles :
    (n, title) ∈ memberTitles targets ↔ ∃ target ∈ targets, n ∈ target.issueNumbers ∧ target.title = title := by
  simp [memberTitles]

lemma memberTitles_keys (targets : List ReconciliationTargetMilestone) :
    (memberTitles targets).map Prod.fst = targets.flatMap (·.issueNumbers) := by
  simp [memberTitles, map_flatMap, Function.comp_def]

lemma Preview.issueTargets (h : Preview stampText shipped t specs manifest) :
    issueTargets manifest.targets = memberTitles manifest.targets :=
  mapOf_of_nodup (by rw [← memberTitles, memberTitles_keys]; exact h.members)

lemma Preview.unique (h : Preview stampText shipped t specs manifest) (hdistinct : (specs.map (·.title)).Nodup)
    {other : ReconciliationTargetMilestone} (htarget : target ∈ manifest.targets)
    (hother : other ∈ manifest.targets) (hn : n ∈ target.issueNumbers) (hn' : n ∈ other.issueNumbers) :
    other = target := by
  have hkeys : ((memberTitles manifest.targets).map Prod.fst).Nodup := by
    rw [memberTitles_keys]
    exact h.members
  have hsame : (n, other.title) = (n, target.title) :=
    inj_on_of_nodup_map hkeys (mem_memberTitles.2 ⟨other, hother, hn', rfl⟩)
      (mem_memberTitles.2 ⟨target, htarget, hn, rfl⟩) rfl
  rw [← h.titles] at hdistinct
  exact inj_on_of_nodup_map hdistinct hother htarget (Prod.mk.inj hsame).2

variable {i : TrackerIssue}

lemma snapshotIssue_title {title : String} (h : (t.snapshotIssue stampText i).milestoneTitle = some title) :
    ∃ m ∈ t.milestones, i.milestone = some m.number ∧ m.title = title := by
  obtain ⟨m, hm, htitle⟩ := Option.map_eq_some_iff.1 h
  obtain ⟨number, hnumber, hfind⟩ := Option.bind_eq_some_iff.1 hm
  have hmatch : m.number = number := by simpa using find?_some hfind
  exact ⟨m, mem_of_find?_eq_some hfind, hmatch ▸ hnumber, htitle⟩

lemma snapshotIssue_of_milestone (hm : m ∈ t.milestones)
    (hi : i.milestone = some m.number) : (t.snapshotIssue stampText i).milestoneTitle = some m.title := by
  simp only [Tracker.snapshotIssue, hi, Option.bind_some, Tracker.milestone?, find?_number t.numbered hm,
    Option.map_some]

lemma Bindable.number (h : Bindable shipped t specs) {spec : MilestoneSpec} (hspec : spec ∈ specs)
    (htitle : target.title = spec.title) (hbinding : Binding t.milestones shipped target drafts target.number) :
    (target.number = none → titled target.title t.milestones = []) ∧
      ∀ i ∈ t.issues, i.number ∈ spec.issueNumbers → ∀ m ∈ t.milestones, i.milestone = some m.number →
        m.title = spec.title → target.number = some m.number := by
  generalize hnumber : target.number = number at hbinding
  cases hbinding with
  | free _ hclosed hnone =>
    have hempty : ∀ m ∈ t.milestones, m.title ≠ spec.title := by
      intro m hm hm'
      obtain ⟨m', hm', htitle', hstate | hreusable⟩ := h.free spec hspec m hm hm'
      · rw [hclosed m' hm' (htitle'.trans htitle.symm)] at hstate
        cases hstate
      · rw [hnone m' hm' (htitle'.trans htitle.symm)] at hreusable
        cases hreusable
    refine ⟨fun _ => ?_, fun i _ _ m hm _ hm' => absurd hm' (hempty m hm)⟩
    rw [titled, filter_eq_nil_iff]
    intro m hm
    simpa [htitle] using hempty m hm
  | isOpen m hm _ htitle' hstate honly =>
    refine ⟨by simp, fun i hi hmember m' hm' hon hm'title => ?_⟩
    have hm'target : m'.title = target.title := hm'title.trans htitle.symm
    rcases h.homed spec hspec i hi hmember m' hm' hon hm'title with hopen | ⟨-, hclosed⟩
    · rw [honly m' hm' hm'target hopen]
    · rw [hclosed m hm (htitle'.trans htitle)] at hstate
      cases hstate
  | isClosed m hm _ htitle' hreusable hclosed honly =>
    refine ⟨by simp, fun i hi hmember m' hm' hon hm'title => ?_⟩
    have hm'target : m'.title = target.title := hm'title.trans htitle.symm
    rcases h.homed spec hspec i hi hmember m' hm' hon hm'title with hopen | ⟨hreusable', -⟩
    · rw [hclosed m' hm' hm'target] at hopen
      cases hopen
    · rw [honly m' hm' hm'target hreusable']

/-! ## A run on a bindable plan -/

variable {ms : List MilestoneCatalogEntry}

lemma named_of_open {ms' : List MilestoneCatalogEntry}
    (hms' : (ms'.map (·.number)).Nodup) (hplain : ms'.map plain = ms.map plain) (hm : m ∈ titled target.title ms) (hstate : m.state = .open)
    (hdescription : m.description = target.description)
    (honly : ∀ m' ∈ titled target.title ms, m'.state = .open → m' = m) : Named target ms' := by
  obtain ⟨hm, htitle⟩ := mem_titled.1 hm
  obtain ⟨m', hm', hsame⟩ := mem_plain hplain.symm hm
  obtain ⟨hnumber, htitle', hstate', hdescription'⟩ := plain_eq_iff.1 hsame
  refine ⟨m', hm', htitle'.trans htitle, hstate'.trans hstate, hdescription'.trans hdescription, ?_⟩
  intro other hother htitleOther hstateOther
  obtain ⟨m'', hm'', hsame'⟩ := mem_plain hplain hother
  obtain ⟨hnumber'', htitle'', hstate'', -⟩ := plain_eq_iff.1 hsame'
  have hfound : m'' = m := honly m'' (mem_titled.2 ⟨hm'', htitle''.trans htitleOther⟩) (hstate''.trans hstateOther)
  refine inj_on_of_nodup_map hms' hother hm' ?_
  rw [← hnumber'', hfound, hnumber]

lemma OnTitle.plain {ms ms' : List MilestoneCatalogEntry} (hplain : ms'.map plain = ms.map plain)
    {title : String} (h : OnTitle ms title i) : OnTitle ms' title i := by
  obtain ⟨m, hm, htitle, hstate, hi⟩ := h
  obtain ⟨m', hm', hsame⟩ := mem_plain hplain.symm hm
  obtain ⟨hnumber, htitle', hstate', -⟩ := plain_eq_iff.1 hsame
  exact ⟨m', hm', htitle'.trans htitle, hstate'.trans hstate, hnumber.symm ▸ hi⟩

lemma kept_of_fits (hfits : ∀ target ∈ targets, Fits t target ms)
    (huntouched : ∀ title, (∀ target ∈ targets, target.title ≠ title) → titled title ms = titled title t.milestones)
    (hbinding : ∀ target ∈ targets, ∃ drafts, Binding t.milestones shipped target drafts target.number) (hm : m ∈ t.milestones) (hshipped : isShipped m shipped = true) : m ∈ ms := by
  have hhere : m ∈ titled m.title t.milestones := mem_titled.2 ⟨hm, rfl⟩
  by_cases htarget : ∃ target ∈ targets, target.title = m.title
  · obtain ⟨target, htarget, htitle⟩ := htarget
    rcases hfits target htarget with ⟨number, hnumber, hms⟩ | ⟨-, hnone, -⟩
    · have hother : m.number ≠ number := by
        rintro rfl
        obtain ⟨drafts, hbound⟩ := hbinding target htarget
        rw [hnumber] at hbound
        generalize hbind : some m.number = bound at hbound
        cases hbound with
        | free => cases hbind
        | isOpen m' hm' _ _ hstate =>
          rw [inj_on_of_nodup_map t.numbered hm hm' (Option.some.inj hbind), not_isShipped_of_open hstate] at hshipped
          cases hshipped
        | isClosed m' hm' _ _ hreusable =>
          rw [inj_on_of_nodup_map t.numbered hm hm' (Option.some.inj hbind),
            (closed_of_reusable hreusable).2] at hshipped
          cases hshipped
      rw [← htitle] at hhere
      have hmem : m ∈ titled target.title ms := by
        rw [hms]
        exact mem_map.2 ⟨m, hhere, if_neg hother⟩
      exact (mem_titled.1 hmem).1
    · rw [htitle] at hnone
      rw [hnone] at hhere
      cases hhere
  · have hsame := huntouched m.title fun target htarget' htitle => htarget ⟨target, htarget', htitle⟩
    rw [← hsame] at hhere
    exact (mem_titled.1 hhere).1

end Bound

lemma eq_singleton_of_nodup {α : Type} {l : List α} (hl : l.Nodup) {a : α} (ha : a ∈ l)
    (h : ∀ b ∈ l, b = a) : l = [a] := by
  match l, hl, h, ha with
  | [b], _, h, _ => rw [h b mem_cons_self]
  | b :: c :: rest, hl, h, _ =>
    have hsame : b = c := (h b (by simp)).trans (h c (by simp)).symm
    simp [hsame] at hl

lemma openMatches_nodup {catalog : List MilestoneCatalogEntry} (hcatalog : (catalog.map (·.number)).Nodup)
    {shipped : List String} : (openMatches catalog title shipped).Nodup := by
  rw [openMatches, uniqueCatalog_of_nodup hcatalog]
  exact (List.Nodup.of_map _ hcatalog).filter _

lemma reuse_of_open {milestones : List MilestoneCatalogEntry} {shipped : List String} {number : Option Nat}
    (hbinding : Binding milestones shipped target drafts number) (hm : m ∈ milestones)
    (htitle : m.title = target.title) (hstate : m.state = .open)
    (honly : ∀ m' ∈ milestones, m'.title = target.title → m'.state = .open → m' = m)
    (hdescription : m.description = target.description) : ∀ draft ∈ drafts, draft.action.kind = .reuse := by
  cases hbinding with
  | free _ hclosed =>
    rw [hclosed m hm htitle] at hstate
    cases hstate
  | isOpen m' hm' _ htitle' hstate' =>
    rw [honly m' hm' htitle' hstate', descriptionDrafts, if_neg (not_not_intro hdescription)]
    intro draft hdraft
    rw [mem_singleton.1 hdraft]
    rfl
  | isClosed m' _ _ _ _ hclosed =>
    rw [hclosed m hm htitle] at hstate
    cases hstate

variable {host : NodeHost} {localeLe : String → String → Bool} {stampText : Nat → String} {shipped : List String}
  {specs : List MilestoneSpec}

lemma rebuilt_of_named {t₀ t : Tracker} {manifest : ReconciliationManifest}
    (classes : List CompatibilityClassification) (generatedAt : String)
    (h : Preview stampText shipped t₀ specs manifest) (hnumbers : t.issues.map (·.number) = t₀.issues.map (·.number))
    (hnamed : ∀ target ∈ manifest.targets, Named target t.milestones)
    (hplaced : ∀ i ∈ t.issues, ∀ title, (i.number, title) ∈ memberTitles manifest.targets →
      OnTitle t.milestones title i) : ∀ a ∈ (buildReconciliationManifest host localeLe
      (previewInput stampText specs classes shipped generatedAt t)).actions, a.kind = .reuse := by
  set live := t.snapshot stampText shipped with hlive
  set openNumbers := t₀.issues.map (·.number) with hopenNumbers
  set targets := specs.map fun spec => (bindTarget live (targetOf openNumbers spec)).1 with htargets
  have hcatalog : (live.milestones.map (·.number)).Nodup := t.numbered
  have hnamed' : ∀ spec ∈ specs, ∃ m ∈ live.milestones, m.title = spec.title ∧ m.state = .open ∧
      m.description = spec.rationale ∧ ∀ m' ∈ live.milestones, m'.title = spec.title → m'.state = .open → m' = m := by
    intro spec hspec
    have hmem : (bindTarget (t₀.snapshot stampText shipped) (targetOf openNumbers spec)).1 ∈ manifest.targets := by
      rw [h.targets]
      exact mem_map_of_mem (f := fun spec => (bindTarget _ (targetOf openNumbers spec)).1) hspec
    obtain ⟨htitle, hdescription, -⟩ := bindTarget_keeps (t₀.snapshot stampText shipped) (targetOf openNumbers spec)
    have hopen := hnamed _ hmem
    rw [Named, htitle, hdescription] at hopen
    exact hopen
  have hraw : ∀ spec : MilestoneSpec, (targetOf openNumbers spec).number = none := fun _ => rfl
  have hbinding : ∀ target ∈ targets, ∃ drafts number, targetDrafts live target = .ok (drafts, number) ∧
      Binding live.milestones live.shippedTitles target drafts number := by
    intro target htarget
    obtain ⟨spec, hspec, rfl⟩ := mem_map.1 htarget
    obtain ⟨m, hm, htitle, hstate, -, honly⟩ := hnamed' spec hspec
    have hmatches : openMatches live.milestones (targetOf openNumbers spec).title live.shippedTitles = [m] := by
      refine eq_singleton_of_nodup (openMatches_nodup hcatalog) ((mem_openMatches hcatalog).2 ⟨hm, htitle, hstate⟩)
        fun m' hm' => ?_
      obtain ⟨hm', htitle', hstate'⟩ := (mem_openMatches hcatalog).1 hm'
      exact honly m' hm' htitle' hstate'
    refine binding_of_bindTarget hcatalog (hraw spec) ?_
    rw [bindTarget, hraw spec, hmatches]
    rfl
  obtain ⟨draftsOf, boundOf, hbound, hactions⟩ := planned_of_binding
    ((buildReconciliationTargets specs classes openNumbers).2 ++
      (bindTargetMilestoneIdentities (specs.map (targetOf openNumbers)) live).2) mapGet_openByNumber hbinding
  have hsame : (buildReconciliationManifest host localeLe
      (previewInput stampText specs classes shipped generatedAt t)).actions =
      (planReconciliationActions targets live ((buildReconciliationTargets specs classes openNumbers).2 ++
        (bindTargetMilestoneIdentities (specs.map (targetOf openNumbers)) live).2)).1 := by
    simp only [buildReconciliationManifest, previewInput, hnumbers, buildReconciliationTargets,
      bindTargetMilestoneIdentities, map_map]
    rfl
  rw [hsame]
  intro a ha
  have hblank : a.blank ∈ (targets.flatMap draftsOf ++ issuePlan live targets boundOf).map (·.action) := by
    rw [← hactions]
    exact mem_map_of_mem ha
  obtain ⟨draft, hdraft, haction⟩ := mem_map.1 hblank
  have hkind : draft.action.kind = a.kind := by
    rw [haction]
    rfl
  rw [← hkind]
  rcases mem_append.1 hdraft with hdraft | hdraft
  · obtain ⟨target, htarget, hdraft⟩ := mem_flatMap.1 hdraft
    obtain ⟨spec, hspec, rfl⟩ := mem_map.1 htarget
    obtain ⟨htitle', hdescription', -⟩ := bindTarget_keeps live (targetOf openNumbers spec)
    obtain ⟨m, hm, htitle, hstate, hdescription, honly⟩ := hnamed' spec hspec
    exact reuse_of_open (hbound _ htarget) hm (htitle.trans htitle'.symm) hstate
      (fun m' hm' htitle hstate => honly m' hm' (htitle.trans htitle') hstate)
      (hdescription.trans hdescription'.symm) draft hdraft
  · exfalso
    have hmembers : memberTitles targets = memberTitles manifest.targets := by
      rw [h.targets, htargets, memberTitles, memberTitles, flatMap_map, flatMap_map]
      refine congrArg (List.flatMap · specs) (funext fun spec => ?_)
      obtain ⟨htitle, -, hissues⟩ := bindTarget_keeps live (targetOf openNumbers spec)
      obtain ⟨htitle₀, -, hissues₀⟩ := bindTarget_keeps (t₀.snapshot stampText shipped) (targetOf openNumbers spec)
      rw [htitle, hissues]
      rw [hopenNumbers] at htitle₀ hissues₀ ⊢
      rw [htitle₀, hissues₀]
    have hentries : issueTargets targets = memberTitles manifest.targets := by
      rw [← h.issueTargets, issueTargets, issueTargets, ← memberTitles, ← memberTitles, hmembers]
    rw [issuePlan, hentries] at hdraft
    obtain ⟨⟨n, title⟩, hentry, hdraft⟩ := mem_flatMap.1 hdraft
    obtain ⟨target, htarget, hn, -⟩ := mem_memberTitles.1 hentry
    have hlisted := h.listedOpen target htarget n hn
    rw [← hopenNumbers, ← hnumbers] at hlisted
    obtain ⟨i, hi, rfl⟩ := mem_map.1 hlisted
    obtain ⟨m, hm, htitle, -, hon⟩ := hplaced i hi title hentry
    simp only [hlive, find?_snapshot hi] at hdraft
    rw [issueDrafts, if_pos ((snapshotIssue_of_milestone hm hon).trans (congrArg some htitle))] at hdraft
    cases hdraft

lemma settled_of_bindable {t : Tracker} {manifest : ReconciliationManifest}
    (classes : List CompatibilityClassification) (generatedAt : String)
    (h : Preview stampText shipped t specs manifest) (hdistinct : (specs.map (·.title)).Nodup)
    (hbindable : Bindable shipped t specs) : ∃ d, runAll manifest.actions (firstDesk stampText shipped t) = .ok d ∧
      Settled host localeLe stampText specs classes shipped generatedAt manifest.targets t d.tracker := by
  obtain ⟨draftsOf, boundOf, hbinding, hactions⟩ := h.planned
  change ∀ target ∈ manifest.targets, Binding t.milestones shipped target (draftsOf target) target.number at hbinding
  have htargets : (manifest.targets.map (·.title)).Nodup := by
    rw [h.titles]
    exact hdistinct
  have hfree : ∀ target ∈ manifest.targets, target.number = none → titled target.title t.milestones = [] := by
    intro target htarget
    obtain ⟨spec, hspec, htitle, -⟩ := h.spec htarget
    exact (hbindable.number hspec htitle (hbinding target htarget)).1
  obtain ⟨d₁, hrun₁, hafter₁⟩ := afterTargets stampText htargets hbinding hfree
  have hopen : ∀ target ∈ manifest.targets, ∃ m, m ∈ titled target.title d₁.tracker.milestones ∧
      m.state = .open ∧ m.description = target.description ∧ (∀ number ∈ target.number, number = m.number) ∧
      ∀ m' ∈ titled target.title d₁.tracker.milestones, m'.state = .open → m' = m :=
    fun target htarget => open_of_fits (hafter₁.fits target htarget) (hbinding target htarget)
  have hkeys : ((memberTitles manifest.targets).map Prod.fst).Nodup := by
    rw [memberTitles_keys]
    exact h.members
  have hstart : AfterIssues stampText shipped t d₁.tracker.milestones [] d₁ :=
    ⟨rfl, by rw [hafter₁.issues], by simp, fun i hi _ => hafter₁.issues ▸ hi, fun _ _ => by rw [hafter₁.copiedIssues]⟩
  have hlisted : ∀ entry ∈ memberTitles manifest.targets, entry.1 ∈ t.issues.map (·.number) := by
    rintro ⟨n, title⟩ hentry
    obtain ⟨target, htarget, hn, -⟩ := mem_memberTitles.1 hentry
    exact h.listedOpen target htarget n hn
  have hready : ∀ entry ∈ memberTitles manifest.targets,
      ∃ m ∈ d₁.tracker.milestones, m.title = entry.2 ∧ m.state = .open := by
    rintro ⟨n, title⟩ hentry
    obtain ⟨target, htarget, -, rfl⟩ := mem_memberTitles.1 hentry
    obtain ⟨m, hm, hstate, -⟩ := hopen target htarget
    exact ⟨m, (mem_titled.1 hm).1, (mem_titled.1 hm).2, hstate⟩
  have hstays : ∀ i ∈ t.issues, ∀ title, (i.number, title) ∈ memberTitles manifest.targets →
      (t.snapshotIssue stampText i).milestoneTitle = some title → OnTitle d₁.tracker.milestones title i := by
    intro i hi title hentry hlive
    obtain ⟨target, htarget, hn, rfl⟩ := mem_memberTitles.1 hentry
    obtain ⟨spec, hspec, htitle, -, hmembers⟩ := h.spec htarget
    obtain ⟨m, hm, hon, hmtitle⟩ := snapshotIssue_title hlive
    have hbound := (hbindable.number hspec htitle (hbinding target htarget)).2 i hi ((hmembers _).1 hn).1 m hm hon
      (hmtitle.trans htitle)
    obtain ⟨m', hm', hstate, -, hnumber, -⟩ := hopen target htarget
    refine ⟨m', (mem_titled.1 hm').1, (mem_titled.1 hm').2, hstate, ?_⟩
    rw [hon, hnumber m.number hbound]
  have hempty : ∀ i ∈ t.issues, (i.number, "") ∈ memberTitles manifest.targets →
      (t.snapshotIssue stampText i).milestoneTitle = some "" := by
    intro i hi hentry
    obtain ⟨target, htarget, hn, hempty⟩ := mem_memberTitles.1 hentry
    obtain ⟨spec, hspec, htitle, -, hmembers⟩ := h.spec htarget
    obtain ⟨m, hm, hon, hmtitle⟩ := hbindable.untitled spec hspec (htitle.symm.trans hempty) i hi
      ((hmembers _).1 hn).1
    rw [snapshotIssue_of_milestone hm hon, hmtitle]
  obtain ⟨d₂, hrun₂, hafter₂⟩ := afterIssues hstart hkeys boundOf hlisted hready hstays hempty
  have hrun : runAll manifest.actions (firstDesk stampText shipped t) = .ok d₂ := by
    rw [← runAll_blank, hactions, map_append, runAll_append hrun₁, issuePlan, h.issueTargets]
    exact hrun₂
  have hnamed : ∀ target ∈ manifest.targets, Named target d₂.tracker.milestones := by
    intro target htarget
    obtain ⟨m, hm, hstate, hdescription, -, honly⟩ := hopen target htarget
    exact named_of_open d₂.tracker.numbered hafter₂.catalog hm hstate hdescription honly
  have hplaced : ∀ i ∈ d₂.tracker.issues, ∀ title, (i.number, title) ∈ memberTitles manifest.targets →
      OnTitle d₂.tracker.milestones title i :=
    fun i hi title hentry => (hafter₂.placed _ hentry i hi rfl).plain hafter₂.catalog
  refine ⟨d₂, hrun, hnamed, hafter₂.numbers, fun i hi => ?_, fun m hm hshipped => ?_,
    rebuilt_of_named classes generatedAt h hafter₂.numbers hnamed hplaced⟩
  · have hlisted : i.number ∈ t.issues.map (·.number) := hafter₂.numbers ▸ mem_map_of_mem hi
    obtain ⟨i₀, hi₀, hnumber⟩ := mem_map.1 hlisted
    obtain ⟨target, htarget, hn⟩ := h.covered i₀ hi₀
    rw [hnumber] at hn
    exact ⟨target, htarget, hn, fun other hother hn' => h.unique hdistinct htarget hother hn hn',
      hplaced i hi _ (mem_memberTitles.2 ⟨target, htarget, hn, rfl⟩)⟩
  · have hkept := kept_of_fits hafter₁.fits hafter₁.untouched
      (fun target htarget => ⟨_, hbinding target htarget⟩) hm hshipped
    exact mem_plain hafter₂.catalog.symm hkept

end AgentPipeline.Roadmap
