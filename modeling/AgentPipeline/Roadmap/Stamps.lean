import AgentPipeline.Roadmap.Ready

/-!
# Stamps: what the fingerprint tells apart

* `SameLive`, `sameLive_of_payload`: equal fingerprint values are of one live state, in any order;
* `Stamped`: an issue that a run has moved carries a later stamp in the tracker, and its old one in the local copy;
* `moved_of_payload`: the two differ as soon as an issue was moved.
-/

namespace AgentPipeline.Roadmap

open List

/-! ## Equal values -/

/-- The same live state, listed in any order. -/
structure SameLive (a b : ReconcileLiveState) : Prop where
  milestones : a.milestones.Perm b.milestones
  issues : a.openIssues.Perm b.openIssues
  shipped : a.shippedTitles.Perm b.shippedTitles

/-- The digests tell two live states apart. -/
structure Telling (host : NodeHost) (a b : ReconcileLiveState) : Prop where
  payloads : computeLiveStateFingerprint host a = computeLiveStateFingerprint host b →
    fingerprintPayload host a = fingerprintPayload host b
  descriptions : ∀ m ∈ a.milestones, ∀ m' ∈ b.milestones,
    sha12 host m.description = sha12 host m'.description → m.description = m'.description

lemma eq_of_map_eq {α β : Type} {f : α → β} {l l' : List α} (hf : ∀ a ∈ l, ∀ b ∈ l', f a = f b → a = b)
    (h : l.map f = l'.map f) : l = l' := by
  induction l generalizing l' with
  | nil =>
    cases l' with
    | nil => rfl
    | cons b l' => cases h
  | cons a l ih =>
    cases l' with
    | nil => cases h
    | cons b l' =>
      simp only [map_cons, List.cons.injEq] at h
      rw [hf a mem_cons_self b mem_cons_self h.1,
        ih (fun x hx y hy => hf x (mem_cons_of_mem _ hx) y (mem_cons_of_mem _ hy)) h.2]

lemma jsonNat_inj {n m : Nat} : jsonNat n = jsonNat m ↔ n = m := by
  simp [jsonNat]

lemma jsonOrNull_nat_inj {n m : Option Nat} : jsonOrNull jsonNat n = jsonOrNull jsonNat m ↔ n = m := by
  cases n <;> cases m <;> simp [jsonOrNull, jsonNat]

lemma jsonOrNull_text_inj {n m : Option String} : jsonOrNull Json.str n = jsonOrNull Json.str m ↔ n = m := by
  cases n <;> cases m <;> simp [jsonOrNull]

lemma issueRow_inj {s s' : IssueMilestoneSnapshot} (h : issueRow s = issueRow s') :
    s.number = s'.number ∧ s.milestoneNumber = s'.milestoneNumber ∧ s.milestoneTitle = s'.milestoneTitle ∧
      s.updatedAt.getD "" = s'.updatedAt.getD "" := by
  simp only [issueRow, Json.obj.injEq, List.cons.injEq, Prod.mk.injEq, true_and, and_true, jsonNat_inj,
    jsonOrNull_nat_inj, jsonOrNull_text_inj, Json.str.injEq] at h
  exact ⟨h.1, h.2.2.1, h.2.2.2.1, h.2.2.2.2⟩

variable {host : NodeHost}

lemma milestoneRow_inj {m m' : MilestoneCatalogEntry}
    (hdescription : sha12 host m.description = sha12 host m'.description → m.description = m'.description)
    (h : milestoneRow host m = milestoneRow host m') : m = m' := by
  simp only [milestoneRow, Json.obj.injEq, List.cons.injEq, Prod.mk.injEq, true_and, and_true, jsonNat_inj,
    Json.str.injEq] at h
  obtain ⟨hnumber, htitle, htext, hdigest, hopen, hclosed⟩ := h
  have hsame := hdescription hdigest
  have hstate : m.state = m'.state := by
    cases hm : m.state <;> cases hm' : m'.state <;> simp [hm, hm'] at htext ⊢
  obtain ⟨number, title, state, description, openIssues, closedIssues⟩ := m
  obtain ⟨number', title', state', description', openIssues', closedIssues'⟩ := m'
  simp only at hnumber htitle hstate hsame hopen hclosed
  subst hnumber htitle hstate hsame hopen hclosed
  rfl

lemma payload_inj {a b : ReconcileLiveState}
    (h : fingerprintPayload host a = fingerprintPayload host b) :
    (((a.openIssues.filter (·.isOpen)).insertionSort fun a b => a.number ≤ b.number).map issueRow =
        ((b.openIssues.filter (·.isOpen)).insertionSort fun a b => a.number ≤ b.number).map issueRow) ∧
      ((a.milestones.insertionSort fun a b => a.number ≤ b.number).map (milestoneRow host) =
        (b.milestones.insertionSort fun a b => a.number ≤ b.number).map (milestoneRow host)) ∧
      sortTexts a.shippedTitles = sortTexts b.shippedTitles := by
  simp only [fingerprintPayload, Json.obj.injEq, List.cons.injEq, Prod.mk.injEq, true_and, and_true,
    Json.arr.injEq] at h
  exact ⟨h.1, h.2.1, map_injective_iff.2 (fun _ _ => Json.str.inj) h.2.2⟩

/-- How the open issues of a tracker are listed. -/
def Listed (s : IssueMilestoneSnapshot) : Prop := s.isOpen = true ∧ s.updatedAt.isSome = true

lemma sameLive_of_payload {a b : ReconcileLiveState} (hdigest : Telling host a b)
    (ha : ∀ s ∈ a.openIssues, Listed s) (hb : ∀ s ∈ b.openIssues, Listed s)
    (h : computeLiveStateFingerprint host a = computeLiveStateFingerprint host b) : SameLive a b := by
  obtain ⟨hissues, hmilestones, hshipped⟩ := payload_inj (hdigest.payloads h)
  have hopen : ∀ c : ReconcileLiveState, (∀ s ∈ c.openIssues, Listed s) →
      c.openIssues.filter (·.isOpen) = c.openIssues :=
    fun c hc => filter_eq_self.2 fun s hs => (hc s hs).1
  rw [hopen a ha, hopen b hb] at hissues
  refine ⟨?_, ?_, ?_⟩
  · have heq : (a.milestones.insertionSort fun a b => a.number ≤ b.number) =
        b.milestones.insertionSort fun a b => a.number ≤ b.number :=
      eq_of_map_eq (fun m hm m' hm' hrow => milestoneRow_inj
        (hdigest.descriptions m ((mem_insertionSort _).1 hm) m' ((mem_insertionSort _).1 hm')) hrow) hmilestones
    have hsorted := perm_insertionSort (fun a b => a.number ≤ b.number) a.milestones
    rw [heq] at hsorted
    exact hsorted.symm.trans (perm_insertionSort _ _)
  · have hrows : ∀ s ∈ (a.openIssues.insertionSort fun a b => a.number ≤ b.number),
        ∀ s' ∈ (b.openIssues.insertionSort fun a b => a.number ≤ b.number), issueRow s = issueRow s' → s = s' := by
      intro s hs s' hs' hrow
      obtain ⟨hsopen, hsstamp⟩ := ha s ((mem_insertionSort _).1 hs)
      obtain ⟨hsopen', hsstamp'⟩ := hb s' ((mem_insertionSort _).1 hs')
      obtain ⟨hnumber, hmilestone, htitle, hstamp⟩ := issueRow_inj hrow
      obtain ⟨stamp, hstamped⟩ := Option.isSome_iff_exists.1 hsstamp
      obtain ⟨stamp', hstamped'⟩ := Option.isSome_iff_exists.1 hsstamp'
      rw [hstamped, hstamped'] at hstamp
      obtain ⟨number, isOpen, milestoneNumber, milestoneTitle, updatedAt⟩ := s
      obtain ⟨number', isOpen', milestoneNumber', milestoneTitle', updatedAt'⟩ := s'
      simp only [Option.getD_some] at hnumber hmilestone htitle hstamp hsopen hsopen' hstamped hstamped'
      subst hnumber hmilestone htitle hstamp hsopen hsopen' hstamped hstamped'
      rfl
    have heq : (a.openIssues.insertionSort fun a b => a.number ≤ b.number) =
        b.openIssues.insertionSort fun a b => a.number ≤ b.number := eq_of_map_eq hrows hissues
    have hsorted := perm_insertionSort (fun a b => a.number ≤ b.number) a.openIssues
    rw [heq] at hsorted
    exact hsorted.symm.trans (perm_insertionSort _ _)
  · have hperm : ∀ texts : List String, (sortTexts texts).Perm texts := fun texts => perm_insertionSort ..
    exact (hperm a.shippedTitles).symm.trans (hshipped ▸ hperm b.shippedTitles)

/-! ## Stamps -/

/-- The time goes on, and an issue that is changed is stamped with it. -/
structure Later (t t' : Tracker) : Prop where
  clock : t.clock ≤ t'.clock
  stamps : ∀ i ∈ t.issues, ∃ i' ∈ t'.issues, i'.number = i.number ∧ (i'.stamp = i.stamp ∨ t.clock ≤ i'.stamp)

variable {t : Tracker}

lemma Later.of_issues {t' : Tracker} (hissues : t'.issues = t.issues) (hclock : t'.clock = t.clock) : Later t t' :=
  ⟨hclock ▸ le_rfl, fun i hi => ⟨i, hissues ▸ hi, rfl, .inl rfl⟩⟩

lemma uncount_clock (t : Tracker) (issueNumber : Nat) : (t.uncount issueNumber).clock = t.clock := by
  unfold Tracker.uncount
  split <;> rfl

lemma later_placeIssue {n : Nat} {m : Option Nat}
    (hplaced : ∀ k ∈ m, k ∈ t.milestones.map (·.number)) : Later t (t.placeIssue n m hplaced) := by
  refine ⟨Nat.le_succ _, fun i hi => ⟨_, mem_map_of_mem hi, ?_⟩⟩
  split
  · exact ⟨rfl, .inr le_rfl⟩
  · exact ⟨rfl, .inl rfl⟩

lemma Later.trans {t' t'' : Tracker} (h : Later t t') (h' : Later t' t'') : Later t t'' := by
  refine ⟨h.clock.trans h'.clock, fun i hi => ?_⟩
  obtain ⟨i', hi', hnumber, hstamp⟩ := h.stamps i hi
  obtain ⟨i'', hi'', hnumber', hstamp'⟩ := h'.stamps i' hi'
  refine ⟨i'', hi'', hnumber'.trans hnumber, ?_⟩
  rcases hstamp' with hsame | hlater
  · exact hsame ▸ hstamp
  · exact .inr (h.clock.trans hlater)

lemma later_clear (t : Tracker) (issueNumber : Nat) : Later t (t.clearIssueMilestone issueNumber) :=
  (Later.of_issues (issues_uncount t issueNumber) (uncount_clock t issueNumber)).trans (later_placeIssue _)

lemma later_assign {tracker : Tracker} {issueNumber : Nat} {title : String}
    (h : t.assignIssueMilestone issueNumber title = .ok tracker) : Later t tracker := by
  unfold Tracker.assignIssueMilestone at h
  split at h
  · cases h
  · next m hfind =>
    cases h
    refine (Later.of_issues (issues_uncount t issueNumber) (uncount_clock t issueNumber)).trans ?_
    have hplace : Later (t.uncount issueNumber) ((t.uncount issueNumber).placeIssue issueNumber (some m.number)
        fun n hn => by
          obtain rfl : m.number = n := by simpa using hn
          exact mem_map_of_mem (mem_of_find?_eq_some hfind)) := later_placeIssue _
    exact ⟨hplace.clock, hplace.stamps⟩

/-- What an action leaves of the issues: the local copy keeps numbers and stamps and changes the title of the
issue that it is about, and the time of the tracker goes on. -/
structure Touches (a : ReconciliationAction) (d d' : Desk) : Prop where
  copied : ∃ edit : IssueMilestoneSnapshot → IssueMilestoneSnapshot,
    d'.live.openIssues = d.live.openIssues.map edit ∧ ∀ s, (edit s).number = s.number ∧
      (edit s).updatedAt = s.updatedAt ∧ ((edit s).milestoneTitle = s.milestoneTitle ∨
        a.issueNumber = some s.number ∧ ((edit s).milestoneTitle = none ∨ (edit s).milestoneTitle = a.milestoneTitle))
  later : Later d.tracker d'.tracker

variable {a : ReconciliationAction} {d : Desk}

lemma Touches.of_issues {d' : Desk} (hcopied : d'.live.openIssues = d.live.openIssues)
    (hissues : d'.tracker.issues = d.tracker.issues) (hclock : d'.tracker.clock = d.tracker.clock) : Touches a d d' :=
  ⟨⟨id, by simpa using hcopied, fun _ => ⟨rfl, rfl, .inl rfl⟩⟩, .of_issues hissues hclock⟩

variable {r : ActionResult × Desk}

lemma touches_clear (h : executeClearStale d a = .ok r) : Touches a d r.2 := by
  unfold executeClearStale at h
  split at h
  · cases h
  · next issueNumber hnumber =>
    dsimp only at h
    split at h
    · cases h
      exact .of_issues rfl rfl rfl
    · cases h
      refine ⟨⟨_, rfl, fun s => ?_⟩, later_clear ..⟩
      split
      · next hs => exact ⟨rfl, rfl, .inr ⟨hs ▸ hnumber, .inl rfl⟩⟩
      · exact ⟨rfl, rfl, .inl rfl⟩

lemma touches_assign (h : executeAssign d a = .ok r) : Touches a d r.2 := by
  unfold executeAssign at h
  split at h
  · next issueNumber title hnumber htitle =>
    dsimp only at h
    split at h
    · cases h
      exact .of_issues rfl rfl rfl
    · cases hassign : d.tracker.assignIssueMilestone issueNumber title with
      | error message => simp [hassign, Except.map] at h
      | ok tracker =>
        rw [hassign] at h
        cases h
        refine ⟨⟨_, rfl, fun s => ?_⟩, later_assign hassign⟩
        split
        · next hs =>
          exact ⟨rfl, rfl, .inr ⟨hs ▸ hnumber, .inr (Option.filter_eq_some_iff.1 htitle).1.symm⟩⟩
        · exact ⟨rfl, rfl, .inl rfl⟩
  · cases h

lemma touches_milestone (h : executeCreate d a = .ok r ∨ executeReopen d a = .ok r ∨ executeRename d a = .ok r ∨
      executeUpdateDescription d a = .ok r) : Touches a d r.2 := by
  rcases h with h | h | h | h
  · unfold executeCreate at h
    dsimp only at h
    split at h
    · cases h
      exact .of_issues rfl rfl rfl
    · split at h <;> cases h <;> exact .of_issues rfl rfl rfl
  · unfold executeReopen at h
    split at h
    · cases h
    · dsimp only at h
      split at h
      · cases h
      · split at h
        · cases h
        · split at h <;> cases h <;> exact .of_issues rfl rfl rfl
  · unfold executeRename at h
    split at h
    · dsimp only at h
      split at h
      · cases h
      · split at h <;> cases h <;> exact .of_issues rfl rfl rfl
    · cases h
  · unfold executeUpdateDescription at h
    split at h
    · cases h
    · dsimp only at h
      split at h
      · cases h
      · split at h <;> cases h <;> exact .of_issues rfl rfl rfl

lemma touches_runAction (h : runAction d a = .ok r) : Touches a d r.2 := by
  have hexecute : ∀ r', executeAction d a = .ok r' → Touches a d r'.2 := by
    intro r' h
    unfold executeAction at h
    cases hkind : a.kind with
    | reuse =>
      simp only [hkind] at h
      cases h
      exact .of_issues rfl rfl rfl
    | create => exact touches_milestone (.inl (by simpa only [hkind] using h))
    | reopen => exact touches_milestone (.inr (.inl (by simpa only [hkind] using h)))
    | rename => exact touches_milestone (.inr (.inr (.inl (by simpa only [hkind] using h))))
    | updateDescription => exact touches_milestone (.inr (.inr (.inr (by simpa only [hkind] using h))))
    | clearStale => exact touches_clear (by simpa only [hkind] using h)
    | assign => exact touches_assign (by simpa only [hkind] using h)
  unfold runAction at h
  cases hresult : executeAction d a with
  | error message => simp [hresult, Except.map] at h
  | ok r' =>
    rw [hresult] at h
    cases h
    exact ⟨(hexecute r' hresult).copied, (hexecute r' hresult).later⟩

/-- A run keeps the stamps of the local copy, and the time of the tracker goes on. -/
structure Drifts (stampText : Nat → String) (t₀ : Tracker) (d : Desk) : Prop where
  dated : ∀ s ∈ d.live.openIssues, ∃ i ∈ t₀.issues, s.number = i.number ∧ s.updatedAt = some (stampText i.stamp)
  clock : t₀.clock ≤ d.tracker.clock

/-- The issue was changed since. -/
def Stamped (t₀ : Tracker) (number : Nat) (d : Desk) : Prop :=
  ∃ i ∈ d.tracker.issues, i.number = number ∧ t₀.clock ≤ i.stamp

variable {stampText : Nat → String} {t₀ : Tracker}

lemma Drifts.step (h : Drifts stampText t₀ d) (hrun : runAction d a = .ok r) :
    Drifts stampText t₀ r.2 ∧ ∀ number, Stamped t₀ number d → Stamped t₀ number r.2 := by
  obtain ⟨⟨edit, hcopied, hedit⟩, hlater⟩ := touches_runAction hrun
  refine ⟨⟨fun s hs => ?_, h.clock.trans hlater.clock⟩, ?_⟩
  · rw [hcopied] at hs
    obtain ⟨s', hs', rfl⟩ := mem_map.1 hs
    obtain ⟨i, hi, hnumber, hstamp⟩ := h.dated s' hs'
    exact ⟨i, hi, (hedit s').1.trans hnumber, (hedit s').2.1.trans hstamp⟩
  · rintro number ⟨i, hi, hnumber, hstamp⟩
    obtain ⟨i', hi', hnumber', hsame | hnew⟩ := hlater.stamps i hi
    · exact ⟨i', hi', hnumber'.trans hnumber, hsame ▸ hstamp⟩
    · exact ⟨i', hi', hnumber'.trans hnumber, h.clock.trans hnew⟩

lemma Drifts.run {as : List ReconciliationAction} {d' : Desk}
    (h : Drifts stampText t₀ d) (hrun : runAll as d = .ok d') :
    Drifts stampText t₀ d' ∧ ∀ number, Stamped t₀ number d → Stamped t₀ number d' := by
  refine runAll_induct (I := fun e => Drifts stampText t₀ e ∧
    ∀ number, Stamped t₀ number d → Stamped t₀ number e) (fun a _ e r he hr => ?_) ⟨h, fun _ => id⟩ hrun
  obtain ⟨hstep, hkept⟩ := he.1.step hr
  exact ⟨hstep, fun number hnumber => hkept number (he.2 number hnumber)⟩

lemma stamped_of_ready {shipped : List String} {targets : List ReconciliationTargetMilestone}
    (hform : Form t₀ stampText shipped targets a) (hmoves : a.movesIssue = true)
    (h : Ready stampText shipped t₀ d) (hrun : runAction d a = .ok r) : ∃ number, Stamped t₀ number r.2 := by
  have hthere : ∀ i ∈ t₀.issues, i ∈ (d.tracker.uncount i.number).issues ∧
      (d.tracker.uncount i.number).clock = t₀.clock := by
    intro i hi
    rw [issues_uncount, h.issues, uncount_clock, h.clock]
    exact ⟨hi, rfl⟩
  obtain ⟨d', hexecute, htracker, -⟩ := runAction_ok hrun
  unfold Stamped
  rw [htracker]
  cases hform with
  | create => cases hmoves
  | reuse => cases hmoves
  | reopen => cases hmoves
  | describe => cases hmoves
  | clear i hi title liveTitle hentry hlive hoff hne =>
    have hsnap : d.live.openIssues.find? (fun s => s.number = i.number) = some (t₀.snapshotIssue stampText i) := by
      rw [h.copiedIssues]
      exact find?_snapshot hi
    have hmutated : executeAction d (clearDraft title liveTitle (t₀.snapshotIssue stampText i)).action =
        .ok (⟨true, none⟩, { d with tracker := d.tracker.clearIssueMilestone i.number }.editLocalIssue i.number
          fun i => { i with milestoneNumber := none, milestoneTitle := none }) := by
      have hsnap' : d.live.openIssues.find? (fun s => s.number = (t₀.snapshotIssue stampText i).number) =
          some (t₀.snapshotIssue stampText i) := hsnap
      simp [executeAction, executeClearStale, clearDraft, hsnap', hlive, Option.filter, hne]
      rfl
    rw [hmutated] at hexecute
    rw [← (Prod.mk.inj (Except.ok.inj hexecute)).2]
    exact ⟨i.number, ⟨i.number, none, (d.tracker.uncount i.number).clock⟩,
      mem_map.2 ⟨i, (hthere i hi).1, if_pos rfl⟩, rfl, (hthere i hi).2.ge⟩
  | assign i hi title bound hentry hoff =>
    have hne := assign_title hexecute
    have hsnap : d.live.openIssues.find? (fun s => s.number = i.number) = some (t₀.snapshotIssue stampText i) := by
      rw [h.copiedIssues]
      exact find?_snapshot hi
    simp only [executeAction, executeAssign, assignDraft, hsnap, Option.filter, hne, ne_eq, not_false_eq_true,
      decide_true, if_true, Option.bind_some, hoff, if_false] at hexecute
    cases hassign : d.tracker.assignIssueMilestone i.number title with
    | error message => simp [hassign, Except.map] at hexecute
    | ok tracker =>
      rw [hassign] at hexecute
      rw [← (Prod.mk.inj (Except.ok.inj hexecute)).2]
      unfold Tracker.assignIssueMilestone at hassign
      split at hassign
      · cases hassign
      · next m hfind =>
        cases hassign
        exact ⟨i.number, ⟨i.number, some m.number, (d.tracker.uncount i.number).clock⟩,
          mem_map.2 ⟨i, (hthere i hi).1, if_pos rfl⟩, rfl, (hthere i hi).2.ge⟩

lemma not_payload_of_stamped (hstamps : Function.Injective stampText)
    {shipped : List String} (h : Drifts stampText t₀ d) {number : Nat} (hstamped : Stamped t₀ number d) :
    fingerprintPayload host (d.tracker.snapshot stampText shipped) ≠ fingerprintPayload host d.live := by
  intro hsame
  obtain ⟨i, hi, -, hstamp⟩ := hstamped
  have hrow : issueRow (d.tracker.snapshotIssue stampText i) ∈
      (((d.tracker.snapshot stampText shipped).openIssues.filter (·.isOpen)).insertionSort
        fun a b => a.number ≤ b.number).map issueRow := by
    refine mem_map_of_mem ((mem_insertionSort _).2 (mem_filter.2 ⟨?_, rfl⟩))
    exact mem_map_of_mem hi
  rw [(payload_inj hsame).1] at hrow
  obtain ⟨s, hs, hrow⟩ := mem_map.1 hrow
  obtain ⟨i₀, hi₀, -, hupdated⟩ := h.dated s (mem_filter.1 ((mem_insertionSort _).1 hs)).1
  have htext := (issueRow_inj hrow).2.2.2
  rw [hupdated] at htext
  have heq : i₀.stamp = i.stamp := hstamps (by simpa [Tracker.snapshotIssue] using htext)
  exact absurd (heq ▸ t₀.past i₀ hi₀) (Nat.not_lt.2 hstamp)

end AgentPipeline.Roadmap
