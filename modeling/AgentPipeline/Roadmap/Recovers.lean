import AgentPipeline.Roadmap.Resume

/-!
# Recovers: when an interrupted call can be taken up again

The local copy is edited after every action, but an edit for an issue changes neither the counts of milestones
nor the time of the last update, which the tracker changes. So the fingerprint that is saved after an issue was
moved is not one that the tracker can have.

* `assignable_of_run`: a run that goes through had an open milestone for every assignment;
* `recovers_iff`: the next call resumes just when no issue was moved before, and no assignment fails.
-/

namespace AgentPipeline.Roadmap

open List Option

variable {d e : Desk} {done rest : List ReconciliationAction} {e' : Desk}

section Runs

variable {stampText : Nat → String} {shipped : List String} {t₀ : Tracker} {specs : List MilestoneSpec}
  {manifest : ReconciliationManifest}

/-- The local copy does not have the issue on a milestone of the title. -/
def Off (number : Nat) (title : String) (d : Desk) : Prop :=
  ∀ s ∈ d.live.openIssues, s.number = number → s.milestoneTitle ≠ some title

variable {number : Nat} {title : String} {r : ActionResult × Desk}

lemma assign_fails {bound : Option Nat}
    (hclosed : ∀ m ∈ d.tracker.milestones, m.title = title → m.state = .closed) (hoff : Off number title d) : executeAction d (assignDraft title bound number).action ≠ .ok r := by
  intro h
  have hne := assign_title h
  have hlive : (d.live.openIssues.find? fun i => i.number = number).bind (·.milestoneTitle) ≠ some title := by
    intro hsome
    obtain ⟨s, hfind, htitle⟩ := bind_eq_some_iff.1 hsome
    exact hoff s (mem_of_find?_eq_some hfind) (by simpa using find?_some hfind) htitle
  simp only [executeAction, executeAssign, assignDraft, Option.filter, hne, ne_eq, not_false_eq_true, decide_true,
    if_true, hlive, if_false] at h
  cases hassign : d.tracker.assignIssueMilestone number title with
  | error message => simp [hassign, Except.map] at h
  | ok tracker =>
    obtain ⟨m, hm, htitle, hstate, -⟩ := assignIssueMilestone_spec hassign
    obtain ⟨m', hm', hplain⟩ := mem_plain (plain_uncount d.tracker number) hm
    obtain ⟨-, htitle', hstate', -⟩ := plain_eq_iff.1 hplain
    have hclosed' := hclosed m' hm' (htitle'.trans htitle)
    rw [hstate', hstate] at hclosed'
    cases hclosed'

lemma Off.step (h : Preview stampText shipped t₀ specs manifest)
    (hentry : (number, title) ∈ memberTitles manifest.targets)
    (hclosed : ∀ m ∈ d.tracker.milestones, m.title = title → m.state = .closed) (hoff : Off number title d)
    {a : ReconciliationAction} (ha : a ∈ manifest.actions) (hrun : runAction d a = .ok r) : Off number title r.2 := by
  have hkeys : ((memberTitles manifest.targets).map Prod.fst).Nodup := by
    rw [memberTitles_keys]
    exact h.members
  have hrun := runAction_blank.2 hrun
  obtain ⟨⟨edit, hcopied, hedit⟩, -⟩ := touches_runAction hrun
  intro s hs hnumber htitle
  rw [hcopied] at hs
  obtain ⟨s', hs', rfl⟩ := mem_map.1 hs
  rw [(hedit s').1] at hnumber
  rcases (hedit s').2.2 with hsame | ⟨hissue, hnone | hgets⟩
  · exact hoff s' hs' hnumber (hsame ▸ htitle)
  · rw [hnone] at htitle
    cases htitle
  · obtain ⟨d', hexecute, -⟩ := runAction_ok hrun
    rw [hgets] at htitle
    rw [hnumber] at hissue
    have hform := h.form ha
    generalize a.blank = action at hform hissue htitle hexecute
    have hunique : ∀ {i : TrackerIssue} {other : String}, (i.number, other) ∈ memberTitles manifest.targets →
        i.number = number → other = title := by
      intro i other hother hsame
      have hpair : (i.number, other) = (number, title) := inj_on_of_nodup_map hkeys hother hentry hsame
      exact (Prod.mk.inj hpair).2
    cases hform with
    | create => cases hissue
    | reuse => cases hissue
    | reopen => cases hissue
    | describe => cases hissue
    | clear i hi other liveTitle hother hlive hapart hne =>
      have hsame := hunique hother (some.inj hissue)
      exact hapart ((some.inj htitle).trans hsame.symm)
    | assign i hi other bound hother hoff' =>
      obtain rfl : i.number = number := some.inj hissue
      rw [hunique hother rfl] at hexecute
      exact assign_fails hclosed hoff hexecute

lemma assignable_of_run (h : Preview stampText shipped t₀ specs manifest)
    (hsplit : manifest.actions = done ++ rest) (hmoves : ∀ a ∈ done, a.movesIssue = false)
    (hdone : runAll done (firstDesk stampText shipped t₀) = .ok d) (hready : Ready stampText shipped t₀ e)
    (htracker : e.tracker = d.tracker) (hrest : runAll rest e = .ok e') : Assignable shipped t₀ manifest.actions := by
  intro a ha hkind title htitle
  have hrestActions : ∀ b ∈ rest, b ∈ manifest.actions := fun b hb => by
    rw [hsplit]
    exact mem_append_right _ hb
  have hmem : a ∈ rest := by
    rw [hsplit] at ha
    rcases mem_append.1 ha with hmem | hmem
    · have hfalse := hmoves a hmem
      simp [ReconciliationAction.movesIssue, hkind] at hfalse
    · exact hmem
  -- the action is an assignment of the plan
  obtain ⟨i, bound, hi, hentry, hoff, hblank⟩ := h.assign_form (hrestActions a hmem) hkind htitle
  have hnonempty : title ≠ "" := by
    obtain ⟨f, r, -, hrun⟩ := exists_of_runAll (I := fun _ => True) (fun _ _ _ _ _ _ => trivial) trivial hrest hmem
    obtain ⟨d', hexecute, -⟩ := runAction_ok (runAction_blank.2 hrun)
    rw [hblank] at hexecute
    exact assign_title hexecute
  refine ⟨hnonempty, ?_⟩
  by_contra hnone
  rw [not_or] at hnone
  obtain ⟨hshut, htaken⟩ := hnone
  have hclosed : ∀ m ∈ t₀.milestones, m.title = title → m.state = .closed := by
    intro m hm hsame
    cases hstate : m.state with
    | closed => rfl
    | «open» => exact absurd ⟨m, hm, hsame, .inl hstate⟩ hshut
  have hbusy : ∀ m ∈ t₀.milestones, m.title = title → isReusableClosedEmpty m shipped = false := by
    intro m hm hsame
    cases hreusable : isReusableClosedEmpty m shipped with
    | false => rfl
    | true => exact absurd ⟨m, hm, hsame, .inr hreusable⟩ hshut
  have hhas : ∃ m ∈ t₀.milestones, m.title = title := by
    by_contra hfree
    exact htaken fun m hm hsame => hfree ⟨m, hm, hsame⟩
  obtain ⟨m, hm, hsame⟩ := hhas
  have hstart : Unopened t₀ title (firstDesk stampText shipped t₀) := by
    refine ⟨?_, hclosed, fun x hx m₀ hm₀ hnumber => ?_, le_rfl⟩
    · rw [← hsame]
      exact startingTitles_bound hm
    · rw [inj_on_of_nodup_map t₀.numbered hx hm₀ hnumber]
  have hd : Unopened t₀ title d := runAll_induct (fun b hb f r hf hr => by
    obtain ⟨hchange, hkeeps⟩ := h.change (by rw [hsplit]; exact mem_append_left _ hb) hr
    exact hf.change hkeeps hbusy hchange) hstart hdone
  have he : Unopened t₀ title e := by
    refine ⟨(hready.bound title).2 ?_, by rw [htracker]; exact hd.closed, by rw [htracker]; exact hd.titles,
      by rw [htracker]; exact hd.next⟩
    exact hsame ▸ hready.hasTitle hm
  have hoffe : Off i.number title e := by
    intro s hs hnumber
    rw [hready.copiedIssues] at hs
    obtain ⟨i', hi', rfl⟩ := mem_map.1 hs
    rw [inj_on_of_nodup_map t₀.listed hi' hi hnumber]
    exact hoff
  obtain ⟨f, r, ⟨hf, hfoff⟩, hrun⟩ := exists_of_runAll
    (I := fun f => Unopened t₀ title f ∧ Off i.number title f) (fun b hb f r hf hr => by
      obtain ⟨hchange, hkeeps⟩ := h.change (hrestActions b hb) hr
      exact ⟨hf.1.change hkeeps hbusy hchange, hf.2.step h hentry hf.1.closed (hrestActions b hb) hr⟩)
    ⟨he, hoffe⟩ hrest hmem
  obtain ⟨d', hexecute, -⟩ := runAction_ok (runAction_blank.2 hrun)
  rw [hblank] at hexecute
  exact assign_fails hf.closed hfoff hexecute

end Runs

/-! ## The next call -/

variable {host : NodeHost} {localeLe : String → String → Bool} {stampText : Nat → String} {shipped : List String}
  {specs : List MilestoneSpec} {manifest : ReconciliationManifest} {t : Tracker}

variable {entry : String × Nat} {entries : List (String × Nat)}

lemma mem_mapSet_key {key : String} {value : Nat}
    (h : entry ∈ mapSet key value entries) : entry.1 = key ∨ entry ∈ entries := by
  induction entries with
  | nil =>
    rw [mem_singleton.1 h]
    exact .inl rfl
  | cons head entries ih =>
    obtain ⟨k, v⟩ := head
    rw [mapSet] at h
    split at h
    · rcases mem_cons.1 h with rfl | h
      · left
        assumption
      · exact .inr (mem_cons_of_mem _ h)
    · rcases mem_cons.1 h with rfl | h
      · exact .inr mem_cons_self
      · exact (ih h).imp_right (mem_cons_of_mem _)

lemma mem_mapOf_key (h : entry ∈ mapOf entries) : ∃ e ∈ entries, e.1 = entry.1 := by
  have hfold : ∀ (entries map : List (String × Nat)), entry ∈ entries.foldl (fun map e => mapSet e.1 e.2 map) map →
      entry ∈ map ∨ ∃ e ∈ entries, e.1 = entry.1 := by
    intro entries
    induction entries with
    | nil => exact fun _ h => .inl h
    | cons e entries ih =>
      intro map h
      rcases ih _ h with h | ⟨e', he', hkey⟩
      · rcases mem_mapSet_key h with hkey | h
        · exact .inr ⟨e, mem_cons_self, hkey.symm⟩
        · exact .inl h
      · exact .inr ⟨e', mem_cons_of_mem _ he', hkey⟩
  rcases hfold entries [] h with h | h
  · cases h
  · exact h

variable {progress : ReconciliationProgress}

lemma createdTitles_spec (hsplit : manifest.actions = done ++ rest)
    (hnodup : (manifest.actions.map (·.id)).Nodup) {copy : ReconcileLiveState}
    (h : Interrupted host manifest done copy progress) (hentry : entry ∈ createdTitles progress) :
    ∃ a ∈ done, a.kind = .create ∧ entry.1 ∈ a.milestoneTitle := by
  obtain ⟨⟨title, number⟩, hmem, htitle⟩ := mem_mapOf_key hentry
  obtain ⟨c, hc, hsome⟩ := mem_filterMap.1 hmem
  simp only [bind_eq_bind, bind_eq_some_iff] at hsome
  obtain ⟨n, -, a, hfind, hcreated⟩ := hsome
  split at hcreated
  · next hkind =>
    obtain ⟨title', hfilter, hpair⟩ := map_eq_some_iff.1 hcreated
    obtain rfl : title' = title := (Prod.mk.inj hpair).1
    have hid : a.id = c.id := by simpa using find?_some hfind
    have ha : a ∈ manifest.actions := by
      rw [← h.actions]
      exact mem_of_find?_eq_some hfind
    have hcid : c.id ∈ done.map (·.id) := by
      rw [← h.completed]
      exact mem_map_of_mem hc
    obtain ⟨b, hb, hbid⟩ := mem_map.1 hcid
    have hbmem : b ∈ manifest.actions := by
      rw [hsplit]
      exact mem_append_left _ hb
    obtain rfl : b = a := inj_on_of_nodup_map hnodup hbmem ha (hbid.trans hid.symm)
    refine ⟨b, hb, hkind, ?_⟩
    rw [← show title' = entry.1 from htitle]
    exact (filter_eq_some_iff.1 hfilter).1
  · cases hcreated

lemma reached_next (hsplit : manifest.actions = done ++ rest)
    (hnodup : (manifest.actions.map (·.id)).Nodup) (hd : Reached stampText shipped t done d) (hprogress : Interrupted host manifest done d.live progress) :
    Reached stampText shipped t done ⟨d.tracker, d.tracker.snapshot stampText shipped,
      startingTitles (d.tracker.snapshot stampText shipped) (createdTitles progress)⟩ := by
  rw [← hd.ready.exact]
  refine ⟨hd.ready.titled fun title => ?_, hd.created, hd.reopened⟩
  have hiff : (mapGet (startingTitles d.live (createdTitles progress)) title).isSome = true ↔
      ∃ m ∈ d.live.milestones, m.title = title := startingTitles_isSome title fun entry hentry => by
      obtain ⟨a, ha, hkind, htitle⟩ := createdTitles_spec hsplit hnodup hprogress hentry
      obtain ⟨m, hm, hsame⟩ := hd.created a ha hkind entry.1 htitle
      exact ⟨m, hd.ready.copy ▸ hm, hsame⟩
  rw [hiff, hd.ready.copy]
  rfl

variable {as : List ReconciliationAction}

lemma conclude_of_ok (host : NodeHost) (stampText : Nat → String) (shipped : List String)
    (h : runAll as e = .ok e') (progress : ReconciliationProgress)
    (executed : List String) {called : ApplyOutcome × ApplyWorld}
    (hcalled : called = conclude host stampText shipped true
      (runPending host (fun _ => none) as e progress 0 executed)) :
    (∃ result, called.1 = .applied result) ∧ called.2.executed = executed ++ as.map (·.id) ∧
      called.2.progress.map (·.status) = some .complete := by
  obtain ⟨done, rest, d', progress', outcome, mutations, heq, hsplit, hran, hending, -⟩ :=
    runPending_spec host (fun _ => none) as e progress 0 executed
  rw [hcalled, heq]
  cases hending with
  | finished hrest hquiet =>
    rw [hrest, append_nil] at hsplit
    rw [hsplit]
    exact ⟨⟨_, rfl⟩, rfl, rfl⟩
  | failed a hhead message hfails => cases hfails
  | error a hhead message herror =>
    cases rest with
    | nil => cases hhead
    | cons b rest =>
      rw [hsplit, runAll_append hran, runAll, some.inj hhead, herror] at h
      cases h
  | stopped a hlast hstops => cases hstops

lemma runAll_of_applied
    {executed : List String} {result : Applied}
    (h : (conclude host stampText shipped true (runPending host (fun _ => none) as e progress 0 executed)).1 =
      .applied result) : ∃ e', runAll as e = .ok e' := by
  obtain ⟨done, rest, d', progress', outcome, mutations, heq, hsplit, hran, hending, -⟩ :=
    runPending_spec host (fun _ => none) as e progress 0 executed
  rw [heq] at h
  cases hending with
  | finished hrest hquiet =>
    rw [hrest, append_nil] at hsplit
    exact ⟨d', hsplit ▸ hran⟩
  | failed a hhead message hfails => cases hfails
  | error a hhead message herror => cases h
  | stopped a hlast hstops => cases hstops

lemma reached_firstDesk : Reached stampText shipped t [] (firstDesk stampText shipped t) :=
  ⟨ready_firstDesk, fun _ ha => absurd ha not_mem_nil, fun _ ha => absurd ha not_mem_nil⟩

lemma not_moved_of_payload (hstamps : Function.Injective stampText)
    (h : Preview stampText shipped t specs manifest) (hsplit : manifest.actions = done ++ rest)
    (hran : runAll done (firstDesk stampText shipped t) = .ok d)
    (hsame : fingerprintPayload host (d.tracker.snapshot stampText shipped) = fingerprintPayload host d.live) :
    ∀ a ∈ done, a.movesIssue = false := by
  intro a ha
  by_contra htrue
  -- the first action of an issue in the list
  obtain ⟨before, first, after, hdone, hquiet, hfirst⟩ : ∃ before first after, done = before ++ first :: after ∧
      (∀ b ∈ before, b.movesIssue = false) ∧ first.movesIssue = true := by
    have hsome : (done.find? (·.movesIssue)).isSome = true := by
      rw [find?_isSome]
      exact ⟨a, ha, by simpa using htrue⟩
    obtain ⟨first, hfind⟩ := isSome_iff_exists.1 hsome
    obtain ⟨hfirst, before, after, hdone, hquiet⟩ := find?_eq_some_iff_append.1 hfind
    exact ⟨before, first, after, hdone, fun b hb => by simpa using hquiet b hb, hfirst⟩
  have hactions : ∀ b ∈ done, b ∈ manifest.actions := fun b hb => by
    rw [hsplit]
    exact mem_append_left _ hb
  obtain ⟨f, hrunf, hf⟩ := reached_firstDesk.run h fun b hb =>
    ⟨hactions b (by rw [hdone]; exact mem_append_left _ hb), hquiet b hb⟩
  rw [hdone, runAll_append hrunf, runAll] at hran
  cases hrun : runAction f first with
  | error message => simp [hrun] at hran
  | ok r =>
    simp only [hrun] at hran
    have hform := h.form (hactions first (by rw [hdone]; simp))
    obtain ⟨number, hstamped⟩ := stamped_of_ready hform hfirst hf.ready (runAction_blank.2 hrun)
    have hdrifts : Drifts stampText t f := by
      refine ⟨fun s hs => ?_, hf.ready.clock.ge⟩
      rw [hf.ready.copiedIssues] at hs
      obtain ⟨i, hi, rfl⟩ := mem_map.1 hs
      exact ⟨i, hi, rfl, rfl⟩
    obtain ⟨hend, hkept⟩ := (hdrifts.step hrun).1.run hran
    exact not_payload_of_stamped hstamps hend (hkept number hstamped) hsame

/-- An interrupted call of a preview can be taken up again just when no issue was moved before the interruption, and
every assignment of the manifest has a milestone. -/
theorem recovers_iff {classes : List CompatibilityClassification} {generatedAt : String}
    (hmanifest : manifest = previewManifest host localeLe stampText specs classes shipped generatedAt t)
    (hunblocked : manifest.coverageBlockers = []) {k : Nat} (hk : k < manifest.actions.length)
    (interruption : Interruption) (hstamps : Function.Injective stampText)
    (hdigest : Telling host
      ((interruptedDesk host stampText shipped manifest t k interruption).tracker.snapshot stampText shipped)
      (interruptedDesk host stampText shipped manifest t k interruption).live) :
    (Resumes host localeLe stampText shipped manifest
        (interruptedCall host localeLe stampText shipped manifest t k interruption).2 ∧
      Refuses host localeLe stampText shipped manifest
        (interruptedDesk host stampText shipped manifest t k interruption).live
        (interruptedCall host localeLe stampText shipped manifest t k interruption).2) ↔
      (∀ a ∈ manifest.actions.take (completedCount k interruption), a.movesIssue = false) ∧
        Assignable shipped t manifest.actions := by
  have h : Preview stampText shipped t specs manifest := by
    subst hmanifest
    exact preview_of_unblocked hunblocked
  have hidentity : manifestIdentityMatches host localeLe manifest = true := by
    subst hmanifest
    rw [manifestIdentityMatches, decide_eq_true_eq]
    rfl
  have hfingerprint : manifest.liveStateFingerprint =
      computeLiveStateFingerprint host (t.snapshot stampText shipped) := by
    subst hmanifest
    rfl
  have hnodup : (manifest.actions.map (·.id)).Nodup := by
    subst hmanifest
    exact ids_nodup _ _ []
  have hactions : manifest.actions ≠ [] := ne_nil_of_length_pos (Nat.zero_lt_of_lt hk)
  obtain ⟨done, rest, d, progress, outcome, hsplit, hran, hdesk, hending, hprogress, hworld⟩ :=
    interruptedCall_spec localeLe hunblocked hidentity hfingerprint hk interruption
  rw [hdesk] at hdigest ⊢
  rw [hworld]
  have htake : Assignable shipped t manifest.actions →
      done = manifest.actions.take (completedCount k interruption) := by
    intro hassignable
    obtain ⟨d'', hall⟩ := runAll_of_ready h hassignable (nil_append _).symm (by simp) reached_firstDesk
    exact done_eq_take hnodup hk hsplit hran hall hending
  have hreached : (∀ a ∈ done, a.movesIssue = false) → Reached stampText shipped t done d := by
    intro hmoves
    obtain ⟨d', hran', hafter⟩ := reached_firstDesk.run h fun a ha =>
      ⟨by rw [hsplit]; exact mem_append_left _ ha, hmoves a ha⟩
    rw [hran] at hran'
    cases hran'
    exact hafter
  constructor
  · rintro ⟨hresumes, -⟩
    have hsame : computeLiveStateFingerprint host (d.tracker.snapshot stampText shipped) =
        computeLiveStateFingerprint host d.live := by
      by_contra hdrift
      obtain ⟨refusal, hrefused⟩ := nextCall_refused localeLe hprogress hunblocked hidentity hactions
        (w := ⟨d.tracker, some progress, done.map (·.id)⟩) rfl hdrift
      obtain ⟨result, happlied⟩ := hresumes.applied
      rw [hrefused] at happlied
      cases happlied
    have hmoves := not_moved_of_payload hstamps h hsplit hran (hdigest.payloads hsame)
    have hnext := reached_next hsplit hnodup (hreached hmoves) hprogress
    obtain ⟨e', hrest⟩ : ∃ e', runAll rest ⟨d.tracker, d.tracker.snapshot stampText shipped,
        startingTitles (d.tracker.snapshot stampText shipped) (createdTitles progress)⟩ = .ok e' := by
      rcases nextCall_accepted localeLe hprogress hunblocked hidentity hactions hsplit hnodup
        (w := ⟨d.tracker, some progress, done.map (·.id)⟩) rfl hsame with
        ⟨rfl, -⟩ | ⟨progress', hcall⟩
      · exact ⟨_, rfl⟩
      · obtain ⟨result, happlied⟩ := hresumes.applied
        rw [hcall] at happlied
        exact runAll_of_applied happlied
    have hassignable := assignable_of_run h hsplit hmoves hran hnext.ready rfl hrest
    exact ⟨htake hassignable ▸ hmoves, hassignable⟩
  · rintro ⟨hmoves, hassignable⟩
    rw [← htake hassignable] at hmoves
    have hd := hreached hmoves
    have hnext := reached_next hsplit hnodup hd hprogress
    obtain ⟨e', hrest⟩ := runAll_of_ready h hassignable hsplit hmoves hnext
    have hsame : computeLiveStateFingerprint host (d.tracker.snapshot stampText shipped) =
        computeLiveStateFingerprint host d.live := by rw [hd.ready.exact]
    have hids : done.map (·.id) ++ rest.map (·.id) = manifest.actions.map (·.id) := by rw [hsplit, map_append]
    refine ⟨?_, fun t' shipped' hchanged hdigest' => ?_⟩
    · rcases nextCall_accepted localeLe hprogress hunblocked hidentity hactions hsplit hnodup
        (w := ⟨d.tracker, some progress, done.map (·.id)⟩) rfl hsame with
        ⟨rfl, happlied, hexecuted, hcomplete⟩ | ⟨progress', hcall⟩
      · have hall : (nextCall host localeLe stampText manifest shipped
            ⟨d.tracker, some progress, done.map (·.id)⟩).2.executed = manifest.actions.map (·.id) := by
          rw [hexecuted, ← hids]
          simp
        exact ⟨happlied, hall, hexecuted ▸ prefix_refl _, by rw [hall]; exact hnodup, hcomplete⟩
      · obtain ⟨happlied, hexecuted, hcomplete⟩ := conclude_of_ok host stampText shipped hrest progress' _ hcall
        have hall : (nextCall host localeLe stampText manifest shipped
            ⟨d.tracker, some progress, done.map (·.id)⟩).2.executed = manifest.actions.map (·.id) := by
          rw [hexecuted, hids]
        exact ⟨happlied, hall, hexecuted ▸ prefix_append _ _, by rw [hall]; exact hnodup, hcomplete⟩
    · refine nextCall_refused localeLe hprogress hunblocked hidentity hactions rfl fun hequal => hchanged ?_
      have hlisted : ∀ (t : Tracker) (shipped : List String), ∀ s ∈ (t.snapshot stampText shipped).openIssues,
          Listed s := by
        intro t shipped s hs
        obtain ⟨i, -, rfl⟩ := mem_map.1 hs
        exact ⟨rfl, rfl⟩
      have hcopy : ∀ s ∈ d.live.openIssues, Listed s := by
        rw [hd.ready.exact]
        exact hlisted _ _
      have hequals := sameLive_of_payload hdigest' (hlisted t' shipped') hcopy hequal
      rw [hd.ready.exact] at hequals
      exact hequals

lemma toString_injective : Function.Injective fun n : Nat => toString n := by
  intro n m h
  have hdigits : Nat.toDigits 10 n = Nat.toDigits 10 m := by simpa using congrArg String.toList h
  rw [← Nat.ofDigitChars_ten_toDigits (n := n), hdigits, Nat.ofDigitChars_ten_toDigits]

/-- The manifest of the next release: its milestone is created, and the issue is assigned to it. -/
def nextRelease (host : NodeHost) : ReconciliationManifest :=
  previewManifest host (fun _ _ => true) (fun n => toString n) (releasePlan "v1.1.0") releaseClasses [] "" closedRelease

lemma nextRelease_unblocked (host : NodeHost) : (nextRelease host).coverageBlockers = [] :=
  have h : (nextRelease (.onFirstDay [] [])).coverageBlockers = [] := by decide +kernel
  h

lemma nextRelease_length (host : NodeHost) : (nextRelease host).actions.length = 2 :=
  have h : (nextRelease (.onFirstDay [] [])).actions.length = 2 := by decide +kernel
  h

/-- The desk of a call that stops after some actions of the next release. -/
def releaseDesk (host : NodeHost) (k : Nat) : Desk :=
  interruptedDesk host (fun n => toString n) [] (nextRelease host) closedRelease k .stops

def payloadText (host : NodeHost) (value : Json) : String := String.ofList (JsonText.stringify host.numberText value)

/-- The digests of the descriptions of the milestones. -/
def describedHost : NodeHost :=
  .onFirstDay []
    [("First release", "163f27066e9f3fddb68dccaf591844d8515974dc45bbbfb5c41db1331c1bcd3f"),
      ("Release", "e020e3c67bd0c31227720bd8eb2c3a777d162e0987e8fd8438b007c170266476")]

/-- The digests of every text that the two calls hash: the local copy that the first call leaves, the tracker that the
second call finds, the tracker and the copy before that, and the manifest. -/
def assignedHost : NodeHost :=
  .onFirstDay []
    [("First release", "163f27066e9f3fddb68dccaf591844d8515974dc45bbbfb5c41db1331c1bcd3f"),
      ("Release", "e020e3c67bd0c31227720bd8eb2c3a777d162e0987e8fd8438b007c170266476"),
      (payloadText describedHost (fingerprintPayload describedHost (releaseDesk describedHost 1).live),
        "e5bf971054881e174e11a8f4acd5279fff4925787ac666e8e8d63712c0b1178a"),
      (payloadText describedHost (fingerprintPayload describedHost
          ((releaseDesk describedHost 1).tracker.snapshot (fun n => toString n) [])),
        "e4fd3db234c77392512f739542e8cf5bc2053c32853150812a335b8e904a5a66"),
      (payloadText describedHost
          (fingerprintPayload describedHost (closedRelease.snapshot (fun n => toString n) [])),
        "9a2bdc45c7e21290dcd793ffff419d5dc59006e709b634c674272fc594728665"),
      (payloadText describedHost (fingerprintPayload describedHost (releaseDesk describedHost 0).live),
        "e77337c0290802e53eeae150583d3bbe64702cbb788de343f43dcd75322d0dd0"),
      (payloadText describedHost (identityPayload (fun _ _ => true) (nextRelease describedHost).targets
          (nextRelease describedHost).actions [] "9a2bdc45c7e2"),
        "bf96175e46da5759049df703c5e0a2148d182cd81841e821110f834e5e26597d")]

/-- A call that stops after it has created the milestone is taken up again. -/
theorem created_resumed :
    Resumes assignedHost (fun _ _ => true) (fun n => toString n) [] (nextRelease assignedHost)
        (interruptedCall assignedHost (fun _ _ => true) (fun n => toString n) [] (nextRelease assignedHost)
          closedRelease 0 .stops).2 ∧
      Refuses assignedHost (fun _ _ => true) (fun n => toString n) [] (nextRelease assignedHost)
        (releaseDesk assignedHost 0).live
        (interruptedCall assignedHost (fun _ _ => true) (fun n => toString n) [] (nextRelease assignedHost)
          closedRelease 0 .stops).2 := by
  have hlength : 0 < (nextRelease assignedHost).actions.length := by
    rw [nextRelease_length]
    exact Nat.zero_lt_two
  -- the local copy is the tracker's own state, and the two descriptions have different digests
  have hcopy : (releaseDesk assignedHost 0).tracker.snapshot (fun n => toString n) [] =
      (releaseDesk assignedHost 0).live := by
    decide +kernel
  have htells : Telling assignedHost ((releaseDesk assignedHost 0).tracker.snapshot (fun n => toString n) [])
      (releaseDesk assignedHost 0).live := by
    rw [hcopy]
    exact ⟨fun _ => rfl, by decide +kernel⟩
  refine (recovers_iff rfl (nextRelease_unblocked _) hlength .stops toString_injective htells).2 ⟨?_, ?_⟩
  · decide +kernel
  · unfold Assignable
    decide +kernel

/-- A call that stops after it has assigned an issue is not taken up again. -/
theorem assigned_not_resumed :
    (nextRelease assignedHost).coverageBlockers = [] ∧ 1 < (nextRelease assignedHost).actions.length ∧
      ¬ Resumes assignedHost (fun _ _ => true) (fun n => toString n) [] (nextRelease assignedHost)
        (interruptedCall assignedHost (fun _ _ => true) (fun n => toString n) [] (nextRelease assignedHost)
          closedRelease 1 .stops).2 := by
  have hlength : 1 < (nextRelease assignedHost).actions.length := by
    rw [nextRelease_length]
    exact Nat.one_lt_two
  refine ⟨nextRelease_unblocked _, hlength, fun h => ?_⟩
  have hidentity : manifestIdentityMatches assignedHost (fun _ _ => true) (nextRelease assignedHost) = true := by
    rw [manifestIdentityMatches, decide_eq_true_eq]
    rfl
  obtain ⟨done, rest, d, progress, outcome, -, -, hdesk, -, hprogress, hworld⟩ :=
    interruptedCall_spec (fun _ _ => true) (nextRelease_unblocked _) hidentity rfl hlength .stops
  have hdrift : computeLiveStateFingerprint assignedHost (d.tracker.snapshot (fun n => toString n) []) ≠
      computeLiveStateFingerprint assignedHost d.live := by
    subst hdesk
    decide +kernel
  have hactions : (nextRelease assignedHost).actions ≠ [] := ne_nil_of_length_pos (Nat.zero_lt_of_lt hlength)
  obtain ⟨refusal, hrefused⟩ := nextCall_refused (fun _ _ => true) hprogress (nextRelease_unblocked _) hidentity hactions
    (w := ⟨d.tracker, some progress, done.map (·.id)⟩) rfl hdrift
  obtain ⟨result, happlied⟩ := h.applied
  rw [hworld, hrefused] at happlied
  cases happlied

end AgentPipeline.Roadmap
