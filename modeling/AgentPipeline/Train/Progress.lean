import AgentPipeline.Train.Safety

/-!
# Progress: the waves of a train come to an end

* `Reached`: where an advanced issue is after its wave;
* `wave_returns`: a wave ends the run, or fewer issues are open after it;
* `runTrain_safe`: the run of an admitted work list, from the first call to its status.
-/

namespace AgentPipeline.Train

open List
open Effect (Meets)
open Loop (RawContractItem compileContractItems)

section Waves

variable {deps : TrainDeps} {opts : TrainOpts} {ordered : List Nat} {codeDeps : List (Nat × List Nat)}
variable {advancing merging : List Nat} {st st' : TrainState} {issue : Nat}

/-! ## Before the advance -/

/-- The invariant holds, and the state has grown. -/
abbrev Grown (opts : TrainOpts) (ordered : List Nat) (codeDeps : List (Nat × List Nat)) (advancing merging : List Nat)
    (st : TrainState) (w : World) : Prop :=
  ∃ st', (Sound ordered codeDeps opts.merge st' ∧ st.Grows st') ∧ At ordered codeDeps opts.merge advancing merging st' w

lemma setState_sound (hsound : Sound ordered codeDeps opts.merge st') (hgrows : st.Grows st') :
    Returns (At ordered codeDeps opts.merge advancing merging st) (setState st')
      (fun _ => Grown opts ordered codeDeps advancing merging st) :=
  (setState_grows hgrows).mono (fun _ hw => hw) fun _ _ hw => ⟨st', ⟨hsound, hgrows⟩, hw⟩

lemma each_sound {γ : Type} {f : Unit → γ → TrainM Unit} {all : List γ}
    (h : ∀ c ∈ all, ∀ st, Sound ordered codeDeps opts.merge st →
      Returns (At ordered codeDeps opts.merge [] [] st) (f () c)
        (fun _ => Grown opts ordered codeDeps [] [] st))
    (hsound : Sound ordered codeDeps opts.merge st) :
    Returns (At ordered codeDeps opts.merge [] [] st) (Effect.each f all ())
      (fun _ => Grown opts ordered codeDeps [] [] st) := by
  have hloop := @Returns.each Unit γ f (fun _ _ => Grown opts ordered codeDeps [] [] st) all ?_ ()
  · exact hloop.mono (fun w hw => ⟨st, ⟨hsound, .refl st⟩, hw⟩) fun _ _ hw => hw
  · -- the state grows from turn to turn
    intro before c after _ hsplit
    refine .of_exists fun st₁ ⟨hsound₁, hgrows₁⟩ => ?_
    refine (h c (by rw [hsplit]; simp) st₁ hsound₁).mono (fun _ hw => hw) ?_
    rintro _ w ⟨st₂, ⟨hsound₂, hgrows₂⟩, hw⟩
    exact ⟨st₂, ⟨hsound₂, hgrows₁.trans hgrows₂⟩, hw⟩

lemma refreshIssue_returns (hsound : Sound ordered codeDeps opts.merge st) :
    Returns (At ordered codeDeps opts.merge [] [] st) (refreshIssue deps issue)
      (fun _ => Grown opts ordered codeDeps [] [] st) := by
  unfold refreshIssue
  refine getState_bind ?_
  split
  · exact .ret fun w hw => ⟨st, ⟨hsound, .refl st⟩, hw⟩
  · refine .bind ((Quiet.ask fun _ => rfl) _ _ st) fun s => ?_
    have hgrows : st.Grows (st.setSnapshot issue s) := ⟨fun _ hn => hn, fun _ hn => hn⟩
    exact setState_sound (hsound.of_eq rfl rfl rfl rfl) hgrows

lemma reconcileIssue_returns (hmerge : opts.merge = true) (hmem : issue ∈ ordered)
    (hsound : Sound ordered codeDeps opts.merge st) :
    Returns (At ordered codeDeps opts.merge [] [] st) (reconcileIssue deps opts ordered codeDeps issue)
      (fun _ => Grown opts ordered codeDeps [] [] st) := by
  have hsame : ∀ w, At ordered codeDeps opts.merge [] [] st w → Grown opts ordered codeDeps [] [] st w :=
    fun w hw => ⟨st, ⟨hsound, .refl st⟩, hw⟩
  unfold reconcileIssue
  refine getState_bind ?_
  split
  · exact .ret hsame
  · next hnot =>
    rw [not_or, not_or] at hnot
    have hopen : ¬ st.Done issue := fun hdone => hdone.elim hnot.1 hnot.2.1
    refine .bind (quiet_linkedPr issue _ _ _ st) fun pr => ?_
    cases pr with
    | none => exact .ret hsame
    | some pr =>
      refine .bind (quiet_reconcile issue pr _ _ _ st) fun recon => ?_
      unfold applyReconcile
      cases recon with
      | notMerged => exact .ret hsame
      | integrated oid proof =>
        refine getState_bind (setState_sound ⟨?_, hsound.closed.markFinished _⟩ (grows_markFinished st _))
        exact hsound.listed.markFinished hopen hmem hmerge.symm
      | containmentFailed oid tip =>
        have hhold := @holdContainedItem_returns deps opts ordered codeDeps [] [] st hsound.listed
          (heldItem issue (some pr) (some oid) (notContainedText oid issue pr opts.baseBranch tip)) hopen hmem
        refine hhold.mono (fun _ hw => hw) ?_
        rintro _ w ⟨st', ⟨hlisted, hmore, hclosed⟩, hw⟩
        exact ⟨st', ⟨⟨hlisted, hclosed⟩, hmore.proceeds.1.toGrows⟩, hw⟩

lemma prelude_returns (hsound : Sound ordered codeDeps opts.merge st) :
    Returns (At ordered codeDeps opts.merge [] [] st) (prelude deps opts ordered codeDeps)
      (fun r w => r = none ∧ ∃ st', (Sound ordered codeDeps opts.merge st' ∧ st.Grows st' ∧
        (opts.merge = true → ∀ n ∈ ordered, Sorted st' n)) ∧ At ordered codeDeps opts.merge [] [] st' w) := by
  unfold prelude
  split
  · next hmerge =>
    refine .bind (each_sound (fun n hn st hsound => reconcileIssue_returns hmerge hn hsound) hsound) fun _ => ?_
    refine .of_exists fun st₁ ⟨hsound₁, hgrows₁⟩ => ?_
    refine (mergeReadyCandidates_returns hmerge hsound₁ fun _ hn => hn).mono (fun _ hw => hw) ?_
    rintro r w ⟨hr, st₂, ⟨hsound₂, hproceeds, hall⟩, hw⟩
    exact ⟨hr, st₂, ⟨hsound₂, hgrows₁.trans hproceeds.toGrows, fun _ => hall⟩, hw⟩
  · next hmerge => exact .ret fun w hw => ⟨rfl, st, ⟨hsound, .refl st, fun h => absurd h hmerge⟩, hw⟩

/-! ## The advance -/

/-- Where an advanced issue is: done with, or ready to be merged. -/
def Reached (opts : TrainOpts) (st : TrainState) (n : Nat) : Prop :=
  st.Done n ∨ (opts.merge = true ∧ ∃ s, st.byNumber n = some s ∧ pipelineStageFromLabels s.labels = some .readyToDeploy)

variable {n : Nat}

lemma Proceeds.reached (h : Proceeds st st') (hn : Reached opts st n) : Reached opts st' n :=
  hn.imp h.toGrows.done fun ⟨hmerge, s, hs, hstage⟩ => ⟨hmerge, s, h.kept n s hs, hstage⟩

/-- What can be advanced in one wave. -/
structure Advanceable (opts : TrainOpts) (ordered : List Nat) (codeDeps : List (Nat × List Nat)) (st : TrainState)
    (issues : List Nat) : Prop where
  nodup : issues.Nodup
  opened : ∀ n ∈ issues, n ∈ ordered ∧ ¬ st.Done n
  ready : ∀ n ∈ issues, ∀ p ∈ prereqsOf codeDeps n, p ∈ st.integrated
  single : opts.merge = true → ∀ n ∈ issues, ∀ m ∈ issues, n = m

variable {issues : List Nat}

lemma Advanceable.apart (h : Advanceable opts ordered codeDeps st issues)
    (hlisted : Listed ordered opts.merge st) {m : Nat} (hn : n ∈ issues) (hm : m ∈ issues) (hne : n ≠ m) :
    ¬ Path codeDeps n m := by
  intro hpath
  obtain ⟨p, hp, -⟩ := Relation.TransGen.head'_iff.1 hpath
  have hmem := h.ready n hn p hp
  by_cases hmerge : opts.merge = true
  · exact hne (h.single hmerge n hn m hm)
  · rw [hlisted.unmerged (by simpa using hmerge)] at hmem
    cases hmem

/-- The outcomes of a wave so far: what was dealt with is reached, and the rest is still open. -/
structure Settling (opts : TrainOpts) (ordered : List Nat) (codeDeps : List (Nat × List Nat)) (issues : List Nat)
    (st : TrainState) (dealt : List Nat) (st' : TrainState) : Prop where
  sound : Sound ordered codeDeps opts.merge st'
  grows : st.Grows st'
  reached : ∀ n ∈ dealt, Reached opts st' n
  rest : ∀ n ∈ issues, n ∉ dealt → ¬ st'.Done n

variable {dealt : List Nat} {st₀ : TrainState}

lemma holdAdvanced_returns
    (hissues : ∀ n ∈ issues, ∀ m ∈ issues, n ≠ m → ¬ Path codeDeps n m) (hordered : ∀ n ∈ issues, n ∈ ordered)
    (h : Settling opts ordered codeDeps issues st₀ dealt st) (hmem : issue ∈ issues) (hnew : issue ∉ dealt)
    (terminal : TrainItemTerminal) (error : String) :
    Returns (At ordered codeDeps opts.merge advancing [] st)
      (holdAdvanced deps ordered codeDeps issue terminal error)
      (fun _ w => ∃ st', Settling opts ordered codeDeps issues st₀ (dealt ++ [issue]) st' ∧
        At ordered codeDeps opts.merge advancing [] st' w) := by
  unfold holdAdvanced
  refine .bind (quiet_getPrForIssue issue _ _ st) fun pr => ?_
  generalize hitem : TrainItemResult.mk issue pr terminal none false (some error) = item
  have hissue : item.issue = issue := by rw [← hitem]
  have hopen : ¬ st.Done item.issue := by rw [hissue]; exact h.rest issue hmem hnew
  refine (holdContainedItem_returns h.sound.listed hopen (by rw [hissue]; exact hordered issue hmem)).mono
    (fun _ hw => hw) ?_
  rintro _ w ⟨st', ⟨hlisted, hmore, hclosed⟩, hw⟩
  obtain ⟨hproceeds, hdone⟩ := hmore.proceeds
  refine ⟨st', ⟨⟨hlisted, hclosed⟩, h.grows.trans hproceeds.toGrows, fun n hn => ?_, fun n hn hnot hdone' => ?_⟩, hw⟩
  · rcases mem_append.1 hn with hn | hn
    · exact hproceeds.reached (h.reached n hn)
    · rw [mem_singleton.1 hn, ← hissue]
      exact .inl hdone
  · rw [mem_append, not_or] at hnot
    have hne : n ≠ issue := fun heq => hnot.2 (by rw [heq]; exact mem_singleton_self _)
    have hopen' := h.rest n hn hnot.1
    rcases hdone' with hfinished | hheld
    · rw [hmore.finished] at hfinished
      exact hopen' (.inl hfinished)
    · -- it would depend on an issue that was held, or on this one
      rcases hmore.depends n hheld with hheld | ⟨x, hx, hpath⟩
      · rcases done_markHeld.1 (.inr hheld) with hdone' | heq
        · exact hopen' hdone'
        · exact hne (heq.trans hissue)
      · rcases mem_addTo.1 hx with hx | rfl
        · exact h.sound.closed n (hordered n hn) hopen' x hx hpath
        · rw [hissue] at hpath
          exact hissues n hn issue hmem hne hpath

lemma finishReady_returns (hmerge : opts.merge = false)
    (hordered : ∀ n ∈ issues, n ∈ ordered) (h : Settling opts ordered codeDeps issues st₀ dealt st)
    (hmem : issue ∈ issues) (hnew : issue ∉ dealt) :
    Returns (At ordered codeDeps opts.merge advancing [] st) (finishReady deps issue)
      (fun _ w => ∃ st', Settling opts ordered codeDeps issues st₀ (dealt ++ [issue]) st' ∧
        At ordered codeDeps opts.merge advancing [] st' w) := by
  unfold finishReady
  refine .bind (quiet_getPrForIssue issue _ _ st) fun pr => getState_bind ?_
  generalize hitem : TrainItemResult.mk issue pr .readyToDeploy none false none = item
  have hissue : item.issue = issue := by rw [← hitem]
  have hmode : item.integrated = opts.merge := by rw [← hitem, hmerge]
  have hopen : ¬ st.Done item.issue := by rw [hissue]; exact h.rest issue hmem hnew
  have hproceeds := proceeds_markFinished st item
  refine (setState_grows (grows_markFinished st item)).mono (fun _ hw => hw) fun _ w hw => ?_
  refine ⟨st.markFinished item, ⟨⟨h.sound.listed.markFinished hopen (by rw [hissue]; exact hordered issue hmem) hmode,
    h.sound.closed.markFinished item⟩, h.grows.trans hproceeds.toGrows, fun n hn => ?_, fun n hn hnot hdone => ?_⟩, hw⟩
  · rcases mem_append.1 hn with hn | hn
    · exact hproceeds.reached (h.reached n hn)
    · rw [mem_singleton.1 hn, ← hissue]
      exact .inl (done_markFinished.2 (.inr rfl))
  · rw [mem_append, not_or] at hnot
    rcases done_markFinished.1 hdone with hdone | heq
    · exact h.rest n hn hnot.1 hdone
    · exact hnot.2 (by rw [heq, hissue]; exact mem_singleton_self _)

lemma Settling.setLabels
    (h : Settling opts ordered codeDeps issues st₀ dealt st) (hnew : issue ∉ dealt) (labels : List String) :
    Settling opts ordered codeDeps issues st₀ dealt (st.setLabels issue labels) := by
  refine ⟨h.sound.of_eq rfl rfl rfl rfl, ⟨h.grows.finished, h.grows.held⟩, fun n hn => ?_, h.rest⟩
  rcases h.reached n hn with hdone | ⟨hmerge, s, hs, hstage⟩
  · exact .inl hdone
  · have hne : n ≠ issue := fun heq => hnew (heq ▸ hn)
    exact .inr ⟨hmerge, s, (Function.update_of_ne hne _ _).trans hs, hstage⟩

lemma stage_of_not_parked {terminal : AdvanceTerminal} {labels : List String} {diagnostic : Option String}
    (h : parkOf issue terminal labels diagnostic = none) :
    pipelineStageFromLabels (if labels.contains Stage.readyToDeploy.label then labels
      else [Stage.readyToDeploy.label]) = some .readyToDeploy := by
  split
  · next hlabel =>
    rcases stage_of_readyToDeploy (by simpa using hlabel) with hstage | hstage
    · exact hstage
    · unfold parkOf at h
      rw [hstage] at h
      simp at h
  · decide

section

variable (hissues : ∀ n ∈ issues, ∀ m ∈ issues, n ≠ m → ¬ Path codeDeps n m)
include hissues

lemma settleAdvanced_returns (hordered : ∀ n ∈ issues, n ∈ ordered)
    (h : Settling opts ordered codeDeps issues st₀ dealt st) (hmem : issue ∈ issues) (hnew : issue ∉ dealt)
    (terminal : AdvanceTerminal) (labels : List String) (diagnostic : Option String) :
    Returns (At ordered codeDeps opts.merge advancing [] st)
      (settleAdvanced deps opts ordered codeDeps issue terminal labels diagnostic)
      (fun _ w => ∃ st', Settling opts ordered codeDeps issues st₀ (dealt ++ [issue]) st' ∧
        At ordered codeDeps opts.merge advancing [] st' w) := by
  unfold settleAdvanced
  have hgrows : ∀ ls ls', (st.setLabels issue ls).Grows (st.setLabels issue ls') :=
    fun _ _ => ⟨fun _ hn => hn, fun _ hn => hn⟩
  have hfirst : st.Grows (st.setLabels issue labels) := ⟨fun _ hn => hn, fun _ hn => hn⟩
  refine getState_bind (.bind (setState_grows hfirst) fun _ => ?_)
  cases hpark : parkOf issue terminal labels diagnostic with
  | some park => exact holdAdvanced_returns hissues hordered (h.setLabels hnew labels) hmem hnew park.1 park.2
  | none =>
    dsimp only
    split
    · next hmerge => exact finishReady_returns hmerge hordered (h.setLabels hnew labels) hmem hnew
    · next hmerge =>
      generalize hready : (if labels.contains Stage.readyToDeploy.label then labels
        else [Stage.readyToDeploy.label]) = ready
      have hstage : pipelineStageFromLabels ready = some .readyToDeploy := hready ▸ stage_of_not_parked hpark
      have hnext := h.setLabels hnew ready
      refine (setState_grows (hgrows labels ready)).mono (fun _ hw => hw) fun _ w hw => ?_
      refine ⟨st.setLabels issue ready, ⟨hnext.sound, hnext.grows, fun n hn => ?_, fun n hn hnot => ?_⟩, hw⟩
      · rcases mem_append.1 hn with hn | hn
        · exact hnext.reached n hn
        · rw [mem_singleton.1 hn]
          exact .inr ⟨by simpa using hmerge, _, Function.update_self .., hstage⟩
      · exact hnext.rest n hn fun hn => hnot (mem_append_left _ hn)

lemma settleOutcome_returns
    {outcomes : List (Nat × AdvanceOutcome)} (hordered : ∀ n ∈ issues, n ∈ ordered)
    (h : Settling opts ordered codeDeps issues st₀ dealt st) (hmem : issue ∈ issues) (hnew : issue ∉ dealt) :
    Returns (At ordered codeDeps opts.merge advancing [] st)
      (settleOutcome deps opts ordered codeDeps outcomes issue)
      (fun r w => match r with
        | none => ∃ st', Settling opts ordered codeDeps issues st₀ (dealt ++ [issue]) st' ∧
            At ordered codeDeps opts.merge advancing [] st' w
        | some result => Stopped ordered codeDeps opts.merge result w) := by
  unfold settleOutcome
  cases outcomes.lookup issue with
  | none =>
    have hopen := h.rest issue hmem hnew
    exact stop_returns h.sound.listed rfl (.inl ⟨issue, hordered issue hmem, fun hmem => hopen (.inl hmem)⟩)
  | some outcome =>
    cases outcome with
    | failed error =>
      exact .bind (holdAdvanced_returns hissues hordered h hmem hnew .error error) fun _ => .ret fun w hw => hw
    | ok terminal labels diagnostic =>
      exact .bind (settleAdvanced_returns hissues hordered h hmem hnew terminal labels diagnostic) fun _ =>
        .ret fun w hw => hw

end

/-- What an advance leaves when the run goes on; `advancing` are the issues that it advanced. -/
structure AdvancedTo (opts : TrainOpts) (ordered : List Nat) (codeDeps : List (Nat × List Nat)) (frontier : List Nat)
    (st : TrainState) (advancing : List Nat) (st' : TrainState) : Prop where
  sound : Sound ordered codeDeps opts.merge st'
  grows : st.Grows st'
  reached : ∀ n ∈ advancing, n ∈ frontier ∧ Reached opts st' n
  some : ∃ n ∈ frontier, Reached opts st' n

/-- The call of `advanceWave`. -/
lemma ask_advanceWave (hsound : Sound ordered codeDeps opts.merge st)
    (hissues : Advanceable opts ordered codeDeps st issues) (hne : issues ≠ []) :
    Returns (At ordered codeDeps opts.merge [] [] st) (ask (deps.advanceWave · issues) (.advanceWave issues))
      (fun _ w => At ordered codeDeps opts.merge issues [] st w) := by
  rintro w ⟨hw, rfl⟩ w'
  refine ⟨fun a ha => ?_, fun e he => by cases he⟩
  cases ha
  have hstep : Admissible ordered codeDeps opts.merge
      ⟨w.st, .advanceWave issues (deps.advanceWave (w.trace.map (·.event)) issues)⟩ := by
    refine ⟨fun n hn => ⟨(hissues.opened n hn).1, ?_, hissues.ready n hn⟩, fun n hn => absurd hn not_mem_nil,
      fun hmerge issues' answer hevent => ?_⟩
    · exact hsound.closed.unheld (hissues.opened n hn).1 (hissues.opened n hn).2
    · obtain ⟨rfl, -⟩ := TrainEvent.advanceWave.inj hevent
      obtain ⟨n, rest, rfl⟩ := exists_cons_of_ne_nil hne
      refine ⟨n, ?_⟩
      cases rest with
      | nil => rfl
      | cons m rest =>
        have heq := hissues.single hmerge n (by simp) m (by simp)
        have hnodup := hissues.nodup
        rw [heq] at hnodup
        simp at hnodup
  exact ⟨hw.push hstep hissues.nodup nodup_nil (fun n _ => not_mem_nil) (fun n hn => absurd hn not_mem_nil)
    rfl rfl, rfl⟩

variable {frontier : List Nat}

lemma advance_returns (hsound : Sound ordered codeDeps opts.merge st)
    (hissues : Advanceable opts ordered codeDeps st issues) (hne : issues ≠ []) (hfrontier : issues ⊆ frontier) :
    Returns (At ordered codeDeps opts.merge [] [] st) (advance deps opts ordered codeDeps issues)
      (fun r w => match r with
        | none => ∃ st', AdvancedTo opts ordered codeDeps frontier st issues st' ∧
            At ordered codeDeps opts.merge issues [] st' w
        | some result => Stopped ordered codeDeps opts.merge result w) := by
  unfold advance
  refine .bind (ask_advanceWave hsound hissues hne) fun answer => ?_
  obtain ⟨first, hfirst⟩ := exists_mem_of_ne_nil issues hne
  obtain ⟨hmem, hopen⟩ := hissues.opened first hfirst
  cases answer with
  | error message => exact stop_returns hsound.listed rfl (.inl ⟨first, hmem, fun hmem => hopen (.inl hmem)⟩)
  | ok outcomes =>
    have hloop := @Returns.untilStop (settleOutcome deps opts ordered codeDeps outcomes)
      (fun before w => ∃ st', Settling opts ordered codeDeps issues st before st' ∧
        At ordered codeDeps opts.merge issues [] st' w)
      (fun result w => Stopped ordered codeDeps opts.merge result w) issues ?_
    · refine hloop.mono (fun w hw => ⟨st, ⟨hsound, .refl st, fun n hn => absurd hn not_mem_nil,
        fun n hn _ => (hissues.opened n hn).2⟩, hw⟩) fun r w hw => ?_
      cases r with
      | some result => exact hw
      | none =>
        obtain ⟨st', hsettling, hw⟩ := hw
        exact ⟨st', ⟨hsettling.sound, hsettling.grows, fun n hn => ⟨hfrontier hn, hsettling.reached n hn⟩,
          ⟨first, hfrontier hfirst, hsettling.reached first hfirst⟩⟩, hw⟩
    · intro before n after hsplit
      refine .of_exists fun st₁ hsettling => ?_
      have hnew : n ∉ before := by
        have hnodup := hissues.nodup
        rw [hsplit] at hnodup
        exact fun hmem => (nodup_append.1 hnodup).2.2 n hmem n mem_cons_self rfl
      exact settleOutcome_returns (fun n hn m hm hne => hissues.apart hsound.listed hn hm hne)
        (fun n hn => (hissues.opened n hn).1) hsettling (by rw [hsplit]; simp) hnew

lemma toAdvanceOf_sublist (opts : TrainOpts) (st : TrainState) (frontier : List Nat) :
    (toAdvanceOf opts st frontier).Sublist frontier := by
  unfold toAdvanceOf
  split
  · exact (take_sublist _ _).trans filter_sublist
  · exact filter_sublist

lemma toAdvanceOf_single (hmerge : opts.merge = true) {m : Nat}
    (hn : n ∈ toAdvanceOf opts st frontier) (hm : m ∈ toAdvanceOf opts st frontier) : n = m := by
  unfold toAdvanceOf at hn hm
  rw [if_pos hmerge] at hn hm
  generalize frontier.filter _ = issues at hn hm
  cases issues with
  | nil => simp at hn
  | cons first rest =>
    rw [take_succ_cons, take_zero, mem_singleton] at hn hm
    rw [hn, hm]

lemma toAdvanceOf_ne_nil (hn : n ∈ frontier)
    (hstage : st.stageOf n ≠ some .readyToDeploy) : toAdvanceOf opts st frontier ≠ [] := by
  have hmem : n ∈ frontier.filter fun issue =>
      !(opts.skipAdvanceIfReady && decide (st.stageOf issue = some .readyToDeploy)) :=
    mem_filter.2 ⟨hn, by simp [hstage]⟩
  unfold toAdvanceOf
  dsimp only
  generalize frontier.filter _ = issues at hmem
  split
  · cases issues with
    | nil => cases hmem
    | cons first rest => simp
  · exact ne_nil_of_mem hmem

lemma advanceable_toAdvanceOf (hnodup : ordered.Nodup) {frontier : List Nat}
    (hfrontier : frontier = computeBaseEligibleFrontier ordered st.finished st.held st.integrated codeDeps) :
    Advanceable opts ordered codeDeps st (toAdvanceOf opts st frontier) := by
  have hmem : ∀ n ∈ toAdvanceOf opts st frontier, n ∈ ordered ∧ n ∉ st.finished ∧ n ∉ st.held ∧
      ∀ p ∈ prereqsOf codeDeps n, p ∈ st.integrated := fun n hn =>
    mem_frontier.1 (hfrontier ▸ (toAdvanceOf_sublist opts st frontier).mem hn)
  refine ⟨?_, fun n hn => ⟨(hmem n hn).1, fun hdone => hdone.elim (hmem n hn).2.1 (hmem n hn).2.2.1⟩,
    fun n hn => (hmem n hn).2.2.2, fun hmerge n hn m hm => toAdvanceOf_single hmerge hn hm⟩
  refine List.Nodup.sublist (toAdvanceOf_sublist opts st frontier) ?_
  rw [hfrontier]
  exact hnodup.filter _

lemma finishFrontier_returns (hmerge : opts.merge = false) (hnodup : ordered.Nodup)
    (hsound : Sound ordered codeDeps opts.merge st) (hne : frontier ≠ [])
    (hfrontier : frontier = computeBaseEligibleFrontier ordered st.finished st.held st.integrated codeDeps) :
    Returns (At ordered codeDeps opts.merge [] [] st)
      (Effect.each (fun () issue => do
        let st ← getState
        if issue ∈ st.finished then pure () else finishReady deps issue) frontier ())
      (fun _ w => ∃ st', AdvancedTo opts ordered codeDeps frontier st [] st' ∧
        At ordered codeDeps opts.merge [] [] st' w) := by
  have hmem : ∀ n ∈ frontier, n ∈ ordered ∧ ¬ st.Done n := fun n hn => by
    obtain ⟨hn, hfinished, hheld, -⟩ := mem_frontier.1 (hfrontier ▸ hn)
    exact ⟨hn, fun hdone => hdone.elim hfinished hheld⟩
  have hloop := @Returns.each Unit Nat (fun () issue => do
      let st ← getState
      if issue ∈ st.finished then pure () else finishReady deps issue)
    (fun before _ w => ∃ st', Settling opts ordered codeDeps frontier st before st' ∧
      At ordered codeDeps opts.merge [] [] st' w) frontier ?_ ()
  · obtain ⟨first, hfirst⟩ := exists_mem_of_ne_nil frontier hne
    refine hloop.mono (fun w hw => ⟨st, ⟨hsound, .refl st, fun n hn => absurd hn not_mem_nil,
      fun n hn _ => (hmem n hn).2⟩, hw⟩) ?_
    rintro _ w ⟨st', hsettling, hw⟩
    exact ⟨st', ⟨hsettling.sound, hsettling.grows, fun n hn => absurd hn not_mem_nil,
      ⟨first, hfirst, hsettling.reached first hfirst⟩⟩, hw⟩
  · intro before n after _ hsplit
    refine .of_exists fun st₁ hsettling => getState_bind ?_
    have hn : n ∈ frontier := by rw [hsplit]; simp
    have hnew : n ∉ before := by
      have hdistinct : frontier.Nodup := by rw [hfrontier]; exact hnodup.filter _
      rw [hsplit] at hdistinct
      exact fun hmem => (nodup_append.1 hdistinct).2.2 n hmem n mem_cons_self rfl
    rw [if_neg fun hfinished => hsettling.rest n hn hnew (.inl hfinished)]
    exact finishReady_returns hmerge (fun n hn => (hmem n hn).1) hsettling hn hnew

lemma advanceFrontier_returns (hnodup : ordered.Nodup) (hsound : Sound ordered codeDeps opts.merge st)
    (hsorted : opts.merge = true → ∀ n ∈ ordered, Sorted st n) (hne : frontier ≠ [])
    (hfrontier : frontier = computeBaseEligibleFrontier ordered st.finished st.held st.integrated codeDeps) :
    Returns (At ordered codeDeps opts.merge [] [] st) (advanceFrontier deps opts ordered codeDeps frontier)
      (fun r w => match r with
        | none => ∃ advanced st', AdvancedTo opts ordered codeDeps frontier st advanced st' ∧
            At ordered codeDeps opts.merge advanced [] st' w
        | some result => Stopped ordered codeDeps opts.merge result w) := by
  have hissues := @advanceable_toAdvanceOf opts ordered codeDeps st hnodup frontier hfrontier
  have hsublist := toAdvanceOf_sublist opts st frontier
  unfold advanceFrontier
  refine getState_bind ?_
  cases htoAdvance : toAdvanceOf opts st frontier with
  | nil =>
    dsimp only
    split
    · next hmerge =>
      refine .bind (finishFrontier_returns hmerge hnodup hsound hne hfrontier) fun _ => .ret ?_
      rintro w ⟨st', hadvanced, hw⟩
      exact ⟨[], st', hadvanced, hw⟩
    · next hmerge =>
      -- in merge mode nothing on the frontier is ready
      obtain ⟨n, hn⟩ := exists_mem_of_ne_nil frontier hne
      obtain ⟨hmem, hfinished, hheld, -⟩ := mem_frontier.1 (hfrontier ▸ hn)
      obtain ⟨s, hs, hstage⟩ := (hsorted (by simpa using hmerge) n hmem).resolve_left
        fun hdone => hdone.elim hfinished hheld
      refine absurd htoAdvance (toAdvanceOf_ne_nil hn ?_)
      unfold TrainState.stageOf
      rw [hs]
      exact hstage
  | cons first rest =>
    rw [htoAdvance] at hissues hsublist
    obtain ⟨hmem, hopen⟩ := hissues.opened first mem_cons_self
    have hopened : Quiet ordered codeDeps opts.merge (openBeforeAdvance deps opts ordered) := by
      unfold openBeforeAdvance
      split
      · exact .each quiet_openReadyToDeployPr _ _
      · exact .ret _
    refine .bind (hopened [] [] st) fun opened => ?_
    split
    · exact stop_returns hsound.listed rfl (.inl ⟨first, hmem, fun hmem => hopen (.inl hmem)⟩)
    · refine .bind moveTo_returns fun _ => ?_
      have hmoved : Advanceable opts ordered codeDeps (st.moved ordered first .advance) (first :: rest) :=
        ⟨hissues.nodup, hissues.opened, hissues.ready, hissues.single⟩
      refine (advance_returns (sound_moved hsound first .advance) hmoved (cons_ne_nil _ _) hsublist.subset).mono
        (fun _ hw => hw) fun r w hw => ?_
      cases r with
      | some result => exact hw
      | none =>
        obtain ⟨st', hadvanced, hw⟩ := hw
        exact ⟨first :: rest, st', ⟨hadvanced.sound, ⟨hadvanced.grows.finished, hadvanced.grows.held⟩,
          hadvanced.reached, hadvanced.some⟩, hw⟩

/-! ## A wave -/

lemma mergeWave_returns {advanced : List Nat} (hfrontier : ∀ n ∈ frontier, n ∈ ordered)
    (h : AdvancedTo opts ordered codeDeps frontier st advanced st') :
    Returns (At ordered codeDeps opts.merge advanced [] st') (mergeWave deps opts ordered codeDeps frontier)
      (fun r w => r = none ∧ ∃ st'', (Sound ordered codeDeps opts.merge st'' ∧ st.Grows st'' ∧
        ∃ n ∈ frontier, st''.Done n) ∧ At ordered codeDeps opts.merge [] [] st'' w) := by
  obtain ⟨first, hfirst, hreached⟩ := h.some
  unfold mergeWave
  split
  · next hmerge =>
    have hgrows : st'.Grows { st' with nextAction := .merge } := ⟨fun _ hn => hn, fun _ hn => hn⟩
    refine getState_bind (.bind (setState_grows hgrows) fun _ => ?_)
    have hsound : Sound ordered codeDeps opts.merge { st' with nextAction := .merge } := h.sound.of_eq rfl rfl rfl rfl
    refine (mergeReadyCandidates_returns hmerge hsound hfrontier).mono (fun _ hw => hw) ?_
    rintro r w ⟨hr, st₂, ⟨hsound₂, hproceeds, hall⟩, hw⟩
    have hproceeds' : Proceeds st' st₂ := ⟨⟨hproceeds.finished, hproceeds.held⟩, hproceeds.kept⟩
    -- what was reached and is not done with was ready, and was merged now
    have hdone : ∀ n ∈ frontier, Reached opts st' n → st₂.Done n := by
      intro n hn hreached
      rcases hproceeds'.reached hreached with hdone | ⟨-, s, hs, hstage⟩
      · exact hdone
      · rcases hall n hn with hdone | ⟨s', hs', hstage'⟩
        · exact hdone
        · obtain rfl : s = s' := by simpa [hs] using hs'
          exact absurd hstage hstage'
    refine ⟨hr, st₂, ⟨hsound₂, h.grows.trans hproceeds'.toGrows, first, hfirst, hdone first hfirst hreached⟩, ?_⟩
    exact hw.weaken (fun n hn => .inl (hdone n (h.reached n hn).1 (h.reached n hn).2)) fun n hn => .inr hn
  · next hmerge =>
    have hdone : ∀ n, Reached opts st' n → st'.Done n := fun n hn => hn.resolve_right fun hn => hmerge hn.1
    refine .ret fun w hw => ⟨rfl, st', ⟨h.sound, h.grows, first, hfirst, hdone first hreached⟩, ?_⟩
    exact hw.weaken (fun n hn => .inl (hdone n (h.reached n hn).2)) fun n hn => .inr hn

/-- The issues that are neither finished nor held. -/
def remaining (ordered : List Nat) (st : TrainState) : List Nat :=
  ordered.filter fun n => !st.finished.contains n && !st.held.contains n

lemma mem_remaining : n ∈ remaining ordered st ↔ n ∈ ordered ∧ ¬ st.Done n := by
  unfold remaining TrainState.Done
  simp

lemma remaining_sublist (h : st.Grows st') : (remaining ordered st').Sublist (remaining ordered st) := by
  refine monotone_filter_right _ fun n hn => ?_
  simp only [Bool.and_eq_true, Bool.not_eq_true', contains_eq_mem, decide_eq_false_iff_not] at hn ⊢
  exact ⟨fun hmem => hn.1 (h.finished hmem), fun hmem => hn.2 (h.held hmem)⟩

lemma remaining_lt (h : st.Grows st') (hn : n ∈ ordered) (hopen : ¬ st.Done n) (hdone : st'.Done n) :
    (remaining ordered st').length < (remaining ordered st).length := by
  refine lt_of_le_of_ne (remaining_sublist h).length_le fun heq => ?_
  have hsame := (remaining_sublist h).eq_of_length heq
  have hmem : n ∈ remaining ordered st := mem_remaining.2 ⟨hn, hopen⟩
  rw [← hsame] at hmem
  exact (mem_remaining.1 hmem).2 hdone

/-- Every issue is finished. -/
structure AllFinished (ordered : List Nat) (codeDeps : List (Nat × List Nat)) (mergeMode : Bool)
    (st : TrainState) : Prop where
  sound : Sound ordered codeDeps mergeMode st
  finished : ∀ n ∈ ordered, n ∈ st.finished
  held : st.held = []

/-- How a wave ends. -/
def WaveEnds (opts : TrainOpts) (ordered : List Nat) (codeDeps : List (Nat × List Nat)) (st : TrainState)
    (result : WaveEnd) (w : World) : Prop :=
  match result with
  | .stop result => Stopped ordered codeDeps opts.merge result w
  | .complete => ∃ st', AllFinished ordered codeDeps opts.merge st' ∧ At ordered codeDeps opts.merge [] [] st' w
  | .next => ∃ st', (Sound ordered codeDeps opts.merge st' ∧
      (remaining ordered st').length < (remaining ordered st).length) ∧ At ordered codeDeps opts.merge [] [] st' w

lemma emptyFrontier_returns (hsound : Sound ordered codeDeps opts.merge st) :
    Returns (At ordered codeDeps opts.merge [] [] st) (emptyFrontier opts ordered codeDeps)
      (WaveEnds opts ordered codeDeps st₀) := by
  unfold emptyFrontier
  refine getState_bind ?_
  change Returns _ (if remaining ordered st = [] then _ else _) _
  split
  · next hnone =>
    have hdone : ∀ n ∈ ordered, st.Done n := by
      intro n hn
      by_contra hopen
      have hmem : n ∈ remaining ordered st := mem_remaining.2 ⟨hn, hopen⟩
      rw [hnone] at hmem
      cases hmem
    split
    · next hheld =>
      exact .bind (stopWith_returns hsound.listed rfl (.inr hheld)) fun _ => .ret fun _ hw => hw
    · next hheld =>
      rw [not_ne_iff] at hheld
      refine .ret fun w hw => ⟨st, ⟨hsound, fun n hn => (hdone n hn).resolve_right ?_, hheld⟩, hw⟩
      rw [hheld]
      exact not_mem_nil
  · next hsome =>
    obtain ⟨n, hn⟩ := exists_mem_of_ne_nil _ hsome
    obtain ⟨hmem, hopen⟩ := mem_remaining.1 hn
    exact .bind (stopWith_returns hsound.listed rfl (.inl ⟨n, hmem, fun hmem => hopen (.inl hmem)⟩)) fun _ =>
      .ret fun _ hw => hw

lemma wave_returns (hnodup : ordered.Nodup) (hsound : Sound ordered codeDeps opts.merge st) :
    Returns (At ordered codeDeps opts.merge [] [] st) (wave deps opts ordered codeDeps)
      (WaveEnds opts ordered codeDeps st) := by
  unfold wave
  refine .bind (each_sound (fun n _ st hsound => refreshIssue_returns hsound) hsound) fun _ => ?_
  refine .of_exists fun st₁ ⟨hsound₁, hgrows₁⟩ => ?_
  refine .bind (prelude_returns hsound₁) fun stopped => ?_
  cases stopped with
  | some result => exact fun w hw => by cases hw.1
  | none =>
    refine Returns.mono (.of_exists ?_) (fun _ hw => hw.2) fun _ _ hw => hw
    rintro st₂ ⟨hsound₂, hgrows₂, hsorted⟩
    refine getState_bind ?_
    generalize hfrontier : computeBaseEligibleFrontier ordered st₂.finished st₂.held st₂.integrated codeDeps = frontier
    dsimp only
    split
    · exact emptyFrontier_returns hsound₂
    · next hne =>
      have hmem : ∀ n ∈ frontier, n ∈ ordered ∧ ¬ st₂.Done n := fun n hn => by
        obtain ⟨hn, hfinished, hheld, -⟩ := mem_frontier.1 (hfrontier ▸ hn)
        exact ⟨hn, fun hdone => hdone.elim hfinished hheld⟩
      refine .bind (advanceFrontier_returns hnodup hsound₂ hsorted hne hfrontier.symm) fun stopped => ?_
      cases stopped with
      | some result => exact .ret fun _ hw => hw
      | none =>
        rintro w ⟨advanced, st₃, hadvanced, hw⟩ w'
        refine (Returns.bind (mergeWave_returns (fun n hn => (hmem n hn).1) hadvanced) fun stopped => ?_) w hw w'
        cases stopped with
        | some result => exact fun w hw => by cases hw.1
        | none =>
          refine .ret ?_
          rintro w ⟨-, st₄, ⟨hsound₄, hgrows₄, n, hn, hdone⟩, hw⟩
          -- the issue was open before the wave, as less was done then
          have hopen : ¬ st.Done n := fun hdone =>
            (hmem n hn).2 ((hgrows₁.trans hgrows₂).done hdone)
          exact ⟨st₄, ⟨hsound₄, remaining_lt ((hgrows₁.trans hgrows₂).trans hgrows₄) (hmem n hn).1 hopen hdone⟩, hw⟩

lemma waves_returns (hnodup : ordered.Nodup) {fuel : Nat} (hsound : Sound ordered codeDeps opts.merge st)
    (hfuel : (remaining ordered st).length < fuel) :
    Returns (At ordered codeDeps opts.merge [] [] st) (waves deps opts ordered codeDeps fuel)
      (fun r w => match r with
        | some result => Stopped ordered codeDeps opts.merge result w
        | none => ∃ st', AllFinished ordered codeDeps opts.merge st' ∧ At ordered codeDeps opts.merge [] [] st' w) := by
  induction fuel generalizing st with
  | zero => omega
  | succ fuel ih =>
    unfold waves
    refine .bind (wave_returns hnodup hsound) fun result => ?_
    cases result with
    | stop result => exact .ret fun _ hw => hw
    | complete => exact .ret fun _ hw => hw
    | next => exact .of_exists fun st' ⟨hsound', hless⟩ => ih hsound' (by omega)

/-! ## The run -/

/-- A run that is complete. -/
structure Completed (ordered : List Nat) (codeDeps : List (Nat × List Nat)) (mergeMode : Bool) (result : TrainResult)
    (w : World) : Prop extends Ended ordered codeDeps mergeMode w where
  exitCode : result.exitCode = 0
  complete : result.status.complete = true
  items : result.status.items = w.st.items
  blocker : result.status.blocker = none
  finished : ∀ n ∈ ordered, n ∈ w.st.finished
  held : w.st.held = []

/-- How a run ends. -/
def Ends (opts : TrainOpts) (ordered : List Nat) (codeDeps : List (Nat × List Nat)) (result : TrainResult)
    (w : World) : Prop :=
  Stopped ordered codeDeps opts.merge result w ∨ Completed ordered codeDeps opts.merge result w

lemma afterWaves_returns (h : AllFinished ordered codeDeps opts.merge st) :
    Returns (At ordered codeDeps opts.merge [] [] st) (afterWaves opts ordered) (Ends opts ordered codeDeps) := by
  have hall : (ordered.all fun n => st.finished.contains n) = true := by
    rw [all_eq_true]
    exact fun n hn => by simpa using h.finished n hn
  unfold afterWaves
  refine getState_bind ?_
  rw [if_neg (not_ne_iff.2 h.held), if_neg (by rw [hall]; decide)]
  refine .bind (setState_grows ⟨fun _ hn => hn, fun _ hn => hn⟩) fun _ => .ret ?_
  rintro w ⟨htraced, hst⟩
  have hlisted : Listed ordered opts.merge w.st := by
    rw [hst]
    exact h.sound.listed.of_eq rfl rfl rfl rfl
  refine .inr ⟨⟨⟨[], [], htraced⟩, hlisted⟩, rfl, ?_, by rw [hst]; rfl, rfl, by rw [hst]; exact h.finished,
    by rw [hst]; exact h.held⟩
  simp only [statusOf, Option.isNone_none, Bool.true_and, Bool.and_eq_true, all_eq_true]
  exact ⟨fun n hn => by simp [h.finished n hn], by simp [h.held]⟩

lemma holdParked_returns {snapshots : List TrainIssueSnapshot}
    (hnodup : (snapshots.map (·.number)).Nodup) (hlisted : ∀ s ∈ snapshots, s.number ∈ ordered)
    (hsound : Listed ordered opts.merge st) (hnone : ∀ n, ¬ st.Done n) :
    Returns (At ordered codeDeps opts.merge [] [] st) (holdParked deps ordered codeDeps snapshots)
      (fun _ w => ∃ st', Sound ordered codeDeps opts.merge st' ∧ At ordered codeDeps opts.merge [] [] st' w) := by
  unfold holdParked
  have hloop := @Returns.each Unit TrainIssueSnapshot (fun () s => if isBlockedOrNeedsHumanSnapshot s then do
      let st ← getState
      setState (st.markHeld (parkedItem s))
    else pure ())
    (fun before _ w => ∃ st', (Listed ordered opts.merge st' ∧ ∀ n, st'.Done n → n ∈ before.map (·.number)) ∧
      At ordered codeDeps opts.merge [] [] st' w) snapshots ?_ ()
  · refine .bind (hloop.mono (fun w hw => ⟨st, ⟨hsound, fun n hn => absurd hn (hnone n)⟩, hw⟩) fun _ _ hw => hw)
      fun _ => .of_exists fun st₁ ⟨hlisted₁, _⟩ => ?_
    refine (skipDependentsOfHeld_returns hlisted₁).mono (fun _ hw => hw) ?_
    rintro _ w ⟨st₂, ⟨hlisted₂, -, hclosed⟩, hw⟩
    exact ⟨st₂, ⟨hlisted₂, hclosed⟩, hw⟩
  · intro before s after _ hsplit
    refine .of_exists fun st₁ ⟨hlisted₁, hbefore⟩ => ?_
    have hs : s ∈ snapshots := by rw [hsplit]; simp
    split
    · have hopen : ¬ st₁.Done s.number := by
        intro hdone
        rw [hsplit, map_append, map_cons] at hnodup
        exact (nodup_append.1 hnodup).2.2 _ (hbefore _ hdone) _ mem_cons_self rfl
      refine getState_bind ((setState_grows (grows_markHeld st₁ (parkedItem s))).mono (fun _ hw => hw)
        fun _ w hw => ⟨_, ⟨hlisted₁.markHeld hopen (hlisted s hs), fun n hn => ?_⟩, hw⟩)
      rw [map_append, mem_append]
      rcases done_markHeld.1 hn with hn | rfl
      · exact .inl (hbefore n hn)
      · exact .inr (mem_singleton_self _)
    · refine .ret fun w hw => ⟨st₁, ⟨hlisted₁, fun n hn => ?_⟩, hw⟩
      rw [map_append]
      exact mem_append_left _ (hbefore n hn)

lemma runOrdered_returns (hordered : ordered.Nodup) {snapshots : List TrainIssueSnapshot}
    (hnodup : (snapshots.map (·.number)).Nodup) (hlisted : ∀ s ∈ snapshots, s.number ∈ ordered) (hne : ordered ≠ []) :
    Returns (At ordered codeDeps opts.merge [] [] {}) (runOrdered deps opts ordered codeDeps snapshots)
      (Ends opts ordered codeDeps) := by
  generalize hfirst : ({ byNumber := snapshotOf snapshots, currentIssue := ordered.head? } : TrainState) = first
  have hnone : ∀ n, ¬ first.Done n := by
    rw [← hfirst]
    exact fun n hdone => hdone.elim not_mem_nil not_mem_nil
  have hstart : Listed ordered opts.merge first := by
    rw [← hfirst]
    exact ⟨nodup_nil, fun n => ⟨fun hn => absurd hn not_mem_nil, fun hn => absurd (hfirst ▸ hn) (hnone n)⟩,
      fun n hn => absurd (hfirst ▸ hn) (hnone n), fun n hn => absurd hn not_mem_nil, fun _ => rfl⟩
  have hpending : (∃ n ∈ ordered, n ∉ first.finished) ∨ first.held ≠ [] := by
    obtain ⟨n, hn⟩ := exists_mem_of_ne_nil ordered hne
    exact .inl ⟨n, hn, fun hmem => hnone n (.inl hmem)⟩
  have hstop : ∀ {b : TrainBlocker}, b.isExpected = true →
      Returns (At ordered codeDeps opts.merge [] [] first) (stopWith opts ordered b) (Ends opts ordered codeDeps) :=
    fun hb => (stopWith_returns hstart hb hpending).mono (fun _ hw => hw) fun _ _ hw => .inl hw
  unfold runOrdered
  rw [hfirst]
  refine .bind (setState_grows ⟨fun n hn => absurd hn not_mem_nil, fun n hn => absurd hn not_mem_nil⟩)
    fun _ => ?_
  have hroot : Quiet ordered codeDeps opts.merge (controlRoot deps opts) := by
    unfold controlRoot
    split
    · exact .ask fun _ => rfl
    · exact .ret _
  have hadmission : Quiet ordered codeDeps opts.merge (trainAdmission deps opts) := by
    unfold trainAdmission
    split
    · exact .ask fun _ => rfl
    · exact .ret _
  refine .bind (hroot [] [] first) fun root => ?_
  split
  · exact hstop rfl
  · refine .bind (hadmission [] [] first) fun refusal => ?_
    cases refusal with
    | some failure => exact hstop rfl
    | none =>
      unfold runWaves
      have hheld : Returns (At ordered codeDeps opts.merge [] [] first)
          (holdBeforeWaves deps opts ordered codeDeps snapshots)
          (fun _ w => ∃ st', Sound ordered codeDeps opts.merge st' ∧ At ordered codeDeps opts.merge [] [] st' w) := by
        unfold holdBeforeWaves
        split
        · exact holdParked_returns hnodup hlisted hstart hnone
        · refine .ret fun w hw => ⟨first, ⟨hstart, fun n _ _ h hh => ?_⟩, hw⟩
          exact absurd (.inr hh) (hnone h)
      refine .bind hheld fun _ => .of_exists fun st' hsound => ?_
      have hfuel : (remaining ordered st').length < maxWaves ordered := by
        have hle : (remaining ordered st').length ≤ ordered.length := length_filter_le ..
        unfold maxWaves
        omega
      refine .bind (waves_returns hordered hsound hfuel) fun result => ?_
      cases result with
      | some result => exact .ret fun _ hw => .inl hw
      | none => exact .of_exists fun st'' hall => afterWaves_returns hall

end Waves

/-! ## From the work list to the status -/

variable (rt : JsRuntime) (deps : TrainDeps) (opts : TrainOpts)

lemma selectSnapshots_meets (ordered : List Nat) (codeDeps : List (Nat × List Nat)) :
    Meets (At ordered codeDeps opts.merge [] [] {}) (selectSnapshots deps opts)
      (fun _ => At ordered codeDeps opts.merge [] [] {}) fun _ _ => True := by
  have hquiet : ∀ {α : Type} {m : TrainM α}, Quiet ordered codeDeps opts.merge m →
      Meets (At ordered codeDeps opts.merge [] [] {}) m (fun _ => At ordered codeDeps opts.merge [] [] {})
        fun _ _ => True :=
    fun hm => Meets.mono (hm [] [] {}) (fun _ hw => hw) (fun _ _ hw => hw) fun _ _ _ => trivial
  unfold selectSnapshots
  split
  · refine @Meets.each _ _ _ _ _ _ (fun _ _ => At ordered codeDeps opts.merge [] [] {}) _ (fun _ n _ b _ => ?_) []
    split
    · exact .fail fun _ _ => trivial
    · exact .bind (hquiet (.ask fun _ => rfl)) fun s => .ret fun _ hw => hw
  · split
    · refine .bind (hquiet (.ask fun _ => rfl)) fun listed => ?_
      split
      · exact .fail fun _ _ => trivial
      · exact .ret fun _ hw => hw
    · exact .fail fun _ _ => trivial

/-- What is known of an admitted work list. -/
structure Admitted.Ordered (work : Admitted) (mergeMode : Bool) : Prop where
  order : orderIssuesForTrain work.snapshots mergeMode work.items = .ok work.ordered
  some : work.snapshots ≠ []

lemma admit_meets (ordered : List Nat) (codeDeps : List (Nat × List Nat)) :
    Meets (At ordered codeDeps opts.merge [] [] {}) (admitWork rt deps opts)
      (fun work w => At ordered codeDeps opts.merge [] [] {} w ∧ work.Ordered opts.merge) fun _ _ => True := by
  unfold admitWork
  refine .bind (selectSnapshots_meets deps opts ordered codeDeps) fun selected => ?_
  dsimp only
  split
  · exact .fail fun _ _ => trivial
  · next hsome =>
    split
    · exact .fail fun _ _ => trivial
    · split
      · exact .fail fun _ _ => trivial
      · next horder => exact .ret fun _ hw => ⟨hw, ⟨horder, hsome⟩⟩

/-- A safe run of an ordered work list: nothing is advanced or merged twice, or while it is done with, or while
its prerequisites are not integrated, and nothing that is held or depends on a held issue afterwards; the items are
those of the finished and held issues, and the exit code is 0 for exactly the runs in which all are finished. -/
structure SafeRun (ordered : List Nat) (codeDeps : List (Nat × List Nat)) (mergeMode : Bool) (result : TrainResult)
    (w : World) : Prop where
  advancedOnce : w.advanced.Nodup
  mergedOnce : w.merged.Nodup
  admissible : ∀ step ∈ w.trace, Admissible ordered codeDeps mergeMode step
  heldStays : ∀ before step after, w.trace = before ++ step :: after → ∀ h ∈ step.st.held, ∀ n,
    n = h ∨ Path codeDeps n h → ∀ later ∈ step :: after, n ∉ later.event.advanced ∧ n ∉ later.event.merged
  independent : ∀ issue held, result.status.blocker ≠ some (.independenceUnproven issue held)
  finishes : ∀ n, result.status.blocker ≠ some (.notFinished n)
  itemsOnce : (result.status.items.map (·.issue)).Nodup
  items : ∀ n, n ∈ result.status.items.map (·.issue) ↔ n ∈ w.st.finished ∨ n ∈ w.st.held
  exitCode : result.exitCode = 0 ↔ result.status.complete = true
  complete : result.status.complete = true ↔ (∀ n ∈ ordered, n ∈ w.st.finished) ∧ w.st.held = []

variable {rt deps opts}

lemma safeRun_of_ends {ordered : List Nat} {codeDeps : List (Nat × List Nat)} {result : TrainResult} {w : World}
    (h : Ends opts ordered codeDeps result w) : SafeRun ordered codeDeps opts.merge result w := by
  have hended : Ended ordered codeDeps opts.merge w := h.elim (fun h => h.toEnded) fun h => h.toEnded
  obtain ⟨⟨advancing, merging, htraced⟩, hlisted⟩ := hended
  have hitems : result.status.items = w.st.items := h.elim (fun h => h.items) fun h => h.items
  have hheld : ∀ before step after, w.trace = before ++ step :: after → ∀ h ∈ step.st.held, ∀ n,
      n = h ∨ Path codeDeps n h → ∀ later ∈ step :: after, n ∉ later.event.advanced ∧ n ∉ later.event.merged := by
    intro before step after hsplit x hx n hn later hlater
    -- what is held at one call is held at every later one
    have hx' : x ∈ later.st.held := by
      rcases mem_cons.1 hlater with rfl | hlater
      · exact hx
      · have hpairs := htraced.inOrder
        rw [hsplit] at hpairs
        exact ((pairwise_cons.1 (pairwise_append.1 hpairs).2.1).1 later hlater).held hx
    have hstep := htraced.admissible later (by rw [hsplit]; exact mem_append_right _ hlater)
    have hnot : ¬ Unheld codeDeps later.st n := fun hunheld => by
      rcases hn with rfl | hpath
      · exact hunheld.unheld hx'
      · exact hunheld.independent x hx' hpath
    exact ⟨fun hmem => hnot (hstep.advanced n hmem).2.1, fun hmem => hnot (hstep.merged n hmem)⟩
  have hblocker : ∀ b, result.status.blocker = some b → b.isExpected = true := by
    intro b hb
    rcases h with h | h
    · obtain ⟨b', hb', hexpected⟩ := h.blocker
      rw [hb'] at hb
      rw [← Option.some.inj hb]
      exact hexpected
    · rw [h.blocker] at hb
      cases hb
  refine ⟨htraced.advancedOnce, htraced.mergedOnce, htraced.admissible, hheld, fun issue held hb => ?_, fun n hb => ?_,
    by rw [hitems]; exact hlisted.once, by rw [hitems]; exact hlisted.items, ?_, ?_⟩
  · cases hblocker _ hb
  · cases hblocker _ hb
  · rcases h with h | h
    · simp [h.exitCode, h.incomplete]
    · simp [h.exitCode, h.complete]
  · rcases h with h | h
    · rw [h.incomplete]
      refine ⟨fun hfalse => (by cases hfalse), fun hdone => ?_⟩
      rcases h.pending with ⟨n, hn, hopen⟩ | hheld
      · exact absurd (hdone.1 n hn) hopen
      · exact absurd hdone.2 hheld
    · rw [h.complete]
      exact ⟨fun _ => ⟨h.finished, h.held⟩, fun _ => rfl⟩

lemma order_refuses_iff (raw : List RawContractItem) : (∃ e, orderRawContractItems raw = .error e) ↔
    ¬ (raw.map RawContractItem.id).Nodup ∨ ∃ id, Relation.TransGen (Loop.Declares raw) id id := by
  rw [← Loop.compile_refuses_iff]
  unfold orderRawContractItems
  cases compileContractItems raw with
  | error e => exact ⟨fun _ => ⟨e, rfl⟩, fun _ => ⟨_, rfl⟩⟩
  | ok items => exact ⟨fun ⟨e, he⟩ => (by cases he), fun ⟨e, he⟩ => (by cases he)⟩

/-- Distinct issues without a dependency cycle are ordered, and every live run of an admitted work list returns and
is safe. -/
theorem runTrain_safe (rt : JsRuntime) (deps : TrainDeps) (opts : TrainOpts) :
    (∀ raw : List RawContractItem, (raw.map RawContractItem.id).Nodup →
      (∀ id, ¬ Relation.TransGen (Loop.Declares raw) id id) → ∃ ordered, orderRawContractItems raw = .ok ordered) ∧
    ∀ work w₁, admitWork rt deps opts {} = (.ok work, w₁) → ∃ result w, runTrain rt deps opts {} = (.ok result, w) ∧
      SafeRun work.ordered (codeDependencyMap work.items) opts.merge result w := by
  refine ⟨fun raw hdistinct hacyclic => ?_, fun work w₁ hadmitted => ?_⟩
  · cases horder : orderRawContractItems raw with
    | ok ordered => exact ⟨ordered, rfl⟩
    | error e =>
      rcases (order_refuses_iff raw).1 ⟨e, horder⟩ with hrepeated | ⟨id, hcycle⟩
      · exact absurd hdistinct hrepeated
      · exact absurd hcycle (hacyclic id)
  have hstart : At work.ordered (codeDependencyMap work.items) opts.merge [] [] {} ({} : World) :=
    ⟨⟨fun _ h => absurd h not_mem_nil, fun _ h => absurd h not_mem_nil, .nil, .nil, .nil,
      fun _ h => absurd h not_mem_nil, fun _ h => absurd h not_mem_nil⟩, rfl⟩
  obtain ⟨hw₁, hwork⟩ := (admit_meets rt deps opts work.ordered (codeDependencyMap work.items) {} hstart w₁).1 work
    hadmitted
  obtain ⟨hnumbers, hperm⟩ := order_of_snapshots hwork.order
  have hnodup : work.ordered.Nodup := hperm.nodup_iff.2 hnumbers
  have hlisted : ∀ s ∈ work.snapshots, s.number ∈ work.ordered := fun s hs => hperm.mem_iff.2 (mem_map_of_mem hs)
  have hne : work.ordered ≠ [] := by
    obtain ⟨s, hs⟩ := exists_mem_of_ne_nil _ hwork.some
    exact ne_nil_of_mem (hlisted s hs)
  have hrun : runTrain rt deps opts {} =
      runOrdered deps opts work.ordered (codeDependencyMap work.items) work.snapshots w₁ := by
    unfold runTrain
    change Effect.andThen (admitWork rt deps opts) _ {} = _
    rw [Effect.andThen, hadmitted]
  have hends := @runOrdered_returns deps opts work.ordered _ hnodup _ hnumbers hlisted hne w₁ hw₁
  rw [hrun]
  cases hresult : runOrdered deps opts work.ordered (codeDependencyMap work.items) work.snapshots w₁ with
  | mk outcome w =>
    cases outcome with
    | error e => exact ((hends w).2 e hresult).elim
    | ok result => exact ⟨result, w, rfl, safeRun_of_ends ((hends w).1 result hresult)⟩

/-- Two issues, the first of which waits for the second; each is merged as soon as it was advanced. -/
def pairDeps : TrainDeps where
  discoverDeps :=
    { getIssueTitleBody := fun _ => .ok (some ⟨none, none⟩)
      getBlockedByIssueNumbers := fun id => .ok (some (if id = "11" then [.finite 12] else []))
      getRoadmapDeclaredEdges := none
      getIssueOpenState := none }
  isFactoryControlCheckout := false
  listMilestoneIssues _ _ := []
  getIssue _ issue := ⟨issue, ["pipeline:ready"], false⟩
  resolveApprovedControlRoot _ := "/control"
  persistTrainAdmission _ := none
  persistMergeAdmission _ _ _ := none
  getPrForIssue _ issue := some (issue + 100)
  getPrForIssueAnyState _ issue := some (issue + 100)
  observePr calls pr :=
    if calls.any (fun event => event.merged.contains (pr - 100)) then
      ⟨.merged, some "00000000000000000000000000000000000000aa", some "00000000000000000000000000000000000000bb"⟩
    else ⟨.opened, none, some "00000000000000000000000000000000000000bb"⟩
  mergeIssuePr _ _ := .ok ()
  fetchBase _ _ := true
  baseTip _ _ := "00000000000000000000000000000000000000cc"
  isAncestor _ _ _ := true
  advanceWave _ issues := .ok (issues.map fun n => (n, .ok .readyToDeploy ["pipeline:ready-to-deploy"] none))

def pairOpts : TrainOpts where
  issues := [11, 12]
  milestone := ""
  merge := true
  baseBranch := "main"
  skipAdvanceIfReady := true

theorem runTrain_safe_pair : ∃ work w₁, admitWork (.onFirstDay []) pairDeps pairOpts {} = (.ok work, w₁) ∧
    ∃ result w, runTrain (.onFirstDay []) pairDeps pairOpts {} = (.ok result, w) ∧
      SafeRun work.ordered (codeDependencyMap work.items) pairOpts.merge result w := by
  have hok : (admitWork (.onFirstDay []) pairDeps pairOpts {}).1.toBool = true := by decide +kernel
  cases hadmitted : admitWork (.onFirstDay []) pairDeps pairOpts {} with
  | mk outcome w₁ =>
    cases outcome with
    | error e => simp [hadmitted, Except.toBool] at hok
    | ok work => exact ⟨work, w₁, rfl, (runTrain_safe _ _ _).2 work w₁ hadmitted⟩

example : ((runTrain (.onFirstDay []) pairDeps pairOpts {}).1.toOption.map fun r => (r.exitCode, r.status.orderedIssues)) =
    some (0, [12, 11]) := by
  decide +kernel

end AgentPipeline.Train
