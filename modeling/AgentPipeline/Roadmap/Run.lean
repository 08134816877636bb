import AgentPipeline.Roadmap.Plan

/-!
# Run: a call that nothing interrupts

* `runAll`: the actions one after the other;
* `runAll_induct`: what every action preserves, the run preserves;
* `settledTracker_apply`: a first call carries out the actions of its manifest.
-/

namespace AgentPipeline.Roadmap

/-! ## Runs without interruption -/

def runAll : List ReconciliationAction → Desk → Except String Desk
  | [], d => .ok d
  | a :: as, d =>
    match runAction d a with
    | .error message => .error message
    | .ok (_, d') => runAll as d'

variable {as : List ReconciliationAction} {d d' : Desk}

lemma runAll_append {bs : List ReconciliationAction} (h : runAll as d = .ok d') :
    runAll (as ++ bs) d = runAll bs d' := by
  induction as generalizing d with
  | nil =>
    cases h
    rfl
  | cons a as ih =>
    simp only [List.cons_append, runAll] at h ⊢
    cases hrun : runAction d a with
    | error message => simp [hrun] at h
    | ok r =>
      simp only [hrun] at h
      exact ih h

variable {I : Desk → Prop}

lemma runAll_induct (hstep : ∀ a ∈ as, ∀ d r, I d → runAction d a = .ok r → I r.2) (hd : I d)
    (h : runAll as d = .ok d') : I d' := by
  induction as generalizing d with
  | nil =>
    cases h
    exact hd
  | cons a as ih =>
    simp only [runAll] at h
    cases hrun : runAction d a with
    | error message => simp [hrun] at h
    | ok r =>
      simp only [hrun] at h
      exact ih (fun b hb => hstep b (List.mem_cons_of_mem _ hb)) (hstep a List.mem_cons_self d r hd hrun) h

variable {a : ReconciliationAction}

lemma exists_of_runAll (hstep : ∀ a ∈ as, ∀ d r, I d → runAction d a = .ok r → I r.2) (hd : I d)
    (h : runAll as d = .ok d') (ha : a ∈ as) : ∃ e r, I e ∧ runAction e a = .ok r := by
  induction as generalizing d with
  | nil => cases ha
  | cons b as ih =>
    simp only [runAll] at h
    cases hrun : runAction d b with
    | error message => simp [hrun] at h
    | ok r =>
      simp only [hrun] at h
      rcases List.mem_cons.1 ha with rfl | ha
      · exact ⟨d, r, hd, hrun⟩
      · exact ih (fun c hc => hstep c (List.mem_cons_of_mem _ hc)) (hstep b List.mem_cons_self d r hd hrun) h ha

lemma runAction_blank {r : ActionResult × Desk} : runAction d a.blank = .ok r ↔ runAction d a = .ok r := by
  have hexecute : ∀ r, executeAction d a.blank = .ok r ↔ executeAction d a = .ok r := by
    intro r
    unfold executeAction
    rw [show a.blank.kind = a.kind from rfl]
    cases a.kind with
    | create => rfl
    | reuse => rfl
    | reopen =>
      simp only [executeReopen, show a.blank.milestoneNumber = a.milestoneNumber from rfl]
      cases a.milestoneNumber <;> simp
    | rename =>
      simp only [executeRename, show a.blank.milestoneNumber = a.milestoneNumber from rfl,
        show a.blank.newTitle = a.newTitle from rfl]
      cases a.milestoneNumber with
      | none => simp
      | some n => cases a.newTitle.filter (· ≠ "") <;> simp
    | updateDescription =>
      simp only [executeUpdateDescription, show a.blank.milestoneNumber = a.milestoneNumber from rfl,
        show a.blank.description = a.description from rfl]
      cases a.milestoneNumber <;> simp
    | assign =>
      simp only [executeAssign, show a.blank.issueNumber = a.issueNumber from rfl,
        show a.blank.milestoneTitle = a.milestoneTitle from rfl,
        show a.blank.milestoneNumber = a.milestoneNumber from rfl]
      cases a.issueNumber with
      | none => simp
      | some n => cases a.milestoneTitle.filter (· ≠ "") <;> simp
    | clearStale =>
      simp only [executeClearStale, show a.blank.issueNumber = a.issueNumber from rfl]
      cases a.issueNumber <;> simp
  unfold runAction
  cases hblank : executeAction d a.blank with
  | error message =>
    cases hplain : executeAction d a with
    | error message' => simp [Except.map]
    | ok r' =>
      have hsame := (hexecute r').2 hplain
      rw [hblank] at hsame
      cases hsame
  | ok r' =>
    rw [(hexecute r').1 hblank]
    rfl

lemma runAll_blank : runAll (as.map (·.blank)) d = .ok d' ↔ runAll as d = .ok d' := by
  induction as generalizing d with
  | nil => rfl
  | cons a as ih =>
    simp only [List.map_cons, runAll]
    cases hrun : runAction d a with
    | ok r =>
      rw [runAction_blank.2 hrun]
      exact ih
    | error message =>
      cases hblank : runAction d a.blank with
      | error message' => simp
      | ok r =>
        have hplain := runAction_blank.1 hblank
        rw [hrun] at hplain
        cases hplain

variable {host : NodeHost} {localeLe : String → String → Bool} {stampText : Nat → String}

variable {pending : List ReconciliationAction}

lemma runPending_of_ok (host : NodeHost)
    (h : runAll pending d = .ok d') (progress : ReconciliationProgress) (mutations : Nat)
    (executed : List String) :
    ∃ mutations' progress' executed', runPending host (fun _ => none) pending d progress mutations executed =
      ((none, mutations'), d', progress', executed') := by
  induction pending generalizing d progress mutations executed with
  | nil =>
    cases h
    exact ⟨_, _, _, rfl⟩
  | cons a pending ih =>
    simp only [runAll] at h
    cases hrun : runAction d a with
    | error message => simp [hrun] at h
    | ok r =>
      simp only [hrun] at h
      simp only [runPending, hrun, reduceCtorEq, if_false]
      exact ih h _ _ _

variable {message : String}

lemma runPending_of_error
    (h : runAll pending d = .error message) (progress : ReconciliationProgress) (mutations : Nat)
    (executed : List String) :
    (runPending host (fun _ => none) pending d progress mutations executed).1.1 = some (.threw message) := by
  induction pending generalizing d progress mutations executed with
  | nil => cases h
  | cons a pending ih =>
    simp only [runAll] at h
    cases hrun : runAction d a with
    | error message' =>
      simp only [hrun] at h
      cases h
      simp only [runPending, hrun]
    | ok r =>
      simp only [hrun] at h
      simp only [runPending, hrun, reduceCtorEq, if_false]
      exact ih h _ _ _

/-- The tracker after a call that went through. -/
def settledTracker (outcome : ApplyOutcome × ApplyWorld) : Option Tracker :=
  match outcome.1 with
  | .applied _ => some outcome.2.tracker
  | _ => none

variable {shipped : List String}

lemma settledTracker_conclude {resumed : Bool}
    {ran : (Option ApplyOutcome × Nat) × Desk × ReconciliationProgress × List String}
    (h : ran.1.1 = some (.threw message)) : settledTracker (conclude host stampText shipped resumed ran) = none := by
  obtain ⟨⟨outcome, mutations⟩, d, progress, executed⟩ := ran
  obtain rfl : outcome = some (.threw message) := h
  rfl

/-- The desk of a first call. -/
def firstDesk (stampText : Nat → String) (shipped : List String) (t : Tracker) : Desk :=
  ⟨t, t.snapshot stampText shipped, startingTitles (t.snapshot stampText shipped) []⟩

/-- The progress record of a first call. -/
def firstProgress (host : NodeHost) (manifest : ReconciliationManifest) (live : ReconcileLiveState) :
    ReconciliationProgress where
  manifestIdentity := manifest.identity
  applyStartFingerprint := computeLiveStateFingerprint host live
  lastFingerprint := some (computeLiveStateFingerprint host live)
  actions := manifest.actions
  completed := []
  nextPendingId := manifest.actions.head?.map (·.id)
  status := .inProgress

variable {manifest : ReconciliationManifest} {t : Tracker}

variable (hblockers : manifest.coverageBlockers = [])
  (hidentity : manifestIdentityMatches host localeLe manifest = true)
  (hfingerprint : manifest.liveStateFingerprint = computeLiveStateFingerprint host (t.snapshot stampText shipped))
include hblockers hidentity hfingerprint

lemma validate_first :
    validateSemverApplyReady host localeLe manifest (t.snapshot stampText shipped) (some manifest.identity) none = .ok () := by
  simp [validateSemverApplyReady, refuseUnless, hblockers, hidentity, hfingerprint, bind, Except.bind]

lemma apply_first (interrupt : String → Option Interruption) (hactions : manifest.actions ≠ []) :
    applySemverReconciliation host localeLe stampText interrupt manifest (t.snapshot stampText shipped)
        (some manifest.identity) ⟨t, none, []⟩ =
      conclude host stampText shipped false (runPending host interrupt manifest.actions
        (firstDesk stampText shipped t) (firstProgress host manifest (t.snapshot stampText shipped)) 0 []) := by
  unfold applySemverReconciliation
  simp only [validate_first hblockers hidentity hfingerprint, Option.filter_none, Option.map_none, Option.or_none,
    Option.getD_none, List.contains_nil, Bool.not_false, List.filter_true]
  rw [if_neg (by simpa using hactions)]
  rfl

lemma settledTracker_apply :
    settledTracker (applySemverReconciliation host localeLe stampText (fun _ => none) manifest
        (t.snapshot stampText shipped) (some manifest.identity) ⟨t, none, []⟩) =
      match runAll manifest.actions (firstDesk stampText shipped t) with
      | .ok d => some d.tracker
      | .error _ => none := by
  cases hactions : manifest.actions with
  | nil =>
    unfold applySemverReconciliation
    simp only [validate_first hblockers hidentity hfingerprint, hactions]
    rfl
  | cons a actions =>
    rw [apply_first hblockers hidentity hfingerprint _ (by rw [hactions]; simp), ← hactions]
    cases hrun : runAll manifest.actions (firstDesk stampText shipped t) with
    | ok d =>
      obtain ⟨mutations, progress, executed, hpending⟩ := runPending_of_ok host hrun _ 0 []
      rw [hpending]
      rfl
    | error message => exact settledTracker_conclude (runPending_of_error hrun _ _ _)

end AgentPipeline.Roadmap
