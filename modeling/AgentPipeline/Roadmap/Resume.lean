import AgentPipeline.Roadmap.Stamps

/-!
# Resume: a call after an interrupted one

* `ids_nodup`: the ids of a manifest are distinct;
* `Paused`: what an interrupted run leaves: the actions that are done, the desk and the progress record;
* `Resumes`, `Refuses`: the next call ends the work, and is refused when somebody else changed the tracker;
* `interruptedCall_spec`, `nextCall_refused`, `nextCall_accepted`: the two calls.
-/

namespace AgentPipeline.Roadmap

open List Option

/-! ## Ids -/

/-- The digits that an id begins with. -/
def idDigits (seq : Nat) : List Char :=
  List.replicate (3 - (toString seq).toList.length) '0' ++ (toString seq).toList

lemma ofDigitChars_idDigits (seq : Nat) : Nat.ofDigitChars 10 (idDigits seq) 0 = seq := by
  rw [idDigits, Nat.ofDigitChars_append, Nat.ofDigitChars_replicate_zero, Nat.mul_zero]
  simp

lemma isDigit_of_mem_idDigits {seq : Nat} {c : Char} (h : c ∈ idDigits seq) : c.isDigit = true := by
  rcases mem_append.1 h with h | h
  · rw [eq_of_mem_replicate h]
    rfl
  · have hmem : c ∈ Nat.toDigits 10 seq := by simpa using h
    exact Nat.isDigit_of_mem_toDigits (by decide) (by decide) hmem

lemma nextId_toList (seq : Nat) (kind key : String) :
    (nextId seq kind key).toList = idDigits seq ++ '-' :: (kind.toList ++ '-' :: key.toList) := by
  simp [nextId, idDigits]

lemma nextId_seq {seq seq' : Nat} {kind kind' key key' : String} (h : nextId seq kind key = nextId seq' kind' key') :
    seq = seq' := by
  have htake : ∀ (seq : Nat) (rest : List Char),
      (idDigits seq ++ '-' :: rest).takeWhile Char.isDigit = idDigits seq := by
    intro seq rest
    rw [takeWhile_append_of_pos fun c hc => isDigit_of_mem_idDigits hc, takeWhile_cons_of_neg (by decide), append_nil]
  have hlist : (nextId seq kind key).toList = (nextId seq' kind' key').toList := by rw [h]
  rw [nextId_toList, nextId_toList] at hlist
  have hdigits := congrArg (List.takeWhile Char.isDigit) hlist
  rw [htake, htake] at hdigits
  rw [← ofDigitChars_idDigits seq, hdigits, ofDigitChars_idDigits]

lemma ids_nodup (targets : List ReconciliationTargetMilestone) (live : ReconcileLiveState)
    (prior : List CoverageBlocker) : ((planReconciliationActions targets live prior).1.map (·.id)).Nodup := by
  unfold planReconciliationActions
  dsimp only
  rw [nodup_iff_injective_getElem]
  rintro ⟨i, hi⟩ ⟨j, hj⟩ hsame
  simp only [getElem_map, getElem_mapIdx] at hsame
  have hseq := nextId_seq hsame
  simp only [Fin.mk.injEq]
  omega

/-! ## What a run leaves -/

/-- Why a run ended, with some actions done and the rest pending. -/
inductive Ending (interrupt : String → Option Interruption) (done rest : List ReconciliationAction) (d : Desk) :
    Option ApplyOutcome → Prop
  | finished (hrest : rest = []) (hquiet : ∀ a ∈ done, interrupt a.id = none) : Ending interrupt done rest d none
  | failed (a : ReconciliationAction) (hhead : rest.head? = some a) (message : String)
      (hfails : interrupt a.id = some (.fails message)) :
      Ending interrupt done rest d (some (.threw message))
  | error (a : ReconciliationAction) (hhead : rest.head? = some a) (message : String)
      (herror : runAction d a = .error message) : Ending interrupt done rest d (some (.threw message))
  | stopped (a : ReconciliationAction) (hlast : done.getLast? = some a) (hstops : interrupt a.id = some .stops) :
      Ending interrupt done rest d (some .stopped)

/-- The progress record of a run after some actions. -/
structure Advanced (host : NodeHost) (done : List ReconciliationAction) (d d' : Desk)
    (progress progress' : ReconciliationProgress) : Prop where
  identity : progress'.manifestIdentity = progress.manifestIdentity
  actions : progress'.actions = progress.actions
  status : progress'.status = progress.status
  completed : progress'.completed.map (·.id) = progress.completed.map (·.id) ++ done.map (·.id)
  fingerprint : progress.lastFingerprint = some (computeLiveStateFingerprint host d.live) →
    progress'.lastFingerprint = some (computeLiveStateFingerprint host d'.live)

/-- The state that a run ends in. -/
structure Paused (host : NodeHost) (interrupt : String → Option Interruption) (as done rest : List ReconciliationAction)
    (d d' : Desk) (progress progress' : ReconciliationProgress) (outcome : Option ApplyOutcome) : Prop where
  split : as = done ++ rest
  ran : runAll done d = .ok d'
  ending : Ending interrupt done rest d' outcome
  advanced : Advanced host done d d' progress progress'

variable {a : ReconciliationAction}

lemma Ending.cons {interrupt : String → Option Interruption} {done rest : List ReconciliationAction} {d : Desk}
    {outcome : Option ApplyOutcome} (h : Ending interrupt done rest d outcome)
    (hquiet : interrupt a.id = none) : Ending interrupt (a :: done) rest d outcome := by
  cases h with
  | finished hrest hall =>
    refine .finished hrest fun b hb => ?_
    rcases mem_cons.1 hb with rfl | hb
    · exact hquiet
    · exact hall b hb
  | failed b hhead message hfails => exact .failed b hhead message hfails
  | error b hhead message herror => exact .error b hhead message herror
  | stopped b hlast hstops =>
    refine .stopped b ?_ hstops
    rw [getLast?_cons, hlast]
    rfl

lemma runPending_spec (host : NodeHost) (interrupt : String → Option Interruption)
    (as : List ReconciliationAction) (d : Desk) (progress : ReconciliationProgress) (mutations : Nat)
    (executed : List String) : ∃ done rest d' progress' outcome mutations',
      runPending host interrupt as d progress mutations executed =
        ((outcome, mutations'), d', progress', executed ++ done.map (·.id)) ∧
      Paused host interrupt as done rest d d' progress progress' outcome := by
  induction as generalizing d progress mutations executed with
  | nil =>
    refine ⟨[], [], d, progress, none, mutations, by simp [runPending], rfl, rfl, .finished rfl (by simp), ?_⟩
    exact ⟨rfl, rfl, rfl, by simp, id⟩
  | cons a as ih =>
    have hnone : ∀ progress', progress' = { progress with nextPendingId := some a.id } →
        Advanced host [] d d progress progress' := by
      rintro _ rfl
      exact ⟨rfl, rfl, rfl, by simp, id⟩
    cases hinterrupt : interrupt a.id with
    | some interruption =>
      cases interruption with
      | fails message =>
        refine ⟨[], a :: as, d, _, some (.threw message), mutations, ?_, rfl, rfl,
          .failed a rfl message hinterrupt, hnone _ rfl⟩
        simp [runPending, hinterrupt]
      | stops =>
        cases hrun : runAction d a with
        | error message =>
          refine ⟨[], a :: as, d, _, some (.threw message), mutations, ?_, rfl, rfl,
            .error a rfl message hrun, hnone _ rfl⟩
          simp [runPending, hinterrupt, hrun]
        | ok r =>
          refine ⟨[a], as, r.2, { progress with
              nextPendingId := some a.id
              completed := progress.completed ++ [⟨a.id, r.1.milestoneNumber⟩]
              lastFingerprint := some (computeLiveStateFingerprint host r.2.live) }, some .stopped,
            if r.1.mutated then mutations + 1 else mutations, ?_, rfl, ?_, .stopped a rfl hinterrupt, rfl,
            rfl, rfl, by simp, fun _ => rfl⟩
          · simp [runPending, hinterrupt, hrun]
          · rw [runAll, hrun]
            rfl
    | none =>
      cases hrun : runAction d a with
      | error message =>
        refine ⟨[], a :: as, d, _, some (.threw message), mutations, ?_, rfl, rfl,
          .error a rfl message hrun, hnone _ rfl⟩
        simp [runPending, hinterrupt, hrun]
      | ok r =>
        obtain ⟨done, rest, d', progress', outcome, mutations', heq, hpaused⟩ :=
          ih r.2 { progress with
            nextPendingId := some a.id
            completed := progress.completed ++ [⟨a.id, r.1.milestoneNumber⟩]
            lastFingerprint := some (computeLiveStateFingerprint host r.2.live) }
            (if r.1.mutated then mutations + 1 else mutations) (executed ++ [a.id])
        refine ⟨a :: done, rest, d', progress', outcome, mutations', ?_, ?_, ?_, hpaused.ending.cons hinterrupt, ?_⟩
        · rw [runPending]
          simp only [hinterrupt, hrun, reduceCtorEq, if_false]
          rw [heq]
          simp
        · rw [hpaused.split, cons_append]
        · rw [runAll, hrun]
          exact hpaused.ran
        · obtain ⟨hidentity, hactions, hstatus, hcompleted, hfingerprint⟩ := hpaused.advanced
          exact ⟨hidentity, hactions, hstatus, by rw [hcompleted]; simp, fun _ => hfingerprint rfl⟩

/-! ## Calls -/

/-- An interruption at one action of the list. -/
def interruptAt (actions : List ReconciliationAction) (k : Nat) (interruption : Interruption) (id : String) :
    Option Interruption :=
  if (actions[k]?).map (·.id) = some id then some interruption else none

/-- How many actions are completed when the run is interrupted at one of them. -/
def completedCount (k : Nat) : Interruption → Nat
  | .fails _ => k
  | .stops => k + 1

section Calls

variable (host : NodeHost) (localeLe : String → String → Bool) (stampText : Nat → String) (shipped : List String)
  (manifest : ReconciliationManifest)

/-- A first call on the state of the preview, interrupted at an action. -/
def interruptedCall (t : Tracker) (k : Nat) (interruption : Interruption) : ApplyOutcome × ApplyWorld :=
  applySemverReconciliation host localeLe stampText (interruptAt manifest.actions k interruption) manifest
    (t.snapshot stampText shipped) (some manifest.identity) ⟨t, none, []⟩

/-- The desk of the interrupted call, with its local copy of the live state. -/
def interruptedDesk (t : Tracker) (k : Nat) (interruption : Interruption) : Desk :=
  (runPending host (interruptAt manifest.actions k interruption) manifest.actions (firstDesk stampText shipped t)
    (firstProgress host manifest (t.snapshot stampText shipped)) 0 []).2.1

/-- The next call, on a live state that is read freshly. -/
def nextCall (shipped : List String) (w : ApplyWorld) : ApplyOutcome × ApplyWorld :=
  applySemverReconciliation host localeLe stampText (fun _ => none) manifest (w.tracker.snapshot stampText shipped)
    (some manifest.identity) w

/-- The next call is not refused, carries out the actions that are left, and is complete. -/
structure Resumes (w : ApplyWorld) : Prop where
  applied : ∃ result, (nextCall host localeLe stampText manifest shipped w).1 = .applied result
  all : (nextCall host localeLe stampText manifest shipped w).2.executed = manifest.actions.map (·.id)
  continued : w.executed <+: (nextCall host localeLe stampText manifest shipped w).2.executed
  once : (nextCall host localeLe stampText manifest shipped w).2.executed.Nodup
  complete : (nextCall host localeLe stampText manifest shipped w).2.progress.map (·.status) = some .complete

/-- A tracker that somebody else changed is refused, before any change. The digests have to tell it from the
local copy. -/
def Refuses (copy : ReconcileLiveState) (w : ApplyWorld) : Prop :=
  ∀ (t : Tracker) (shipped' : List String),
    ¬ SameLive (t.snapshot stampText shipped') (w.tracker.snapshot stampText shipped) →
    Telling host (t.snapshot stampText shipped') copy →
    ∃ refusal, nextCall host localeLe stampText manifest shipped' { w with tracker := t } =
      (.refused refusal, { w with tracker := t })

end Calls

variable {done rest : List ReconciliationAction}

section NextCall

variable {host : NodeHost} {stampText : Nat → String} {manifest : ReconciliationManifest}

/-- The progress record of an interrupted call. -/
structure Interrupted (host : NodeHost) (manifest : ReconciliationManifest) (done : List ReconciliationAction)
    (copy : ReconcileLiveState) (progress : ReconciliationProgress) : Prop where
  identity : progress.manifestIdentity = manifest.identity
  actions : progress.actions = manifest.actions
  status : progress.status = .inProgress ∨ progress.status = .failed
  completed : progress.completed.map (·.id) = done.map (·.id)
  fingerprint : progress.lastFingerprint = some (computeLiveStateFingerprint host copy)

lemma pending_eq (hnodup : ((done ++ rest).map (·.id)).Nodup) :
    (done ++ rest).filter (fun a => !(done.map (·.id)).contains a.id) = rest := by
  rw [map_append, nodup_append] at hnodup
  have hdone : done.filter (fun a => !(done.map (·.id)).contains a.id) = [] := by
    rw [filter_eq_nil_iff]
    intro a ha
    have hmem : a.id ∈ done.map (·.id) := mem_map_of_mem ha
    rw [contains_iff_mem.2 hmem]
    simp
  have hrest : rest.filter (fun a => !(done.map (·.id)).contains a.id) = rest := by
    refine filter_eq_self.2 fun a ha => ?_
    cases hcontains : (done.map (·.id)).contains a.id with
    | false => rfl
    | true => exact absurd rfl (hnodup.2.2 a.id (contains_iff_mem.1 hcontains) a.id (mem_map_of_mem ha))
  rw [filter_append, hdone, hrest, nil_append]

variable {copy : ReconcileLiveState} {progress : ReconciliationProgress} (localeLe : String → String → Bool)
include localeLe

lemma gate_of_interrupted (live : ReconcileLiveState) (h : Interrupted host manifest done copy progress)
    (hblockers : manifest.coverageBlockers = []) (hidentity : manifestIdentityMatches host localeLe manifest = true)
    (hactions : manifest.actions ≠ []) : isResuming manifest progress = true ∧
      validateSemverApplyReady host localeLe manifest live (some manifest.identity) (some progress) =
        refuseUnless (computeLiveStateFingerprint host live = computeLiveStateFingerprint host copy)
          .fingerprintDrift "Live state drifted; run a new dry-run preview before apply" := by
  have hresuming : isResuming manifest progress = true := by
    rcases h.status with hstatus | hstatus <;>
      simp [isResuming, h.identity, hstatus, h.actions, hactions]
  refine ⟨hresuming, ?_⟩
  simp [validateSemverApplyReady, hresuming, Option.filter, ReconciliationProgress.expectedFingerprint, h.fingerprint,
    refuseUnless, hblockers, hidentity, bind, Except.bind]

lemma nextCall_refused (h : Interrupted host manifest done copy progress)
    (hblockers : manifest.coverageBlockers = []) (hidentity : manifestIdentityMatches host localeLe manifest = true)
    (hactions : manifest.actions ≠ []) {w : ApplyWorld} (hw : w.progress = some progress) {shipped : List String}
    (hdrift : computeLiveStateFingerprint host (w.tracker.snapshot stampText shipped) ≠
      computeLiveStateFingerprint host copy) :
    ∃ refusal, nextCall host localeLe stampText manifest shipped w = (.refused refusal, w) := by
  obtain ⟨-, hgate⟩ := gate_of_interrupted localeLe (w.tracker.snapshot stampText shipped) h hblockers hidentity hactions
  have hrefuse : validateSemverApplyReady host localeLe manifest (w.tracker.snapshot stampText shipped)
      (some manifest.identity) w.progress =
      .error ⟨.fingerprintDrift, "Live state drifted; run a new dry-run preview before apply"⟩ := by
    rw [hw, hgate, refuseUnless, if_neg (by simpa using hdrift)]
  refine ⟨⟨.fingerprintDrift, "Live state drifted; run a new dry-run preview before apply"⟩, ?_⟩
  unfold nextCall applySemverReconciliation
  rw [hrefuse]

lemma nextCall_accepted (h : Interrupted host manifest done copy progress)
    (hblockers : manifest.coverageBlockers = []) (hidentity : manifestIdentityMatches host localeLe manifest = true)
    (hactions : manifest.actions ≠ []) (hsplit : manifest.actions = done ++ rest)
    (hnodup : (manifest.actions.map (·.id)).Nodup) {w : ApplyWorld} (hw : w.progress = some progress)
    {shipped : List String}
    (hsame : computeLiveStateFingerprint host (w.tracker.snapshot stampText shipped) =
      computeLiveStateFingerprint host copy) :
    (rest = [] ∧ (∃ result, (nextCall host localeLe stampText manifest shipped w).1 = .applied result) ∧
        (nextCall host localeLe stampText manifest shipped w).2.executed = w.executed ∧
        (nextCall host localeLe stampText manifest shipped w).2.progress.map (·.status) = some .complete) ∨
      ∃ progress', nextCall host localeLe stampText manifest shipped w =
        conclude host stampText shipped true (runPending host (fun _ => none) rest
          ⟨w.tracker, w.tracker.snapshot stampText shipped,
            startingTitles (w.tracker.snapshot stampText shipped) (createdTitles progress)⟩ progress' 0 w.executed) := by
  obtain ⟨hresuming, hgate⟩ :=
    gate_of_interrupted localeLe (w.tracker.snapshot stampText shipped) h hblockers hidentity hactions
  have haccept : validateSemverApplyReady host localeLe manifest (w.tracker.snapshot stampText shipped)
      (some manifest.identity) w.progress = .ok () := by
    rw [hw, hgate, refuseUnless, if_pos (by simpa using hsame)]
  have hresume : (some progress).filter (isResuming manifest) = some progress := by
    simp [Option.filter, hresuming]
  have hpending : manifest.actions.filter (fun a => !(progress.completed.map (·.id)).contains a.id) = rest := by
    rw [h.completed]
    rw [hsplit] at hnodup ⊢
    exact pending_eq hnodup
  by_cases hempty : rest = []
  · refine .inl ⟨hempty, ?_⟩
    unfold nextCall applySemverReconciliation
    rw [haccept]
    simp only [hw, hresume, some_or, map_some, getD_some, h.actions, hpending, hempty, isEmpty_nil, if_true]
    exact ⟨⟨_, rfl⟩, trivial, trivial⟩
  · refine .inr ⟨{ progress with actions := manifest.actions, status := .inProgress }, ?_⟩
    unfold nextCall applySemverReconciliation
    rw [haccept]
    simp only [hw, hresume, some_or, map_some, getD_some, h.actions, hpending]
    rw [if_neg (by simpa using hempty)]
    rfl

end NextCall

/-! ## The interrupted call -/

variable {host : NodeHost} {stampText : Nat → String} {shipped : List String} {manifest : ReconciliationManifest}
  {t : Tracker}

variable {as : List ReconciliationAction}

lemma getElem?_of_head (hsplit : as = done ++ rest) (hhead : rest.head? = some a) : as[done.length]? = some a := by
  rw [hsplit, getElem?_append_right le_rfl, Nat.sub_self, ← head?_eq_getElem?, hhead]

variable {k : Nat}

lemma index_of_interruptAt (hnodup : (as.map (·.id)).Nodup) {j : Nat}
    {interruption interruption' : Interruption} (ha : as[j]? = some a)
    (h : interruptAt as k interruption a.id = some interruption') : j = k ∧ interruption = interruption' := by
  unfold interruptAt at h
  split at h
  · next hid =>
    have hj : (as.map (·.id))[j]? = some a.id := by rw [getElem?_map, ha, map_some]
    have hk : (as.map (·.id))[k]? = some a.id := by rw [getElem?_map, hid]
    have hlt : j < (as.map (·.id)).length := (List.getElem?_eq_some_iff.1 hj).1
    exact ⟨(getElem?_inj hlt hnodup).1 (hj.trans hk.symm), some.inj h⟩
  · cases h

lemma done_eq_take (hnodup : (as.map (·.id)).Nodup)
    (hk : k < as.length) {interruption : Interruption} {d d' d'' : Desk} {outcome : Option ApplyOutcome}
    (hsplit : as = done ++ rest) (hran : runAll done d = .ok d') (hall : runAll as d = .ok d'')
    (hending : Ending (interruptAt as k interruption) done rest d' outcome) :
    done = as.take (completedCount k interruption) := by
  have htake : ∀ n, done.length = n → done = as.take n := by
    rintro n rfl
    rw [hsplit, take_left' rfl]
  refine htake _ ?_
  cases hending with
  | finished hrest hquiet =>
    obtain ⟨a, ha⟩ : ∃ a, as[k]? = some a := ⟨_, getElem?_eq_getElem hk⟩
    have hmem : a ∈ done := by
      rw [hrest, append_nil] at hsplit
      exact hsplit ▸ mem_of_getElem? ha
    have hquiet := hquiet a hmem
    rw [interruptAt, ha, map_some, if_pos rfl] at hquiet
    cases hquiet
  | failed a hhead message hfails =>
    obtain ⟨hindex, rfl⟩ := index_of_interruptAt hnodup (getElem?_of_head hsplit hhead) hfails
    exact hindex
  | error a hhead message herror =>
    obtain ⟨rest', hrest⟩ : ∃ rest', rest = a :: rest' := by
      cases rest with
      | nil => cases hhead
      | cons b rest' => exact ⟨rest', by rw [some.inj hhead]⟩
    rw [hsplit, runAll_append hran, hrest, runAll, herror] at hall
    cases hall
  | stopped a hlast hstops =>
    obtain ⟨init, hdone⟩ : ∃ init, done = init ++ [a] := getLast?_eq_some_iff.1 hlast
    have hat : as[init.length]? = some a := by
      rw [hsplit, hdone, append_assoc, getElem?_append_right le_rfl, Nat.sub_self]
      rfl
    obtain ⟨hindex, rfl⟩ := index_of_interruptAt hnodup hat hstops
    rw [hdone, length_append, hindex]
    rfl

lemma interruptedCall_spec (localeLe : String → String → Bool) (hblockers : manifest.coverageBlockers = [])
    (hidentity : manifestIdentityMatches host localeLe manifest = true)
    (hfingerprint : manifest.liveStateFingerprint = computeLiveStateFingerprint host (t.snapshot stampText shipped)) (hk : k < manifest.actions.length) (interruption : Interruption) :
    ∃ done rest d progress outcome, manifest.actions = done ++ rest ∧
      runAll done (firstDesk stampText shipped t) = .ok d ∧
      interruptedDesk host stampText shipped manifest t k interruption = d ∧
      Ending (interruptAt manifest.actions k interruption) done rest d outcome ∧
      Interrupted host manifest done d.live progress ∧
      (interruptedCall host localeLe stampText shipped manifest t k interruption).2 =
        ⟨d.tracker, some progress, done.map (·.id)⟩ := by
  have hactions : manifest.actions ≠ [] := ne_nil_of_length_pos (Nat.zero_lt_of_lt hk)
  obtain ⟨done, rest, d, progress, outcome, mutations, heq, hsplit, hran, hending, hadvanced⟩ :=
    runPending_spec host (interruptAt manifest.actions k interruption) manifest.actions (firstDesk stampText shipped t)
      (firstProgress host manifest (t.snapshot stampText shipped)) 0 []
  have hfirst := apply_first hblockers hidentity hfingerprint (interruptAt manifest.actions k interruption) hactions
  have hdesk : interruptedDesk host stampText shipped manifest t k interruption = d := by
    rw [interruptedDesk, heq]
  have hrecord : Interrupted host manifest done d.live { progress with status := .failed } :=
    ⟨hadvanced.identity, hadvanced.actions, .inr rfl, by rw [hadvanced.completed]; rfl, hadvanced.fingerprint rfl⟩
  rw [heq, nil_append] at hfirst
  cases hending with
  | finished hrest hquiet =>
    obtain ⟨a, ha⟩ : ∃ a, manifest.actions[k]? = some a := ⟨_, getElem?_eq_getElem hk⟩
    have hmem : a ∈ done := by
      rw [hrest, append_nil] at hsplit
      exact hsplit ▸ mem_of_getElem? ha
    have hquiet := hquiet a hmem
    rw [interruptAt, ha, map_some, if_pos rfl] at hquiet
    cases hquiet
  | failed a hhead message hfails =>
    refine ⟨done, rest, d, _, _, hsplit, hran, hdesk, .failed a hhead message hfails, hrecord, ?_⟩
    rw [interruptedCall, hfirst]
    rfl
  | error a hhead message herror =>
    refine ⟨done, rest, d, _, _, hsplit, hran, hdesk, .error a hhead message herror, hrecord, ?_⟩
    rw [interruptedCall, hfirst]
    rfl
  | stopped a hlast hstops =>
    refine ⟨done, rest, d, progress, _, hsplit, hran, hdesk, .stopped a hlast hstops, ?_, ?_⟩
    · have hstatus : progress.status = .inProgress := hadvanced.status
      exact ⟨hadvanced.identity, hadvanced.actions, .inl hstatus, by rw [hadvanced.completed]; rfl,
        hadvanced.fingerprint rfl⟩
    · rw [interruptedCall, hfirst]
      rfl

end AgentPipeline.Roadmap
