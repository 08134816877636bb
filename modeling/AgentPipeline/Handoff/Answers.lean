import AgentPipeline.Foundation.Transition
import AgentPipeline.Handoff.Lifecycle

/-!
# Answers: calls that answer one handoff at the same time

`answerAndPersistHandoff` loads the record, takes the lock of the issue for an answer of the grill,
and applies, materializes and saves on the copy it loaded before. Every file operation is a step of
its own, a save can fail, and the calls interleave freely. The lines of the audit are left out.

* `Phase`: how far a call is;
* `step`: one step of one call;
* `Current`: the stored record is still the copy that the call works on, and a text that was not saved is
  materialized again only unchanged;
* `one_answer`: while that holds at each materialization and each save, one answer is recorded.
-/

namespace AgentPipeline.Handoff

inductive CallOutcome where
  | ok (duplicate : Bool)
  | failed (code : AnswerCode)
  /-- The call threw. -/
  | threw (message : String)
deriving DecidableEq, Repr

inductive Phase (ρ : Type) where
  | idle
  | loaded (input : AnswerHandoffInput ρ) (copy : HumanQuestionHandoff)
  /-- In `persistGrillAnswerAfterLoad`. -/
  | inside (input : AnswerHandoffInput ρ) (copy : HumanQuestionHandoff)
  | applied (input : AnswerHandoffInput ρ) (copy next : HumanQuestionHandoff)
  | materialized (input : AnswerHandoffInput ρ) (copy next : HumanQuestionHandoff)
  | done (outcome : CallOutcome)

/-- The stored handoff, who holds the lock of its issue, and the calls. The last three fields only
record what happened. -/
structure AnswerState (ρ ι : Type) where
  stored : HumanQuestionHandoff
  holder : Option ι
  phase : ι → Phase ρ
  recorded : List ι
  materializedTexts : List String
  /-- The texts that were materialized and then not saved. -/
  leftBehind : List String

inductive AnswerLabel (ρ ι : Type) where
  | load (c : ι) (input : AnswerHandoffInput ρ)
  | enter (c : ι)
  /-- The lock is held by another call, and the call gives up. -/
  | giveUp (c : ι)
  | apply (c : ι) (nowIso : String)
  | materialize (c : ι) (result : Except AnswerCode Unit)
  /-- Writing the record throws `failure`. -/
  | save (c : ι) (failure : Option String)

section Calls

variable {ρ ι : Type} [DecidableEq ι] (host : NodeHost)
  (resolveAuthorizedApprover : ApproverResolutionInput ρ → Except String ApproverResolutionResult)

namespace AnswerState

def setPhase (s : AnswerState ρ ι) (c : ι) (phase : Phase ρ) : AnswerState ρ ι :=
  { s with phase := Function.update s.phase c phase }

/-- The call returns, and the lock is free if it was its own. -/
def finish (s : AnswerState ρ ι) (c : ι) (outcome : CallOutcome) : AnswerState ρ ι :=
  { s.setPhase c (.done outcome) with holder := if s.holder = some c then none else s.holder }

/-- The record that `saveHandoff(next)` writes; one that the parser refuses is not written. -/
def written (next : HumanQuestionHandoff) (failure : Option String) : Except String HumanQuestionHandoff :=
  match parseHumanQuestionHandoff host next.toJson, failure with
  | .error reason, _ => .error ("refuse to persist invalid handoff: " ++ reason)
  | .ok _, some message => .error message
  | .ok h, none => .ok h

/-- The record is stored, and the call returns success. -/
def record (s : AnswerState ρ ι) (c : ι) (h : HumanQuestionHandoff) : AnswerState ρ ι :=
  { s.finish c (.ok false) with stored := h, recorded := c :: s.recorded }

/-- One step of a call; `none` where the call is not there. -/
def step (s : AnswerState ρ ι) : AnswerLabel ρ ι → Option (AnswerState ρ ι)
  | .load c input =>
    match s.phase c with
    | .idle => some (s.setPhase c (.loaded input s.stored))
    | _ => none
  | .enter c =>
    match s.phase c with
    | .loaded input copy =>
      if isGrillAnswer input copy then
        if s.holder = none then some { s.setPhase c (.inside input copy) with holder := some c }
        else none
      else some (s.setPhase c (.inside input copy))
    | _ => none
  | .giveUp c =>
    match s.phase c with
    | .loaded input copy =>
      if isGrillAnswer input copy ∧ s.holder ≠ none then
        some (s.setPhase c (.done (.failed .lockHeld)))
      else none
    | _ => none
  | .apply c nowIso =>
    match s.phase c with
    | .inside input copy =>
      match applyHandoffAnswer host resolveAuthorizedApprover copy input nowIso with
      | .duplicate => some (s.finish c (.ok true))
      | .refused _ code => some (s.finish c (.failed code))
      -- what is thrown under the lock is reported as a lock that is held
      | .threw message =>
        some (s.finish c (if isGrillAnswer input copy then .failed .lockHeld else .threw message))
      | .recorded next => some (s.setPhase c (.applied input copy next))
    | _ => none
  | .materialize c result =>
    match s.phase c with
    | .applied input copy next =>
      if isGrillAnswer input copy then
        match result with
        | .error code => some (s.finish c (.failed code))
        | .ok () =>
          some { s.setPhase c (.materialized input copy next) with
            materializedTexts := input.answerText.getD "" :: s.materializedTexts }
      else none
    | _ => none
  | .save c failure =>
    match s.phase c with
    | .applied input copy next =>
      if isGrillAnswer input copy then none
      else
        match written host next failure with
        | .ok h => some (s.record c h)
        | .error message => some (s.finish c (.threw message))
    | .materialized input _ next =>
      match written host next failure with
      | .ok h => some (s.record c h)
      -- the text is materialized already, and the handoff is still pending
      | .error _ =>
        some { s.finish c (.failed .persistFailed) with
          leftBehind := input.answerText.getD "" :: s.leftBehind }
    | _ => none

end AnswerState

/-- Before any call. -/
def AnswerState.initial (stored : HumanQuestionHandoff) : AnswerState ρ ι where
  stored := stored
  holder := none
  phase := fun _ => .idle
  recorded := []
  materializedTexts := []
  leftBehind := []

/-- The stored record is the copy that a call materializes or saves, and a text that was left behind is the
one that it materializes. -/
def AnswerState.Current (s : AnswerState ρ ι) : AnswerLabel ρ ι → Prop
  | .materialize c (.ok ()) => ∀ input copy next, s.phase c = .applied input copy next →
      s.stored = copy ∧ ∀ text ∈ s.leftBehind, text = input.answerText.getD ""
  | .save c none => ∀ input copy next,
      s.phase c = .applied input copy next ∨ s.phase c = .materialized input copy next → s.stored = copy
  | _ => True

/-- At most one call recorded an answer, and at most one text was materialized. -/
structure AnswerState.OneAnswer (s : AnswerState ρ ι) : Prop where
  recorded : s.recorded.length ≤ 1
  text : ∀ t ∈ s.materializedTexts, ∀ t' ∈ s.materializedTexts, t = t'

/-- The stored handoff has its answer. -/
def HumanQuestionHandoff.isSettled (h : HumanQuestionHandoff) : Prop :=
  h.status = .answered ∨ h.status = .rejected

/-! ## The invariant -/

/-- The record that an application of the input to a pending copy records. -/
def Answers (input : AnswerHandoffInput ρ) (copy next : HumanQuestionHandoff) : Prop :=
  copy.status = .pending ∧ ∃ evidence nowIso, next = answeredHandoff host copy input evidence nowIso

/-- What holds of a call: its copy is of the grill, an answer that is inside holds the lock, and what
it is about to save answers its copy. -/
def PhaseOk (holder : Option ι) (c : ι) : Phase ρ → Prop
  | .idle | .done _ => True
  | .loaded _ copy => copy.isGrillBound = true
  | .inside input copy =>
    copy.isGrillBound = true ∧ (isGrillAnswer input copy = true → holder = some c)
  | .applied input copy next =>
    copy.isGrillBound = true ∧ (isGrillAnswer input copy = true → holder = some c) ∧ Answers host input copy next
  | .materialized input copy next => copy.isGrillBound = true ∧ holder = some c ∧ Answers host input copy next

omit [DecidableEq ι] in
lemma PhaseOk.acquire {c c' : ι} {phase : Phase ρ} (h : PhaseOk host none c' phase) :
    PhaseOk host (some c) c' phase := by
  cases phase with
  | idle | done _ => trivial
  | loaded input copy => exact h
  | inside input copy => exact ⟨h.1, fun hgrill => absurd (h.2 hgrill) (by simp)⟩
  | applied input copy next => exact ⟨h.1, fun hgrill => absurd (h.2.1 hgrill) (by simp), h.2.2⟩
  | materialized input copy next => cases h.2.1

lemma PhaseOk.release {c c' : ι} {holder : Option ι} {phase : Phase ρ} (hne : c' ≠ c)
    (h : PhaseOk host holder c' phase) :
    PhaseOk host (if holder = some c then none else holder) c' phase := by
  by_cases hholder : holder = some c
  · subst hholder
    have hother : some c ≠ some c' := fun heq => hne (Option.some.inj heq).symm
    cases phase with
    | idle | done _ => trivial
    | loaded input copy => exact h
    | inside input copy => exact ⟨h.1, fun hgrill => absurd (h.2 hgrill) hother⟩
    | applied input copy next => exact ⟨h.1, fun hgrill => absurd (h.2.1 hgrill) hother, h.2.2⟩
    | materialized input copy next => exact absurd h.2.1 hother
  · simpa [hholder] using h

namespace AnswerState

/-- A call that materialized its answer and has not saved it yet. -/
def IsMaterialized (s : AnswerState ρ ι) (c : ι) (text : String) : Prop :=
  ∃ input copy next, s.phase c = .materialized input copy next ∧ input.answerText.getD "" = text

/-- While the handoff is pending no answer is recorded, and what was materialized was left behind or belongs
to a call that still holds the lock. -/
structure Inv (s : AnswerState ρ ι) : Prop where
  stored : s.stored.isGrillBound = true
  phases : ∀ c, PhaseOk host s.holder c (s.phase c)
  recorded : s.recorded.length ≤ 1
  pending : s.stored.status = .pending →
    s.recorded = [] ∧ ∀ t ∈ s.materializedTexts, t ∈ s.leftBehind ∨ ∃ c, s.IsMaterialized c t
  text : ∀ t ∈ s.materializedTexts, ∀ t' ∈ s.materializedTexts, t = t'

variable {host} {s : AnswerState ρ ι}

lemma phases_setPhase {c : ι} {phase : Phase ρ} (h : ∀ c, PhaseOk host s.holder c (s.phase c))
    (hphase : PhaseOk host s.holder c phase) (c' : ι) : PhaseOk host s.holder c' ((s.setPhase c phase).phase c') := by
  by_cases hc : c' = c
  · subst hc
    simpa [setPhase] using hphase
  · simpa [setPhase, hc] using h c'

section

variable (h : s.Inv host)
include h

lemma Inv.setPhase {c : ι} {p : Phase ρ} {left : List String} (hleft : s.leftBehind ⊆ left)
    (hphase : PhaseOk host s.holder c p) (hheld : ∀ t, s.IsMaterialized c t → t ∈ left) :
    ({ s.setPhase c p with leftBehind := left } : AnswerState ρ ι).Inv host where
  stored := h.stored
  phases := phases_setPhase h.phases hphase
  recorded := h.recorded
  pending hpending := by
    refine ⟨(h.pending hpending).1, fun t ht => ?_⟩
    rcases (h.pending hpending).2 t ht with hmem | ⟨c', hc'⟩
    · exact .inl (hleft hmem)
    · by_cases hne : c' = c
      · exact .inl (hheld t (hne ▸ hc'))
      · obtain ⟨input, copy, next, hphase', htext⟩ := hc'
        exact .inr ⟨c', input, copy, next, by simpa [AnswerState.setPhase, hne] using hphase', htext⟩
  text := h.text

lemma Inv.finish {c : ι} {left : List String} (outcome : CallOutcome)
    (hleft : s.leftBehind ⊆ left) (hheld : ∀ t, s.IsMaterialized c t → t ∈ left) :
    ({ s.finish c outcome with leftBehind := left } : AnswerState ρ ι).Inv host := by
  have hset := h.setPhase (p := .done outcome) hleft trivial hheld
  refine ⟨hset.stored, fun c' => ?_, hset.recorded, hset.pending, hset.text⟩
  by_cases hc : c' = c
  · subst hc
    simp [AnswerState.finish, AnswerState.setPhase, PhaseOk]
  · exact (hset.phases c').release host hc

/-- The invariant after a step of a call that had not materialized. -/
lemma Inv.move {c : ι} {p : Phase ρ} (hphase : PhaseOk host s.holder c p)
    (hnot : ∀ t, ¬s.IsMaterialized c t) : (s.setPhase c p).Inv host :=
  h.setPhase (List.Subset.refl _) hphase fun t ht => absurd ht (hnot t)

lemma Inv.stop {c : ι} (outcome : CallOutcome) (hnot : ∀ t, ¬s.IsMaterialized c t) : (s.finish c outcome).Inv host :=
  h.finish outcome (List.Subset.refl _) fun t ht => absurd ht (hnot t)

lemma Inv.saved {c : ι} {input : AnswerHandoffInput ρ}
    {copy next saved : HumanQuestionHandoff} (hanswers : Answers host input copy next)
    (hgrill : copy.isGrillBound = true) (hcurrent : s.stored = copy)
    (hparse : parseHumanQuestionHandoff host next.toJson = .ok saved) : (s.record c saved).Inv host := by
  obtain ⟨hpending, evidence, nowIso, rfl⟩ := hanswers
  obtain ⟨rfl, -⟩ := parse_toJson hparse
  have hstatus : (answeredHandoff host copy input evidence nowIso).normal.status ≠ .pending := by
    simp only [HumanQuestionHandoff.normal, answeredHandoff]
    cases input.decision <;> simp
  have hrecorded := (h.pending (hcurrent ▸ hpending)).1
  refine ⟨hgrill, fun c' => ?_, by simp [record, hrecorded], fun hcontra => absurd hcontra hstatus, h.text⟩
  by_cases hc : c' = c
  · subst hc
    simp [record, AnswerState.finish, AnswerState.setPhase, PhaseOk]
  · simpa [record, AnswerState.finish, AnswerState.setPhase, hc] using (h.phases c').release host hc

end

variable {resolveAuthorizedApprover}

lemma written_eq_ok_iff {next saved : HumanQuestionHandoff} {failure : Option String} :
    written host next failure = .ok saved ↔ parseHumanQuestionHandoff host next.toJson = .ok saved ∧ failure = none := by
  unfold written
  cases parseHumanQuestionHandoff host next.toJson <;> cases failure <;> simp

omit [DecidableEq ι] in
lemma not_isMaterialized {c : ι} {phase : Phase ρ} (h : s.phase c = phase)
    (hphase : ∀ input copy next, phase ≠ .materialized input copy next) (t : String) : ¬s.IsMaterialized c t := by
  rintro ⟨input, copy, next, hc, -⟩
  exact hphase input copy next (h.symm.trans hc)

lemma Inv.materialize (h : s.Inv host) {c : ι} {input : AnswerHandoffInput ρ}
    {copy next : HumanQuestionHandoff} (hphase : s.phase c = .applied input copy next)
    (hgrill : isGrillAnswer input copy = true) (hcurrent : s.stored = copy)
    (hleft : ∀ text ∈ s.leftBehind, text = input.answerText.getD "") :
    ({ s.setPhase c (.materialized input copy next) with
      materializedTexts := input.answerText.getD "" :: s.materializedTexts } :
        AnswerState ρ ι).Inv host := by
  have hok := h.phases c
  rw [hphase] at hok
  obtain ⟨hbound, hlock, hanswers⟩ := hok
  have hpending := h.pending (hcurrent ▸ hanswers.1)
  -- the lock is held here, so every text so far was left behind
  have hsame : ∀ t ∈ s.materializedTexts, t = input.answerText.getD "" := by
    intro t ht
    rcases hpending.2 t ht with hmem | ⟨c', input', copy', next', hc', -⟩
    · exact hleft t hmem
    · have hholder := h.phases c'
      rw [hc'] at hholder
      obtain rfl : c = c' := Option.some.inj ((hlock hgrill).symm.trans hholder.2.1)
      rw [hphase] at hc'
      cases hc'
  have hall : ∀ t ∈ input.answerText.getD "" :: s.materializedTexts, t = input.answerText.getD "" :=
    List.forall_mem_cons.2 ⟨rfl, hsame⟩
  refine ⟨h.stored, ?_, h.recorded, fun _ => ⟨hpending.1, fun t ht => .inr ⟨c, ?_⟩⟩, fun t ht t' ht' => ?_⟩
  · exact phases_setPhase h.phases ⟨hbound, hlock hgrill, hanswers⟩
  · exact ⟨input, copy, next, by simp [AnswerState.setPhase], (hall t ht).symm⟩
  · rw [hall t ht, hall t' ht']

lemma inv_step {t : AnswerState ρ ι} {a : AnswerLabel ρ ι} (hcurrent : s.Current a)
    (h : s.Inv host) (hstep : s.step host resolveAuthorizedApprover a = some t) : t.Inv host := by
  cases a with
  | load c input =>
    simp only [step] at hstep
    split at hstep
    · next hphase =>
      cases hstep
      exact h.move h.stored (not_isMaterialized hphase (by simp))
    · cases hstep
  | enter c =>
    simp only [step] at hstep
    split at hstep
    · next input copy hphase =>
      have hok : copy.isGrillBound = true := by simpa [hphase, PhaseOk] using h.phases c
      have hnot := not_isMaterialized (s := s) hphase (by simp)
      split at hstep
      · next hgrill =>
        split at hstep
        · next hfree =>
          cases hstep
          -- the lock was free, so no other call holds it
          have hlocked : ({ s with holder := some c } : AnswerState ρ ι).Inv host := by
            refine ⟨h.stored, fun c' => ?_, h.recorded, h.pending, h.text⟩
            have hother := h.phases c'
            rw [hfree] at hother
            exact hother.acquire host
          exact hlocked.move (c := c) (p := .inside input copy)
            ⟨hok, fun _ => rfl⟩ hnot
        · cases hstep
      · next hgrill =>
        cases hstep
        exact h.move ⟨hok, fun hcontra => absurd hcontra (by simpa using hgrill)⟩ hnot
    · cases hstep
  | giveUp c =>
    simp only [step] at hstep
    split at hstep
    · next input copy hphase =>
      split at hstep
      · cases hstep
        exact h.move trivial (not_isMaterialized hphase (by simp))
      · cases hstep
    · cases hstep
  | apply c nowIso =>
    simp only [step] at hstep
    split at hstep
    · next input copy hphase =>
      have hok : copy.isGrillBound = true ∧ (isGrillAnswer input copy = true → s.holder = some c) := by
        simpa [hphase, PhaseOk] using h.phases c
      have hnot := not_isMaterialized (s := s) hphase (by simp)
      split at hstep
      · cases hstep
        exact h.stop _ hnot
      · cases hstep
        exact h.stop _ hnot
      · cases hstep
        exact h.stop _ hnot
      · next next happly =>
        cases hstep
        obtain ⟨hpending, evidence, hnext⟩ := recorded_pending host _ happly
        exact h.move ⟨hok.1, hok.2, hpending, evidence, nowIso, hnext⟩ hnot
    · cases hstep
  | materialize c result =>
    simp only [step] at hstep
    split at hstep
    · next input copy next hphase =>
      split at hstep
      · next hgrill =>
        split at hstep
        · cases hstep
          exact h.stop _ (not_isMaterialized hphase (by simp))
        · cases hstep
          -- a text that another call left behind may only be this one
          obtain ⟨hstored, hleft⟩ := hcurrent input copy next hphase
          exact h.materialize hphase hgrill hstored hleft
      · cases hstep
    · cases hstep
  | save c failure =>
    simp only [step] at hstep
    split at hstep
    · next input copy next hphase =>
      have hok := h.phases c
      rw [hphase] at hok
      split at hstep
      · cases hstep
      · split at hstep
        · next saved hwritten =>
          cases hstep
          obtain ⟨hparse, rfl⟩ := written_eq_ok_iff.1 hwritten
          exact h.saved hok.2.2 hok.1 (hcurrent input copy next (.inl hphase)) hparse
        · cases hstep
          exact h.stop _ (not_isMaterialized hphase (by simp))
    · next input copy next hphase =>
      have hok := h.phases c
      rw [hphase] at hok
      split at hstep
      · next saved hwritten =>
        cases hstep
        obtain ⟨hparse, rfl⟩ := written_eq_ok_iff.1 hwritten
        exact h.saved hok.2.2 hok.1 (hcurrent input copy next (.inr hphase)) hparse
      · -- the text stays behind: the handoff is pending, and the lock is given back
        cases hstep
        refine h.finish _ (List.subset_cons_self _ _) ?_
        rintro t ⟨input', copy', next', hphase', htext⟩
        cases hphase.symm.trans hphase'
        exact htext ▸ List.mem_cons_self
    · cases hstep

lemma stored_step {t : AnswerState ρ ι} {a : AnswerLabel ρ ι} (hcurrent : s.Current a)
    (h : s.Inv host) (hstep : s.step host resolveAuthorizedApprover a = some t) :
    s.stored.isSettled → t.stored = s.stored := by
  intro hsettled
  have hpending : s.stored.status ≠ .pending := by rcases hsettled with hstatus | hstatus <;> simp [hstatus]
  -- only a save writes the record, and what it saves answers a pending copy
  cases a with
  | load c input | enter c | giveUp c | apply c nowIso | materialize c result =>
    simp only [step] at hstep
    repeat' split at hstep
    all_goals first
      | cases hstep
        rfl
      | cases hstep
  | save c failure =>
    simp only [step] at hstep
    split at hstep
    · next input copy next hphase =>
      have hok := h.phases c
      rw [hphase] at hok
      split at hstep
      · cases hstep
      · split at hstep
        · next hwritten =>
          obtain ⟨-, rfl⟩ := written_eq_ok_iff.1 hwritten
          exact absurd (hcurrent input copy next (.inl hphase) ▸ hok.2.2.1) hpending
        · cases hstep
          rfl
    · next input copy next hphase =>
      have hok := h.phases c
      rw [hphase] at hok
      split at hstep
      · next hwritten =>
        obtain ⟨-, rfl⟩ := written_eq_ok_iff.1 hwritten
        exact absurd (hcurrent input copy next (.inr hphase) ▸ hok.2.2.1) hpending
      · cases hstep
        rfl
    · cases hstep

omit [DecidableEq ι] in
lemma inv_initial {stored : HumanQuestionHandoff} (h : stored.isGrillBound = true) :
    (AnswerState.initial stored : AnswerState ρ ι).Inv host where
  stored := h
  phases _ := trivial
  recorded := by simp [AnswerState.initial]
  pending _ := ⟨rfl, fun t ht => by cases ht⟩
  text t ht := by cases ht

end AnswerState

open AnswerState in
/-- In every run in which each materialization and each save work on the stored record, and a text that was left
behind is materialized again only unchanged, at most one call records an answer, at most one text is
materialized, and a recorded answer stays. -/
theorem one_answer {stored : HumanQuestionHandoff} (hstored : stored.isGrillBound = true)
    {s t : AnswerState ρ ι} {before after : List (AnswerLabel ρ ι)}
    (hs : Transition.Run (step host resolveAuthorizedApprover) Current (initial stored) before s)
    (ht : Transition.Run (step host resolveAuthorizedApprover) Current s after t) :
    t.OneAnswer ∧ (s.stored.isSettled → t.stored.answer = s.stored.answer) := by
  have hinv : s.Inv host :=
    hs.invariant (fun _ _ _ hcurrent h hstep => inv_step hcurrent h hstep) (inv_initial hstored)
  have hinv' : t.Inv host :=
    ht.invariant (fun _ _ _ hcurrent h hstep => inv_step hcurrent h hstep) hinv
  have htrans : ∀ s t u : AnswerState ρ ι, (s.stored.isSettled → t.stored = s.stored) →
      (t.stored.isSettled → u.stored = t.stored) → s.stored.isSettled → u.stored = s.stored := by
    intro s t u hst htu hsettled
    have hsame := hst hsettled
    rw [htu (by rw [hsame]; exact hsettled), hsame]
  have hkeeps : s.stored.isSettled → t.stored = s.stored :=
    ht.relation (fun _ _ => rfl) htrans
      (fun _ _ _ hcurrent h hstep => inv_step hcurrent h hstep)
      (fun _ _ _ hcurrent h hstep => stored_step hcurrent h hstep) hinv
  exact ⟨⟨hinv'.recorded, hinv'.text⟩, fun hsettled => by rw [hkeeps hsettled]⟩

end Calls

/-! ## Two calls -/

def grillQuestion : HumanQuestionHandoff where
  handoffId := "hqh_1"
  domain := "d"
  repo := "o/r"
  issueNumber := .finite 7
  runId := none
  attemptId := none
  blockedStage := "grill"
  question := "Which one?"
  reason := ""
  handoffClass := .missingContext
  authorityMode := .nonAuthority
  humanDecisionRequired := none
  policyBoundAuthorityGate := false
  scope := {}
  requiredCapability := ["context"]
  resolutionEvidence := { unresolved := false, eligibleActors := [], resolutionSummary := "" }
  status := .pending
  createdAt := "2026-01-01T00:00:00Z"
  expiresAt := none
  supersedes := none
  supersededBy := none
  answer := none
  resumeTarget := "grill"
  resumePreconditions := []
  declarationIdentity := some "grill-v1:1"
  typedRequest := none

def operatorAnswer (text : String) : AnswerHandoffInput Unit where
  decision := .answer
  actor := "op"
  identitySource := "gh"
  authenticated := true
  answerText := some text

def noApprovers : ApproverResolutionInput Unit → Except String ApproverResolutionResult := fun _ =>
  .error "no rules"

/-- The save of the first call fails, and the second call heals it with the same text. -/
def healedAnswer : List (AnswerLabel Unit Bool) :=
  [.load true (operatorAnswer "the first"), .enter true, .apply true "2026-01-01T00:00:01Z",
    .materialize true (.ok ()), .save true (some "EIO"), .load false (operatorAnswer "the first"), .enter false,
    .apply false "2026-01-01T00:00:02Z", .materialize false (.ok ()), .save false none]

theorem healed_answer_recorded_once : ∃ t : AnswerState Unit Bool, t.OneAnswer ∧ t.recorded = [false] ∧
    t.materializedTexts = ["the first", "the first"] ∧ t.stored.answer.isSome = true := by
  obtain ⟨t, hrun, hfacts⟩ : ∃ t, Transition.Run
      (AnswerState.step (NodeHost.onFirstDay [] []) noApprovers) AnswerState.Current (.initial grillQuestion)
        healedAnswer t ∧ t.recorded = [false] ∧ t.materializedTexts = ["the first", "the first"] ∧
          t.stored.answer.isSome = true := by
    refine ⟨_, .cons trivial rfl (.cons trivial rfl (.cons trivial rfl (.cons ?_ rfl (.cons trivial rfl
      (.cons trivial rfl (.cons trivial rfl (.cons trivial rfl (.cons ?_ rfl (.cons ?_ rfl (.nil _)))))))))), ?_⟩
    · rintro input copy next ⟨⟩
      exact ⟨rfl, by decide +kernel⟩
    · rintro input copy next ⟨⟩
      exact ⟨rfl, by decide +kernel⟩
    · rintro input copy next (⟨⟨⟩⟩ | ⟨⟨⟩⟩)
      rfl
    · decide +kernel
  exact ⟨t, (one_answer _ _ (by decide) hrun (.nil t)).1, hfacts⟩

/-- Both calls load the pending question before the first one takes the lock. -/
def racingAnswers : List (AnswerLabel Unit Bool) :=
  [.load true (operatorAnswer "the first"), .load false (operatorAnswer "the second"),
    .enter true, .apply true "2026-01-01T00:00:01Z", .materialize true (.ok ()), .save true none,
    .enter false, .apply false "2026-01-01T00:00:02Z", .materialize false (.ok ()), .save false none]

/-- Two calls return success, and the second answer replaces the first. -/
theorem racing_answers_both_recorded :
    ¬∀ stored : HumanQuestionHandoff, stored.isGrillBound = true → ∀ (labels : List (AnswerLabel Unit Bool)) t,
        Transition.Run (AnswerState.step (NodeHost.onFirstDay [] []) noApprovers)
          (fun _ _ => True) (.initial stored) labels t → t.OneAnswer := by
  intro h
  obtain ⟨t, hrun, hlength⟩ : ∃ t, Transition.Run
      (AnswerState.step (NodeHost.onFirstDay [] []) noApprovers) (fun _ _ => True)
        (.initial grillQuestion) racingAnswers t ∧ t.recorded.length = 2 :=
    Transition.Run.exists_of_exec (fun t : AnswerState Unit Bool => t.recorded.length = 2)
      (by decide +kernel)
  have hone := (h grillQuestion (by decide) _ t hrun).recorded
  omega

end AgentPipeline.Handoff
