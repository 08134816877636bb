import AgentPipeline.MergeQueue.Apply

/-!
# Safety: no merge on stale evidence

* `Vouched`: the candidate was found eligible, and nothing has moved it since;
* `Safe`: every merge of a history was vouched for;
* `Kept`: what the calls about one candidate keep: safety, the count of mechanical repairs and, while it
  lasts, the vouching evaluation;
* `queue_safe`: what holds of every candidate and of every drive.
-/

namespace AgentPipeline.MergeQueue

open List
open Effect (Meets)

/-- A repair or a merge of the candidate. -/
def QueueEvent.moves (c : MergeQueueCandidate) : QueueEvent → Bool
  | .deterministic c' _ | .mechanical c' _ | .merged c' _ => c' = c
  | _ => false

def QueueEvent.isMechanical (c : MergeQueueCandidate) : QueueEvent → Bool
  | .mechanical c' _ => c' = c
  | _ => false

/-- A call that is about no candidate. -/
def QueueEvent.isQuiet : QueueEvent → Bool
  | .listed | .clock | .logged _ | .released => true
  | _ => false

/-- How often a mechanical repair of the candidate was attempted. -/
def mechanicalCalls (c : MergeQueueCandidate) (h : History) : Nat := h.countP (·.isMechanical c)

section Drive

variable (host : NodeHost)

/-- An evaluation found the candidate eligible, and no repair or merge of it came after. -/
def Vouched (c : MergeQueueCandidate) (h : History) : Prop :=
  ∃ before snapshot after, h = before ++ .evaluated c (.ok (some snapshot)) :: after ∧
    classifyQueueEligibility host snapshot = .eligible ∧ ∀ e ∈ after, e.moves c = false

/-- Every merge was vouched for when it was called. -/
def Safe (h : History) : Prop :=
  ∀ before c answer after, h = before ++ .merged c answer :: after → Vouched host c before

variable {host} {e : QueueEvent}

lemma Vouched.append {c : MergeQueueCandidate} {h : History} (hv : Vouched host c h)
    (he : e.moves c = false) : Vouched host c (h ++ [e]) := by
  obtain ⟨before, snapshot, after, rfl, heligible, hafter⟩ := hv
  refine ⟨before, snapshot, after ++ [e], by simp, heligible, fun e' he' => ?_⟩
  rcases mem_append.1 he' with he' | he'
  · exact hafter e' he'
  · rw [mem_singleton.1 he']
    exact he

lemma Safe.append {h : History} (hs : Safe host h)
    (he : ∀ c answer, e = .merged c answer → Vouched host c h) : Safe host (h ++ [e]) := by
  intro before c answer after heq
  rcases append_eq_append_iff.1 heq with ⟨rest, hbefore, hrest⟩ | ⟨rest, hh, hrest⟩
  · -- the merge is the last call, or comes after it
    cases rest with
    | nil =>
      have hlast : e = .merged c answer := (by simpa using hrest : e = .merged c answer ∧ after = []).1
      rw [hbefore, append_nil]
      exact he c answer hlast
    | cons first rest => simp at hrest
  · cases rest with
    | nil =>
      have hlast : e = .merged c answer := by
        have hhead : QueueEvent.merged c answer :: after = [e] := by simpa using hrest
        simp at hhead
        exact hhead.1.symm
      rw [append_nil] at hh
      rw [← hh]
      exact he c answer hlast
    | cons first rest =>
      have hfirst : first = .merged c answer := by
        have hhead := congrArg List.head? hrest
        simpa using hhead.symm
      exact hs before c answer rest (by rw [hh, hfirst])

lemma safe_nil : Safe host [] := by
  intro before c answer after heq
  simp at heq

/-! ## What the calls about one candidate keep -/

/-- The history goes on from a past, is safe, has at most so many mechanical repairs of the candidate, and
vouches for it if it is said to. -/
structure Kept (host : NodeHost) (past : History) (c : MergeQueueCandidate) (k : Nat) (vouched : Bool)
    (h : History) : Prop where
  past : past <+: h
  safe : Safe host h
  count : mechanicalCalls c h ≤ k
  vouch : vouched = true → Vouched host c h

namespace Kept

variable {past : History} {c : MergeQueueCandidate} {k k' : Nat} {v : Bool} {h : History}

section

variable (hk : Kept host past c k v h)
include hk

lemma weaken (hle : k ≤ k') : Kept host past c k' false h :=
  ⟨hk.past, hk.safe, hk.count.trans hle, fun hv => by cases hv⟩

lemma past_append (e : QueueEvent) : past <+: h ++ [e] := hk.past.trans (prefix_append h [e])

lemma count_append (he : e.isMechanical c = false) : mechanicalCalls c (h ++ [e]) ≤ k := by
  have hcount : mechanicalCalls c (h ++ [e]) = mechanicalCalls c h := by simp [mechanicalCalls, he]
  rw [hcount]
  exact hk.count

lemma quiet (he : e.isQuiet = true) : Kept host past c k v (h ++ [e]) := by
  have hmoves : e.moves c = false ∧ e.isMechanical c = false := by
    cases e <;> first | exact ⟨rfl, rfl⟩ | cases he
  refine ⟨hk.past_append _, hk.safe.append ?_, hk.count_append hmoves.2, fun hv => ?_⟩
  · rintro c' answer rfl
    cases he
  · exact (hk.vouch hv).append hmoves.1

end

/-- Whether the answer of an evaluation vouches for its candidate. -/
def vouches (host : NodeHost) : Except String (Option EligibilitySnapshot) → Bool
  | .ok (some snapshot) => classifyQueueEligibility host snapshot = .eligible
  | _ => false

section

variable (hk : Kept host past c k v h)
include hk

lemma evaluated (answer : Except String (Option EligibilitySnapshot)) :
    Kept host past c k (vouches host answer) (h ++ [.evaluated c answer]) := by
  refine ⟨hk.past_append _, hk.safe.append (fun c' a he => by cases he), hk.count_append rfl, fun hv => ?_⟩
  cases answer with
  | error message => cases hv
  | ok snapshot =>
    cases snapshot with
    | none => cases hv
    | some snapshot => exact ⟨h, snapshot, [], rfl, by simpa [vouches] using hv, by simp⟩

lemma deterministic (answer : Except String DeterministicRepairResult) :
    Kept host past c k false (h ++ [.deterministic c answer]) :=
  ⟨hk.past_append _, hk.safe.append (fun c' a he => by cases he), hk.count_append rfl, fun hv => by cases hv⟩

lemma mechanical (answer : Except String MechanicalRepairResult) :
    Kept host past c (k + 1) false (h ++ [.mechanical c answer]) := by
  refine ⟨hk.past_append _, hk.safe.append (fun c' a he => by cases he), ?_, fun hv => by cases hv⟩
  have hcount : mechanicalCalls c (h ++ [.mechanical c answer]) = mechanicalCalls c h + 1 := by
    simp [mechanicalCalls, QueueEvent.isMechanical]
  rw [hcount]
  exact Nat.succ_le_succ hk.count

end

lemma merged (hk : Kept host past c k true h) (answer : Except String Unit) :
    Kept host past c k false (h ++ [.merged c answer]) := by
  refine ⟨hk.past_append _, hk.safe.append ?_, hk.count_append rfl, fun hv => by cases hv⟩
  intro c' a he
  cases he
  exact hk.vouch rfl

end Kept

/-! ## The calls -/

/-- Eligibility is evaluated, and an evaluation gives a snapshot or throws. -/
def Evaluates (deps : MergeQueueDeps) : Prop :=
  ∃ evaluateEligibility, deps.evaluateEligibility = some evaluateEligibility ∧
    ∀ h c, evaluateEligibility h c ≠ .ok none

/-- The log and the clock do not throw. -/
structure Calm (deps : MergeQueueDeps) : Prop where
  log : ∀ h line, deps.log h line = .ok ()
  now : ∀ h, (deps.now h).isOk = true

/-- Where an exception leaves the history of a candidate: only the log and the clock throw through. -/
def Stopped (host : NodeHost) (deps : MergeQueueDeps) (past : History) (c : MergeQueueCandidate)
    (limit : Nat) (_ : String) (h : History) : Prop :=
  ¬ Calm deps ∧ Kept host past c limit false h

variable {α : Type} {P : History → Prop} {event : Except String α → QueueEvent} {answer : History → Except String α}

section Calls

variable {deps : MergeQueueDeps} {past : History} {c : MergeQueueCandidate} {k limit : Nat} {v : Bool}

lemma meets_answering {Q : α → History → Prop} {T : String → History → Prop}
    (hok : ∀ s a, P s → answer s = .ok a → Q a (s ++ [event (.ok a)]))
    (herror : ∀ s e, P s → answer s = .error e → T e (s ++ [event (.error e)])) :
    Meets P (answering answer event) Q T := by
  intro s hs s'
  simp only [answering, Effect.call]
  cases hanswer : answer s with
  | ok a =>
    refine ⟨fun a' ha => ?_, fun e he => (by cases he)⟩
    cases ha
    exact hok s a hs hanswer
  | error e =>
    refine ⟨fun a ha => (by cases ha), fun e' he => ?_⟩
    cases he
    exact herror s e hs hanswer

lemma meets_attempt {Q : Except String α → History → Prop} {T : String → History → Prop}
    (h : ∀ s, P s → Q (answer s) (s ++ [event (answer s)])) : Meets P (attempt (answering answer event)) Q T := by
  refine Meets.attempt (meets_answering (fun s a hs ha => ?_) fun s e hs he => ?_)
  · have hq := h s hs
    rw [ha] at hq
    exact hq
  · have hq := h s hs
    rw [he] at hq
    exact hq

lemma meets_log (hle : k ≤ limit) (line : String) :
    Meets (Kept host past c k v) (log deps line) (fun _ => Kept host past c k v)
      (Stopped host deps past c limit) := by
  refine meets_answering (fun s _ hk _ => hk.quiet rfl) fun s e hk he => ?_
  refine ⟨fun hcalm => ?_, (hk.quiet rfl).weaken hle⟩
  rw [hcalm.log] at he
  cases he

lemma meets_nowFn (hle : k ≤ limit) :
    Meets (Kept host past c k v) (nowFn deps) (fun _ => Kept host past c k v)
      (Stopped host deps past c limit) := by
  refine meets_answering (fun s _ hk _ => hk.quiet rfl) fun s e hk he => ?_
  refine ⟨fun hcalm => ?_, (hk.quiet rfl).weaken hle⟩
  have hnow := hcalm.now s
  rw [he] at hnow
  cases hnow

lemma meets_tryMerge :
    Meets (Kept host past c k true) (tryMerge deps c) (fun _ => Kept host past c k false)
      (Stopped host deps past c limit) := meets_attempt fun _ hk => hk.merged _

lemma meets_reEvaluate (hdeps : Evaluates deps) :
    Meets (Kept host past c k v) (reEvaluate deps c)
      (fun answer h => Kept host past c k (Kept.vouches host answer) h ∧ answer ≠ .ok none)
      (Stopped host deps past c limit) := by
  obtain ⟨evaluateEligibility, hpresent, hsnapshot⟩ := hdeps
  simp only [reEvaluate, hpresent]
  exact meets_attempt fun h hk => ⟨hk.evaluated _, hsnapshot h c⟩

/-! ## The first try -/

/-- A hold is about its candidate. -/
def Outcome.Names (c : MergeQueueCandidate) : Outcome → Prop
  | .held hold => hold.issueNumber = c.issueNumber ∧ hold.prNumber = c.prNumber
  | _ => True

def First.Names (c : MergeQueueCandidate) : First → Prop
  | .done outcome => outcome.Names c
  | .ineligible _ _ _ => True

lemma afterMergeError_names (host : NodeHost) (c : MergeQueueCandidate)
    (snapshot : Option EligibilitySnapshot) (fromErr : MergeQueueHoldReason) (message : String) :
    (afterMergeError host c snapshot fromErr message).Names c := by
  unfold afterMergeError
  split
  · trivial
  · split
    · trivial
    · exact ⟨rfl, rfl⟩
    · trivial
    · trivial

lemma vouches_of_gates {snapshot : EligibilitySnapshot} {reason : Option MergeQueueHoldReason}
    {summary : String} (h : applyQueueGates host (some snapshot) reason summary = .eligible) :
    Kept.vouches host (.ok (some snapshot)) = true := by
  simp only [applyQueueGates] at h
  split at h
  · next hclass => simp [Kept.vouches, hclass]
  all_goals cases h

lemma meets_attemptMergeOnce (hdeps : Evaluates deps) (snapshot : Option EligibilitySnapshot)
    (hsnapshot : snapshot ≠ none) :
    Meets (Kept host past c k (Kept.vouches host (.ok snapshot))) (attemptMergeOnce host deps c snapshot)
      (fun first h => Kept host past c k false h ∧ first.Names c) (Stopped host deps past c limit) := by
  obtain ⟨snap, rfl⟩ := Option.ne_none_iff_exists'.1 hsnapshot
  simp only [attemptMergeOnce]
  split
  · exact .ret fun _ hk => ⟨hk.weaken le_rfl, trivial⟩
  · exact .ret fun _ hk => ⟨hk.weaken le_rfl, rfl, rfl⟩
  · exact .ret fun _ hk => ⟨hk.weaken le_rfl, trivial⟩
  · next hgates =>
    rw [vouches_of_gates hgates]
    refine Meets.bind meets_tryMerge fun merge => ?_
    cases merge with
    | ok _ => exact .ret fun _ hk => ⟨hk, trivial⟩
    | error message =>
      simp only
      split
      · exact .ret fun _ hk => ⟨hk, rfl, rfl⟩
      · refine Meets.bind (meets_reEvaluate hdeps) fun answer => ?_
        cases answer with
        | ok refreshed =>
          exact .ret fun _ hk => ⟨hk.1.weaken le_rfl, afterMergeError_names ..⟩
        | error e => exact .ret fun _ hk => ⟨hk.1.weaken le_rfl, afterMergeError_names ..⟩

lemma meets_firstTry (hdeps : Evaluates deps) :
    Meets (Kept host past c k v) (firstTry host deps c)
      (fun first h => Kept host past c k false h ∧ first.Names c) (Stopped host deps past c limit) := by
  refine Meets.bind (meets_reEvaluate hdeps) fun answer => ?_
  cases answer with
  | error message => exact .ret fun _ hk => ⟨hk.1.weaken le_rfl, rfl, rfl⟩
  | ok snapshot =>
    by_cases hnone : snapshot = none
    · subst hnone
      intro s hs
      exact absurd rfl hs.2
    · exact (meets_attemptMergeOnce hdeps snapshot hnone).mono (fun _ hk => hk.1) (fun _ _ hk => hk)
        fun _ _ hk => hk

/-! ## The repair ladder -/

/-- What a turn of the ladder leaves: the candidate is settled, or the ladder goes on with a reason and
this budget. -/
def Rung (host : NodeHost) (past : History) (c : MergeQueueCandidate) (base : Nat)
    (budget : RepairBudgetState) : Turn → History → Prop
  | .done outcome, h => Kept host past c (base + budget.maxAttempts) false h ∧ outcome.Names c
  | .again st, h =>
    Kept host past c (base + budget.attemptsUsed) false h ∧ st.reason.isSome = true ∧ st.budget = budget

variable {base : Nat} {st : LadderState} {budget : RepairBudgetState}

lemma meets_regateAndMerge (hdeps : Evaluates deps) (hused : budget.attemptsUsed ≤ budget.maxAttempts)
    (hbudget : st.budget = budget) (snapshot : EligibilitySnapshot) (refresh : Bool) :
    Meets (Kept host past c (base + budget.attemptsUsed) (Kept.vouches host (.ok (some snapshot))))
      (regateAndMerge host deps c st snapshot refresh) (Rung host past c base budget)
      (Stopped host deps past c limit) := by
  have hle : base + budget.attemptsUsed ≤ base + budget.maxAttempts := Nat.add_le_add_left hused base
  simp only [regateAndMerge]
  split
  · exact .ret fun _ hk => ⟨hk.weaken hle, trivial⟩
  · exact .ret fun _ hk => ⟨hk.weaken hle, rfl, rfl⟩
  · exact .ret fun _ hk => ⟨hk.weaken le_rfl, rfl, hbudget⟩
  · next hgates =>
    rw [vouches_of_gates hgates]
    refine Meets.bind meets_tryMerge fun merge => ?_
    cases merge with
    | ok _ => exact .ret fun _ hk => ⟨hk.weaken hle, trivial⟩
    | error message =>
      simp only
      split
      · exact .ret fun _ hk => ⟨hk.weaken hle, rfl, rfl⟩
      · split
        · refine Meets.bind (meets_reEvaluate hdeps) fun answer => ?_
          cases answer with
          | ok refreshed => exact .ret fun _ hk => ⟨hk.1.weaken le_rfl, rfl, hbudget⟩
          | error e => exact .ret fun _ hk => ⟨hk.1.weaken le_rfl, rfl, hbudget⟩
        · exact .ret fun _ hk => ⟨hk, rfl, hbudget⟩

lemma meets_deterministicRepair (hle : k ≤ limit) (reason : Option MergeQueueHoldReason)
    (snapshot : EligibilitySnapshot)
    (repair : History → MergeQueueCandidate → Option MergeQueueHoldReason → EligibilitySnapshot →
      Except String DeterministicRepairResult) :
    Meets (Kept host past c k v) (deterministicRepair deps c reason snapshot repair)
      (fun _ => Kept host past c k false) (Stopped host deps past c limit) := by
  have htried : Meets (Kept host past c k v)
      (do
        let det ← answering (repair · c reason snapshot) (.deterministic c)
        log deps ("[merge-queue] deterministic: " ++ det.evidence)
        pure det.evidence : Queue String)
      (fun _ => Kept host past c k false) (fun _ => Kept host past c k false) := by
    refine Meets.bind (q := fun _ => Kept host past c k false)
      (meets_answering (fun s _ hk _ => hk.deterministic _) fun s _ hk _ => hk.deterministic _)
      fun det => ?_
    refine Meets.bind (q := fun _ => Kept host past c k false) ?_ fun _ => .ret fun _ hk => hk
    exact (meets_log le_rfl _).mono (fun _ hk => hk) (fun _ _ hk => hk) fun _ _ hk => hk.2
  refine Meets.bind (q := fun _ => Kept host past c k false) (Meets.attempt ?_) fun tried => ?_
  · exact htried
  · cases tried with
    | ok evidence => exact .ret fun _ hk => hk
    | error message => exact Meets.bind (meets_log hle _) fun _ => .ret fun _ hk => hk

lemma meets_deterministicPhase (hdeps : Evaluates deps)
    (hused : st.budget.attemptsUsed ≤ st.budget.maxAttempts) (hreason : st.reason.isSome = true) :
    Meets (Kept host past c (base + st.budget.attemptsUsed) false) (deterministicPhase host deps c st)
      (Rung host past c base st.budget) (Stopped host deps past c (base + st.budget.maxAttempts)) := by
  have hle : base + st.budget.attemptsUsed ≤ base + st.budget.maxAttempts := Nat.add_le_add_left hused base
  simp only [deterministicPhase]
  split
  · next repair snapshot _ _ =>
    refine Meets.bind (meets_log hle _) fun _ => ?_
    refine Meets.bind (meets_deterministicRepair hle st.reason snapshot repair) fun evidence => ?_
    refine Meets.bind (meets_reEvaluate hdeps) fun answer => ?_
    cases answer with
    | error message => exact .ret fun _ hk => ⟨hk.1.weaken hle, rfl, rfl⟩
    | ok fresh =>
      cases fresh with
      | none =>
        intro s hs
        exact absurd rfl hs.2
      | some fresh =>
        exact (meets_regateAndMerge hdeps hused rfl fresh true).mono (fun _ hk => hk.1)
          (fun _ _ hk => hk) fun _ _ hk => hk
  · exact .ret fun _ hk => ⟨hk, hreason, rfl⟩

lemma missingReasonPhase_eq (hreason : st.reason.isSome = true) :
    missingReasonPhase host deps c st = pure (.again st) := by
  obtain ⟨reason, hsome⟩ := Option.isSome_iff_exists.1 hreason
  simp only [missingReasonPhase, hsome]

lemma meets_mechanicalRepair (hle : k + 1 ≤ limit) (reason : MergeQueueHoldReason)
    (repair : History → MergeQueueCandidate → MergeQueueHoldReason → EligibilitySnapshot → String →
      Except String MechanicalRepairResult) :
    Meets (Kept host past c k false) (mechanicalRepair deps c st reason repair)
      (fun _ => Kept host past c (k + 1) false) (Stopped host deps past c limit) := by
  refine Meets.bind (q := fun _ => Kept host past c (k + 1) false)
    (meets_attempt fun _ hk => hk.mechanical _) fun tried => ?_
  cases tried with
  | ok mech => exact .ret fun _ hk => hk
  | error message => exact Meets.bind (meets_log hle _) fun _ => .ret fun _ hk => hk

variable (hdeps : Evaluates deps)
include hdeps

lemma meets_mechanicalPhase (reason : MergeQueueHoldReason)
    (hused : st.budget.attemptsUsed ≤ st.budget.maxAttempts) :
    Meets (Kept host past c (base + st.budget.attemptsUsed) false) (mechanicalPhase host deps c st reason)
      (fun turn h => Rung host past c base (claimRepairAttempt st.budget) turn h ∧
        ∀ st', turn = .again st' → st.budget.attemptsUsed < st.budget.maxAttempts)
      (Stopped host deps past c (base + st.budget.maxAttempts)) := by
  have hle : base + st.budget.attemptsUsed ≤ base + st.budget.maxAttempts := Nat.add_le_add_left hused base
  refine Meets.bind (meets_nowFn hle) fun nowMs => ?_
  split
  · refine Meets.bind (meets_log hle _) fun _ => .ret fun _ hk => ⟨⟨hk.weaken hle, rfl, rfl⟩, ?_⟩
    intro st' heq
    cases heq
  · next hcan =>
    have hlt := attemptsUsed_lt_of_canAttemptRepair (by simpa using hcan)
    have hle' : base + st.budget.attemptsUsed + 1 ≤ base + st.budget.maxAttempts := Nat.add_lt_add_left hlt base
    cases hrepair : deps.attemptMechanicalRepair with
    | none =>
      refine .ret fun _ hk => ⟨⟨hk.weaken hle, rfl, rfl⟩, ?_⟩
      intro st' heq
      cases heq
    | some repair =>
      suffices hrung : Meets _ _ (Rung host past c base (claimRepairAttempt st.budget)) _ from
        hrung.mono (fun _ hk => hk) (fun _ _ hk => ⟨hk, fun _ _ => hlt⟩) fun _ _ hk => hk
      refine Meets.bind (meets_log hle _) fun _ => ?_
      refine Meets.bind (meets_mechanicalRepair hle' reason repair) fun mech => ?_
      refine Meets.bind (meets_log hle' _) fun _ => ?_
      refine Meets.bind (meets_reEvaluate hdeps) fun answer => ?_
      cases answer with
      | error message =>
        refine Meets.bind ((meets_nowFn hle').mono (fun _ hk => hk.1) (fun _ _ hk => hk)
          fun _ _ hk => hk) fun _ => ?_
        exact .ret fun _ hk => ⟨hk.weaken hle', rfl, rfl⟩
      | ok fresh =>
        cases fresh with
        | none =>
          intro s hs
          exact absurd rfl hs.2
        | some fresh =>
          have hclaimed : (claimRepairAttempt st.budget).attemptsUsed ≤
              (claimRepairAttempt st.budget).maxAttempts := hlt
          exact (meets_regateAndMerge hdeps hclaimed rfl fresh false).mono (fun _ hk => hk.1)
            (fun _ _ hk => hk) fun _ _ hk => hk

lemma meets_ladderTurn (hreason : st.reason.isSome = true)
    (hused : st.budget.attemptsUsed ≤ st.budget.maxAttempts) :
    Meets (Kept host past c (base + st.budget.attemptsUsed) false) (ladderTurn host deps c st)
      (fun turn h => Rung host past c base (claimRepairAttempt st.budget) turn h ∧
        ∀ st', turn = .again st' → st.budget.attemptsUsed < st.budget.maxAttempts)
      (Stopped host deps past c (base + st.budget.maxAttempts)) := by
  refine Meets.bind (meets_deterministicPhase hdeps hused hreason) fun turn => ?_
  cases turn with
  | done outcome =>
    refine .ret fun _ hk => ⟨hk, ?_⟩
    intro st' heq
    cases heq
  | again st₁ =>
    intro s hs
    obtain ⟨hkept, hreason₁, hbudget⟩ := hs
    simp only [missingReasonPhase_eq hreason₁]
    obtain ⟨reason, hsome⟩ := Option.isSome_iff_exists.1 hreason₁
    have hphase : Meets (Kept host past c (base + st₁.budget.attemptsUsed) false) _ _ _ :=
      meets_mechanicalPhase hdeps reason (by rw [hbudget]; exact hused)
    rw [hbudget] at hphase
    refine Meets.bind (q := fun turn h => turn = .again st₁ ∧
      Kept host past c (base + st.budget.attemptsUsed) false h) (.ret fun _ hk => ⟨rfl, hk⟩) ?_ s hkept
    intro turn s hs
    obtain ⟨rfl, hkept⟩ := hs
    simp only [hsome]
    exact hphase s hkept

lemma meets_ladder (turns : Nat) (st : LadderState)
    (hreason : st.reason.isSome = true) (hused : st.budget.attemptsUsed ≤ st.budget.maxAttempts) :
    Meets (Kept host past c (base + st.budget.attemptsUsed) false) (ladder host deps c turns st)
      (fun outcome h => Kept host past c (base + st.budget.maxAttempts) false h ∧
        (∀ settled, outcome = some settled → settled.Names c) ∧
        (st.budget.maxAttempts - st.budget.attemptsUsed < turns → outcome.isSome = true))
      (Stopped host deps past c (base + st.budget.maxAttempts)) := by
  induction turns generalizing st with
  | zero =>
    refine .ret fun _ hk => ⟨hk.weaken (Nat.add_le_add_left hused base), ?_, fun hlt => by omega⟩
    intro settled heq
    cases heq
  | succ turns ih =>
    refine Meets.bind (meets_ladderTurn hdeps hreason hused) fun turn => ?_
    cases turn with
    | done outcome =>
      refine .ret fun _ hk => ⟨hk.1.1, ?_, fun _ => rfl⟩
      intro settled heq
      cases heq
      exact hk.1.2
    | again st₁ =>
      intro s hs
      obtain ⟨⟨hkept, hreason₁, hbudget⟩, hlt⟩ := hs
      have hlt := hlt st₁ rfl
      have hmax : st₁.budget.maxAttempts = st.budget.maxAttempts := by rw [hbudget]; rfl
      have hclaimed : st₁.budget.attemptsUsed = st.budget.attemptsUsed + 1 := by rw [hbudget]; rfl
      have hrest := ih st₁ hreason₁ (by omega)
      rw [hmax, hclaimed] at hrest
      refine hrest.mono (fun _ hk => hk) (fun _ _ hk => ⟨hk.1, hk.2.1, fun hturns => hk.2.2 ?_⟩)
        (fun _ _ hk => hk) s ?_
      · exact hkept
      · omega

/-! ## One candidate -/

lemma meets_processCandidateApply (turns : Nat) (opts : ApplyOpts) :
    Meets (Kept host past c base v) (processCandidateApply host deps turns c opts)
      (fun outcome h => Kept host past c (base + attemptLimit opts.repairMaxAttempts) false h ∧
        (∀ settled, outcome = some settled → settled.Names c) ∧
        (attemptLimit opts.repairMaxAttempts < turns → outcome.isSome = true))
      (Stopped host deps past c (base + attemptLimit opts.repairMaxAttempts)) := by
  unfold processCandidateApply
  split
  · refine Meets.bind (meets_nowFn (Nat.le_add_right ..)) fun nowMs => ?_
    refine Meets.bind (meets_firstTry hdeps) fun first => ?_
    cases first with
    | done outcome =>
      refine .ret fun _ hk => ⟨hk.1.weaken (Nat.le_add_right ..), ?_, fun _ => rfl⟩
      intro settled heq
      cases heq
      exact hk.2
    | ineligible reason snapshot summary =>
      refine (meets_ladder hdeps turns _ rfl (Nat.zero_le _)).mono (fun _ hk => hk.1)
        (fun _ _ hk => hk) fun _ _ hk => hk
  · refine Meets.bind (meets_firstTry hdeps) fun first => ?_
    cases first with
    | done outcome =>
      refine .ret fun _ hk => ⟨hk.1.weaken (Nat.le_add_right ..), ?_, fun _ => rfl⟩
      intro settled heq
      cases heq
      exact hk.2
    | ineligible reason snapshot summary =>
      refine .ret fun _ hk => ⟨hk.1.weaken (Nat.le_add_right ..), ?_, fun _ => rfl⟩
      intro settled heq
      cases heq
      exact ⟨rfl, rfl⟩

end Calls

/-! ## The drive -/

/-- The candidates that were merged, in the order of the drive. -/
def mergedOf (results : List (MergeQueueCandidate × Outcome)) : List MergeQueueCandidate :=
  results.filterMap fun
    | (c, .merged) => some c
    | _ => none

def heldOf (results : List (MergeQueueCandidate × Outcome)) : List MergeQueueHeldItem :=
  results.filterMap fun
    | (_, .held hold) => some hold
    | _ => none

/-- Each candidate has one outcome, and the drive reports it as merged, as held, or with a line of the log
as already done. -/
def Reported (initial : List MergeQueueCandidate) (progress : Progress) (h : History) : Prop :=
  ∃ results : List (MergeQueueCandidate × Outcome), results.map Prod.fst = initial ∧
    progress.merged = mergedOf results ∧ progress.held = heldOf results ∧
    ∀ c outcome, (c, outcome) ∈ results → outcome.Names c ∧
      ∀ summary, outcome = .alreadyDone summary → QueueEvent.logged (alreadyDoneLine c summary) ∈ h

lemma Reported.nil (h : History) : Reported [] {} h := ⟨[], rfl, rfl, rfl, by simp⟩

variable {before : List MergeQueueCandidate} {progress : Progress}

lemma Reported.snoc {h h' : History} {c : MergeQueueCandidate} {outcome : Outcome} (hr : Reported before progress h)
    (hlog : ∀ e ∈ h, e ∈ h') (hnames : outcome.Names c) (hdone : ∀ summary, outcome = .alreadyDone summary →
      QueueEvent.logged (alreadyDoneLine c summary) ∈ h') : Reported (before ++ [c])
      { merged := progress.merged ++ mergedOf [(c, outcome)], held := progress.held ++ heldOf [(c, outcome)] }
      h' := by
  obtain ⟨results, hinitial, hmerged, hheld, hresults⟩ := hr
  refine ⟨results ++ [(c, outcome)], by simp [hinitial], ?_, ?_, ?_⟩
  · simp [mergedOf, hmerged]
  · simp [heldOf, hheld]
  · intro c' outcome' hmem
    rcases mem_append.1 hmem with hmem | hmem
    · obtain ⟨hnames', hdone'⟩ := hresults c' outcome' hmem
      exact ⟨hnames', fun summary heq => hlog _ (hdone' summary heq)⟩
    · simp only [mem_singleton, Prod.mk.injEq] at hmem
      obtain ⟨rfl, rfl⟩ := hmem
      exact ⟨hnames, hdone⟩

lemma Reported.mono {h h' : History}
    (hr : Reported before progress h) (hlog : ∀ e ∈ h, e ∈ h') : Reported before progress h' := by
  obtain ⟨results, hinitial, hmerged, hheld, hresults⟩ := hr
  refine ⟨results, hinitial, hmerged, hheld, fun c outcome hmem => ?_⟩
  exact ⟨(hresults c outcome hmem).1, fun summary heq => hlog _ ((hresults c outcome hmem).2 summary heq)⟩

section Drives

variable {deps : MergeQueueDeps} {past : History} {c : MergeQueueCandidate} {k limit : Nat} {v : Bool}

lemma meets_logLine (hle : k ≤ limit) (line : String) :
    Meets (Kept host past c k v) (log deps line)
      (fun _ h => Kept host past c k v h ∧ QueueEvent.logged line ∈ h)
      (Stopped host deps past c limit) := by
  refine meets_answering (fun s _ hk _ => ⟨hk.quiet rfl, by simp⟩) fun s e hk he => ?_
  refine ⟨fun hcalm => ?_, (hk.quiet rfl).weaken hle⟩
  rw [hcalm.log] at he
  cases he

/-- The drive after some candidates, with enough turns for the ladder. -/
def Driven (host : NodeHost) (turns : Nat) (opts : MergeQueueOpts) (before : List MergeQueueCandidate)
    (progress : Progress) (h : History) : Prop :=
  Safe host h ∧ (attemptLimit opts.attempts < turns → Reported before progress h)

/-- Where an exception leaves the drive. -/
def Broken (host : NodeHost) (deps : MergeQueueDeps) (_ : String) (h : History) : Prop :=
  ¬ Calm deps ∧ Safe host h

lemma meets_driveOne (hdeps : Evaluates deps) (turns : Nat) (opts : MergeQueueOpts)
    (before : List MergeQueueCandidate) (progress : Progress) (c : MergeQueueCandidate) :
    Meets (Driven host turns opts before progress) (driveOne host deps turns opts progress c)
      (fun progress' => Driven host turns opts (before ++ [c]) progress') (Broken host deps) := by
  intro past hdriven
  have hstart : Kept host past c (mechanicalCalls c past) false past :=
    ⟨prefix_rfl, hdriven.1, le_rfl, fun hv => by cases hv⟩
  -- the outcome of the candidate is added to what was reported
  have hsettled : ∀ (outcome : Outcome) (h : History) (k : Nat), Kept host past c k false h →
      outcome.Names c → (∀ summary, outcome = .alreadyDone summary →
        QueueEvent.logged (alreadyDoneLine c summary) ∈ h) → Driven host turns opts (before ++ [c])
        { merged := progress.merged ++ mergedOf [(c, outcome)], held := progress.held ++ heldOf [(c, outcome)] } h :=
    fun outcome h k hk hnames hdone => ⟨hk.safe, fun hturns =>
      (hdriven.2 hturns).snoc (fun e he => hk.past.subset he) hnames hdone⟩
  have hbroken : ∀ e h, Stopped host deps past c
      (mechanicalCalls c past + attemptLimit opts.attempts) e h → Broken host deps e h :=
    fun _ _ hstopped => ⟨hstopped.1, hstopped.2.safe⟩
  suffices hrun : Meets (Kept host past c (mechanicalCalls c past) false)
      (driveOne host deps turns opts progress c)
      (fun progress' => Driven host turns opts (before ++ [c]) progress')
      (Stopped host deps past c (mechanicalCalls c past + attemptLimit opts.attempts)) from
    hrun.mono (fun _ hk => hk) (fun _ _ hk => hk) hbroken past hstart
  refine Meets.bind (meets_log (Nat.le_add_right ..) _) fun _ => ?_
  refine Meets.bind (meets_processCandidateApply hdeps turns opts.applyOpts) fun result => ?_
  cases result with
  | none =>
    refine .ret fun h hk => ⟨hk.1.safe, fun hturns => ?_⟩
    cases hk.2.2 hturns
  | some outcome =>
    cases outcome with
    | merged =>
      refine Meets.bind ((meets_log le_rfl _).mono (fun _ hk => hk.1) (fun _ _ hk => hk)
        fun _ _ hk => hk) fun _ => .ret fun h hk => ?_
      have hmerged := hsettled .merged h _ hk trivial (fun summary heq => by cases heq)
      simpa [mergedOf, heldOf] using hmerged
    | alreadyDone summary =>
      refine Meets.bind ((meets_logLine le_rfl _).mono (fun _ hk => hk.1) (fun _ _ hk => hk)
        fun _ _ hk => hk) fun _ => .ret fun h hk => ?_
      have hdone := hsettled (.alreadyDone summary) h _ hk.1 trivial
        (fun summary' heq => by cases heq; exact hk.2)
      simpa [mergedOf, heldOf] using hdone
    | held hold =>
      intro s hs
      have hnames := hs.2.1 _ rfl
      refine Meets.bind (meets_log le_rfl _) (fun _ => .ret fun h hk => ?_) s hs.1
      have hheld := hsettled (.held hold) h _ hk hnames (fun summary heq => by cases heq)
      simpa [mergedOf, heldOf] using hheld

lemma meets_drive (hdeps : Evaluates deps) (turns : Nat) (opts : MergeQueueOpts)
    (initial : List MergeQueueCandidate) :
    Meets (Safe host) (Effect.each (driveOne host deps turns opts) initial {})
      (fun progress => Driven host turns opts initial progress) (Broken host deps) := by
  refine (Meets.each (I := Driven host turns opts)
    (fun before c _ progress _ => meets_driveOne hdeps turns opts before progress c) {}).mono
    (fun h hs => ⟨hs, fun _ => Reported.nil h⟩) (fun _ _ hk => hk) fun _ _ hk => hk

end Drives

/-! ## The run -/

section Run

variable {deps : MergeQueueDeps}

lemma meets_quiet
    (hP : ∀ h e, P h → e.isQuiet = true → P (h ++ [e]))
    (hevent : ∀ a, (event a).isQuiet = true) :
    Meets P (answering answer event) (fun _ => P) (fun _ => P) :=
  meets_answering (fun h a hp _ => hP h _ hp (hevent (.ok a)))
    fun h e hp _ => hP h _ hp (hevent (.error e))

lemma Safe.quiet (h : History) (e : QueueEvent) (hs : Safe host h) (he : e.isQuiet = true) : Safe host (h ++ [e]) := by
  refine hs.append ?_
  rintro c answer rfl
  cases he

lemma Driven.quiet {turns : Nat} {opts : MergeQueueOpts} (h : History) (e : QueueEvent)
    (hd : Driven host turns opts before progress h)
    (he : e.isQuiet = true) : Driven host turns opts before progress (h ++ [e]) :=
  ⟨hd.1.quiet _ _ he, fun hturns => (hd.2 hturns).mono fun _ he' => mem_append_left _ he'⟩

lemma meets_apply (hdeps : Evaluates deps) (turns : Nat) (opts : MergeQueueOpts)
    (happly : opts.isDryRun = false) :
    Meets (Safe host) (runMergeQueue host deps turns opts)
      (fun result =>
        Driven host turns opts result.initialCandidates
          { merged := result.merged, held := result.held })
      (fun _ => Safe host) := by
  unfold runMergeQueue
  split
  · refine Meets.bind (meets_quiet Safe.quiet fun _ => rfl) fun _ => ?_
    exact .ret fun h hs => ⟨hs, fun _ => Reported.nil h⟩
  · refine Meets.bind (meets_quiet Safe.quiet fun _ => rfl) fun initial => ?_
    refine Meets.bind (meets_quiet Safe.quiet fun _ => rfl) fun others => ?_
    refine Meets.bind (meets_quiet Safe.quiet fun _ => rfl) fun _ => ?_
    simp only [happly, Bool.false_eq_true, if_false]
    refine Meets.bind ((meets_drive hdeps turns opts initial).mono (fun _ hs => hs) (fun _ _ hk => hk)
      fun _ _ hk => hk.2) fun progress => ?_
    refine Meets.bind ((meets_quiet Driven.quiet fun _ => rfl).mono (fun _ hk => hk) (fun _ _ hk => hk)
      fun _ _ hk => hk.1) fun remaining => ?_
    refine Meets.bind ((meets_quiet Driven.quiet fun _ => rfl).mono (fun _ hk => hk) (fun _ _ hk => hk)
      fun _ _ hk => hk.1) fun release => ?_
    exact .ret fun h hk => hk

/-- Every call of a history is about no candidate. -/
def AllQuiet (h : History) : Prop := ∀ e ∈ h, e.isQuiet = true

lemma AllQuiet.quiet (h : History) (e : QueueEvent) (hq : AllQuiet h) (he : e.isQuiet = true) :
    AllQuiet (h ++ [e]) := by
  intro e' he'
  rcases mem_append.1 he' with he' | he'
  · exact hq e' he'
  · rw [mem_singleton.1 he']
    exact he

lemma meets_logDryRun (opts : MergeQueueOpts) (candidates : List MergeQueueCandidate) :
    Meets AllQuiet (logDryRun deps opts candidates) (fun _ => AllQuiet) (fun _ => AllQuiet) := by
  have hlog : ∀ line, Meets AllQuiet (log deps line) (fun _ => AllQuiet) (fun _ => AllQuiet) :=
    fun line => meets_quiet AllQuiet.quiet fun _ => rfl
  have hlines : Meets AllQuiet
      (Effect.each (fun _ c => log deps ("  - " ++ atIssue c ++ ": " ++ c.title)) candidates ())
      (fun _ => AllQuiet) (fun _ => AllQuiet) :=
    Meets.each (I := fun _ _ => AllQuiet) (fun _ c _ _ _ => hlog _) ()
  have hrelease : Meets AllQuiet
      (if opts.releaseEnabled = false then
        log deps "[merge-queue] dry-run: release-when-complete is off (no release prepare planned)"
      else pure ())
      (fun _ => AllQuiet) (fun _ => AllQuiet) := by
    split
    · exact hlog _
    · exact .ret fun _ hq => hq
  unfold logDryRun
  dsimp only
  have hrepair : Meets AllQuiet
      (if (opts.repair || opts.repairConfig) = true then do
        log deps "[merge-queue] dry-run: repair flag ignored (no repair side effects)"
        if opts.releaseEnabled = false then
          log deps "[merge-queue] dry-run: release-when-complete is off (no release prepare planned)"
      else if opts.releaseEnabled = false then
        log deps "[merge-queue] dry-run: release-when-complete is off (no release prepare planned)"
      else pure ())
      (fun _ => AllQuiet) (fun _ => AllQuiet) := by
    split
    · exact Meets.bind (hlog _) fun _ => hrelease
    · exact hrelease
  split
  · exact Meets.bind (hlog _) fun _ => hrepair
  · exact Meets.bind (hlog _) fun _ => Meets.bind hlines fun _ => hrepair

lemma meets_dryRun (turns : Nat) (opts : MergeQueueOpts) (hdry : opts.isDryRun = true) :
    Meets AllQuiet (runMergeQueue host deps turns opts) (fun _ => AllQuiet) (fun _ => AllQuiet) := by
  unfold runMergeQueue
  split
  · refine Meets.bind (meets_quiet AllQuiet.quiet fun _ => rfl) fun _ => ?_
    exact .ret fun h hq => hq
  · refine Meets.bind (meets_quiet AllQuiet.quiet fun _ => rfl) fun initial => ?_
    refine Meets.bind (meets_quiet AllQuiet.quiet fun _ => rfl) fun others => ?_
    refine Meets.bind (meets_quiet AllQuiet.quiet fun _ => rfl) fun _ => ?_
    simp only [hdry]
    refine Meets.bind (meets_logDryRun opts initial) fun _ => ?_
    refine Meets.bind (q := fun _ => AllQuiet) (.ret fun h hq => hq) fun progress => ?_
    refine Meets.bind (q := fun _ => AllQuiet) (.ret fun h hq => hq) fun remaining => ?_
    refine Meets.bind (meets_quiet AllQuiet.quiet fun _ => rfl) fun release => ?_
    exact .ret fun h hq => hq

end Run

/-! ## Every candidate and every drive -/

variable {deps : MergeQueueDeps}

lemma processCandidateApply_safe (hdeps : Evaluates deps) (turns : Nat)
    (c : MergeQueueCandidate) (opts : ApplyOpts) {h : History} (hs : Safe host h) :
    Safe host (processCandidateApply host deps turns c opts h).2 ∧
      mechanicalCalls c (processCandidateApply host deps turns c opts h).2 ≤
        mechanicalCalls c h + attemptLimit opts.repairMaxAttempts ∧
      (Calm deps → attemptLimit opts.repairMaxAttempts < turns →
        ∃ outcome, (processCandidateApply host deps turns c opts h).1 = .ok (some outcome)) := by
  have hstart : Kept host h c (mechanicalCalls c h) false h := ⟨prefix_rfl, hs, le_rfl, fun hv => by cases hv⟩
  have hmeets := meets_processCandidateApply hdeps turns opts h hstart
  cases hrun : processCandidateApply host deps turns c opts h with
  | mk result h' =>
    cases result with
    | ok outcome =>
      obtain ⟨hkept, -, hturns⟩ := (hmeets h').1 outcome hrun
      refine ⟨hkept.safe, hkept.count, fun _ henough => ?_⟩
      obtain ⟨settled, rfl⟩ := Option.isSome_iff_exists.1 (hturns henough)
      exact ⟨settled, rfl⟩
    | error e =>
      obtain ⟨hcalm, hkept⟩ := (hmeets h').2 e hrun
      exact ⟨hkept.safe, hkept.count, fun h => absurd h hcalm⟩

lemma drive_reports (hdeps : Evaluates deps) (hcalm : Calm deps) (turns : Nat)
    (opts : MergeQueueOpts) (hturns : attemptLimit opts.attempts < turns)
    (initial : List MergeQueueCandidate) {h : History} (hs : Safe host h) :
    ∃ progress h', Effect.each (driveOne host deps turns opts) initial {} h = (.ok progress, h') ∧
      Reported initial progress h' := by
  have hmeets := meets_drive hdeps turns opts initial h hs
  cases hrun : Effect.each (driveOne host deps turns opts) initial {} h with
  | mk result h' =>
    cases result with
    | ok progress => exact ⟨progress, h', rfl, ((hmeets h').1 progress hrun).2 hturns⟩
    | error e => exact absurd hcalm ((hmeets h').2 e hrun).1

lemma runMergeQueue_safe (hdeps : Evaluates deps) (turns : Nat) (opts : MergeQueueOpts) :
    Safe host (runMergeQueue host deps turns opts []).2 ∧
      (opts.isDryRun = true → AllQuiet (runMergeQueue host deps turns opts []).2) ∧
      (opts.isDryRun = false → attemptLimit opts.attempts < turns →
        ∀ result, (runMergeQueue host deps turns opts []).1 = .ok result →
          Reported result.initialCandidates { merged := result.merged, held := result.held }
            (runMergeQueue host deps turns opts []).2) := by
  have hquiet : opts.isDryRun = true → AllQuiet (runMergeQueue host deps turns opts []).2 := by
    intro hdry
    have hmeets : Meets AllQuiet (runMergeQueue host deps turns opts) (fun _ => AllQuiet) fun _ => AllQuiet :=
      meets_dryRun turns opts hdry
    have hmeets := hmeets [] (by simp [AllQuiet])
    cases hrun : runMergeQueue host deps turns opts [] with
    | mk result h' =>
      cases result with
      | ok result => exact (hmeets h').1 result hrun
      | error e => exact (hmeets h').2 e hrun
  cases hdry : opts.isDryRun with
  | true =>
    refine ⟨?_, fun _ => hquiet hdry, fun h => by cases h⟩
    -- a history without merges is safe
    intro before c answer after heq
    have hmerge := hquiet hdry (.merged c answer) (by rw [heq]; simp)
    cases hmerge
  | false =>
    have hmeets := meets_apply hdeps turns opts hdry [] (safe_nil : Safe host [])
    cases hrun : runMergeQueue host deps turns opts [] with
    | mk result h' =>
      cases result with
      | ok result =>
        obtain ⟨hsafe, hreported⟩ := (hmeets h').1 result hrun
        refine ⟨hsafe, fun h => (by cases h), fun _ hturns result' heq => ?_⟩
        cases heq
        exact hreported hturns
      | error e =>
        refine ⟨(hmeets h').2 e hrun, fun h => (by cases h), fun _ _ result' heq => ?_⟩
        cases heq

/-- With evaluations that give a snapshot or throw, nothing is merged on stale evidence and the repairs of a
candidate are bounded; while log and clock answer, the ladder ends and every candidate is reported. -/
theorem queue_safe (host : NodeHost) (deps : MergeQueueDeps) (hdeps : Evaluates deps) :
    (∀ turns c opts h, Safe host h → Safe host (processCandidateApply host deps turns c opts h).2 ∧
      mechanicalCalls c (processCandidateApply host deps turns c opts h).2 ≤
        mechanicalCalls c h + attemptLimit opts.repairMaxAttempts ∧
      (Calm deps → attemptLimit opts.repairMaxAttempts < turns →
        ∃ outcome, (processCandidateApply host deps turns c opts h).1 = .ok (some outcome))) ∧
    (∀ turns opts initial h, Safe host h → Calm deps → attemptLimit opts.attempts < turns →
      ∃ progress h', Effect.each (driveOne host deps turns opts) initial {} h = (.ok progress, h') ∧
        Reported initial progress h') ∧
    ∀ turns opts, Safe host (runMergeQueue host deps turns opts []).2 ∧
      (opts.isDryRun = true → AllQuiet (runMergeQueue host deps turns opts []).2) ∧
      (opts.isDryRun = false → attemptLimit opts.attempts < turns →
        ∀ result, (runMergeQueue host deps turns opts []).1 = .ok result →
          Reported result.initialCandidates { merged := result.merged, held := result.held }
            (runMergeQueue host deps turns opts []).2) :=
  ⟨fun turns c opts _ hs => processCandidateApply_safe hdeps turns c opts hs,
    fun turns opts initial _ hs hcalm hturns => drive_reports hdeps hcalm turns opts hturns initial hs,
    fun turns opts => runMergeQueue_safe hdeps turns opts⟩

end Drive

/-! ## A conflict that a repair resolves -/

def firstCandidate : MergeQueueCandidate where
  issueNumber := 7
  prNumber := 12
  title := "Index check"

def secondCandidate : MergeQueueCandidate where
  issueNumber := 8
  prNumber := 13
  title := "Retry bound"

def conflicting : EligibilitySnapshot where
  mergeable := "CONFLICTING"
  mergeStateStatus := "DIRTY"
  checksOk := true

def mergeableNow : EligibilitySnapshot where
  mergeable := "MERGEABLE"
  mergeStateStatus := "CLEAN"
  checksOk := true

/-- Dependencies whose clock stands still and whose milestone has these candidates. -/
def queueOf (candidates : List MergeQueueCandidate)
    (evaluate : History → MergeQueueCandidate → Except String (Option EligibilitySnapshot))
    (log : History → String → Except String Unit) : MergeQueueDeps where
  listR2dCandidates _ _ := .ok candidates
  listOpenNonCandidates _ _ _ := .ok []
  mergeCandidate _ _ := .ok ()
  evaluateEligibility := some evaluate
  attemptDeterministicRepair := none
  attemptMechanicalRepair := some fun _ _ _ _ _ =>
    .ok { succeeded := true, headSha := none, evidence := "rebased", error := none }
  now _ := .ok (.finite 0)
  log := log
  error _ _ := .ok ()
  prepareRelease _ _ _ _ := .ok { exitNonZero := false, usageError := false }

/-- The first candidate conflicts until it is repaired. -/
def conflictQueue : MergeQueueDeps :=
  queueOf [firstCandidate, secondCandidate]
    (fun h c => .ok (some (if c = firstCandidate ∧ mechanicalCalls c h = 0 then conflicting else mergeableNow)))
    fun _ _ => .ok ()

def repairOnce : MergeQueueOpts where
  milestone := "v2"
  apply := true
  repair := true

theorem conflict_repaired_and_merged :
    (runMergeQueue (NodeHost.onFirstDay [] []) conflictQueue 2 repairOnce []).1.toOption.map (·.merged) =
        some [firstCandidate, secondCandidate] ∧
      Safe (NodeHost.onFirstDay [] [])
        (runMergeQueue (NodeHost.onFirstDay [] []) conflictQueue 2 repairOnce []).2 ∧
      ∃ progress h', Effect.each (driveOne (NodeHost.onFirstDay [] []) conflictQueue 2 repairOnce)
          [firstCandidate, secondCandidate] {} [] = (.ok progress, h') ∧
        Reported [firstCandidate, secondCandidate] progress h' := by
  have hdeps : Evaluates conflictQueue := ⟨_, rfl, fun h c heq => by cases heq⟩
  have hsafe := queue_safe (NodeHost.onFirstDay [] []) conflictQueue hdeps
  refine ⟨by decide +kernel, (hsafe.2.2 2 repairOnce).1, ?_⟩
  exact hsafe.2.1 2 repairOnce _ [] safe_nil ⟨fun _ _ => rfl, fun _ => rfl⟩ (by decide +kernel)

/-! ## What the drive does not promise -/

/-- No snapshot is known of any candidate. -/
def unknownQueue : MergeQueueDeps := queueOf [firstCandidate] (fun _ _ => .ok none) fun _ _ => .ok ()

/-- The log throws when the first candidate is processed. -/
def brokenLogQueue : MergeQueueDeps :=
  queueOf [firstCandidate, secondCandidate] (fun _ _ => .ok (some mergeableNow)) fun _ line =>
    if line = "[merge-queue] processing " ++ atIssue firstCandidate ++ "…" then .error "EPIPE" else .ok ()

/-- A candidate is merged on the answer `null`, an exception of the log stops the drive, and a dry run lists
no candidate as merged, held or already done. -/
theorem null_snapshot_merged :
    ¬Safe (NodeHost.onFirstDay [] [])
        (processCandidateApply (NodeHost.onFirstDay [] []) unknownQueue 2 firstCandidate
          repairOnce.applyOpts []).2 ∧
      (runMergeQueue (NodeHost.onFirstDay [] []) brokenLogQueue 2 repairOnce []).1.toOption.isNone ∧
      (runMergeQueue (NodeHost.onFirstDay [] []) conflictQueue 2 { repairOnce with dryRun := true } []).1.toOption.map
          (fun result => (result.initialCandidates, result.merged, result.held)) =
        some ([firstCandidate, secondCandidate], [], []) := by
  refine ⟨fun hsafe => ?_, by decide +kernel, by decide +kernel⟩
  obtain ⟨before, snapshot, after, heq, -, -⟩ :=
    hsafe [.clock, .evaluated firstCandidate (.ok none)] firstCandidate (.ok ()) [] (by rfl)
  rcases before with _ | ⟨first, before⟩
  · cases heq
  · rcases before with _ | ⟨second, before⟩
    · simp at heq
    · simp at heq

end AgentPipeline.MergeQueue
