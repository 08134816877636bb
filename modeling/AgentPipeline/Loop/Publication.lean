import AgentPipeline.Foundation.Transition
import AgentPipeline.Loop.Store

/-!
# Publication: what the writes of a ledger promise to the next read

Two promises of `writeLedger`:

* a write rewrites up to two files in up to three steps, and may stop after each of them: the next
  read finds the generation from before the write or the new one (`FileStep`, `Between`);
* an owned wait for a quarantined generation admits no mutation before a reconciliation. The
  guard looks at the published generation only, and the marker it looks for is part of what the
  guarded writes replace (`LedgerWrite.KeepsWait`).
-/

namespace AgentPipeline.Loop

open Transition (Run)

section Publication

variable (rt : JsRuntime)

/-! ## File steps -/

/-- One `writeFileAtomic`: it happens as a whole or not at all. -/
inductive FileStep where
  | publishLastValid (generation : LoopLedger)
  | publish (generation : LoopLedger)

def FileStep.apply (d : RunDir) : FileStep → RunDir
  | .publishLastValid generation => { d with lastValid := some generation }
  | .publish generation => { d with ledger := generation }

/-- The file steps of `writeLedger(ledger, token)`; a call that throws takes none. -/
def writeSteps (token : String) (ledger : LoopLedger) (d : RunDir) : List FileStep :=
  match requireToken d token with
  | .error _ => []
  | .ok _ =>
    let next := d.contract.normalize rt ledger
    let current := d.contract.normalize rt d.ledger
    if d.contract.accepts rt d.ledger && quarantineWaitBlocksMutation current next then []
    else
      (if d.contract.accepts rt d.ledger then [.publishLastValid current] else []) ++
        .publish next :: if d.contract.accepts rt ledger then [.publishLastValid next] else []

/-- The directory when the process stops after `n` file steps of the write. -/
def stoppedAfter (n : Nat) (token : String) (ledger : LoopLedger) (d : RunDir) : RunDir :=
  ((writeSteps rt token ledger d).take n).foldl FileStep.apply d

lemma writeLedger_eq_stoppedAfter (token : String) (ledger : LoopLedger) (d : RunDir) :
    (writeLedger rt token ledger d).2 = stoppedAfter rt (writeSteps rt token ledger d).length token ledger d := by
  unfold stoppedAfter
  rw [List.take_length]
  unfold writeLedger writeSteps
  cases requireToken d token with
  | error e => rfl
  | ok lock =>
    dsimp only
    by_cases hguard : (d.contract.accepts rt d.ledger && quarantineWaitBlocksMutation
        (d.contract.normalize rt d.ledger) (d.contract.normalize rt ledger)) = true
    · simp [hguard]
    · rw [if_neg hguard, if_neg hguard]
      by_cases hcurrent : d.contract.accepts rt d.ledger = true <;>
        by_cases hnext : d.contract.accepts rt ledger = true <;>
        simp [hcurrent, hnext, FileStep.apply]

variable {rt}

/-- The generations that a stopped write leaves: the old one is still published, or the new one
is, and then it passes or the old one is at hand. -/
def Between (rt : JsRuntime) (d : RunDir) (ledger : LoopLedger) (s : RunDir) : Prop :=
  s.contract = d.contract ∧ (s.ledger = d.ledger ∨ s.ledger = d.contract.normalize rt ledger ∧
        (d.contract.accepts rt ledger = true ∨ s.lastValid = some (d.contract.normalize rt d.ledger)))

lemma between_stoppedAfter {d : RunDir} (h : d.contract.accepts rt d.ledger = true) (n : Nat)
    (token : String) (ledger : LoopLedger) : Between rt d ledger (stoppedAfter rt n token ledger d) := by
  unfold stoppedAfter writeSteps
  dsimp only
  split
  · simp [Between]
  · split
    · simp [Between]
    · -- the step that keeps the old generation comes first
      rw [List.singleton_append]
      rcases n with _ | _ | n
      · simp [Between]
      · simp [Between, FileStep.apply]
      · by_cases hnext : d.contract.accepts rt ledger = true
        · cases n with
          | zero => simp [Between, FileStep.apply, hnext]
          | succ n => simp [Between, FileStep.apply, hnext]
        · simp [Between, FileStep.apply, hnext]

lemma Between.readLedger {d s : RunDir} {ledger : LoopLedger} (hbetween : Between rt d ledger s)
    (h : d.contract.accepts rt d.ledger = true) (now : Instant) (token : Option String) :
    (Loop.readLedger rt now token s).1 = .ok (d.contract.normalize rt d.ledger) ∨ d.contract.accepts rt ledger = true ∧
        (Loop.readLedger rt now token s).1 = .ok (d.contract.normalize rt ledger) := by
  obtain ⟨hcontract, hledger | ⟨hledger, hkept⟩⟩ := hbetween
  · refine .inl ?_
    rw [readLedger_of_accepts rt now (by rw [hcontract, hledger, h]), hcontract, hledger]
  · by_cases hnext : d.contract.accepts rt ledger = true
    · refine .inr ⟨hnext, ?_⟩
      rw [readLedger_of_accepts rt now (by simpa [hcontract, hledger] using hnext), hcontract,
        hledger, normalize_normalize]
    · -- the new generation is moved aside for the old one
      have hlast := hkept.resolve_left hnext
      refine .inl ?_
      simp [Loop.readLedger, hcontract, hledger, hnext, hlast, h]

/-- After any number of file steps of a write over a generation that passes, a read returns that
generation or the one the write publishes; where the latter does not pass, it returns the former. -/
theorem stopped_write_readable {d : RunDir} (haccepts : d.contract.accepts rt d.ledger = true)
    (token : String) (ledger : LoopLedger) :
    (∃ n, stoppedAfter rt n token ledger d = (writeLedger rt token ledger d).2) ∧ ∀ n now readToken, ∃ found,
        (readLedger rt now readToken (stoppedAfter rt n token ledger d)).1 = .ok found ∧
          (found = d.contract.normalize rt d.ledger ∨ found = d.contract.normalize rt ledger) ∧
          (d.contract.accepts rt ledger = false → found = d.contract.normalize rt d.ledger) := by
  refine ⟨⟨_, (writeLedger_eq_stoppedAfter rt token ledger d).symm⟩, fun n now readToken => ?_⟩
  rcases (between_stoppedAfter haccepts n token ledger).readLedger haccepts now readToken with
    hold | ⟨hnext, hnew⟩
  · exact ⟨_, hold, .inl rfl, fun _ => rfl⟩
  · exact ⟨_, hnew, .inr rfl, fun hrejected => by simp [hnext] at hrejected⟩

end Publication

/-! ### A claim without its id -/

def claimDigests : List (String × String) :=
  [("\x00".intercalate
      ["pipeline-recovery-episode@1", "loop_recovery", "environment-auth", "a1b2c3", "5f1e"],
    "5a7b8140f5c09d51825b87662dcdc7b0fab5a79182547098b2a6376db2313ab6")]

/-- A run of one item, before any attempt. -/
def oneItemRun : RunDir := runOf { id := "12", state := .blocked }

/-- The ledger with a started claim that lost its derivable id. -/
def claimWithoutId : LoopLedger :=
  { oneItemRun.ledger with
    recoveryAttempts :=
      [{ attemptId := some "a", seq := 0, time := "1970-01-01T00:00:00.000Z", itemId := "12"
         blockerClass := .environmentAuth, candidateIdentity := some "a1b2c3"
         action := some .verifyAuthentication, actions := none, evidenceFingerprint := "5f1e"
         outcome := .started, budgetRemaining := some 1, invariant := some "environment-auth"
         candidateEpoch := some "a1b2c3"
         attemptsPerStrategy := some (StrategyCounts.empty.charge .verifyAuthentication)
         strategyCursor := some 0, skippedStrategies := some []
         nextEligibleAt := some "1970-01-01T00:00:10.000Z", operation := some "loop_recovery" }] }

/-- The write stops before its last step, and the new generation is found. -/
theorem stopped_claim_readable :
    stoppedAfter (.onFirstDay claimDigests) 2 "t" claimWithoutId oneItemRun ≠
        (writeLedger (.onFirstDay claimDigests) "t" claimWithoutId oneItemRun).2 ∧
      ∃ found, (readLedger (.onFirstDay claimDigests) .epoch none
          (stoppedAfter (.onFirstDay claimDigests) 2 "t" claimWithoutId oneItemRun)).1 = .ok found ∧
        (found = oneItemRun.contract.normalize (.onFirstDay claimDigests) oneItemRun.ledger ∨
          found = oneItemRun.contract.normalize (.onFirstDay claimDigests) claimWithoutId) := by
  have haccepts : oneItemRun.contract.accepts (.onFirstDay claimDigests) oneItemRun.ledger = true := by
    decide +kernel
  obtain ⟨found, hfound, hcases, _⟩ :=
    (stopped_write_readable haccepts "t" claimWithoutId).2 2 .epoch none
  refine ⟨fun hsame => ?_, found, hfound, hcases⟩
  have hlast := congrArg RunDir.lastValid hsame
  exact absurd hlast (by decide +kernel)

/-- The claim is not accepted as it stands, but as it is published: the read returns it, not the
generation from before. -/
theorem unaccepted_claim_read :
    ¬∀ (rt : JsRuntime) (d₀ : RunDir) (ledger₀ ledger : LoopLedger) (token : String) (n : Nat)
        (now : Instant) (readToken : Option String),
      (writeLedger rt token ledger₀ d₀).1 = .ok () →
      d₀.contract.accepts rt (writeLedger rt token ledger₀ d₀).2.ledger = true →
      (writeLedger rt token ledger₀ d₀).2.lastValid = some (writeLedger rt token ledger₀ d₀).2.ledger →
      isLoopLedgerShape rt d₀.contract.validationPolicy ledger = false →
      (readLedger rt now readToken
          (stoppedAfter rt n token ledger (writeLedger rt token ledger₀ d₀).2)).1 =
        .ok (d₀.contract.normalize rt (writeLedger rt token ledger₀ d₀).2.ledger) := by
  intro h
  have hread := h (.onFirstDay claimDigests) oneItemRun oneItemRun.ledger claimWithoutId "t" 3
    .epoch none (by decide +kernel) (by decide +kernel) (by decide +kernel) (by decide +kernel)
  exact absurd hread (by decide +kernel)

section Waiting

variable {rt : JsRuntime}

/-! ## Writes during an owned wait -/

structure LedgerWrite where
  token : String
  next : LoopLedger

namespace LedgerWrite

variable (rt)

/-- A successful call of `writeLedger`. -/
def step (d : RunDir) (w : LedgerWrite) : Option RunDir :=
  match writeLedger rt w.token w.next d with
  | (.ok (), d') => some d'
  | (.error _, _) => none

/-- The published generation passes when the write is called, and what is written carries the
reconciliation or keeps the marker of the wait. -/
def KeepsWait (d : RunDir) (w : LedgerWrite) : Prop :=
  d.contract.accepts rt d.ledger = true ∧ (w.next.lastReconciliation.isSome = true ∨
      w.next.cooling.any (fun c => c.theme = some durableGenerationQuarantineTheme) = true)

instance (d : RunDir) (w : LedgerWrite) : Decidable (w.KeepsWait rt d) :=
  inferInstanceAs (Decidable (_ ∧ _))

variable {rt}

lemma step_eq_some {d d' : RunDir} {w : LedgerWrite} (h : w.step rt d = some d') :
    writeLedger rt w.token w.next d = (.ok (), d') := by
  unfold step at h
  split at h
  · next hwrite =>
    obtain rfl := Option.some.inj h
    exact hwrite
  · simp at h

end LedgerWrite

/-- The run still waits, with the items and attempts of `d`. -/
structure Waits (rt : JsRuntime) (d s : RunDir) : Prop where
  contract : s.contract = d.contract
  wait : isQuarantineOwnedWait s.ledger = true
  items : s.ledger.items = d.ledger.items
  attempts : (d.contract.normalize rt s.ledger).recoveryAttempts = (d.contract.normalize rt d.ledger).recoveryAttempts

lemma writeLedger_of_wait {d d' : RunDir} {token : String} {next : LoopLedger}
    (haccepts : d.contract.accepts rt d.ledger = true) (hwait : isQuarantineOwnedWait d.ledger = true)
    (hnone : next.lastReconciliation = none) (h : writeLedger rt token next d = (.ok (), d')) :
    next.items = d.ledger.items ∧ (d.contract.normalize rt next).recoveryAttempts =
        (d.contract.normalize rt d.ledger).recoveryAttempts := by
  have hcurrent : isQuarantineOwnedWait (d.contract.normalize rt d.ledger) = true := hwait
  have hnext : (d.contract.normalize rt next).lastReconciliation = none := hnone
  unfold writeLedger at h
  dsimp only at h
  split at h
  · simp at h
  · split at h
    · simp at h
    · next hguard =>
      simp only [haccepts, quarantineWaitBlocksMutation, hcurrent, hnext, Option.isNone_none,
        Bool.true_and, Bool.or_eq_true, not_or, decide_eq_true_eq, not_not] at hguard
      exact ⟨hguard.1.symm, hguard.2.symm⟩

lemma Waits.write {d s s' : RunDir} {w : LedgerWrite} (h : Waits rt d s)
    (hkeeps : w.KeepsWait rt s) (hnone : w.next.lastReconciliation = none)
    (hstep : w.step rt s = some s') : Waits rt d s' := by
  have hwrite := LedgerWrite.step_eq_some hstep
  obtain ⟨hitems, hattempts⟩ := writeLedger_of_wait hkeeps.1 h.wait hnone hwrite
  have hledger := (writeLedger_eq_ok rt hwrite).2.1
  have hcontract : s'.contract = s.contract := by
    have hsame := (sameRun_writeLedger rt w.token w.next s).contract
    rwa [hwrite] at hsame
  have hmarked := hkeeps.2.resolve_left (by simp [hnone])
  refine ⟨hcontract.trans h.contract, ?_, ?_, ?_⟩
  -- the marker and the missing reconciliation are those of the written ledger
  · have hfields : s'.ledger.cooling = w.next.cooling ∧ s'.ledger.lastReconciliation = none := by
      rw [hledger]
      exact ⟨rfl, hnone⟩
    simpa [isQuarantineOwnedWait, hfields.1, hfields.2] using hmarked
  · rw [hledger, normalize_items, hitems, h.items]
  · rw [hledger, ← h.contract, normalize_normalize, hattempts, h.contract]
    exact h.attempts

lemma Waits.run {d s s' : RunDir} {writes : List LedgerWrite} (h : Waits rt d s)
    (hrun : Run (LedgerWrite.step rt) (LedgerWrite.KeepsWait rt) s writes s')
    (hnone : ∀ w ∈ writes, w.next.lastReconciliation = none) : Waits rt d s' := by
  induction hrun with
  | nil => exact h
  | cons hkeeps hstep _ ih =>
    have hfirst := h.write hkeeps (hnone _ (by simp)) hstep
    exact ih hfirst fun w hw => hnone w (by simp [hw])

/-- Over every run of successful writes that keep the marker of the wait: until one of them carries
a reconciliation, items and attempts stay as they were. -/
theorem quarantine_wait_binding {d d' : RunDir} {writes : List LedgerWrite}
    (hwait : isQuarantineOwnedWait d.ledger = true)
    (hrun : Run (LedgerWrite.step rt) (LedgerWrite.KeepsWait rt) d writes d')
    (hnone : ∀ w ∈ writes, w.next.lastReconciliation = none) :
    d'.ledger.items = d.ledger.items ∧ (d'.contract.normalize rt d'.ledger).recoveryAttempts =
        (d.contract.normalize rt d.ledger).recoveryAttempts := by
  have hstart : Waits rt d d := ⟨rfl, hwait, rfl, rfl⟩
  have hend := hstart.run hrun hnone
  rw [hend.contract]
  exact ⟨hend.items, hend.attempts⟩

end Waiting

/-! ### A dropped marker -/

/-- The run waits for the reconciliation of a quarantined generation. -/
def waitingRun : RunDir :=
  { oneItemRun with
    ledger := { oneItemRun.ledger with
      cooling := some
        { reason := .mechanicalExhaustion, time := "1970-01-01T00:00:00.000Z"
          theme := some durableGenerationQuarantineTheme
          nextEligibleAt := some "1970-01-01T00:01:00.000Z"
          quarantinePath := some "runs/r/ledger.json.quarantine.1970-01-01T00-00-00-000Z" } } }

theorem waiting_items_kept :
    ∃ d', Run (LedgerWrite.step (.onFirstDay [])) (LedgerWrite.KeepsWait (.onFirstDay []))
        waitingRun [⟨"t", { waitingRun.ledger with consecutiveBlocked := 1 }⟩] d' ∧
      d'.ledger.consecutiveBlocked = 1 ∧ d'.ledger.items = waitingRun.ledger.items := by
  obtain ⟨d', hrun, hblocked⟩ : ∃ d', Run (LedgerWrite.step (.onFirstDay []))
      (LedgerWrite.KeepsWait (.onFirstDay [])) waitingRun
      [⟨"t", { waitingRun.ledger with consecutiveBlocked := 1 }⟩] d' ∧
      d'.ledger.consecutiveBlocked = 1 :=
    Run.exists_of_exec _ (by decide +kernel)
  exact ⟨d', hrun, hblocked, (quarantine_wait_binding (by decide) hrun (by simp [waitingRun, oneItemRun, runOf])).1⟩

/-- The first write drops the cooling record and with it the marker, the second one the items. -/
theorem waiting_items_dropped :
    ¬∀ (rt : JsRuntime) (d d' : RunDir) (writes : List LedgerWrite),
      d.contract.accepts rt d.ledger = true → isQuarantineOwnedWait d.ledger = true →
      Run (LedgerWrite.step rt) (fun _ _ => True) d writes d' →
      (∀ w ∈ writes, w.next.lastReconciliation = none) → d'.ledger.items = d.ledger.items := by
  intro h
  obtain ⟨d', hrun, hitems⟩ : ∃ d', Run (LedgerWrite.step (.onFirstDay [])) (fun _ _ => True)
      waitingRun
      [⟨"t", { waitingRun.ledger with cooling := none }⟩,
        ⟨"t", { waitingRun.ledger with cooling := none, items := .empty }⟩] d' ∧
      d'.ledger.items ≠ waitingRun.ledger.items :=
    Run.exists_of_exec _ (by decide +kernel)
  exact hitems (h _ _ _ _ (by decide +kernel) (by decide) hrun (by simp [waitingRun, oneItemRun, runOf]))

end AgentPipeline.Loop
