import Mathlib.Data.Fintype.Basic
import AgentPipeline.Foundation.Transition
import AgentPipeline.Loop.Types

/-!
# AppendLog: sequence numbers of the append-only logs

A run directory has three logs (`loop/store.ts`: `appendEvent`, `appendDecision`,
`appendActionEvidence`). The number of the next record is the number of lines of the file, read
once by each process and counted on in its memory (`nextSeqCache`). An append takes its number
and writes its line in two steps; the appends of one process to one log wait for each other, those
of different processes do not.

A lifecycle event (lock recovery, quarantine) is appended without a token. The initial event of a
run is written under the path of the staging directory, so it leaves no cached number behind.

The numbers are dense over every run in which an append finds no other append to the log under way
and no line that the process has not counted (`LogAct.Current`).
-/

universe u

namespace AgentPipeline.Loop

open Transition (Run)

inductive LoopLog where
  | events | decisions | actionEvidence
deriving DecidableEq, Repr

/-- The logs of one run directory, and what each process keeps about them. -/
structure LogState (ι : Type u) where
  lock : Option LoopLockRecord
  /-- The `seq` of every record, in file order. -/
  seqs : LoopLog → List Nat
  nextSeqCache : ι → LoopLog → Option Nat
  /-- The number that the append under way has taken. -/
  reserved : ι → LoopLog → Option Nat

inductive LogAct (ι : Type u) where
  | acquireLock (record : LoopLockRecord)
  | releaseLock (token : String)
  | recoverLock
  /-- An append takes its number; a lifecycle event has no token. -/
  | reserve (p : ι) (log : LoopLog) (token : Option String)
  /-- `appendLine`, which may fail without writing. -/
  | appendLine (p : ι) (log : LoopLog) (written : Bool)
  | exit (p : ι)

variable {ι : Type u} [DecidableEq ι]

namespace LogState

/-- `nextSeq(logPath)`, as process `p` evaluates it. -/
def nextSeq (s : LogState ι) (p : ι) (log : LoopLog) : Nat :=
  -- the file is read once per process; from then on the process counts for itself
  (s.nextSeqCache p log).getD (s.seqs log).length

/-- `requireToken`, or an event that is appended without one. -/
def admits (s : LogState ι) (log : LoopLog) : Option String → Bool
  | some token => s.lock.any (·.token = token)
  | none => log = .events

def setReserved (s : LogState ι) (p : ι) (log : LoopLog) (seq : Option Nat) : LogState ι :=
  { s with
    reserved := fun q l => if q = p ∧ l = log then seq else s.reserved q l }

/-- The line is in the file, and the process counts on. -/
def commit (s : LogState ι) (p : ι) (log : LoopLog) (seq : Nat) : LogState ι :=
  { s.setReserved p log none with
    seqs := fun l => if l = log then s.seqs l ++ [seq] else s.seqs l
    nextSeqCache := fun q l => if q = p ∧ l = log then some (seq + 1) else s.nextSeqCache q l }

/-- What a process knew ends with it. -/
def forget (s : LogState ι) (p : ι) : LogState ι :=
  { s with
    nextSeqCache := fun q l => if q = p then none else s.nextSeqCache q l
    reserved := fun q l => if q = p then none else s.reserved q l }

/-- One step; a call that throws, or has to wait, takes none. -/
def step (s : LogState ι) : LogAct ι → Option (LogState ι)
  | .acquireLock record => if s.lock.isNone then some { s with lock := some record } else none
  | .releaseLock token =>
    if s.lock.any (·.token = token) then some { s with lock := none } else none
  | .recoverLock => if s.lock.isSome then some { s with lock := none } else none
  | .reserve p log token =>
    -- the appends of one process to one log are chained
    if s.reserved p log = none ∧ s.admits log token = true then
      some (s.setReserved p log (some (s.nextSeq p log)))
    else none
  | .appendLine p log written =>
    match s.reserved p log with
    | none => none
    | some seq => some (if written then s.commit p log seq else s.setReserved p log none)
  | .exit p => some (s.forget p)

end LogState

open LogState (step)

/-- The number that an append takes is current: no other process has an append to the log under
way, and the process has counted every line it did not read. -/
def LogAct.Current (s : LogState ι) : LogAct ι → Prop
  | .reserve p log _ =>
    (∀ q, q ≠ p → s.reserved q log = none) ∧
      (s.nextSeqCache p log = none ∨ s.nextSeqCache p log = some (s.seqs log).length)
  | _ => True

instance [Fintype ι] (s : LogState ι) (a : LogAct ι) : Decidable (a.Current s) :=
  match a with
  | .reserve _ _ _ => inferInstanceAs (Decidable (_ ∧ _))
  | .acquireLock _ | .releaseLock _ | .recoverLock | .appendLine _ _ _ | .exit _ =>
    inferInstanceAs (Decidable True)

/-- A run directory that no process has appended to yet: the records are numbered. -/
structure LogState.Initial (s : LogState ι) : Prop where
  dense : ∀ log, s.seqs log = List.range (s.seqs log).length
  cache : ∀ p log, s.nextSeqCache p log = none
  reserved : ∀ p log, s.reserved p log = none

/-! ## The invariant -/

/-- The records are numbered, and a number that is taken is the next one and taken once. -/
structure Sequenced (s : LogState ι) : Prop where
  dense : ∀ log, s.seqs log = List.range (s.seqs log).length
  reserved : ∀ p log seq, s.reserved p log = some seq →
    seq = (s.seqs log).length ∧ ∀ q, q ≠ p → s.reserved q log = none

omit [DecidableEq ι] in
variable {s : LogState ι}

lemma LogState.Initial.sequenced (h : s.Initial) : Sequenced s :=
  ⟨h.dense, fun p log seq hseq => by simp [h.reserved] at hseq⟩

lemma range_append_singleton {l : List Nat} (h : l = List.range l.length) :
    l ++ [l.length] = List.range (l ++ [l.length]).length := by
  rw [List.length_append, List.length_singleton, List.range_succ, ← h]

omit [DecidableEq ι] in
lemma Sequenced.release {s' : LogState ι} (h : Sequenced s) (hseqs : s'.seqs = s.seqs)
    (hreserved : ∀ p log, s'.reserved p log = s.reserved p log ∨ s'.reserved p log = none) : Sequenced s' := by
  refine ⟨fun log => by rw [hseqs]; exact h.dense log, fun p log seq hseq => ?_⟩
  have hold : s.reserved p log = some seq := by
    rcases hreserved p log with heq | hnone
    · rwa [← heq]
    · simp [hnone] at hseq
  obtain ⟨hnext, hothers⟩ := h.reserved p log seq hold
  refine ⟨by rw [hseqs]; exact hnext, fun q hq => ?_⟩
  rcases hreserved q log with heq | hnone
  · rw [heq, hothers q hq]
  · exact hnone

lemma Sequenced.reserve (h : Sequenced s) {p : ι} {log : LoopLog}
    {token : Option String} (hcurrent : (LogAct.reserve p log token).Current s) :
    Sequenced (s.setReserved p log (some (s.nextSeq p log))) := by
  obtain ⟨halone, hcache⟩ := hcurrent
  have hnext : s.nextSeq p log = (s.seqs log).length := by
    rcases hcache with hnone | hcounted
    · simp [LogState.nextSeq, hnone]
    · simp [LogState.nextSeq, hcounted]
  refine ⟨h.dense, fun q l seq hseq => ?_⟩
  by_cases hl : l = log
  · subst hl
    -- the only number taken in this log is the new one
    by_cases hq : q = p
    · subst hq
      have hseq' : s.nextSeq q l = seq := by simpa [LogState.setReserved] using hseq
      refine ⟨hseq'.symm.trans hnext, fun r hr => ?_⟩
      simpa [LogState.setReserved, hr] using halone r hr
    · have hnone := halone q hq
      simp [LogState.setReserved, hq, hnone] at hseq
  · have hseq' : s.reserved q l = some seq := by simpa [LogState.setReserved, hl] using hseq
    obtain ⟨hlast, hothers⟩ := h.reserved q l seq hseq'
    exact ⟨hlast, fun r hr => by simpa [LogState.setReserved, hl] using hothers r hr⟩

lemma Sequenced.commit (h : Sequenced s) {p : ι} {log : LoopLog} {seq : Nat}
    (hseq : s.reserved p log = some seq) : Sequenced (s.commit p log seq) := by
  obtain ⟨rfl, halone⟩ := h.reserved p log seq hseq
  refine ⟨fun l => ?_, fun q l k hk => ?_⟩
  · by_cases hl : l = log
    · subst hl
      simpa [LogState.commit] using range_append_singleton (h.dense l)
    · simpa [LogState.commit, hl] using h.dense l
  · by_cases hl : l = log
    · -- no other process had a number in this log
      subst hl
      by_cases hq : q = p
      · simp [LogState.commit, LogState.setReserved, hq] at hk
      · simp [LogState.commit, LogState.setReserved, hq, halone q hq] at hk
    · have hk' : s.reserved q l = some k := by
        simpa [LogState.commit, LogState.setReserved, hl] using hk
      obtain ⟨hlast, hothers⟩ := h.reserved q l k hk'
      refine ⟨by simpa [LogState.commit, hl] using hlast, fun r hr => ?_⟩
      simpa [LogState.commit, LogState.setReserved, hl] using hothers r hr

lemma Sequenced.step {s' : LogState ι} (h : Sequenced s) {a : LogAct ι}
    (hcurrent : a.Current s) (hstep : LogState.step s a = some s') : Sequenced s' := by
  cases a with
  | acquireLock record =>
    simp only [LogState.step, Option.ite_none_right_eq_some, Option.some.injEq] at hstep
    exact hstep.2 ▸ h.release rfl fun p log => .inl rfl
  | releaseLock token =>
    simp only [LogState.step, Option.ite_none_right_eq_some, Option.some.injEq] at hstep
    exact hstep.2 ▸ h.release rfl fun p log => .inl rfl
  | recoverLock =>
    simp only [LogState.step, Option.ite_none_right_eq_some, Option.some.injEq] at hstep
    exact hstep.2 ▸ h.release rfl fun p log => .inl rfl
  | reserve p log token =>
    simp only [LogState.step, Option.ite_none_right_eq_some, Option.some.injEq] at hstep
    exact hstep.2 ▸ h.reserve hcurrent
  | appendLine p log written =>
    simp only [LogState.step] at hstep
    split at hstep
    · simp at hstep
    · next seq hseq =>
      obtain rfl := Option.some.inj hstep
      cases written with
      | true => exact h.commit hseq
      | false =>
        refine h.release rfl fun q l => ?_
        by_cases hq : q = p ∧ l = log
        · exact .inr (by simp [LogState.setReserved, hq])
        · exact .inl (by simp [LogState.setReserved, hq])
  | exit p =>
    obtain rfl := Option.some.inj hstep
    refine h.release rfl fun q l => ?_
    by_cases hq : q = p
    · exact .inr (by simp [LogState.forget, hq])
    · exact .inl (by simp [LogState.forget, hq])

/-- Over every history whose appends take current numbers, the records of every log carry
`0, 1, 2, …` in file order. -/
theorem appended_records_sequenced {s s' : LogState ι} {acts : List (LogAct ι)} (hinit : s.Initial)
    (hrun : Run step (fun s a => a.Current s) s acts s') (log : LoopLog) :
    s'.seqs log = List.range (s'.seqs log).length := by
  have hend : Sequenced s' :=
    hrun.invariant (fun _ _ _ hcurrent h hstep => h.step hcurrent hstep) hinit.sequenced
  exact hend.dense log

/-! ## The lock goes away and comes back -/

/-- A fresh run: the initial event was written in the staging directory. -/
def freshLogs : LogState Bool where
  lock := none
  seqs := fun log => if log = .events then [0] else []
  nextSeqCache := fun _ _ => none
  reserved := fun _ _ => none

lemma initial_freshLogs : freshLogs.Initial where
  dense log := by cases log <;> rfl
  cache _ _ := rfl
  reserved _ _ := rfl

/-- Process `p` acquires the lock, appends one event and releases the lock. -/
def holdAndAppend (p : Bool) (token : String) : List (LogAct Bool) :=
  [.acquireLock { engine := .claude, pid := if p then 1 else 2, hostname := "host", token := token },
    .reserve p .events (some token), .appendLine p .events true, .releaseLock token]

/-- The lock may change hands, as long as nobody comes back. -/
theorem handed_over_sequenced :
    ∃ s, Run step (fun s a => a.Current s) freshLogs
        (holdAndAppend true "a" ++ holdAndAppend false "b") s ∧
      (s.seqs .events).length = 3 ∧
      s.seqs .events = List.range (s.seqs .events).length := by
  obtain ⟨s, hrun, hlength⟩ : ∃ s, Run step (fun s a => a.Current s) freshLogs
      (holdAndAppend true "a" ++ holdAndAppend false "b") s ∧ (s.seqs .events).length = 3 :=
    Run.exists_of_exec _ (by decide +kernel)
  exact ⟨s, hrun, hlength, appended_records_sequenced initial_freshLogs hrun .events⟩

/-- The first process comes back and counts on from where it was. -/
theorem returned_holder_duplicates :
    ¬∀ (s s' : LogState Bool) (acts : List (LogAct Bool)), s.Initial → Run step (fun _ _ => True) s acts s' →
      ∀ log, s'.seqs log = List.range (s'.seqs log).length := by
  intro h
  obtain ⟨s, hrun, hseqs⟩ : ∃ s, Run step (fun _ _ => True) freshLogs
      (holdAndAppend true "a" ++ holdAndAppend false "b" ++ holdAndAppend true "c") s ∧
      s.seqs .events = [0, 1, 2, 2] :=
    Run.exists_of_exec _ (by decide +kernel)
  have hrange := h freshLogs s _ initial_freshLogs hrun .events
  rw [hseqs] at hrange
  exact absurd hrange (by decide)

end AgentPipeline.Loop
