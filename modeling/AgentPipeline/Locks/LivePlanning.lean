import AgentPipeline.Foundation.Exclusive
import AgentPipeline.Foundation.Transition
import AgentPipeline.Locks.PidFile

/-!
# LivePlanning: the live-planning marker

Model of `tryAcquireLivePlanningMarker` and `clearLivePlanningMarker` for one `(repo, issue)`.
`tryExclCreate` links a complete temporary file into place, so it is one atomic create with
content; reads, probes and unlinks are single steps.

The steps are numbered as in the source: claim the missing marker (1), test whether its owner is
alive (2), take the `.cleanup` lock (3), test again, unlink and claim (4); the cleanup lock is
unlinked on every way out of (4).
-/

universe u

namespace AgentPipeline.Locks
namespace LivePlanning

open FileSystem Process LockName

/-! ## States -/

inductive Path where
  | marker
  | cleanup
  deriving DecidableEq, Repr

/-- Where a process is inside a call. The inode arguments name the file that the process created
or looked at; the code itself only knows the path. -/
inductive Pc where
  | idle
  | claim
  | checkRead
  | checkProbe (pid : Nat)
  | lockCleanup
  | cleanupRead
  | cleanupProbe (pid : Nat)
  | cleanupUnlink
  | relockCleanup
  | recheckRead
  | recheckProbe (pid ino : Nat)
  | reclaimUnlink (seen : Option Nat)
  | reclaimCreate
  | leave (won : Option Nat)
  | clearUnlink (ino : Nat)
  deriving DecidableEq, Repr

/-- `held p` is the marker file for which `tryAcquireLivePlanningMarker` returned true to `p` and
which `p` has not cleared. -/
structure State (ι : Type u) where
  fs : Fs Path String
  procs : Table ι
  pc : ι → Pc
  held : ι → Option Nat

inductive Call where
  | tryAcquire
  | clear
  deriving DecidableEq, Repr

inductive Act (ι : Type u) where
  | spawn (p : ι)
  | crash (p : ι)
  | call (p : ι) (c : Call)
  | run (p : ι)
  deriving DecidableEq, Repr

/-! ## One atomic step -/

/-- The PID that both liveness tests find in a file; `none` is garbage. -/
def ownerPid (text : String) : Option Nat :=
  parsePid (JsText.trim text)

variable {ι : Type u} [DecidableEq ι]

def State.goto (s : State ι) (p : ι) (pc : Pc) : State ι :=
  { s with pc := Function.update s.pc p pc }

@[simp] lemma State.goto_pc_self (s : State ι) (p : ι) (pc : Pc) : (s.goto p pc).pc p = pc := by
  simp [State.goto]

@[simp] lemma State.goto_pc_of_ne (s : State ι) {p q : ι} (pc : Pc) (h : q ≠ p) : (s.goto p pc).pc q = s.pc q := by
  simp [State.goto, Function.update_of_ne h]

@[simp] lemma State.goto_held (s : State ι) (p : ι) (pc : Pc) : (s.goto p pc).held = s.held := rfl

@[simp] lemma State.goto_fs (s : State ι) (p : ι) (pc : Pc) : (s.goto p pc).fs = s.fs := rfl

/-- The planner clears the marker it has obtained. -/
def begin (s : State ι) (p : ι) : Call → Option (State ι)
  | .tryAcquire => some (s.goto p .claim)
  | .clear =>
    match s.held p with
    | none => none
    | some i => some { s.goto p (.clearUnlink i) with held := Function.update s.held p none }

def advance (host : Host ι) (s : State ι) (p : ι) : Option (State ι) :=
  let pid := toString (host.pid p)
  match s.pc p with
  | .idle => none
  | .claim =>
    match s.fs.createExclusive .marker pid with
    | none => some (s.goto p .checkRead)
    | some fs =>
      some { s.goto p .idle with
        fs := fs
        held := Function.update s.held p (some s.fs.next) }
  | .checkRead =>
    match (s.fs.read .marker).bind ownerPid with
    | none => some (s.goto p .lockCleanup)
    | some owner => some (s.goto p (.checkProbe owner))
  | .checkProbe owner =>
    match kill0 host s.procs owner with
    | .noSuchProcess => some (s.goto p .lockCleanup)
    | .alive | .invalidPid => some (s.goto p .idle)
  | .lockCleanup =>
    match s.fs.createExclusive .cleanup pid with
    | none => some (s.goto p .cleanupRead)
    | some fs => some { s.goto p .recheckRead with fs := fs }
  | .cleanupRead =>
    match (s.fs.read .cleanup).bind ownerPid with
    | none => some (s.goto p .cleanupUnlink)
    | some owner => some (s.goto p (.cleanupProbe owner))
  | .cleanupProbe owner =>
    match kill0 host s.procs owner with
    | .alive => some (s.goto p .idle)
    -- `isFilePidAlive` swallows every other error
    | .noSuchProcess | .invalidPid => some (s.goto p .cleanupUnlink)
  | .cleanupUnlink => some { s.goto p .relockCleanup with fs := s.fs.unlink .cleanup }
  | .relockCleanup =>
    match s.fs.createExclusive .cleanup pid with
    | none => some (s.goto p .idle)
    | some fs => some { s.goto p .recheckRead with fs := fs }
  | .recheckRead =>
    match s.fs.names .marker with
    | none => some (s.goto p (.reclaimUnlink none))
    | some i =>
      match ownerPid (s.fs.data i) with
      | none => some (s.goto p (.reclaimUnlink (some i)))
      | some owner => some (s.goto p (.recheckProbe owner i))
  | .recheckProbe owner i =>
    match kill0 host s.procs owner with
    | .noSuchProcess => some (s.goto p (.reclaimUnlink (some i)))
    | .alive | .invalidPid => some (s.goto p (.leave none))
  | .reclaimUnlink _ => some { s.goto p .reclaimCreate with fs := s.fs.unlink .marker }
  | .reclaimCreate =>
    match s.fs.createExclusive .marker pid with
    | none => some (s.goto p (.leave none))
    | some fs => some { s.goto p (.leave (some s.fs.next)) with fs := fs }
  | .leave won =>
    -- the `finally` block, and then the return
    match won with
    | none => some { s.goto p .idle with fs := s.fs.unlink .cleanup }
    | some i =>
      some { s.goto p .idle with
        fs := s.fs.unlink .cleanup
        held := Function.update s.held p (some i) }
  | .clearUnlink _ => some { s.goto p .idle with fs := s.fs.unlink .marker }

def step (host : Host ι) (s : State ι) : Act ι → Option (State ι)
  | .spawn p => (s.procs.spawn p).map fun t => { s with procs := t }
  | .crash p => (s.procs.crash p).map fun t => { s with procs := t }
  | .call p c => if p ∈ s.procs.running ∧ s.pc p = .idle then begin s p c else none
  | .run p => if p ∈ s.procs.running then advance host s p else none

/-! ## Properties of states and steps -/

/-- No call has started; the marker and the cleanup lock may be absent or hold anything. -/
structure Initial (s : State ι) : Prop where
  idle : ∀ p, s.pc p = .idle
  free : ∀ p, s.held p = none

/-- At most one live process has obtained the marker and not cleared it. -/
def Safe (s : State ι) : Prop :=
  ∀ p ∈ s.procs.running, ∀ q ∈ s.procs.running, (s.held p).isSome → (s.held q).isSome → p = q

def Act.runner : Act ι → Option ι
  | .run p => some p
  | _ => none

/-- What the re-check of step 4 saw, when the unlink of the marker is the next step. -/
def Pc.reclaiming : Pc → Option (Option Nat)
  | .reclaimUnlink seen => some seen
  | _ => none

/-- The unlink of step 4 finds the marker file that the re-check saw, or no marker at all. -/
def Unswapped (s : State ι) (a : Act ι) : Prop :=
  ∀ p ∈ a.runner, ∀ seen ∈ (s.pc p).reclaiming, ∀ j ∈ s.fs.names .marker, seen = some j

instance (s : State ι) (a : Act ι) : Decidable (Unswapped s a) :=
  inferInstanceAs (Decidable (∀ p ∈ a.runner, ∀ seen ∈ (s.pc p).reclaiming, ∀ j ∈ s.fs.names .marker, seen = some j))

end LivePlanning
end AgentPipeline.Locks
