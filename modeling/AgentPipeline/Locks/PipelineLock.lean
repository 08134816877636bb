import AgentPipeline.Foundation.Exclusive
import AgentPipeline.Foundation.Transition
import AgentPipeline.Locks.PidFile

/-!
# PipelineLock: the issue-run mutex

Model of `PipelineLock.acquire`, `handleExistingLock`, `removeStale` and `release` for one
`(domain, issue)`, down to single file-system calls:

* `acquire` opens the file with `wx` and then writes the marker through the descriptor;
* `handleExistingLock` reads the file; an unparsable first token is garbage, and a parsed PID is
  probed with signal 0;
* `removeStale` and `release` unlink whatever is at the path by then.

The file is visible without content between the create and the write, and the unlink of a stale
file does not check that the file is still the one that was judged. `Orderly` says that a step
runs into neither.
-/

universe u

namespace AgentPipeline.Locks
namespace PipelineLock

open FileSystem Process LockName

/-! ## States -/

inductive Path where
  | lock
  deriving DecidableEq, Repr

/-- Where a process is inside `acquire` or `release`. The inode arguments name the file that the
process created, read or judged; the code itself only knows the path. -/
inductive Pc where
  | idle
  | create
  | write (ino : Nat)
  | read
  | probe (pid ino : Nat)
  | removeStale (ino : Nat)
  | releaseUnlink (ino : Nat)
  deriving DecidableEq, Repr

/-- `held p` is the file of the successful `acquire` that `p` has not released yet. -/
structure State (ι : Type u) where
  fs : Fs Path String
  procs : Table ι
  pc : ι → Pc
  held : ι → Option Nat

inductive Call where
  | acquire
  | release
  deriving DecidableEq, Repr

inductive Act (ι : Type u) where
  | spawn (p : ι)
  | crash (p : ι)
  | call (p : ι) (c : Call)
  | run (p : ι)
  deriving DecidableEq, Repr

variable {ι : Type u}

/-! ## One atomic step -/

/-- The marker that `acquire` writes: `pid starttime`, or the bare PID when the start time is not
known. -/
def formatProcessIdentityMarker (host : Host ι) (p : ι) : String :=
  match host.startTime p with
  | none => toString (host.pid p)
  | some st => if st ≠ "" then toString (host.pid p) ++ (" " ++ st) else toString (host.pid p)

/-- The PID that `handleExistingLock` finds in the file; `none` is garbage. -/
def holderPid (text : String) : Option Nat :=
  parsePid (JsText.firstToken (JsText.trim text))

variable [DecidableEq ι]

def State.goto (s : State ι) (p : ι) (pc : Pc) : State ι :=
  { s with pc := Function.update s.pc p pc }

section

variable (s : State ι)
include s

@[simp] lemma State.goto_pc_self (p : ι) (pc : Pc) : (s.goto p pc).pc p = pc := by
  simp [State.goto]

@[simp] lemma State.goto_pc_of_ne {p q : ι} (pc : Pc) (h : q ≠ p) : (s.goto p pc).pc q = s.pc q := by
  simp [State.goto, Function.update_of_ne h]

@[simp] lemma State.goto_held (p : ι) (pc : Pc) : (s.goto p pc).held = s.held := rfl

@[simp] lemma State.goto_procs (p : ι) (pc : Pc) : (s.goto p pc).procs = s.procs := rfl

@[simp] lemma State.goto_fs (p : ι) (pc : Pc) : (s.goto p pc).fs = s.fs := rfl

end

def begin (s : State ι) (p : ι) : Call → Option (State ι)
  | .acquire => some (s.goto p .create)
  | .release =>
    -- a second release finds nothing to release
    match s.held p with
    | none => some s
    | some i =>
      some { s.goto p (.releaseUnlink i) with held := Function.update s.held p none }

def advance (host : Host ι) (s : State ι) (p : ι) : Option (State ι) :=
  match s.pc p with
  | .idle => none
  | .create =>
    match s.fs.createExclusive .lock "" with
    | none => some (s.goto p .read)
    | some fs => some { s.goto p (.write s.fs.next) with fs := fs }
  | .write i =>
    some
      { s.goto p .idle with
        fs := s.fs.write i (formatProcessIdentityMarker host p)
        held := Function.update s.held p (some i) }
  | .read =>
    -- the file went away between the create and the read
    match s.fs.names .lock with
    | none => some (s.goto p .create)
    | some i =>
      match holderPid (s.fs.data i) with
      | none => some (s.goto p (.removeStale i))
      | some pid => some (s.goto p (.probe pid i))
  | .probe pid i =>
    match kill0 host s.procs pid with
    | .noSuchProcess => some (s.goto p (.removeStale i))
    -- anything but a proven dead holder refuses the call
    | .alive | .invalidPid => some (s.goto p .idle)
  -- the unlink goes by path: whatever is there by now is removed
  | .removeStale _ => some { s.goto p .create with fs := s.fs.unlink .lock }
  | .releaseUnlink _ => some { s.goto p .idle with fs := s.fs.unlink .lock }

def step (host : Host ι) (s : State ι) : Act ι → Option (State ι)
  | .spawn p => (s.procs.spawn p).map fun t => { s with procs := t }
  | .crash p => (s.procs.crash p).map fun t => { s with procs := t }
  | .call p c => if p ∈ s.procs.running ∧ s.pc p = .idle then begin s p c else none
  | .run p => if p ∈ s.procs.running then advance host s p else none

/-! ## Properties of states and steps -/

/-- No call has started; the lock file may be absent or hold anything. -/
structure Initial (s : State ι) : Prop where
  idle : ∀ p, s.pc p = .idle
  free : ∀ p, s.held p = none

/-- At most one live process is between its `acquire` and its `release`, and the file a `release`
is about to unlink is the one its process created. -/
structure Safe (s : State ι) : Prop where
  exclusive : ∀ p ∈ s.procs.running, ∀ q ∈ s.procs.running, (s.held p).isSome → (s.held q).isSome → p = q
  ownRelease : ∀ p ∈ s.procs.running, ∀ i, s.pc p = .releaseUnlink i → ∀ j ∈ s.fs.names .lock, j = i

def Act.runner : Act ι → Option ι
  | .run p => some p
  | _ => none

/-- The file whose removal is the next step of `removeStale`. -/
def Pc.removing : Pc → Option Nat
  | .removeStale i => some i
  | _ => none

/-- A read does not find a file whose live creator has still to write its marker, and the unlink
of `removeStale` finds the file that was judged stale, or none. -/
def Orderly (s : State ι) (a : Act ι) : Prop :=
  ∀ p ∈ a.runner, (s.pc p = .read → ∀ i ∈ s.fs.names .lock, ∀ q ∈ s.procs.running, s.pc q ≠ .write i) ∧
    ∀ i ∈ (s.pc p).removing, ∀ j ∈ s.fs.names .lock, j = i

instance (s : State ι) (a : Act ι) : Decidable (Orderly s a) :=
  inferInstanceAs (Decidable (∀ p ∈ a.runner,
    (s.pc p = .read → ∀ i ∈ s.fs.names .lock, ∀ q ∈ s.procs.running, s.pc q ≠ .write i) ∧
    ∀ i ∈ (s.pc p).removing, ∀ j ∈ s.fs.names .lock, j = i))

end PipelineLock
end AgentPipeline.Locks
