import AgentPipeline.Foundation.FileSystem
import AgentPipeline.Foundation.Process
import AgentPipeline.Foundation.Transition

/-!
# RunLock: the durable-run lock `lock.json`

Model of `acquireLock`, `releaseLock` and `recoverLock` (with `force = false`) of the loop store,
down to the file-system steps of the production seam:

* `createFileExclusive` opens with `wx` and then writes the record through the descriptor;
* `removeFileIfMatches` renames the record to a private claim path, reads the claim, discards it
  when it is the expected record, and otherwise links it back.

Any number of processes interleave these steps, and a process may be born or die at any point.
The compare-and-delete is not one atomic step: a rename that takes a record other than the one
its caller read displaces that record until the link puts it back, and an exclusive create that
lands in between is never undone. The lock is safe in every run in which no rename does that.
-/

universe u

namespace AgentPipeline.Locks
namespace RunLock

open FileSystem Process

/-! ## Records, paths and process states -/

inductive EngineName where
  | claude
  | codex
  deriving DecidableEq, Repr

/-- `crypto.randomUUID()`: the process that mints a token never mints it again, and no other
process does. -/
structure Token (ι : Type u) where
  minter : ι
  serial : Nat
  deriving DecidableEq, Repr

/-- `LoopLockRecord`, the JSON content of `lock.json`. -/
structure LockRecord (ι : Type u) where
  engine : EngineName
  pid : Nat
  hostname : String
  acquiredAt : String
  token : Token ι
  runId : String
  startTime : Option String
  deriving DecidableEq, Repr

inductive Path (ι : Type u) where
  | lock
  | claim (p : ι)
  deriving DecidableEq, Repr

/-- A file holds a record, or nothing yet between the exclusive create and the write. -/
abbrev Content (ι : Type u) := Option (LockRecord ι)

inductive LockStaleness where
  | notStale
  | staleSameHostDeadPid
  | unverifiableCrossHost
  deriving DecidableEq, Repr

/-- Where a process is inside `acquireLock`, `releaseLock` or `recoverLock`. -/
inductive Pc (ι : Type u) where
  | idle
  | acquireCreate (r : LockRecord ι)
  | acquireWrite (r : LockRecord ι) (ino : Nat)
  | releaseRead (token : Token ι)
  | recoverRead
  | recoverProbe (lock : LockRecord ι)
  | removeRename (expected : LockRecord ι)
  | removeReadClaim (expected : LockRecord ι)
  | removeLinkBack
  | removeUnlinkClaim
  deriving DecidableEq, Repr

/-- The process facts a record is stamped with, and the run the lock belongs to. -/
structure Config (ι : Type u) where
  hostname : ι → String
  pid : ι → Nat
  runId : String

/-- `held p` is the record of a completed `acquireLock` of `p` that it has not yet asked to
release, with the file it wrote. -/
structure State (ι : Type u) where
  fs : Fs (Path ι) (Content ι)
  procs : Table ι
  pc : ι → Pc ι
  held : ι → Option (LockRecord ι × Nat)
  serial : Nat

inductive Call where
  | acquireLock (engine : EngineName) (acquiredAt : String) (startTime : Option String)
  | releaseLock
  | recoverLock
  deriving DecidableEq, Repr

inductive Act (ι : Type u) where
  | spawn (p : ι)
  | crash (p : ι)
  | call (p : ι) (c : Call)
  | run (p : ι)
  deriving DecidableEq, Repr

/-! ## One atomic step -/

variable {ι : Type u} [DecidableEq ι]

namespace Config

def ident (cfg : Config ι) (p : ι) : String × Nat :=
  (cfg.hostname p, cfg.pid p)

end Config

/-- `classifyStaleness`, as process `p` evaluates it on its own host. -/
def classifyStaleness (cfg : Config ι) (t : Table ι) (p : ι) (lock : LockRecord ι) :
    LockStaleness :=
  if lock.hostname ≠ cfg.hostname p then .unverifiableCrossHost
  else if t.probe cfg.ident (cfg.hostname p, lock.pid) then .notStale
  else .staleSameHostDeadPid

def State.goto (s : State ι) (p : ι) (pc : Pc ι) : State ι :=
  { s with pc := Function.update s.pc p pc }

/-- Enter an operation. `acquireLock` stamps its record before it touches the file system;
`releaseLock` gives up the hold when it is called. -/
def begin (cfg : Config ι) (s : State ι) (p : ι) : Call → Option (State ι)
  | .acquireLock engine acquiredAt startTime =>
    let r : LockRecord ι :=
      { engine := engine
        pid := cfg.pid p
        hostname := cfg.hostname p
        acquiredAt := acquiredAt
        token := { minter := p, serial := s.serial }
        runId := cfg.runId
        startTime := startTime }
    some { s.goto p (.acquireCreate r) with serial := s.serial + 1 }
  | .releaseLock =>
    match s.held p with
    | none => none
    | some (r, _) =>
      some { s.goto p (.releaseRead r.token) with held := Function.update s.held p none }
  | .recoverLock => some (s.goto p .recoverRead)

/-- The next file-system step, or liveness probe, of the operation `p` is in. -/
def advance (cfg : Config ι) (s : State ι) (p : ι) : Option (State ι) :=
  match s.pc p with
  | .idle => none
  | .acquireCreate r =>
    match s.fs.createExclusive .lock none with
    | none => some (s.goto p .idle)
    | some fs => some { s.goto p (.acquireWrite r s.fs.next) with fs := fs }
  | .acquireWrite r i =>
    some
      { s.goto p .idle with
        fs := s.fs.write i (some r)
        held := Function.update s.held p (some (r, i)) }
  | .releaseRead token =>
    match s.fs.read .lock with
    | some (some lock) =>
      if lock.token = token then some (s.goto p (.removeRename lock))
      else some (s.goto p .idle)
    | _ => some (s.goto p .idle)
  | .recoverRead =>
    match s.fs.read .lock with
    | some (some lock) => some (s.goto p (.recoverProbe lock))
    | _ => some (s.goto p .idle)
  | .recoverProbe lock =>
    match classifyStaleness cfg s.procs p lock with
    | .staleSameHostDeadPid => some (s.goto p (.removeRename lock))
    | _ => some (s.goto p .idle)
  | .removeRename expected =>
    match s.fs.rename .lock (.claim p) with
    | none => some (s.goto p .idle)
    | some fs => some { s.goto p (.removeReadClaim expected) with fs := fs }
  | .removeReadClaim expected =>
    if s.fs.read (.claim p) = some (some expected) then some (s.goto p .removeUnlinkClaim)
    else some (s.goto p .removeLinkBack)
  | .removeLinkBack =>
    -- `EEXIST`: a newer record landed and is kept
    some
      { s.goto p .removeUnlinkClaim with
        fs := (s.fs.link (.claim p) .lock).getD s.fs }
  | .removeUnlinkClaim =>
    some { s.goto p .idle with fs := s.fs.unlink (.claim p) }

def step (cfg : Config ι) (s : State ι) : Act ι → Option (State ι)
  | .spawn p => (s.procs.spawn p).map fun t => { s with procs := t }
  | .crash p => (s.procs.crash p).map fun t => { s with procs := t }
  | .call p c => if p ∈ s.procs.running ∧ s.pc p = .idle then begin cfg s p c else none
  | .run p => if p ∈ s.procs.running then advance cfg s p else none

/-- No operation has started. `lock.json` may hold the record of an earlier process; its token
is not one that this run still has to mint. -/
structure Initial (s : State ι) : Prop where
  idle : ∀ p, s.pc p = .idle
  free : ∀ p, s.held p = none
  minted : ∀ i r, s.fs.data i = some r → r.token.serial < s.serial

/-- A live holder's record is in `lock.json`, and no other live process holds the lock. -/
def Safe (s : State ι) : Prop :=
  ∀ p ∈ s.procs.running, ∀ r i, s.held p = some (r, i) →
    s.fs.read .lock = some (some r) ∧ ∀ q ∈ s.procs.running, q ≠ p → s.held q = none

def Act.runner : Act ι → Option ι
  | .run p => some p
  | _ => none

/-- The record a process expects at `lock.json` when its next step is the rename. -/
def Pc.renaming : Pc ι → Option (LockRecord ι)
  | .removeRename expected => some expected
  | _ => none

/-- The compare-and-delete's rename finds the record its caller read, or no file at all. -/
def Undisturbed (s : State ι) (a : Act ι) : Prop :=
  ∀ p ∈ a.runner, ∀ expected ∈ (s.pc p).renaming, ∀ c ∈ s.fs.read .lock, c = some expected

instance (s : State ι) (a : Act ι) : Decidable (Undisturbed s a) :=
  inferInstanceAs (Decidable (∀ p ∈ a.runner, ∀ expected ∈ (s.pc p).renaming,
    ∀ c ∈ s.fs.read .lock, c = some expected))

end RunLock
end AgentPipeline.Locks
