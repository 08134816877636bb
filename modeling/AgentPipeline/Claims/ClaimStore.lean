import AgentPipeline.Claims.OperationClaim
import AgentPipeline.Foundation.Exclusive
import AgentPipeline.Foundation.Transition
import AgentPipeline.Locks.PidFile

/-!
# ClaimStore: `persistOperationObservation` in file-system steps

Any number of processes of one host persist observations in one claim directory. Each claim file
comes with its `.caslock` file. A call reads the claim, decides, and then either creates the
missing file exclusively or replaces it inside the lock:

* `withClaimCasLock` creates the lock file and writes the PID of its holder into it; when the
  lock exists it is reclaimed once, by reading the PID, probing it and unlinking the file;
* inside the lock the claim is read again, compared, and replaced by an atomic rename;
* the lock is unlinked by path on every way out.

Whatever fails is tried again, sixteen times in all.
-/

universe u

namespace AgentPipeline.Claims

open FileSystem Process Locks

/-! ## Calls in progress -/

/-- The arguments of a call. The type of an observation fixes `owned` and `schema_version`, and
the call has checked its identity. -/
structure Task where
  file : String
  obs : OperationObservation
  recordedAt : String
  attempt : Nat
  acceptable : Acceptable obs
  deriving DecidableEq, Repr

/-- A decided replacement of the claim `expected`. -/
structure Swap where
  task : Task
  expected : PersistedOperationObservation
  next : PersistedOperationObservation
  rank_le : lifecycleRank expected.lifecycle ≤ lifecycleRank next.lifecycle
  revision : claimRevisionOf next = claimRevisionOf expected + 1
  acceptable : Acceptable next.toOperationObservation
  deriving DecidableEq, Repr

/-- Where a process is inside `persistOperationObservation`. The inode arguments name the files
that it created or looked at; the code itself only knows the paths. -/
inductive Pc where
  | idle
  | readClaim (k : Task)
  | createClaim (k : Task)
  | writeClaim (k : Task) (ino : Nat)
  | openLock (w : Swap) (retried : Bool)
  | reclaimRead (w : Swap)
  | reclaimProbe (w : Swap) (holder lock : Nat)
  | reclaimUnlink (w : Swap) (lock : Nat)
  | writeLock (w : Swap) (lock : Nat)
  | casRead (w : Swap) (lock : Nat)
  | casRename (w : Swap) (lock : Nat)
  | unlock (k : Task) (swapped : Bool) (lock : Nat)
  | lastRead (k : Task)
  deriving DecidableEq, Repr

/-- A claim file and its lock file. -/
structure ClaimFile where
  claim : Fs Unit ClaimText
  caslock : Fs Unit String

structure State (ι : Type u) where
  files : String → ClaimFile
  procs : Table ι
  pc : ι → Pc

inductive Act (ι : Type u) where
  | spawn (p : ι)
  | crash (p : ι)
  | persist (p : ι) (obs : OperationObservation) (recordedAt : String)
  | run (p : ι)
  deriving DecidableEq, Repr

/-- The claim that a reader of `file` finds. -/
def State.claim {ι : Type u} (s : State ι) (file : String) : Option PersistedOperationObservation :=
  ((s.files file).claim.read ()).bind readClaimFile

/-! ## One atomic step -/

def claimCasAttempts : Nat := 16

/-- The compare-and-swap returned false. -/
def Task.again (k : Task) : Pc :=
  if k.attempt + 1 < claimCasAttempts then .readClaim { k with attempt := k.attempt + 1 }
  else .lastRead k

/-- What follows the read at the head of the loop. -/
def Task.decide (k : Task) : Option PersistedOperationObservation → Pc
  | none => .createClaim k
  | some existing =>
    -- `decideNextClaim` returned the claim that is there: the call is over
    match h : decideNextClaim (some existing) k.obs k.recordedAt with
    | none => .idle
    | some next =>
      have hnext := decideNextClaim_some k.acceptable h
      .openLock
        { task := k
          expected := existing
          next := next
          rank_le := hnext.1
          revision := hnext.2.1
          acceptable := hnext.2.2 }
        false

/-- The fields whose value the type of an observation fixes. -/
def Typed (obs : OperationObservation) : Prop :=
  obs.owned = true ∧ obs.schemaVersion = 1 ∧ obs.humanOwned = false ∧ obs.cancelled = false ∧
    obs.processExitIsCompletion = false

instance (obs : OperationObservation) : Decidable (Typed obs) :=
  inferInstanceAs (Decidable (_ ∧ _))

lemma acceptable_of_admitted {obs : OperationObservation} (htyped : Typed obs)
    (hadmitted : Admitted obs.domain obs.logicalOperationId) : Acceptable obs where
  owned := htyped.1
  schema := htyped.2.1
  domain := by
    intro hempty
    have hblank := hadmitted.1
    simp [hempty, JsText.nonBlank, JsText.trim, JsText.trimStart, JsText.trimEnd] at hblank
  identity := hadmitted.2

variable {ι : Type u}

def State.setClaim (s : State ι) (file : String) (fs : Fs Unit ClaimText) : State ι :=
  { s with files := Function.update s.files file { s.files file with claim := fs } }

def State.setCaslock (s : State ι) (file : String) (fs : Fs Unit String) : State ι :=
  { s with files := Function.update s.files file { s.files file with caslock := fs } }

section

variable (s : State ι)
include s

@[simp] lemma State.setClaim_files (file : String) (fs : Fs Unit ClaimText) :
    (s.setClaim file fs).files file = { s.files file with claim := fs } := by
  simp [State.setClaim]

@[simp] lemma State.setClaim_files_of_ne {file other : String}
    (fs : Fs Unit ClaimText) (h : other ≠ file) : (s.setClaim file fs).files other = s.files other := by
  simp [State.setClaim, Function.update_of_ne h]

@[simp] lemma State.setClaim_pc (file : String) (fs : Fs Unit ClaimText) : (s.setClaim file fs).pc = s.pc := rfl

@[simp] lemma State.setClaim_procs (file : String) (fs : Fs Unit ClaimText) :
    (s.setClaim file fs).procs = s.procs := rfl

@[simp] lemma State.setCaslock_files (file : String) (fs : Fs Unit String) :
    (s.setCaslock file fs).files file = { s.files file with caslock := fs } := by
  simp [State.setCaslock]

@[simp] lemma State.setCaslock_files_of_ne {file other : String}
    (fs : Fs Unit String) (h : other ≠ file) : (s.setCaslock file fs).files other = s.files other := by
  simp [State.setCaslock, Function.update_of_ne h]

@[simp] lemma State.setCaslock_pc (file : String) (fs : Fs Unit String) : (s.setCaslock file fs).pc = s.pc := rfl

@[simp] lemma State.setCaslock_procs (file : String) (fs : Fs Unit String) :
    (s.setCaslock file fs).procs = s.procs := rfl

end

variable [DecidableEq ι]

def State.goto (s : State ι) (p : ι) (pc : Pc) : State ι :=
  { s with pc := Function.update s.pc p pc }

@[simp] lemma State.goto_pc_self (s : State ι) (p : ι) (pc : Pc) : (s.goto p pc).pc p = pc := by
  simp [State.goto]

@[simp] lemma State.goto_pc_of_ne (s : State ι) {p q : ι} (pc : Pc) (h : q ≠ p) : (s.goto p pc).pc q = s.pc q := by
  simp [State.goto, Function.update_of_ne h]

@[simp] lemma State.goto_files (s : State ι) (p : ι) (pc : Pc) : (s.goto p pc).files = s.files := rfl

@[simp] lemma State.goto_procs (s : State ι) (p : ι) (pc : Pc) : (s.goto p pc).procs = s.procs := rfl

/-- Enter a call; an identity that is not admitted makes it throw. -/
def begin (toLowerCase : String → String) (s : State ι) (p : ι) (obs : OperationObservation)
    (recordedAt : String) : Option (State ι) :=
  if htyped : Typed obs then
    if hadmitted : Admitted obs.domain obs.logicalOperationId then
      some
        (s.goto p
          (.readClaim
            { file := claimFileName toLowerCase obs.domain obs.logicalOperationId
              obs := obs
              recordedAt := recordedAt
              attempt := 0
              acceptable := acceptable_of_admitted htyped hadmitted }))
    else some s
  else none

def advance (host : Host ι) (s : State ι) (p : ι) : Option (State ι) :=
  match s.pc p with
  | .idle => none
  | .readClaim k => some (s.goto p (k.decide (s.claim k.file)))
  | .createClaim k =>
    match (s.files k.file).claim.createExclusive () none with
    | none => some (s.goto p k.again)
    | some fs =>
      some ((s.goto p (.writeClaim k (s.files k.file).claim.next)).setClaim k.file fs)
  | .writeClaim k i =>
    some
      ((s.goto p .idle).setClaim k.file
        ((s.files k.file).claim.write i (some (freshClaim k.obs k.recordedAt 1))))
  | .openLock w retried =>
    match (s.files w.task.file).caslock.createExclusive () "" with
    | none => some (s.goto p (if retried then w.task.again else .reclaimRead w))
    | some fs =>
      some ((s.goto p (.writeLock w (s.files w.task.file).caslock.next)).setCaslock
        w.task.file fs)
  | .reclaimRead w =>
    match (s.files w.task.file).caslock.names () with
    | none => some (s.goto p w.task.again)
    | some l =>
      match parsePid ((s.files w.task.file).caslock.data l) with
      -- a lock file without a readable PID is left to its owner
      | none => some (s.goto p w.task.again)
      | some holder => some (s.goto p (.reclaimProbe w holder l))
  | .reclaimProbe w holder l =>
    -- a lock of the process itself is a leftover, though the PID is alive
    if holder ≠ host.pid p ∧ kill0 host s.procs holder = .alive then some (s.goto p w.task.again)
    else some (s.goto p (.reclaimUnlink w l))
  | .reclaimUnlink w _ =>
    match (s.files w.task.file).caslock.names () with
    | none => some (s.goto p w.task.again)
    | some _ =>
      some ((s.goto p (.openLock w true)).setCaslock w.task.file
        ((s.files w.task.file).caslock.unlink ()))
  | .writeLock w l =>
    some ((s.goto p (.casRead w l)).setCaslock w.task.file
      ((s.files w.task.file).caslock.write l (toString (host.pid p))))
  | .casRead w l =>
    if claimCasEqual (s.claim w.task.file) w.expected then some (s.goto p (.casRename w l))
    else some (s.goto p (.unlock w.task false l))
  | .casRename w l =>
    some ((s.goto p (.unlock w.task true l)).setClaim w.task.file
      ((s.files w.task.file).claim.replace () (some w.next)))
  | .unlock k swapped _ =>
    some ((s.goto p (if swapped then .idle else k.again)).setCaslock k.file
      ((s.files k.file).caslock.unlink ()))
  | .lastRead _ => some (s.goto p .idle)

/-- Two running processes never carry the same PID. -/
def step (toLowerCase : String → String) (host : Host ι) (s : State ι) : Act ι → Option (State ι)
  | .spawn p =>
    if s.procs.probe host.pid (host.pid p) then none
    else (s.procs.spawn p).map fun t => { s with procs := t }
  | .crash p => (s.procs.crash p).map fun t => { s with procs := t }
  | .persist p obs recordedAt =>
    if p ∈ s.procs.running ∧ s.pc p = .idle then begin toLowerCase s p obs recordedAt else none
  | .run p => if p ∈ s.procs.running then advance host s p else none

/-! ## Locality -/

/-- The claim file a process works on. -/
def Pc.file : Pc → Option String
  | .idle => none
  | .readClaim k | .createClaim k | .writeClaim k _ | .unlock k _ _ | .lastRead k => some k.file
  | .openLock w _ | .reclaimRead w | .reclaimProbe w _ _ | .reclaimUnlink w _ | .writeLock w _
  | .casRead w _ | .casRename w _ => some w.task.file

lemma Task.again_file (k : Task) : k.again.file = some k.file := by
  unfold Task.again
  split <;> rfl

lemma Task.decide_file (k : Task) (existing : Option PersistedOperationObservation) :
    (k.decide existing).file = none ∨ (k.decide existing).file = some k.file := by
  unfold Task.decide
  split
  · exact .inr rfl
  · split
    · exact .inl rfl
    · exact .inr rfl

/-- A step of `p` touches the file `p` works on and no other, and `p` stays with that file. -/
structure Local (s : State ι) (p : ι) (file : String) (t : State ι) : Prop where
  files : ∀ other, other ≠ file → t.files other = s.files other
  procs : t.procs = s.procs
  others : ∀ q, q ≠ p → t.pc q = s.pc q
  stays : (t.pc p).file = none ∨ (t.pc p).file = some file

lemma Local.goto {s : State ι} {p : ι} {file : String} {pc : Pc}
    (h : pc.file = none ∨ pc.file = some file) : Local s p file (s.goto p pc) where
  files := fun _ _ => rfl
  procs := rfl
  others := fun q hq => by simp [hq]
  stays := by simpa using h

omit [DecidableEq ι] in
lemma Local.setClaim {s t : State ι} {p : ι} {file : String} (h : Local s p file t)
    (fs : Fs Unit ClaimText) : Local s p file (t.setClaim file fs) where
  files := fun other ho => by simpa [ho] using h.files other ho
  procs := h.procs
  others := h.others
  stays := h.stays

omit [DecidableEq ι] in
lemma Local.setCaslock {s t : State ι} {p : ι} {file : String} (h : Local s p file t)
    (fs : Fs Unit String) : Local s p file (t.setCaslock file fs) where
  files := fun other ho => by simpa [ho] using h.files other ho
  procs := h.procs
  others := h.others
  stays := h.stays

lemma advance_local {host : Host ι} {s t : State ι} {p : ι}
    (h : advance host s p = some t) : ∃ file, (s.pc p).file = some file ∧ Local s p file t := by
  unfold advance at h
  cases hpc : s.pc p with
  | idle => simp [hpc] at h
  | readClaim k =>
    simp only [hpc] at h
    cases h
    exact ⟨k.file, rfl, .goto (k.decide_file _)⟩
  | createClaim k =>
    simp only [hpc] at h
    refine ⟨k.file, rfl, ?_⟩
    split at h
    · cases h
      exact .goto (.inr k.again_file)
    · cases h
      exact (Local.goto (.inr rfl)).setClaim _
  | writeClaim k i =>
    simp only [hpc] at h
    cases h
    exact ⟨k.file, rfl, (Local.goto (.inl rfl)).setClaim _⟩
  | openLock w retried =>
    simp only [hpc] at h
    refine ⟨w.task.file, rfl, ?_⟩
    split at h
    · cases h
      cases retried with
      | true => exact .goto (.inr w.task.again_file)
      | false => exact .goto (.inr rfl)
    · cases h
      exact (Local.goto (.inr rfl)).setCaslock _
  | reclaimRead w =>
    simp only [hpc] at h
    refine ⟨w.task.file, rfl, ?_⟩
    split at h
    · cases h
      exact .goto (.inr w.task.again_file)
    · split at h
      · cases h
        exact .goto (.inr w.task.again_file)
      · cases h
        exact .goto (.inr rfl)
  | reclaimProbe w holder l =>
    simp only [hpc] at h
    refine ⟨w.task.file, rfl, ?_⟩
    split at h
    · cases h
      exact .goto (.inr w.task.again_file)
    · cases h
      exact .goto (.inr rfl)
  | reclaimUnlink w l =>
    simp only [hpc] at h
    refine ⟨w.task.file, rfl, ?_⟩
    split at h
    · cases h
      exact .goto (.inr w.task.again_file)
    · cases h
      exact (Local.goto (.inr rfl)).setCaslock _
  | writeLock w l =>
    simp only [hpc] at h
    cases h
    exact ⟨w.task.file, rfl, (Local.goto (.inr rfl)).setCaslock _⟩
  | casRead w l =>
    simp only [hpc] at h
    refine ⟨w.task.file, rfl, ?_⟩
    split at h
    · cases h
      exact .goto (.inr rfl)
    · cases h
      exact .goto (.inr rfl)
  | casRename w l =>
    simp only [hpc] at h
    cases h
    exact ⟨w.task.file, rfl, (Local.goto (.inr rfl)).setClaim _⟩
  | unlock k swapped l =>
    simp only [hpc] at h
    cases h
    refine ⟨k.file, rfl, Local.setCaslock ?_ _⟩
    cases swapped with
    | true => exact .goto (.inl rfl)
    | false => exact .goto (.inr k.again_file)
  | lastRead k =>
    simp only [hpc] at h
    cases h
    exact ⟨k.file, rfl, .goto (.inl rfl)⟩

end AgentPipeline.Claims
