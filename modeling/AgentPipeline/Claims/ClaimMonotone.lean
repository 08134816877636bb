import AgentPipeline.Claims.ClaimStore

/-!
# ClaimMonotone: when a claim only moves forward

The lock file serialises the compare-and-swap as long as a reclaim unlinks the very lock file it
judged (`Undisturbed`). The invariant follows one claim file:

* the holder of the lock finds its own lock file, empty or with its PID;
* the claim a writer decided on is the current one or one of a smaller revision;
* a writer whose comparison succeeded sees the current claim until its rename.

So a rename replaces exactly the claim it was decided on, and takes the next revision.
-/

universe u

namespace AgentPipeline.Claims

open FileSystem Process Locks LockName Transition

variable {ι : Type u} {host : Host ι} {f : String} {s t : State ι} {p : ι}

/-! ## Monotonicity -/

/-- From `s` to `t` the claim in `f` is kept, or replaced by claims of larger and larger revision
whose lifecycle rank does not fall. -/
def Advances (f : String) (s t : State ι) : Prop :=
  ∀ c, s.claim f = some c → ∃ c', t.claim f = some c' ∧ lifecycleRank c.lifecycle ≤ lifecycleRank c'.lifecycle ∧
    ((t.files f).claim.names () = (s.files f).claim.names () ∧ c' = c ∨ claimRevisionOf c < claimRevisionOf c')

/-- Whoever is about to replace the claim in `f` has decided on the claim that is there now. -/
def UpToDate (f : String) (s : State ι) : Prop :=
  ∀ p ∈ s.procs.running, ∀ w l, s.pc p = .casRename w l → w.task.file = f → s.claim f = some w.expected

def Act.runner : Act ι → Option ι
  | .run p => some p
  | _ => none

/-- The lock file whose removal is the next step of `reclaimStaleClaimLock`. -/
def Pc.reclaiming : Pc → Option (String × Nat)
  | .reclaimUnlink w l => some (w.task.file, l)
  | _ => none

/-- The unlink of a reclaim finds the lock file that was judged stale, or none. -/
def Undisturbed (s : State ι) (a : Act ι) : Prop :=
  ∀ p ∈ a.runner, ∀ fl ∈ (s.pc p).reclaiming, ∀ j ∈ (s.files fl.1).caslock.names (), j = fl.2

instance (s : State ι) (a : Act ι) : Decidable (Undisturbed s a) :=
  inferInstanceAs (Decidable (∀ p ∈ a.runner, ∀ fl ∈ (s.pc p).reclaiming,
    ∀ j ∈ (s.files fl.1).caslock.names (), j = fl.2))

/-- No call has started. Claim and lock files may be absent or hold anything, also the PID of a
process that died inside the lock. -/
structure Initial (host : Host ι) (s : State ι) : Prop where
  idle : ∀ p, s.pc p = .idle
  distinct : ∀ p ∈ s.procs.running, ∀ q ∈ s.procs.running, host.pid p = host.pid q → p = q

lemma Advances.refl (s : State ι) : Advances f s s := fun c hc => ⟨c, hc, Nat.le_refl _, .inl ⟨rfl, rfl⟩⟩

lemma Advances.trans {u : State ι} (h₁ : Advances f s t) (h₂ : Advances f t u) : Advances f s u := by
  intro c hc
  obtain ⟨c₁, hc₁, hrank₁, hrev₁⟩ := h₁ c hc
  obtain ⟨c₂, hc₂, hrank₂, hrev₂⟩ := h₂ c₁ hc₁
  refine ⟨c₂, hc₂, Nat.le_trans hrank₁ hrank₂, ?_⟩
  rcases hrev₁ with ⟨hname₁, rfl⟩ | hlt₁
  · rcases hrev₂ with ⟨hname₂, rfl⟩ | hlt₂
    · exact .inl ⟨hname₂.trans hname₁, rfl⟩
    · exact .inr hlt₂
  · rcases hrev₂ with ⟨_, rfl⟩ | hlt₂
    · exact .inr hlt₁
    · exact .inr (Nat.lt_trans hlt₁ hlt₂)

lemma Advances.of_claim_eq (h : (t.files f).claim = (s.files f).claim) : Advances f s t := by
  intro c hc
  refine ⟨c, ?_, Nat.le_refl _, .inl ⟨by rw [h], rfl⟩⟩
  simpa [State.claim, h] using hc

/-! ## The invariant -/

/-- The lock file a process is inside of. -/
def Pc.locked : Pc → Option (String × Nat)
  | .writeLock w l | .casRead w l | .casRename w l => some (w.task.file, l)
  | .unlock k _ l => some (k.file, l)
  | _ => none

/-- The claim file a process has created and not yet written. -/
def Pc.creating : Pc → Option (String × Nat)
  | .writeClaim k i => some (k.file, i)
  | _ => none

/-- The replacement a process has decided on. -/
def Pc.swap : Pc → Option Swap
  | .openLock w _ | .reclaimRead w | .reclaimProbe w _ _ | .reclaimUnlink w _ | .writeLock w _
  | .casRead w _ | .casRename w _ => some w
  | _ => none

/-- `p` is inside the lock of `f`, with lock file `l`. -/
def Inside (f : String) (s : State ι) (p : ι) (l : Nat) : Prop :=
  (s.pc p).locked = some (f, l)

def Creates (f : String) (s : State ι) (p : ι) (i : Nat) : Prop :=
  (s.pc p).creating = some (f, i)

@[simp] lemma inside_setClaim (g : String) (fs : Fs Unit ClaimText) : Inside f (s.setClaim g fs) = Inside f s := rfl

@[simp] lemma inside_setCaslock (g : String) (fs : Fs Unit String) : Inside f (s.setCaslock g fs) = Inside f s := rfl

@[simp] lemma creates_setClaim (g : String) (fs : Fs Unit ClaimText) : Creates f (s.setClaim g fs) = Creates f s := rfl

@[simp] lemma creates_setCaslock (g : String) (fs : Fs Unit String) : Creates f (s.setCaslock g fs) = Creates f s := rfl

/-- What a process may assume about the lock file of `f` that it suspects. -/
def Judged (host : Host ι) (f : String) (s : State ι) : Pc → Prop
  | .reclaimProbe w holder l => w.task.file = f →
      l < (s.files f).caslock.next ∧ ∀ q ∈ s.procs.running, Inside f s q l → holder = host.pid q
  | .reclaimUnlink w l => w.task.file = f → l < (s.files f).caslock.next ∧ ∀ q ∈ s.procs.running, ¬ Inside f s q l
  | _ => True

/-- The claim `e` was read from `f` at some point. -/
def Seen (f : String) (s : State ι) (e : PersistedOperationObservation) : Prop :=
  ∃ c, s.claim f = some c ∧ (c = e ∨ claimRevisionOf e < claimRevisionOf c)

structure Inv (host : Host ι) (f : String) (s : State ι) : Prop where
  unborn : ∀ p, ¬ s.procs.Born p → s.pc p = .idle
  distinct : ∀ p ∈ s.procs.running, ∀ q ∈ s.procs.running, host.pid p = host.pid q → p = q
  lock : Exclusive (· ∈ s.procs.running) (Inside f s) ((s.files f).caslock.names ())
  stamped : ∀ p ∈ s.procs.running, ∀ l, Inside f s p l →
    (s.files f).caslock.data l = "" ∨ (s.files f).caslock.data l = toString (host.pid p)
  judged : ∀ p, Judged host f s (s.pc p)
  creator : Exclusive (· ∈ s.procs.running) (Creates f s) ((s.files f).claim.names ())
  blank : ∀ p ∈ s.procs.running, ∀ i, Creates f s p i → (s.files f).claim.data i = none
  seen : ∀ p w, (s.pc p).swap = some w → w.task.file = f → Seen f s w.expected
  current : UpToDate f s

lemma Inv.of_initial (h : Initial host s) : Inv host f s where
  unborn := fun p _ => h.idle p
  distinct := h.distinct
  lock :=
    ⟨fun p l _ hl => by simp [Inside, h.idle p, Pc.locked] at hl,
      fun p q l l' _ _ hl => by simp [Inside, h.idle p, Pc.locked] at hl⟩
  stamped := by
    intro p _ l hl
    simp [Inside, h.idle p, Pc.locked] at hl
  judged := by
    intro p
    simp [h.idle p, Judged]
  creator :=
    ⟨fun p i _ hi => by simp [Creates, h.idle p, Pc.creating] at hi,
      fun p q i i' _ _ hi => by simp [Creates, h.idle p, Pc.creating] at hi⟩
  blank := by
    intro p _ i hi
    simp [Creates, h.idle p, Pc.creating] at hi
  seen := by
    intro p w hw
    simp [h.idle p, Pc.swap] at hw
  current := by
    intro p _ w l hp
    simp [h.idle p] at hp

variable {pc : Pc}

lemma Judged.mono (h : Judged host f s pc) (hnext : (s.files f).caslock.next ≤ (t.files f).caslock.next)
    (hin : ∀ q ∈ t.procs.running, ∀ l < (s.files f).caslock.next, Inside f t q l →
      q ∈ s.procs.running ∧ Inside f s q l) : Judged host f t pc := by
  cases pc with
  | reclaimProbe w holder l =>
    intro hf
    obtain ⟨hlt, hholder⟩ := h hf
    refine ⟨Nat.lt_of_lt_of_le hlt hnext, ?_⟩
    intro q hq hl
    rcases hin q hq l hlt hl with ⟨hq', hl'⟩
    exact hholder q hq' hl'
  | reclaimUnlink w l =>
    intro hf
    obtain ⟨hlt, hfree⟩ := h hf
    refine ⟨Nat.lt_of_lt_of_le hlt hnext, ?_⟩
    intro q hq hl
    rcases hin q hq l hlt hl with ⟨hq', hl'⟩
    exact hfree q hq' hl'
  | _ => trivial

/-! ## Processes -/

lemma Inv.withProcs (h : Inv host f s) {procs : Table ι} (hchanges : s.procs.Changes procs)
    (hdistinct : ∀ p ∈ procs.running, ∀ q ∈ procs.running, host.pid p = host.pid q → p = q) :
    Inv host f { s with procs := procs } := by
  have hlive : ∀ q ∈ procs.running, s.pc q ≠ .idle → q ∈ s.procs.running := by
    intro q hq hpc
    rcases (hchanges.running q hq).imp_right (h.unborn q) with hq' | hidle
    · exact hq'
    · exact absurd hidle hpc
  have hin : ∀ q ∈ procs.running, ∀ l, Inside f s q l → q ∈ s.procs.running := by
    intro q hq l hl
    refine hlive q hq ?_
    intro hidle
    simp [Inside, hidle, Pc.locked] at hl
  have hcre : ∀ q ∈ procs.running, ∀ i, Creates f s q i → q ∈ s.procs.running := by
    intro q hq i hi
    refine hlive q hq ?_
    intro hidle
    simp [Creates, hidle, Pc.creating] at hi
  exact
    { unborn := fun p hp => h.unborn p (hchanges.born p hp)
      distinct := hdistinct
      lock := h.lock.mono fun q l hq hl => ⟨hin q hq l hl, hl⟩
      stamped := fun q hq l hl => h.stamped q (hin q hq l hl) l hl
      judged := fun q => (h.judged q).mono (Nat.le_refl _) fun q' hq' l _ hl =>
        ⟨hin q' hq' l hl, hl⟩
      creator := h.creator.mono fun q i hq hi => ⟨hcre q hq i hi, hi⟩
      blank := fun q hq i hi => h.blank q (hcre q hq i hi) i hi
      seen := h.seen
      current := fun q hq w l hpc hf =>
        h.current q (hlive q hq (by simp [show s.pc q = .casRename w l from hpc])) w l hpc hf }

/-! ## A step of one process -/

/-- A step of `p`: the others stay where they are. -/
lemma Inv.move (h : Inv host f s) (hp : p ∈ s.procs.running) (hprocs : t.procs = s.procs)
    (hpc : ∀ q, q ≠ p → t.pc q = s.pc q)
    (hlock : Exclusive (· ∈ s.procs.running) (Inside f t) ((t.files f).caslock.names ()))
    (hstamped : ∀ q ∈ s.procs.running, ∀ l, Inside f t q l →
      (t.files f).caslock.data l = "" ∨ (t.files f).caslock.data l = toString (host.pid q))
    (hnext : (s.files f).caslock.next ≤ (t.files f).caslock.next)
    (hin : ∀ q ∈ s.procs.running, ∀ l < (s.files f).caslock.next, Inside f t q l → Inside f s q l)
    (hjudged : Judged host f s (t.pc p))
    (hcreator : Exclusive (· ∈ s.procs.running) (Creates f t) ((t.files f).claim.names ()))
    (hblank : ∀ q ∈ s.procs.running, ∀ i, Creates f t q i → (t.files f).claim.data i = none)
    (hgrow : ∀ e, Seen f s e → Seen f t e)
    (hseen : ∀ w, (t.pc p).swap = some w → w.task.file = f → Seen f t w.expected)
    (hcurrent : UpToDate f t) : Inv host f t where
  unborn := by
    intro q hq
    have hne : q ≠ p := by
      intro heq
      exact hq (.inl (heq ▸ hprocs ▸ hp))
    rw [hpc q hne]
    exact h.unborn q (hprocs ▸ hq)
  distinct := hprocs ▸ h.distinct
  lock := hprocs ▸ hlock
  stamped := hprocs ▸ hstamped
  judged := by
    intro q
    have hq : Judged host f s (t.pc q) := by
      by_cases hqp : q = p
      · exact hqp ▸ hjudged
      · exact hpc q hqp ▸ h.judged q
    refine hq.mono hnext ?_
    intro q' hq' l hl hl'
    have hq'' : q' ∈ s.procs.running := hprocs ▸ hq'
    exact ⟨hq'', hin q' hq'' l hl hl'⟩
  creator := hprocs ▸ hcreator
  blank := hprocs ▸ hblank
  seen := by
    intro q w hw hf
    by_cases hqp : q = p
    · exact hseen w (hqp ▸ hw) hf
    · exact hgrow _ (h.seen q w (hpc q hqp ▸ hw) hf)
  current := hcurrent

variable {l : Nat}

lemma Pc.file_of_locked (h : pc.locked = some (f, l)) : pc.file = some f := by
  cases pc <;> simp_all [Pc.locked, Pc.file]

variable {i : Nat}

lemma Pc.file_of_creating (h : pc.creating = some (f, i)) : pc.file = some f := by
  cases pc <;> simp_all [Pc.creating, Pc.file]

variable {w : Swap}

lemma Pc.file_of_swap (h : pc.swap = some w) : pc.file = some w.task.file := by
  cases pc <;> simp_all [Pc.swap, Pc.file]

lemma judged_of_file (h : pc.file ≠ some f) : Judged host f s pc := by
  cases pc with
  | reclaimProbe w holder l => exact fun hf => absurd (by simp [Pc.file, hf]) h
  | reclaimUnlink w l => exact fun hf => absurd (by simp [Pc.file, hf]) h
  | _ => trivial

lemma State.claim_of_names (h : (s.files f).claim.names () = some i) :
    s.claim f = readClaimFile ((s.files f).claim.data i) := by
  simp [State.claim, Fs.read, h]

lemma State.claim_of_names_none (h : (s.files f).claim.names () = none) : s.claim f = none := by
  simp [State.claim, Fs.read, h]

/-- A process that works on another file does not disturb `f`. -/
theorem Inv.elsewhere [DecidableEq ι] (h : Inv host f s) (hp : p ∈ s.procs.running) {g : String}
    (hlocal : Local s p g t) (hg : g ≠ f) : Inv host f t := by
  have hfiles : t.files f = s.files f := hlocal.files f (Ne.symm hg)
  have hfile : (t.pc p).file ≠ some f := by
    rcases hlocal.stays with hnone | hsome
    · simp [hnone]
    · simpa [hsome] using hg
  have hclaim : t.claim f = s.claim f := by simp [State.claim, hfiles]
  have hin : ∀ q l, Inside f t q l → Inside f s q l := by
    intro q l hl
    by_cases hq : q = p
    · subst hq
      exact absurd (Pc.file_of_locked hl) hfile
    · simpa [Inside, hlocal.others q hq] using hl
  have hcre : ∀ q i, Creates f t q i → Creates f s q i := by
    intro q i hi
    by_cases hq : q = p
    · subst hq
      exact absurd (Pc.file_of_creating hi) hfile
    · simpa [Creates, hlocal.others q hq] using hi
  refine h.move hp hlocal.procs hlocal.others
    (hfiles ▸ h.lock.mono fun q l hq hl => ⟨hq, hin q l hl⟩)
    (fun q hq l hl => hfiles ▸ h.stamped q hq l (hin q l hl)) (by rw [hfiles])
    (fun q _ l _ hl => hin q l hl) (judged_of_file hfile)
    (hfiles ▸ h.creator.mono fun q i hq hi => ⟨hq, hcre q i hi⟩)
    (fun q hq i hi => hfiles ▸ h.blank q hq i (hcre q i hi))
    (fun e he => by simpa [Seen, hclaim] using he) ?_ ?_
  · intro w hw hf
    exact absurd (hf ▸ Pc.file_of_swap hw) hfile
  · intro q hq w l hpc hf
    by_cases hqp : q = p
    · subst hqp
      exact absurd (by simp [hpc, Pc.file, hf]) hfile
    · rw [hclaim]
      exact h.current q (hlocal.procs ▸ hq) w l (hlocal.others q hqp ▸ hpc) hf

/-! ## Steps that do not touch a file -/

section Steps

variable [DecidableEq ι]

/-- `p` moves without touching a file: it stays inside the lock if it was, and does not start to
create. -/
lemma Inv.goto (h : Inv host f s) (hp : p ∈ s.procs.running)
    (hlocked : ∀ l, pc.locked = some (f, l) → Inside f s p l) (hcreating : pc.creating = none)
    (hjudged : Judged host f s pc) (hseen : ∀ w, pc.swap = some w → w.task.file = f → Seen f s w.expected)
    (hcurrent : ∀ w l, pc = .casRename w l → w.task.file = f → s.claim f = some w.expected) :
    Inv host f (s.goto p pc) := by
  have hin : ∀ q l, Inside f (s.goto p pc) q l → Inside f s q l := by
    intro q l hl
    by_cases hq : q = p
    · subst hq
      exact hlocked l (by simpa [Inside] using hl)
    · simpa [Inside, hq] using hl
  have hcre : ∀ q i, Creates f (s.goto p pc) q i → Creates f s q i := by
    intro q i hi
    by_cases hq : q = p
    · subst hq
      simp [Creates, hcreating] at hi
    · simpa [Creates, hq] using hi
  refine h.move hp rfl (fun q hq => by simp [hq])
    (h.lock.mono fun q l hq hl => ⟨hq, hin q l hl⟩)
    (fun q hq l hl => h.stamped q hq l (hin q l hl)) (Nat.le_refl _)
    (fun q _ l _ hl => hin q l hl) (by simpa using hjudged)
    (h.creator.mono fun q i hq hi => ⟨hq, hcre q i hi⟩)
    (fun q hq i hi => h.blank q hq i (hcre q i hi)) (fun _ he => he)
    (fun w hw hf => hseen w (by simpa using hw) hf) ?_
  intro q hq w l hpc hf
  by_cases hqp : q = p
  · subst hqp
    exact hcurrent w l (by simpa using hpc) hf
  · exact h.current q hq w l (by simpa [hqp] using hpc) hf

/-- `p` leaves the lock, or was not inside, and forgets its decision. -/
lemma Inv.leave (h : Inv host f s) (hp : p ∈ s.procs.running)
    (hlocked : pc.locked = none) (hcreating : pc.creating = none) (hswap : pc.swap = none) :
    Inv host f (s.goto p pc) := by
  refine h.goto hp (fun l hl => by simp [hlocked] at hl) hcreating ?_
    (fun w hw => by simp [hswap] at hw) ?_
  · cases pc with
    | reclaimProbe w holder l => simp [Pc.swap] at hswap
    | reclaimUnlink w l => simp [Pc.swap] at hswap
    | _ => trivial
  · intro w l hpc
    simp [hpc, Pc.swap] at hswap

omit [DecidableEq ι] in
lemma Task.again_locked (k : Task) : k.again.locked = none := by
  unfold Task.again
  split <;> rfl

lemma Inv.again (h : Inv host f s) (hp : p ∈ s.procs.running) (k : Task) : Inv host f (s.goto p k.again) := by
  unfold Task.again
  split
  · exact h.leave hp rfl rfl rfl
  · exact h.leave hp rfl rfl rfl

lemma Inv.keep (h : Inv host f s) (hp : p ∈ s.procs.running)
    (hpc : (s.pc p).swap = some w) (hswap : pc.swap = some w) (hlocked : pc.locked = none)
    (hjudged : Judged host f s pc) : Inv host f (s.goto p pc) := by
  refine h.goto hp (fun l hl => by simp [hlocked] at hl) ?_ hjudged ?_ ?_
  · cases pc <;> simp_all [Pc.swap, Pc.creating]
  · intro w' hw' hf
    have hww : w = w' := by simpa [hswap] using hw'
    exact h.seen p w' (hww ▸ hpc) hf
  · intro w' l hcas
    simp [hcas, Pc.locked] at hlocked

lemma Inv.stay (h : Inv host f s) (hp : p ∈ s.procs.running) {lock : String × Nat}
    (hpc : (s.pc p).locked = some lock) (hlocked : pc.locked = some lock)
    (hswap : ∀ w, pc.swap = some w → (s.pc p).swap = some w)
    (hcurrent : ∀ w l, pc = .casRename w l → w.task.file = f → s.claim f = some w.expected) :
    Inv host f (s.goto p pc) := by
  refine h.goto hp ?_ ?_ ?_ (fun w hw hf => h.seen p w (hswap w hw) hf) hcurrent
  · intro l hl
    rw [hlocked] at hl
    exact hpc.trans hl
  · cases pc <;> simp_all [Pc.locked, Pc.creating]
  · cases pc <;> simp_all [Pc.locked, Judged]

/-! ## Steps on the lock file -/

lemma Inv.enterLock (h : Inv host f s) (hp : p ∈ s.procs.running) {retried : Bool}
    (hpc : s.pc p = .openLock w retried) (hf : w.task.file = f) (hfree : (s.files f).caslock.names () = none) :
    Inv host f ((s.goto p (.writeLock w (s.files f).caslock.next)).setCaslock f
      ((s.files f).caslock.replace () "")) := by
  have hlock : Exclusive (· ∈ s.procs.running) (Inside f s) none := hfree ▸ h.lock
  have hin : ∀ q l, Inside f ((s.goto p (.writeLock w (s.files f).caslock.next)).setCaslock f
      ((s.files f).caslock.replace () "")) q l → q = p ∧ l = (s.files f).caslock.next ∨ Inside f s q l := by
    intro q l hl
    by_cases hq : q = p
    · subst hq
      have hl' : (s.files f).caslock.next = l := by
        have := hl
        simp [Inside, Pc.locked] at this
        exact this.2
      exact .inl ⟨rfl, hl'.symm⟩
    · exact .inr (by simpa [Inside, hq] using hl)
  have hcre : ∀ q i, Creates f ((s.goto p (.writeLock w (s.files f).caslock.next)).setCaslock f
      ((s.files f).caslock.replace () "")) q i → Creates f s q i := by
    intro q i hi
    by_cases hq : q = p
    · subst hq
      simp [Creates, Pc.creating] at hi
    · simpa [Creates, hq] using hi
  refine h.move hp rfl (fun q hq => by simp [hq]) ?_ ?_ (by simp [Fs.replace]) ?_
    (by simp [Judged]) ?_ ?_ ?_ ?_ ?_
  · have hclaim := hlock.claim fun q l hq hl => (hin q l hl).imp_right fun hl' => ⟨hq, hl'⟩
    simpa using hclaim
  · intro q hq l hl
    rcases hin q l hl with ⟨rfl, rfl⟩ | hl'
    · exact .inl (by simp)
    · cases hlock.present q l hq hl'
  · intro q hq l hl hl'
    rcases hin q l hl' with ⟨_, rfl⟩ | hl''
    · exact absurd hl (Nat.lt_irrefl _)
    · exact hl''
  · have hcreator := h.creator.mono fun q i hq hi => ⟨hq, hcre q i hi⟩
    simpa using hcreator
  · intro q hq i hi
    simpa using h.blank q hq i (hcre q i hi)
  · intro e he
    simpa [Seen, State.claim] using he
  · intro w' hw' hf'
    have hww : w = w' := by simpa [Pc.swap] using hw'
    have hseen := h.seen p w (by simp [hpc, Pc.swap]) hf
    simpa [Seen, State.claim, ← hww] using hseen
  · intro q hq w' l hcas hf'
    by_cases hqp : q = p
    · subst hqp
      simp at hcas
    · have hcur := h.current q hq w' l (by simpa [hqp] using hcas) hf'
      simpa [State.claim] using hcur

omit [DecidableEq ι] in
lemma Inv.stampLock (h : Inv host f s) (hp : p ∈ s.procs.running)
    (hl : Inside f s p l) :
    Inv host f (s.setCaslock f ((s.files f).caslock.write l (toString (host.pid p)))) where
  unborn := h.unborn
  distinct := h.distinct
  lock := by simpa using h.lock
  stamped := by
    intro q hq l' hl'
    obtain rfl : q = p := h.lock.single q p l' l hq hp hl' hl
    have hll : l = l' := by
      have hname := h.lock.present q l hp hl
      simpa [hname] using h.lock.present q l' hp hl'
    exact .inr (by simp [hll])
  judged := fun q => (h.judged q).mono (by simp [Fs.write]) fun _ hq' _ _ hl' => ⟨hq', hl'⟩
  creator := by simpa using h.creator
  blank := by simpa using h.blank
  seen := by
    intro q w hw hf
    simpa [Seen, State.claim] using h.seen q w hw hf
  current := by
    intro q hq w l' hcas hf
    simpa [State.claim] using h.current q hq w l' hcas hf

omit [DecidableEq ι] in
lemma Inv.unlinkLock (h : Inv host f s)
    (hfree : ∀ l, (s.files f).caslock.names () = some l → ∀ q ∈ s.procs.running, ¬ Inside f s q l) :
    Inv host f (s.setCaslock f ((s.files f).caslock.unlink ())) where
  unborn := h.unborn
  distinct := h.distinct
  lock := by simpa using h.lock.remove hfree
  stamped := by simpa using h.stamped
  judged := fun q => (h.judged q).mono (by simp [Fs.unlink]) fun _ hq' _ _ hl' => ⟨hq', hl'⟩
  creator := by simpa using h.creator
  blank := by simpa using h.blank
  seen := by
    intro q w hw hf
    simpa [Seen, State.claim] using h.seen q w hw hf
  current := by
    intro q hq w l hcas hf
    simpa [State.claim] using h.current q hq w l hcas hf

lemma Inv.unlock (h : Inv host f s) (hp : p ∈ s.procs.running) (hl : Inside f s p l) (hlocked : pc.locked = none)
    (hleave : Inv host f (s.goto p pc)) : Inv host f ((s.goto p pc).setCaslock f ((s.files f).caslock.unlink ())) := by
  refine hleave.unlinkLock ?_
  intro l' hl' q hq hin
  by_cases hqp : q = p
  · subst hqp
    simp [Inside, hlocked] at hin
  · have hin' : Inside f s q l' := by simpa [Inside, hqp] using hin
    exact hqp (h.lock.single q p l' l hq hp hin' hl)

omit [DecidableEq ι] in
lemma Inv.judged_holder (h : Inv host f s) {holder : Nat} (hname : (s.files f).caslock.names () = some l)
    (hholder : parsePid ((s.files f).caslock.data l) = some holder) : Judged host f s (.reclaimProbe w holder l) := by
  intro _
  refine ⟨(s.files f).caslock.bounded _ _ hname, ?_⟩
  intro q hq hl
  rcases h.stamped q hq l hl with hempty | hpid
  · rw [hempty] at hholder
    -- an empty lock file names nobody, so the reader gave up on it
    have hgarbage : parsePid "" = none := by decide
    simp [hgarbage] at hholder
  · rw [hpid, parsePid_pid] at hholder
    simpa using hholder.symm

omit [DecidableEq ι] in
lemma Inv.judged_stale (h : Inv host f s) (hp : p ∈ s.procs.running) {holder : Nat}
    (hpc : s.pc p = .reclaimProbe w holder l) (hdead : ¬ (holder ≠ host.pid p ∧ kill0 host s.procs holder = .alive)) :
    Judged host f s (.reclaimUnlink w l) := by
  intro hf
  have hjudged : Judged host f s (.reclaimProbe w holder l) := hpc ▸ h.judged p
  refine ⟨(hjudged hf).1, ?_⟩
  intro q hq hl
  have hholder := (hjudged hf).2 q hq hl
  have halive : kill0 host s.procs holder = .alive := hholder ▸ kill0_pid_of_running hq
  -- so the reader itself would be the one inside, but it is reclaiming
  have hself : holder = host.pid p := by
    by_contra hne
    exact hdead ⟨hne, halive⟩
  obtain rfl : q = p := h.distinct q hq p hp (hholder.symm.trans hself)
  simp [Inside, hpc, Pc.locked] at hl

/-! ## Steps on the claim file -/

lemma Inv.enterCreate (h : Inv host f s) (hp : p ∈ s.procs.running) {k : Task}
    (hfree : (s.files f).claim.names () = none) :
    Inv host f ((s.goto p (.writeClaim k (s.files f).claim.next)).setClaim f ((s.files f).claim.replace () none)) := by
  have hcreator : Exclusive (· ∈ s.procs.running) (Creates f s) none := hfree ▸ h.creator
  have hnoclaim : s.claim f = none := State.claim_of_names_none hfree
  have hin : ∀ q l, Inside f ((s.goto p (.writeClaim k (s.files f).claim.next)).setClaim f
      ((s.files f).claim.replace () none)) q l → Inside f s q l := by
    intro q l hl
    by_cases hq : q = p
    · subst hq
      simp [Inside, Pc.locked] at hl
    · simpa [Inside, hq] using hl
  have hcre : ∀ q i, Creates f ((s.goto p (.writeClaim k (s.files f).claim.next)).setClaim f
      ((s.files f).claim.replace () none)) q i → q = p ∧ i = (s.files f).claim.next ∨ Creates f s q i := by
    intro q i hi
    by_cases hq : q = p
    · subst hq
      have hi' : k.file = f ∧ (s.files f).claim.next = i := by simpa [Creates, Pc.creating] using hi
      exact .inl ⟨rfl, hi'.2.symm⟩
    · exact .inr (by simpa [Creates, hq] using hi)
  refine h.move hp rfl (fun q hq => by simp [hq]) ?_ ?_ (by simp) (fun q _ l _ hl => hin q l hl)
    (by simp [Judged]) ?_ ?_ ?_ (by simp [Pc.swap]) ?_
  · have hlock := h.lock.mono fun q l hq hl => ⟨hq, hin q l hl⟩
    simpa using hlock
  · intro q hq l hl
    simpa using h.stamped q hq l (hin q l hl)
  · have hclaim := hcreator.claim fun q i hq hi => (hcre q i hi).imp_right fun hi' => ⟨hq, hi'⟩
    simpa using hclaim
  · intro q hq i hi
    rcases hcre q i hi with ⟨_, rfl⟩ | hi'
    · simp
    · cases hcreator.present q i hq hi'
  · rintro e ⟨c, hc, _⟩
    simp [hnoclaim] at hc
  · intro q hq w l hcas hfile
    by_cases hqp : q = p
    · subst hqp
      simp at hcas
    · have hcur := h.current q hq w l (by simpa [hqp] using hcas) hfile
      simp [hnoclaim] at hcur

omit [DecidableEq ι] in
lemma Inv.fillClaim (h : Inv host f s) {c : PersistedOperationObservation}
    (hname : (s.files f).claim.names () = some i) (hblank : (s.files f).claim.data i = none)
    (hcreators : ∀ q ∈ s.procs.running, ∀ j, ¬ Creates f s q j) :
    Inv host f (s.setClaim f ((s.files f).claim.write i (some c))) := by
  have hnoclaim : s.claim f = none := by
    rw [State.claim_of_names hname, hblank]
    rfl
  exact
    { unborn := h.unborn
      distinct := h.distinct
      lock := by simpa using h.lock
      stamped := by simpa using h.stamped
      judged := fun q => (h.judged q).mono (by simp) fun _ hq' _ _ hl' => ⟨hq', hl'⟩
      creator := by simpa using h.creator
      blank := fun q hq j hj => absurd hj (hcreators q hq j)
      seen := by
        intro q w hw hf
        obtain ⟨c', hc', _⟩ := h.seen q w hw hf
        simp [hnoclaim] at hc'
      current := by
        intro q hq w l hcas hf
        have hcur := h.current q hq w l hcas hf
        simp [hnoclaim] at hcur }

omit [DecidableEq ι] in
lemma State.claim_replace (s : State ι) {c : PersistedOperationObservation}
    (hacc : Acceptable c.toOperationObservation) :
    (s.setClaim f ((s.files f).claim.replace () (some c))).claim f = some c := by
  have hread : readClaimFile (some c) = some c := readClaimFile_eq_some.2 ⟨rfl, hacc⟩
  simp [State.claim, Fs.read, hread]

omit [DecidableEq ι] in
lemma Inv.replaceClaim (h : Inv host f s) (hcurrent : s.claim f = some w.expected)
    (hsolo : ∀ q ∈ s.procs.running, ∀ w' l, s.pc q = .casRename w' l → w'.task.file ≠ f) :
    Inv host f (s.setClaim f ((s.files f).claim.replace () (some w.next))) := by
  have hcreators : ∀ q ∈ s.procs.running, ∀ i, ¬ Creates f s q i := by
    intro q hq i hi
    have hname := h.creator.present q i hq hi
    rw [State.claim_of_names hname, h.blank q hq i hi] at hcurrent
    simp [readClaimFile] at hcurrent
  have hnext := State.claim_replace (f := f) s w.acceptable
  exact
    { unborn := h.unborn
      distinct := h.distinct
      lock := by simpa using h.lock
      stamped := by simpa using h.stamped
      judged := fun q => (h.judged q).mono (by simp) fun _ hq' _ _ hl' => ⟨hq', hl'⟩
      creator :=
        ⟨fun q i hq hi => absurd hi (hcreators q hq i), fun q _ i _ hq _ hi => absurd hi (hcreators q hq i)⟩
      blank := fun q hq i hi => absurd hi (hcreators q hq i)
      seen := by
        intro q w' hw' hf
        obtain ⟨c, hc, hrev⟩ := h.seen q w' hw' hf
        have hce : c = w.expected := by simpa [hcurrent] using hc.symm
        have hnew := w.revision
        refine ⟨w.next, hnext, .inr ?_⟩
        rcases hrev with heq | hlt
        · rw [← heq, hce]
          omega
        · rw [hce] at hlt
          omega
      current := by
        intro q hq w' l hcas hf
        exact absurd hf (hsolo q hq w' l hcas) }

/-! ## Every admitted step -/

omit [DecidableEq ι] in
lemma advances_replace (s : State ι) (hcurrent : s.claim f = some w.expected) :
    Advances f s (s.setClaim f ((s.files f).claim.replace () (some w.next))) := by
  intro c hc
  have hce : w.expected = c := by simpa [hcurrent] using hc
  refine ⟨w.next, State.claim_replace s w.acceptable, hce ▸ w.rank_le, .inr ?_⟩
  rw [w.revision, hce]
  exact Nat.lt_succ_self _

lemma Inv.writeFirst (h : Inv host f s) (hp : p ∈ s.procs.running) {k : Task}
    (hpc : s.pc p = .writeClaim k i) (hf : k.file = f) (c : PersistedOperationObservation) :
    Inv host f ((s.goto p .idle).setClaim f ((s.files f).claim.write i (some c))) ∧ s.claim f = none := by
  have hown : Creates f s p i := by simp [Creates, hpc, Pc.creating, hf]
  have hname := h.creator.present p i hp hown
  have hblank := h.blank p hp i hown
  have hidle : Inv host f (s.goto p .idle) := h.leave hp rfl rfl rfl
  refine ⟨hidle.fillClaim hname hblank ?_, ?_⟩
  · intro q hq j hj
    by_cases hqp : q = p
    · subst hqp
      simp [Creates, Pc.creating] at hj
    · have hj' : Creates f s q j := by simpa [Creates, hqp] using hj
      exact hqp (h.creator.single q p j i hq hp hj' hown)
  · rw [State.claim_of_names hname, hblank]
    rfl

lemma Inv.unlinkStale (h : Inv host f s) (hp : p ∈ s.procs.running)
    (hpc : s.pc p = .reclaimUnlink w l) (hf : w.task.file = f) (hok : Undisturbed s (.run p)) :
    Inv host f ((s.goto p (.openLock w true)).setCaslock f ((s.files f).caslock.unlink ())) := by
  have hjudged : Judged host f s (.reclaimUnlink w l) := hpc ▸ h.judged p
  have hkeep : Inv host f (s.goto p (.openLock w true)) := h.keep hp (by simp [hpc, Pc.swap]) rfl rfl trivial
  refine hkeep.unlinkLock ?_
  intro j hj q hq hin
  -- the file at the name is the one that was judged
  have hjl : j = l := by
    have hreclaims : (s.pc p).reclaiming = some (f, l) := by simp [hpc, Pc.reclaiming, hf]
    exact hok p rfl (f, l) hreclaims j hj
  have hin' : Inside f s q l := by
    by_cases hqp : q = p
    · subst hqp
      simp [Inside, Pc.locked] at hin
    · simpa [Inside, hqp, hjl] using hin
  exact (hjudged hf).2 q hq hin'

omit [DecidableEq ι] in
lemma Inv.claim_of_casEqual (h : Inv host f s) (hswap : (s.pc p).swap = some w)
    (hf : w.task.file = f) (hequal : claimCasEqual (s.claim f) w.expected = true) : s.claim f = some w.expected := by
  obtain ⟨c, hc, hrev⟩ := claimCasEqual_revision hequal
  obtain ⟨c', hc', hcase⟩ := h.seen p w hswap hf
  -- equal revisions rule out that the claim has moved on
  obtain rfl : c = c' := by simpa [hc] using hc'
  rcases hcase with heq | hlt
  · rw [hc, heq]
  · omega

lemma Inv.renameClaim (h : Inv host f s) (hp : p ∈ s.procs.running)
    (hpc : s.pc p = .casRename w l) (hf : w.task.file = f) : Inv host f ((s.goto p (.unlock w.task true l)).setClaim f
      ((s.files f).claim.replace () (some w.next))) := by
  have hown : Inside f s p l := by simp [Inside, hpc, Pc.locked, hf]
  have hmove : Inv host f (s.goto p (.unlock w.task true l)) :=
    h.stay hp (by simp [hpc, Pc.locked]) rfl (by simp [Pc.swap]) (by simp)
  refine hmove.replaceClaim (h.current p hp w l hpc hf) ?_
  intro q hq w' l' hcas hf'
  by_cases hqp : q = p
  · subst hqp
    simp at hcas
  · have hcas' : s.pc q = .casRename w' l' := by simpa [hqp] using hcas
    have hin : Inside f s q l' := by simp [Inside, hcas', Pc.locked, hf']
    exact hqp (h.lock.single q p l' l hq hp hin hown)

/-- A step of a process that works on `f`. -/
lemma Inv.advance_here (h : Inv host f s) (hp : p ∈ s.procs.running)
    (hfile : (s.pc p).file = some f) (hok : Undisturbed s (.run p))
    (hst : Claims.advance host s p = some t) : Inv host f t ∧ Advances f s t := by
  unfold Claims.advance at hst
  cases hpc : s.pc p with
  | idle => simp [hpc, Pc.file] at hfile
  | readClaim k =>
    simp only [hpc] at hst
    have hf : k.file = f := by simpa [hpc, Pc.file] using hfile
    cases hst
    refine ⟨?_, .of_claim_eq rfl⟩
    rw [hf]
    cases hclaim : s.claim f with
    | none => exact h.leave hp rfl rfl rfl
    | some existing =>
      simp only [Task.decide]
      split
      · exact h.leave hp rfl rfl rfl
      · refine h.goto hp (by simp [Pc.locked]) rfl trivial ?_ (by simp)
        intro w hw _
        -- the decision is on the claim that has just been read
        have hexpected : existing = w.expected := by
          have hw' := hw
          simp only [Pc.swap, Option.some.injEq] at hw'
          rw [← hw']
        exact ⟨existing, hclaim, .inl hexpected⟩
  -- no claim file was there, so nothing can go back
  | createClaim k =>
    simp only [hpc] at hst
    obtain rfl : k.file = f := by simpa [hpc, Pc.file] using hfile
    split at hst
    · cases hst
      exact ⟨h.again hp k, .of_claim_eq rfl⟩
    · next fs hfs =>
      cases hst
      obtain ⟨hfree, rfl⟩ := Fs.createExclusive_eq_some hfs
      refine ⟨h.enterCreate hp hfree, ?_⟩
      intro c hc
      simp [State.claim_of_names_none hfree] at hc
  | writeClaim k i =>
    simp only [hpc] at hst
    obtain rfl : k.file = f := by simpa [hpc, Pc.file] using hfile
    cases hst
    obtain ⟨hinv, hnoclaim⟩ := h.writeFirst hp hpc rfl (freshClaim k.obs k.recordedAt 1)
    refine ⟨hinv, ?_⟩
    intro c hc
    simp [hnoclaim] at hc
  | openLock w retried =>
    simp only [hpc] at hst
    obtain rfl : w.task.file = f := by simpa [hpc, Pc.file] using hfile
    split at hst
    · cases hst
      refine ⟨?_, .of_claim_eq rfl⟩
      cases retried with
      | true => exact h.again hp w.task
      | false => exact h.keep hp (by simp [hpc, Pc.swap]) rfl rfl trivial
    · next fs hfs =>
      cases hst
      obtain ⟨hfree, rfl⟩ := Fs.createExclusive_eq_some hfs
      exact ⟨h.enterLock hp hpc rfl hfree, .of_claim_eq (by simp)⟩
  | reclaimRead w =>
    simp only [hpc] at hst
    obtain rfl : w.task.file = f := by simpa [hpc, Pc.file] using hfile
    split at hst
    · cases hst
      exact ⟨h.again hp w.task, .of_claim_eq rfl⟩
    · next l hname =>
      split at hst
      · cases hst
        exact ⟨h.again hp w.task, .of_claim_eq rfl⟩
      · next holder hholder =>
        cases hst
        exact ⟨h.keep hp (by simp [hpc, Pc.swap]) rfl rfl (h.judged_holder hname hholder), .of_claim_eq rfl⟩
  | reclaimProbe w holder l =>
    simp only [hpc] at hst
    split at hst
    · cases hst
      exact ⟨h.again hp w.task, .of_claim_eq rfl⟩
    · next hdead =>
      cases hst
      exact ⟨h.keep hp (by simp [hpc, Pc.swap]) rfl rfl (h.judged_stale hp hpc hdead), .of_claim_eq rfl⟩
  | reclaimUnlink w l =>
    simp only [hpc] at hst
    obtain rfl : w.task.file = f := by simpa [hpc, Pc.file] using hfile
    split at hst
    · cases hst
      exact ⟨h.again hp w.task, .of_claim_eq rfl⟩
    · cases hst
      exact ⟨h.unlinkStale hp hpc rfl hok, .of_claim_eq (by simp)⟩
  | writeLock w l =>
    simp only [hpc] at hst
    obtain rfl : w.task.file = f := by simpa [hpc, Pc.file] using hfile
    cases hst
    have hmove : Inv host w.task.file (s.goto p (.casRead w l)) :=
      h.stay hp (by simp [hpc, Pc.locked]) rfl (by simp [hpc, Pc.swap]) (by simp)
    refine ⟨hmove.stampLock (p := p) (l := l) hp ?_, .of_claim_eq (by simp)⟩
    simp [Inside, Pc.locked]
  | casRead w l =>
    simp only [hpc] at hst
    obtain rfl : w.task.file = f := by simpa [hpc, Pc.file] using hfile
    split at hst
    · next hequal =>
      cases hst
      have hcurrent := h.claim_of_casEqual (p := p) (by simp [hpc, Pc.swap]) rfl hequal
      refine ⟨h.stay hp (by simp [hpc, Pc.locked]) rfl (by simp [hpc, Pc.swap]) ?_, .of_claim_eq rfl⟩
      intro w' l' hpc' _
      obtain ⟨rfl, _⟩ := Pc.casRename.inj hpc'
      exact hcurrent
    · cases hst
      exact ⟨h.stay hp (by simp [hpc, Pc.locked]) rfl (by simp [Pc.swap]) (by simp), .of_claim_eq rfl⟩
  | casRename w l =>
    simp only [hpc] at hst
    obtain rfl : w.task.file = f := by simpa [hpc, Pc.file] using hfile
    cases hst
    exact ⟨h.renameClaim hp hpc rfl, advances_replace (s.goto p (.unlock w.task true l)) (h.current p hp w l hpc rfl)⟩
  | unlock k swapped l =>
    simp only [hpc] at hst
    obtain rfl : k.file = f := by simpa [hpc, Pc.file] using hfile
    cases hst
    have hown : Inside k.file s p l := by simp [Inside, hpc, Pc.locked]
    refine ⟨?_, .of_claim_eq (by simp)⟩
    cases swapped with
    -- after a swap the call is done, otherwise it tries again
    | true => exact h.unlock hp hown rfl (h.leave hp rfl rfl rfl)
    | false => exact h.unlock hp hown k.again_locked (h.again hp k)
  | lastRead k =>
    simp only [hpc] at hst
    cases hst
    exact ⟨h.leave hp rfl rfl rfl, .of_claim_eq rfl⟩

lemma Inv.advance (h : Inv host f s) (hp : p ∈ s.procs.running) (hok : Undisturbed s (.run p))
    (hst : Claims.advance host s p = some t) : Inv host f t ∧ Advances f s t := by
  obtain ⟨g, hg, hlocal⟩ := advance_local hst
  by_cases hgf : g = f
  · exact h.advance_here hp (hgf ▸ hg) hok hst
  · exact ⟨h.elsewhere hp hlocal hgf, .of_claim_eq (by rw [hlocal.files f (Ne.symm hgf)])⟩

lemma Inv.begin (h : Inv host f s) (hp : p ∈ s.procs.running) {toLowerCase : String → String}
    {obs : OperationObservation} {recordedAt : String} (hst : Claims.begin toLowerCase s p obs recordedAt = some t) :
    Inv host f t ∧ Advances f s t := by
  unfold Claims.begin at hst
  split at hst
  · split at hst
    · cases hst
      exact ⟨h.leave hp rfl rfl rfl, .of_claim_eq rfl⟩
    · cases hst
      exact ⟨h, .refl s⟩
  · cases hst

lemma Inv.step (h : Inv host f s) {toLowerCase : String → String} {a : Act ι}
    (hok : Undisturbed s a) (hst : Claims.step toLowerCase host s a = some t) : Inv host f t ∧ Advances f s t := by
  cases a with
  | spawn p =>
    simp only [Claims.step] at hst
    split at hst
    · cases hst
    · next hprobe =>
      obtain ⟨procs, hprocs, rfl⟩ := Option.map_eq_some_iff.1 hst
      have hfresh : ∀ q ∈ s.procs.running, host.pid q ≠ host.pid p := by
        intro q hq heq
        exact hprobe (heq ▸ Table.probe_eq_true_of_running hq)
      refine ⟨h.withProcs (Table.changes_of_spawn hprocs) ?_, .of_claim_eq rfl⟩
      intro q hq q' hq' heq
      rcases Table.mem_running_of_spawn hprocs hq with rfl | hq₁
      · rcases Table.mem_running_of_spawn hprocs hq' with rfl | hq₂
        · rfl
        · exact absurd heq.symm (hfresh q' hq₂)
      · rcases Table.mem_running_of_spawn hprocs hq' with rfl | hq₂
        · exact absurd heq (hfresh q hq₁)
        · exact h.distinct q hq₁ q' hq₂ heq
  | crash p =>
    obtain ⟨procs, hprocs, rfl⟩ := Option.map_eq_some_iff.1 hst
    have hrun : ∀ q ∈ procs.running, q ∈ s.procs.running := fun q hq => Table.mem_running_of_crash hprocs hq
    exact ⟨h.withProcs (Table.changes_of_crash hprocs)
      (fun q hq q' hq' => h.distinct q (hrun q hq) q' (hrun q' hq')), .of_claim_eq rfl⟩
  | persist p obs recordedAt =>
    simp only [Claims.step] at hst
    split at hst
    · next hp => exact h.begin hp.1 hst
    · cases hst
  | run p =>
    simp only [Claims.step] at hst
    split at hst
    · next hp => exact h.advance hp hok hst
    · cases hst

theorem advances_of_undisturbed (toLowerCase : String → String) {s₀ : State ι}
    {as bs : List (Act ι)} (h₀ : Initial host s₀)
    (hpast : Run (Claims.step toLowerCase host) Undisturbed s₀ as s)
    (hrun : Run (Claims.step toLowerCase host) Undisturbed s bs t) (f : String) :
    Advances f s t ∧ UpToDate f t := by
  have hinv : Inv host f s :=
    hpast.invariant (fun _ _ _ hok hs hst => (hs.step hok hst).1) (Inv.of_initial h₀)
  have hadv : Advances f s t :=
    hrun.relation .refl (fun _ _ _ h₁ h₂ => h₁.trans h₂)
      (fun _ _ _ hok hs hst => (Inv.step hs hok hst).1)
      (fun _ _ _ hok hs hst => (Inv.step hs hok hst).2) hinv
  have hlast : Inv host f t :=
    hrun.invariant (fun _ _ _ hok hs hst => (hs.step hok hst).1) hinv
  exact ⟨hadv, hlast.current⟩

end Steps

/-! ## Fixed runs -/

def smallHost : Host (Fin 4) := fourProcesses fun _ => none

/-- The claim of an active operation; process 0 died inside the lock. -/
def diedInLock : State (Fin 4) where
  files := fun _ =>
    { claim := (Fs.empty none).replace () (some (freshClaim (admission "d" "lop-1") "t0" 1))
      caslock := (Fs.empty "").replace () "100" }
  procs := ⟨[1, 2], [0]⟩
  pc := fun _ => .idle

lemma initial_diedInLock : Initial smallHost diedInLock where
  idle := fun _ => rfl
  distinct := by decide

def cooling : OperationObservation :=
  { admission "d" "lop-1" with lifecycle := .cooling, message := "cooling" }

def completed : OperationObservation :=
  { admission "d" "lop-1" with lifecycle := .complete, complete := true, message := "done" }

/-- Process 1 reclaims the lock and replaces the claim. -/
def reclaimRun : List (Act (Fin 4)) :=
  .persist 1 completed "t1" :: List.replicate 10 (.run 1)

theorem advances_of_undisturbed_reclaim :
    ∃ t, Run (Claims.step asciiLower smallHost) Undisturbed diedInLock reclaimRun t ∧
      (t.claim "d_lop-1.json").map claimRevisionOf = some 2 ∧
      Advances "d_lop-1.json" diedInLock t ∧ UpToDate "d_lop-1.json" t := by
  have hrun : ∃ t, Run (Claims.step asciiLower smallHost) Undisturbed diedInLock reclaimRun t ∧
      (t.claim "d_lop-1.json").map claimRevisionOf = some 2 :=
    Run.exists_of_exec _ (by decide +kernel)
  rcases hrun with ⟨t, ht, hrev⟩
  exact ⟨t, ht, hrev, advances_of_undisturbed asciiLower initial_diedInLock (.nil _) ht _⟩

/-- Both processes read the PID of dead process 0 from the lock. Process 1 reclaims the lock and
compares; process 2 unlinks the lock of process 1 and compares too; process 1 completes the
claim. -/
def doubleReclaimRun : List (Act (Fin 4)) :=
  .persist 1 completed "t1" :: List.replicate 4 (.run 1) ++ .persist 2 cooling "t2" :: List.replicate 4 (.run 2) ++
    List.replicate 4 (.run 1) ++ List.replicate 4 (.run 2) ++ [.run 1]

theorem not_advances_doubleReclaimRun :
    ¬ ∀ (s₀ s t : State (Fin 4)) (as bs : List (Act (Fin 4))), Initial smallHost s₀ →
      Run (Claims.step asciiLower smallHost) (fun _ _ => True) s₀ as s →
      Run (Claims.step asciiLower smallHost) (fun _ _ => True) s bs t →
      ∀ f, Advances f s t ∧ UpToDate f t := by
  intro hall
  -- process 2's rename takes the complete claim of revision 2 back to cooling, at revision 2
  have hpast : ∃ s, Run (Claims.step asciiLower smallHost) (fun _ _ => True) diedInLock
      doubleReclaimRun s ∧
      ((s.claim "d_lop-1.json").map fun c => (c.lifecycle, claimRevisionOf c)) = some (.complete, 2) ∧
      (exec (Run.guarded (Claims.step asciiLower smallHost) fun _ _ => True) s [.run 2]).any
        (fun t => decide (((t.claim "d_lop-1.json").map fun c =>
          (c.lifecycle, claimRevisionOf c)) = some (.cooling, 2))) = true :=
    Run.exists_of_exec _ (by decide +kernel)
  rcases hpast with ⟨s, hs, hbefore, hlast⟩
  obtain ⟨t, ht, hafter⟩ := Run.exists_of_exec _ hlast
  obtain ⟨c, hc, hcomplete⟩ := Option.map_eq_some_iff.1 hbefore
  obtain ⟨c', hc', hcooling⟩ := Option.map_eq_some_iff.1 hafter
  obtain ⟨c'', hc'', hrank, _⟩ :=
    (hall _ s t _ _ initial_diedInLock hs ht "d_lop-1.json").1 c hc
  have heq : c'' = c' := by simpa [hc'] using hc''.symm
  have hlife : c.lifecycle = .complete := (Prod.mk.inj hcomplete).1
  have hlife' : c'.lifecycle = .cooling := (Prod.mk.inj hcooling).1
  rw [heq, hlife, hlife'] at hrank
  exact absurd hrank (by decide)

end AgentPipeline.Claims
