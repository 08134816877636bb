import AgentPipeline.Locks.PipelineLock

/-!
# PipelineLockSafety: when the issue-run mutex excludes

A live process occupies the lock file from its exclusive create until its `release` has unlinked
it. The invariant says that a live occupant finds its own file at the path, that the marker in
it is readable once `acquire` has returned, and that no file under suspicion (`probe`,
`removeStale`) is occupied by a live process other than the one whose PID was read.
-/

universe u

namespace AgentPipeline.Locks
namespace PipelineLock

open FileSystem Process LockName Transition

variable {ι : Type u} {host : Host ι} {s t : State ι} {p : ι}

/-! ## The marker is read back -/

lemma holderPid_marker (host : Host ι) (p : ι) :
    holderPid (formatProcessIdentityMarker host p) = some (host.pid p) := by
  have hbare : JsText.firstToken (JsText.trim (toString (host.pid p))) = toString (host.pid p) := by
    simpa using JsText.firstToken_trim_numeral (host.pid p) "" (by simp)
  have hstamped : ∀ st : String, JsText.firstToken (JsText.trim (toString (host.pid p) ++ (" " ++ st))) =
        toString (host.pid p) := by
    intro st
    refine JsText.firstToken_trim_numeral (host.pid p) (" " ++ st) ?_
    intro c hc
    obtain rfl : ' ' = c := by simpa using hc
    decide
  unfold holderPid formatProcessIdentityMarker
  cases host.startTime p with
  | none => rw [hbare, parsePid_pid]
  | some st =>
    by_cases hst : st ≠ ""
    · simp only [if_pos hst, hstamped, parsePid_pid]
    · simp only [if_neg hst, hbare, parsePid_pid]

/-! ## The invariant -/

/-- The file a process occupies because of the call it is in. -/
def Pc.occupied : Pc → Option Nat
  | .write i | .releaseUnlink i => some i
  | _ => none

/-- `p` relies on inode `i` staying at the lock path. -/
def Occupies (s : State ι) (p : ι) (i : Nat) : Prop :=
  s.held p = some i ∨ (s.pc p).occupied = some i

/-- What a process may assume about the file it suspects. -/
def Judged (host : Host ι) (s : State ι) : Pc → Prop
  | .probe pid i => i < s.fs.next ∧ ∀ q ∈ s.procs.running, Occupies s q i → pid = host.pid q
  | .removeStale i => i < s.fs.next ∧ ∀ q ∈ s.procs.running, ¬ Occupies s q i
  | _ => True

structure Inv (host : Host ι) (s : State ι) : Prop where
  unborn : ∀ p, ¬ s.procs.Born p → s.pc p = .idle ∧ s.held p = none
  lock : Exclusive (· ∈ s.procs.running) (Occupies s) (s.fs.names .lock)
  marked : ∀ p ∈ s.procs.running, ∀ i, s.held p = some i ∨ s.pc p = .releaseUnlink i →
    s.fs.data i = formatProcessIdentityMarker host p
  judged : ∀ p, Judged host s (s.pc p)
  releasing : ∀ p i, s.pc p = .releaseUnlink i → s.held p = none

lemma Inv.of_initial (h : Initial s) : Inv host s where
  unborn := fun p _ => ⟨h.idle p, h.free p⟩
  lock := by
    have hnone : ∀ p i, ¬ Occupies s p i := by
      intro p i ho
      simp [Occupies, h.idle p, h.free p, Pc.occupied] at ho
    exact ⟨fun p i _ ho => absurd ho (hnone p i), fun p _ i _ _ _ ho _ => absurd ho (hnone p i)⟩
  marked := by
    intro p _ i hi
    simp [h.idle p, h.free p] at hi
  judged := by
    intro p
    simp [h.idle p, Judged]
  releasing := fun p _ _ => h.free p

lemma Inv.safe (h : Inv host s) : Safe s where
  exclusive := by
    intro p hp q hq hp' hq'
    obtain ⟨i, hi⟩ := Option.isSome_iff_exists.1 hp'
    obtain ⟨j, hj⟩ := Option.isSome_iff_exists.1 hq'
    exact h.lock.single p q i j hp hq (.inl hi) (.inl hj)
  ownRelease := by
    intro p hp i hi j hj
    -- a releasing process still occupies its file, so it is at the path
    have hname := h.lock.present p i hp (.inr (by simp [hi, Pc.occupied]))
    have hj' : s.fs.names .lock = some j := hj
    simpa [hname] using hj'.symm

lemma Judged.mono {pc : Pc} (h : Judged host s pc) (hnext : s.fs.next ≤ t.fs.next)
    (hocc : ∀ q ∈ t.procs.running, ∀ i < s.fs.next, Occupies t q i →
      q ∈ s.procs.running ∧ Occupies s q i) : Judged host t pc := by
  cases pc with
  | probe pid i =>
    refine ⟨Nat.lt_of_lt_of_le h.1 hnext, ?_⟩
    intro q hq ho
    rcases hocc q hq i h.1 ho with ⟨hq', ho'⟩
    exact h.2 q hq' ho'
  | removeStale i =>
    refine ⟨Nat.lt_of_lt_of_le h.1 hnext, ?_⟩
    intro q hq ho
    rcases hocc q hq i h.1 ho with ⟨hq', ho'⟩
    exact h.2 q hq' ho'
  | _ => trivial

/-! ## Frame lemmas -/

lemma Inv.withProcs (h : Inv host s) {procs : Table ι} (hchanges : s.procs.Changes procs) :
    Inv host { s with procs := procs } := by
  have hocc : ∀ q ∈ procs.running, ∀ i, Occupies s q i → q ∈ s.procs.running := by
    intro q hq i ho
    rcases (hchanges.running q hq).imp_right (h.unborn q) with hq' | ⟨hpc, hheld⟩
    · exact hq'
    · simp [Occupies, hpc, hheld, Pc.occupied] at ho
  refine
    { unborn := fun p hp => h.unborn p (hchanges.born p hp)
      lock := h.lock.mono fun q i hq ho => ⟨hocc q hq i ho, ho⟩
      marked := ?_
      judged := ?_
      releasing := h.releasing }
  · intro q hq i hi
    refine h.marked q (hocc q hq i ?_) i hi
    rcases hi with hheld | hpc
    · exact .inl hheld
    · have hpc' : s.pc q = .releaseUnlink i := hpc
      exact .inr (by simp [hpc', Pc.occupied])
  · intro q
    exact (h.judged q).mono (Nat.le_refl _) fun q' hq' i _ ho => ⟨hocc q' hq' i ho, ho⟩

/-- A step of `p`: the others stay where they are, so only the file and `p` itself have to be
looked at. -/
lemma Inv.move (h : Inv host s) (hp : p ∈ s.procs.running) (hprocs : t.procs = s.procs)
    (hpc : ∀ q, q ≠ p → t.pc q = s.pc q) (hheld : ∀ q, q ≠ p → t.held q = s.held q)
    (hlock : Exclusive (· ∈ s.procs.running) (Occupies t) (t.fs.names .lock))
    (hmarked : ∀ q ∈ s.procs.running, ∀ i, t.held q = some i ∨ t.pc q = .releaseUnlink i →
      t.fs.data i = formatProcessIdentityMarker host q)
    (hnext : s.fs.next ≤ t.fs.next)
    (hocc : ∀ q ∈ s.procs.running, ∀ i < s.fs.next, Occupies t q i → Occupies s q i)
    (hjudged : Judged host s (t.pc p))
    (hreleasing : ∀ i, t.pc p = .releaseUnlink i → t.held p = none) : Inv host t where
  unborn := by
    intro q hq
    have hne : q ≠ p := by
      intro heq
      exact hq (.inl (heq ▸ hprocs ▸ hp))
    rw [hpc q hne, hheld q hne]
    exact h.unborn q (hprocs ▸ hq)
  lock := hprocs ▸ hlock
  marked := hprocs ▸ hmarked
  judged := by
    intro q
    have hq : Judged host s (t.pc q) := by
      by_cases hqp : q = p
      · exact hqp ▸ hjudged
      · exact hpc q hqp ▸ h.judged q
    refine hq.mono hnext ?_
    intro q' hq' i hi ho
    have hq'' : q' ∈ s.procs.running := hprocs ▸ hq'
    exact ⟨hq'', hocc q' hq'' i hi ho⟩
  releasing := by
    intro q i hq
    by_cases hqp : q = p
    · subst hqp
      exact hreleasing i hq
    · rw [hheld q hqp]
      exact h.releasing q i (hpc q hqp ▸ hq)

variable [DecidableEq ι] {i : Nat}

lemma occupies_of_goto {q : ι} {pc : Pc} (hpc : pc.occupied = none)
    (ho : Occupies (s.goto p pc) q i) : Occupies s q i := by
  by_cases hq : q = p
  · subst hq
    exact .inl (by simpa [Occupies, hpc] using ho)
  · simpa [Occupies, hq] using ho

lemma Inv.goto (h : Inv host s) (hp : p ∈ s.procs.running) {pc : Pc}
    (hpc : pc.occupied = none) (hjudged : Judged host s pc) : Inv host (s.goto p pc) := by
  have hplain : ∀ i, pc ≠ .releaseUnlink i := by
    intro i hi
    simp [hi, Pc.occupied] at hpc
  refine h.move hp rfl (fun q hq => by simp [hq]) (fun _ _ => rfl)
    (h.lock.mono fun q i hq ho => ⟨hq, occupies_of_goto hpc ho⟩) ?_ (Nat.le_refl _)
    (fun q _ i _ ho => occupies_of_goto hpc ho) (by simpa using hjudged) ?_
  · intro q hq i hi
    by_cases hqp : q = p
    · subst hqp
      exact h.marked q hq i (.inl (by simpa [hplain i] using hi))
    · exact h.marked q hq i (by simpa [hqp] using hi)
  · intro i hi
    exact absurd (by simpa using hi) (hplain i)

/-! ## Steps that touch the file -/

omit [DecidableEq ι] in
lemma Inv.unlink (h : Inv host s) (hfree : ∀ i, s.fs.names .lock = some i → ∀ q ∈ s.procs.running, ¬ Occupies s q i) :
    Inv host { s with fs := s.fs.unlink .lock } where
  unborn := h.unborn
  lock := h.lock.remove hfree
  marked := h.marked
  judged := fun q => (h.judged q).mono (Nat.le_refl _) fun _ hq' _ _ ho => ⟨hq', ho⟩
  releasing := h.releasing

lemma Inv.create (h : Inv host s) (hp : p ∈ s.procs.running) (hfree : s.fs.names .lock = none) :
    Inv host { s.goto p (.write s.fs.next) with fs := s.fs.replace .lock "" } := by
  have hlock : Exclusive (· ∈ s.procs.running) (Occupies s) none := hfree ▸ h.lock
  have hocc : ∀ q i, Occupies { s.goto p (.write s.fs.next) with fs := s.fs.replace .lock "" } q i →
      q = p ∧ i = s.fs.next ∨ Occupies s q i := by
    intro q i ho
    by_cases hq : q = p
    · subst hq
      rcases ho with hheld | ho
      · exact .inr (.inl hheld)
      · exact .inl ⟨rfl, by simpa [Pc.occupied] using ho.symm⟩
    · exact .inr (by simpa [Occupies, hq] using ho)
  refine h.move hp rfl (fun q hq => by simp [hq]) (fun _ _ => rfl) ?_ ?_ (Nat.le_succ _) ?_
    (by simp [Judged]) (by simp)
  · exact hlock.claim fun q j hq ho => (hocc q j ho).imp_right fun ho' => ⟨hq, ho'⟩
  · -- a live occupant would have its file at the path, which is free
    intro q hq i hi
    have ho : Occupies s q i := by
      by_cases hqp : q = p
      · subst hqp
        exact .inl (by simpa using hi)
      · have hi' : s.held q = some i ∨ s.pc q = .releaseUnlink i := by simpa [hqp] using hi
        exact hi'.imp_right fun hrel => by simp [hrel, Pc.occupied]
    cases hlock.present q i hq ho
  · intro q hq i hi ho
    rcases hocc q i ho with ⟨_, rfl⟩ | ho'
    · exact absurd hi (Nat.lt_irrefl _)
    · exact ho'

/-- A step of `p` that occupies nothing new. -/
lemma occupies_of_rehold (pc : Pc) (own : Option Nat) (hown : ∀ j, own = some j ∨ pc.occupied = some j → Occupies s p j)
    (q : ι) (j : Nat) (ho : Occupies { s.goto p pc with held := Function.update s.held p own } q j) :
    Occupies s q j := by
  by_cases hq : q = p
  · subst hq
    exact hown j (by simpa [Occupies] using ho)
  · simpa [Occupies, hq] using ho

/-- Writing the marker completes `acquire`. -/
lemma Inv.write (h : Inv host s) (hp : p ∈ s.procs.running) (hpc : s.pc p = .write i) : Inv host { s.goto p .idle with
        fs := s.fs.write i (formatProcessIdentityMarker host p)
        held := Function.update s.held p (some i) } := by
  have hown : Occupies s p i := .inr (by simp [hpc, Pc.occupied])
  have hocc := occupies_of_rehold .idle (some i) fun j hj =>
    show Occupies s p j from (by simpa [Pc.occupied] using hj : i = j) ▸ hown
  refine h.move hp rfl (fun q hq => by simp [hq]) (fun q hq => by simp [hq])
    (h.lock.mono fun q j hq ho => ⟨hq, hocc q j ho⟩) ?_ (Nat.le_refl _)
    (fun q _ j _ ho => hocc q j ho) (by simp [Judged]) (by simp)
  intro q hq j hj
  by_cases hqp : q = p
  · subst hqp
    have hij : i = j := by simpa using hj
    simp [hij]
  · have hj' : s.held q = some j ∨ s.pc q = .releaseUnlink j := by simpa [hqp] using hj
    -- two live processes never occupy the path at once
    have ho : Occupies s q j := hj'.imp_right fun hrel => by simp [hrel, Pc.occupied]
    exact absurd (h.lock.single q p j i hq hp ho hown) hqp

/-- `release` still occupies its file until the unlink. -/
lemma Inv.begin_release (h : Inv host s) (hp : p ∈ s.procs.running) (hheld : s.held p = some i) :
    Inv host { s.goto p (.releaseUnlink i) with held := Function.update s.held p none } := by
  have hocc := occupies_of_rehold (.releaseUnlink i) none fun j hj =>
    show Occupies s p j from .inl (by simpa [Pc.occupied, hheld] using hj)
  refine h.move hp rfl (fun q hq => by simp [hq]) (fun q hq => by simp [hq])
    (h.lock.mono fun q j hq ho => ⟨hq, hocc q j ho⟩) ?_ (Nat.le_refl _)
    (fun q _ j _ ho => hocc q j ho) (by simp [Judged]) (by simp)
  intro q hq j hj
  by_cases hqp : q = p
  · subst hqp
    have hij : i = j := by simpa using hj
    exact h.marked q hq j (.inl (hij ▸ hheld))
  · exact h.marked q hq j (by simpa [hqp] using hj)

/-! ## Judging the file -/

omit [DecidableEq ι] in
lemma Inv.read_occupied (h : Inv host s) {q : ι} (hq : q ∈ s.procs.running)
    (ho : Occupies s q i) (hwrite : s.pc q ≠ .write i) : holderPid (s.fs.data i) = some (host.pid q) := by
  have hmark : s.fs.data i = formatProcessIdentityMarker host q := by
    refine h.marked q hq i ?_
    rcases ho with hheld | hpc
    · exact .inl hheld
    -- inside a call only a release occupies a file that is marked
    · refine .inr ?_
      cases hc : s.pc q <;> simp_all [Pc.occupied]
  rw [hmark, holderPid_marker]

omit [DecidableEq ι] in
lemma Inv.judged_garbage (h : Inv host s) (hname : s.fs.names .lock = some i)
    (hmarked : ∀ q ∈ s.procs.running, s.pc q ≠ .write i)
    (hpid : holderPid (s.fs.data i) = none) : Judged host s (.removeStale i) := by
  refine ⟨s.fs.bounded _ _ hname, ?_⟩
  intro q hq ho
  have hread := h.read_occupied hq ho (hmarked q hq)
  simp [hpid] at hread

omit [DecidableEq ι] in
lemma Inv.judged_pid (h : Inv host s) {pid : Nat} (hname : s.fs.names .lock = some i)
    (hmarked : ∀ q ∈ s.procs.running, s.pc q ≠ .write i)
    (hpid : holderPid (s.fs.data i) = some pid) : Judged host s (.probe pid i) := by
  refine ⟨s.fs.bounded _ _ hname, ?_⟩
  intro q hq ho
  have hread := h.read_occupied hq ho (hmarked q hq)
  simpa [hpid] using hread

omit [DecidableEq ι] in
lemma Inv.judged_dead (h : Inv host s) {pid : Nat} (hpc : s.pc p = .probe pid i)
    (hkill : kill0 host s.procs pid = .noSuchProcess) : Judged host s (.removeStale i) := by
  have hjudged : Judged host s (.probe pid i) := hpc ▸ h.judged p
  refine ⟨hjudged.1, ?_⟩
  intro q hq ho
  rw [hjudged.2 q hq ho, kill0_pid_of_running hq] at hkill
  cases hkill

/-! ## Every orderly step keeps the invariant -/

lemma Inv.advance (h : Inv host s) (hp : p ∈ s.procs.running) (hok : Orderly s (.run p))
    (hst : PipelineLock.advance host s p = some t) : Inv host t := by
  obtain ⟨hread, hremove⟩ := hok p rfl
  unfold PipelineLock.advance at hst
  split at hst
  · cases hst
  · next hpc =>
    split at hst
    · cases hst
      exact h.goto hp rfl trivial
    · next fs hfs =>
      cases hst
      obtain ⟨hfree, rfl⟩ := Fs.createExclusive_eq_some hfs
      exact h.create hp hfree
  · next i hpc =>
    cases hst
    exact h.write hp hpc
  · next hpc =>
    split at hst
    · cases hst
      exact h.goto hp rfl trivial
    · next i hname =>
      -- an orderly read never finds a file that waits for its marker
      have hmarked := hread hpc i hname
      split at hst
      · next hpid =>
        cases hst
        exact h.goto hp rfl (h.judged_garbage hname hmarked hpid)
      · next pid hpid =>
        cases hst
        exact h.goto hp rfl (h.judged_pid hname hmarked hpid)
  · next pid i hpc =>
    split at hst
    · next hkill =>
      cases hst
      exact h.goto hp rfl (h.judged_dead hpc hkill)
    · cases hst
      exact h.goto hp rfl trivial
    · cases hst
      exact h.goto hp rfl trivial
  · next i hpc =>
    cases hst
    have hstale : Judged host s (.removeStale i) := hpc ▸ h.judged p
    refine (h.unlink ?_).goto hp rfl trivial
    intro j hj q hq
    -- an orderly removal finds the file that was judged
    have hij : j = i := hremove i (by simp [hpc, Pc.removing]) j hj
    exact hij ▸ hstale.2 q hq
  · next i hpc =>
    cases hst
    have hidle : Inv host (s.goto p .idle) := h.goto hp rfl trivial
    refine hidle.unlink ?_
    intro j hj q hq ho
    have ho' : Occupies s q j := occupies_of_goto rfl ho
    have hown : Occupies s p i := .inr (by simp [hpc, Pc.occupied])
    -- the only live occupant is `p` itself, which has just given the file up
    obtain rfl : q = p := h.lock.single q p j i hq hp ho' hown
    simp [Occupies, Pc.occupied, h.releasing q i hpc] at ho

lemma Inv.begin (h : Inv host s) (hp : p ∈ s.procs.running) {c : Call}
    (hst : PipelineLock.begin s p c = some t) : Inv host t := by
  cases c with
  | acquire =>
    cases hst
    exact h.goto hp rfl trivial
  | release =>
    cases hheld : s.held p with
    | none =>
      simp only [PipelineLock.begin, hheld, Option.some.injEq] at hst
      exact hst ▸ h
    | some i =>
      simp only [PipelineLock.begin, hheld, Option.some.injEq] at hst
      exact hst ▸ h.begin_release hp hheld

lemma Inv.step (h : Inv host s) {a : Act ι} (hok : Orderly s a)
    (hst : PipelineLock.step host s a = some t) : Inv host t := by
  cases a with
  | spawn p =>
    obtain ⟨procs, hprocs, rfl⟩ := Option.map_eq_some_iff.1 hst
    exact h.withProcs (Table.changes_of_spawn hprocs)
  | crash p =>
    obtain ⟨procs, hprocs, rfl⟩ := Option.map_eq_some_iff.1 hst
    exact h.withProcs (Table.changes_of_crash hprocs)
  | call p c =>
    simp only [PipelineLock.step] at hst
    split at hst
    · next hp => exact h.begin hp.1 hst
    · cases hst
  | run p =>
    simp only [PipelineLock.step] at hst
    split at hst
    · next hp => exact h.advance hp hok hst
    · cases hst

/-- In every orderly run at most one live process is between `acquire` and `release`, and a
`release` unlinks its own file, in every state reached. -/
theorem safe_of_orderly {s₀ s : State ι} {as : List (Act ι)} (h₀ : Initial s₀)
    (hrun : Run (PipelineLock.step host) Orderly s₀ as s) : Safe s := by
  have hinv : Inv host s :=
    hrun.invariant (fun _ _ _ hok hs hst => hs.step hok hst) (Inv.of_initial h₀)
  exact hinv.safe

/-! ## Fixed runs -/

def smallHost : Host (Fin 4) := fourProcesses fun _ => some "12345"

/-- The lock file holds `text`, and the processes of `procs` have not called anything yet. -/
def atRest (text : Option String) (procs : Table (Fin 4)) : State (Fin 4) where
  fs :=
    match text with
    | none => Fs.empty ""
    | some text => (Fs.empty "").replace .lock text
  procs := procs
  pc := fun _ => .idle
  held := fun _ => none

lemma initial_atRest (text : Option String) (procs : Table (Fin 4)) : Initial (atRest text procs) :=
  ⟨fun _ => rfl, fun _ => rfl⟩

/-- Process 1 finds the marker of dead process 0, removes it and acquires; process 2 then finds
process 1 alive. -/
def orderlyRun : List (Act (Fin 4)) :=
  .call 1 .acquire :: List.replicate 6 (.run 1) ++ .call 2 .acquire :: List.replicate 3 (.run 2)

theorem safe_of_orderly_stale :
    ∃ s, Run (PipelineLock.step smallHost) Orderly (atRest (some "100 777") ⟨[1, 2], [0]⟩)
        orderlyRun s ∧ (s.held 1 = some 1 ∧ s.held 2 = none) ∧ Safe s := by
  have hrun : ∃ s, Run (PipelineLock.step smallHost) Orderly
      (atRest (some "100 777") ⟨[1, 2], [0]⟩) orderlyRun s ∧
      (s.held 1 = some 1 ∧ s.held 2 = none) :=
    Run.exists_of_exec _ (by decide +kernel)
  rcases hrun with ⟨s, hs, hheld⟩
  exact ⟨s, hs, hheld, safe_of_orderly (initial_atRest _ _) hs⟩

/-- Process 2 reads the file that process 1 has created and not yet written, takes the empty text
for garbage, unlinks it and acquires; process 1 then writes its marker and acquires as well. -/
def emptyFileRun : List (Act (Fin 4)) :=
  [.call 1 .acquire, .run 1] ++ .call 2 .acquire :: List.replicate 5 (.run 2) ++ [.run 1]

theorem not_safe_emptyFileRun :
    ¬ ∀ (s₀ s : State (Fin 4)) (as : List (Act (Fin 4))), Initial s₀ →
      Run (PipelineLock.step smallHost) (fun _ _ => True) s₀ as s → Safe s := by
  intro hsafe
  have hrun : ∃ s, Run (PipelineLock.step smallHost) (fun _ _ => True)
      (atRest none ⟨[1, 2], []⟩) emptyFileRun s ∧
      (1 ∈ s.procs.running ∧ 2 ∈ s.procs.running ∧ (s.held 1).isSome ∧ (s.held 2).isSome) :=
    Run.exists_of_exec _ (by decide +kernel)
  rcases hrun with ⟨s, hs, hlive₁, hlive₂, hheld₁, hheld₂⟩
  have heq := (hsafe _ s _ (initial_atRest _ _) hs).exclusive 1 hlive₁ 2 hlive₂ hheld₁ hheld₂
  exact absurd heq (by decide)

end PipelineLock
end AgentPipeline.Locks
