import AgentPipeline.Locks.LivePlanning

/-!
# LivePlanningSafety: when the live-planning marker is exclusive

A live process occupies the marker from the create that publishes it until its clear has unlinked
it. Every published marker carries its owner's PID from the first instant, so the re-check of
step 4 never takes the marker of a live owner for stale. What remains is the gap between the
re-check and the unlink: if the marker is swapped there, the unlink removes a live marker, with
or without the cleanup lock.
-/

universe u

namespace AgentPipeline.Locks
namespace LivePlanning

open FileSystem Process LockName Transition

variable {ι : Type u} {host : Host ι} {s t : State ι} {p : ι}

lemma ownerPid_pid (host : Host ι) (p : ι) : ownerPid (toString (host.pid p)) = some (host.pid p) := by
  unfold ownerPid
  rw [JsText.trim_numeral, parsePid_pid]

/-! ## The invariant -/

/-- The marker file a process occupies because of the call it is in. -/
def Pc.occupied : Pc → Option Nat
  | .leave won => won
  | .clearUnlink i => some i
  | _ => none

/-- `p` relies on inode `i` staying at the marker path. -/
def Occupies (s : State ι) (p : ι) (i : Nat) : Prop :=
  s.held p = some i ∨ (s.pc p).occupied = some i

/-- What a process may assume about the marker it re-checks. -/
def Judged (host : Host ι) (s : State ι) : Pc → Prop
  | .recheckProbe owner i =>
    i < s.fs.next ∧ ∀ q ∈ s.procs.running, Occupies s q i → owner = host.pid q
  | .reclaimUnlink (some i) => i < s.fs.next ∧ ∀ q ∈ s.procs.running, ¬ Occupies s q i
  | _ => True

structure Inv (host : Host ι) (s : State ι) : Prop where
  unborn : ∀ p, ¬ s.procs.Born p → s.pc p = .idle ∧ s.held p = none
  marker : Exclusive (· ∈ s.procs.running) (Occupies s) (s.fs.names .marker)
  stamped : ∀ p ∈ s.procs.running, ∀ i, Occupies s p i → s.fs.data i = toString (host.pid p)
  judged : ∀ p, Judged host s (s.pc p)
  clearing : ∀ p i, s.pc p = .clearUnlink i → s.held p = none

lemma Inv.of_initial (h : Initial s) : Inv host s := by
  have hnone : ∀ p i, ¬ Occupies s p i := by
    intro p i ho
    simp [Occupies, h.idle p, h.free p, Pc.occupied] at ho
  exact
    { unborn := fun p _ => ⟨h.idle p, h.free p⟩
      marker :=
        ⟨fun p i _ ho => absurd ho (hnone p i), fun p _ i _ _ _ ho _ => absurd ho (hnone p i)⟩
      stamped := fun p _ i ho => absurd ho (hnone p i)
      judged := fun p => by simp [h.idle p, Judged]
      clearing := fun p _ _ => h.free p }

lemma Inv.safe (h : Inv host s) : Safe s := by
  intro p hp q hq hp' hq'
  obtain ⟨i, hi⟩ := Option.isSome_iff_exists.1 hp'
  obtain ⟨j, hj⟩ := Option.isSome_iff_exists.1 hq'
  exact h.marker.single p q i j hp hq (.inl hi) (.inl hj)

lemma Judged.mono {pc : Pc} (h : Judged host s pc) (hnext : s.fs.next ≤ t.fs.next)
    (hocc : ∀ q ∈ t.procs.running, ∀ i < s.fs.next, Occupies t q i →
      q ∈ s.procs.running ∧ Occupies s q i) : Judged host t pc := by
  cases pc with
  | recheckProbe owner i =>
    refine ⟨Nat.lt_of_lt_of_le h.1 hnext, ?_⟩
    intro q hq ho
    rcases hocc q hq i h.1 ho with ⟨hq', ho'⟩
    exact h.2 q hq' ho'
  | reclaimUnlink seen =>
    cases seen with
    | none => trivial
    | some i =>
      refine ⟨Nat.lt_of_lt_of_le h.1 hnext, ?_⟩
      intro q hq ho
      rcases hocc q hq i h.1 ho with ⟨hq', ho'⟩
      exact h.2 q hq' ho'
  | _ => trivial

/-! ## Frame lemmas -/

section

variable (h : Inv host s)
include h

lemma Inv.withProcs {procs : Table ι} (hchanges : s.procs.Changes procs) :
    Inv host { s with procs := procs } := by
  have hocc : ∀ q ∈ procs.running, ∀ i, Occupies s q i → q ∈ s.procs.running := by
    intro q hq i ho
    rcases (hchanges.running q hq).imp_right (h.unborn q) with hq' | ⟨hpc, hheld⟩
    · exact hq'
    · simp [Occupies, hpc, hheld, Pc.occupied] at ho
  exact
    { unborn := fun p hp => h.unborn p (hchanges.born p hp)
      marker := h.marker.mono fun q i hq ho => ⟨hocc q hq i ho, ho⟩
      stamped := fun q hq i ho => h.stamped q (hocc q hq i ho) i ho
      judged := fun q =>
        (h.judged q).mono (Nat.le_refl _) fun q' hq' i _ ho => ⟨hocc q' hq' i ho, ho⟩
      clearing := h.clearing }

/-- A step of `p`: the others stay where they are, so only the files and `p` itself have to be
looked at. -/
lemma Inv.move (hp : p ∈ s.procs.running) (hprocs : t.procs = s.procs)
    (hpc : ∀ q, q ≠ p → t.pc q = s.pc q) (hheld : ∀ q, q ≠ p → t.held q = s.held q)
    (hmarker : Exclusive (· ∈ s.procs.running) (Occupies t) (t.fs.names .marker))
    (hstamped : ∀ q ∈ s.procs.running, ∀ i, Occupies t q i → t.fs.data i = toString (host.pid q))
    (hnext : s.fs.next ≤ t.fs.next)
    (hocc : ∀ q ∈ s.procs.running, ∀ i < s.fs.next, Occupies t q i → Occupies s q i)
    (hjudged : Judged host s (t.pc p))
    (hclearing : ∀ i, t.pc p = .clearUnlink i → t.held p = none) : Inv host t where
  unborn := by
    intro q hq
    have hne : q ≠ p := by
      intro heq
      exact hq (.inl (heq ▸ hprocs ▸ hp))
    rw [hpc q hne, hheld q hne]
    exact h.unborn q (hprocs ▸ hq)
  marker := hprocs ▸ hmarker
  stamped := hprocs ▸ hstamped
  judged := by
    intro q
    have hq : Judged host s (t.pc q) := by
      by_cases hqp : q = p
      · exact hqp ▸ hjudged
      · exact hpc q hqp ▸ h.judged q
    refine hq.mono hnext ?_
    intro q' hq' i hi ho
    have hq'' : q' ∈ s.procs.running := hprocs ▸ hq'
    exact ⟨hq'', hocc q' hq'' i hi ho⟩
  clearing := by
    intro q i hq
    by_cases hqp : q = p
    · subst hqp
      exact hclearing i hq
    · rw [hheld q hqp]
      exact h.clearing q i (hpc q hqp ▸ hq)

lemma Inv.withFs {fs : Fs Path String} (hname : fs.names .marker = s.fs.names .marker) (hnext : s.fs.next ≤ fs.next)
    (hdata : ∀ i < s.fs.next, fs.data i = s.fs.data i) : Inv host { s with fs := fs } where
  unborn := h.unborn
  marker := by
    have hmarker : Exclusive (· ∈ s.procs.running) (Occupies s) (fs.names .marker) := hname ▸ h.marker
    exact hmarker
  stamped := by
    intro q hq i ho
    have hpresent := h.marker.present q i hq ho
    rw [show ({ s with fs := fs } : State ι).fs = fs from rfl, hdata i (s.fs.bounded _ _ hpresent)]
    exact h.stamped q hq i ho
  judged := fun q => (h.judged q).mono hnext fun _ hq' _ _ ho => ⟨hq', ho⟩
  clearing := h.clearing

lemma Inv.unlinkMarker (hfree : ∀ i, s.fs.names .marker = some i → ∀ q ∈ s.procs.running, ¬ Occupies s q i) :
    Inv host { s with fs := s.fs.unlink .marker } where
  unborn := h.unborn
  marker := h.marker.remove hfree
  stamped := h.stamped
  judged := fun q => (h.judged q).mono (Nat.le_refl _) fun _ hq' _ _ ho => ⟨hq', ho⟩
  clearing := h.clearing

lemma Inv.createCleanup {text : String} {fs : Fs Path String}
    (hfs : s.fs.createExclusive .cleanup text = some fs) : Inv host { s with fs := fs } := by
  obtain ⟨_, rfl⟩ := Fs.createExclusive_eq_some hfs
  refine h.withFs (by simp) (Nat.le_succ _) ?_
  intro i hi
  simp [Function.update_of_ne (Nat.ne_of_lt hi)]

lemma Inv.unlinkCleanup : Inv host { s with fs := s.fs.unlink .cleanup } :=
  h.withFs (by simp) (Nat.le_refl _) (fun _ _ => rfl)

end

variable [DecidableEq ι] {i : Nat}

lemma occupies_of_goto {q : ι} {pc : Pc} (hpc : pc.occupied = none)
    (ho : Occupies (s.goto p pc) q i) : Occupies s q i := by
  by_cases hq : q = p
  · subst hq
    exact .inl (by simpa [Occupies, hpc] using ho)
  · simpa [Occupies, hq] using ho

section

variable (h : Inv host s)
include h

variable (hp : p ∈ s.procs.running)
include hp

lemma Inv.goto {pc : Pc} (hpc : pc.occupied = none) (hjudged : Judged host s pc) : Inv host (s.goto p pc) := by
  refine h.move hp rfl (fun q hq => by simp [hq]) (fun _ _ => rfl)
    (h.marker.mono fun q i hq ho => ⟨hq, occupies_of_goto hpc ho⟩)
    (fun q hq i ho => h.stamped q hq i (occupies_of_goto hpc ho)) (Nat.le_refl _)
    (fun q _ i _ ho => occupies_of_goto hpc ho) (by simpa using hjudged) ?_
  intro i hi
  have hbad : pc = .clearUnlink i := by simpa using hi
  simp [hbad, Pc.occupied] at hpc

/-! ## Steps that publish or give up the marker -/

lemma Inv.publish (hfree : s.fs.names .marker = none) (hprocs : t.procs = s.procs)
    (hpc : ∀ q, q ≠ p → t.pc q = s.pc q) (hheld : ∀ q, q ≠ p → t.held q = s.held q)
    (hfs : t.fs = s.fs.replace .marker (toString (host.pid p)))
    (hown : ∀ i, Occupies t p i → i = s.fs.next ∨ Occupies s p i)
    (hplain : (t.pc p = .idle) ∨ ∃ won, t.pc p = .leave won) : Inv host t := by
  have hmarker : Exclusive (· ∈ s.procs.running) (Occupies s) none := hfree ▸ h.marker
  have hocc : ∀ q i, Occupies t q i → q = p ∧ i = s.fs.next ∨ Occupies s q i := by
    intro q i ho
    by_cases hq : q = p
    · subst hq
      exact (hown i ho).imp_left fun hi => ⟨rfl, hi⟩
    · exact .inr (by simpa [Occupies, hpc q hq, hheld q hq] using ho)
  refine h.move hp hprocs hpc hheld ?_ ?_ (by simp [hfs, Fs.replace]) ?_ ?_ ?_
  · have hname : t.fs.names .marker = some s.fs.next := by simp [hfs]
    rw [hname]
    exact hmarker.claim fun q j hq ho => (hocc q j ho).imp_right fun ho' => ⟨hq, ho'⟩
  · intro q hq i ho
    rcases hocc q i ho with ⟨rfl, rfl⟩ | ho'
    · simp [hfs]
    · cases hmarker.present q i hq ho'
  · intro q hq i hi ho
    rcases hocc q i ho with ⟨_, rfl⟩ | ho'
    · exact absurd hi (Nat.lt_irrefl _)
    · exact ho'
  · rcases hplain with hpc' | ⟨won, hpc'⟩ <;> simp [hpc', Judged]
  · intro i hi
    rcases hplain with hpc' | ⟨won, hpc'⟩ <;> simp [hpc'] at hi

/-- A step of `p` that occupies nothing new and leaves the files alone. -/
lemma Inv.rehold {pc : Pc} {own : Option Nat} (hown : ∀ j, own = some j ∨ pc.occupied = some j → Occupies s p j)
    (hjudged : Judged host s pc) (hclearing : ∀ i, pc = .clearUnlink i → own = none) :
    Inv host { s.goto p pc with held := Function.update s.held p own } := by
  have hocc : ∀ q j, Occupies { s.goto p pc with held := Function.update s.held p own } q j → Occupies s q j := by
    intro q j ho
    by_cases hq : q = p
    · subst hq
      exact hown j (by simpa [Occupies] using ho)
    · simpa [Occupies, hq] using ho
  exact h.move hp rfl (fun q hq => by simp [hq]) (fun q hq => by simp [hq])
    (h.marker.mono fun q j hq ho => ⟨hq, hocc q j ho⟩)
    (fun q hq j ho => h.stamped q hq j (hocc q j ho)) (Nat.le_refl _)
    (fun q _ j _ ho => hocc q j ho) (by simpa using hjudged) (by simpa using hclearing)

lemma Inv.returnTrue (hpc : s.pc p = .leave (some i)) :
    Inv host { s.goto p .idle with held := Function.update s.held p (some i) } :=
  h.rehold hp (fun j hj => .inr (by simpa [hpc, Pc.occupied] using hj)) trivial (by simp)

lemma Inv.begin_clear (hheld : s.held p = some i) :
    Inv host { s.goto p (.clearUnlink i) with held := Function.update s.held p none } :=
  h.rehold hp (fun j hj => .inl (by simpa [hheld, Pc.occupied] using hj)) trivial (by simp)

lemma Inv.clear (hpc : s.pc p = .clearUnlink i) : Inv host { s.goto p .idle with fs := s.fs.unlink .marker } := by
  have hidle : Inv host (s.goto p .idle) := h.goto hp rfl trivial
  refine hidle.unlinkMarker ?_
  intro j hj q hq ho
  have ho' : Occupies s q j := occupies_of_goto rfl ho
  have hown : Occupies s p i := .inr (by simp [hpc, Pc.occupied])
  -- the only live occupant is `p`, which does not hold the marker any more
  obtain rfl : q = p := h.marker.single q p j i hq hp ho' hown
  simp [Occupies, Pc.occupied, h.clearing q i hpc] at ho

end

/-! ## The re-check -/

omit [DecidableEq ι] in
lemma Inv.judged_garbage (h : Inv host s) (hname : s.fs.names .marker = some i)
    (howner : ownerPid (s.fs.data i) = none) : Judged host s (.reclaimUnlink (some i)) := by
  refine ⟨s.fs.bounded _ _ hname, ?_⟩
  intro q hq ho
  -- a live occupant has written its PID, which parses
  rw [h.stamped q hq i ho, ownerPid_pid] at howner
  cases howner

omit [DecidableEq ι] in
lemma Inv.judged_owner (h : Inv host s) {owner : Nat} (hname : s.fs.names .marker = some i)
    (howner : ownerPid (s.fs.data i) = some owner) : Judged host s (.recheckProbe owner i) := by
  refine ⟨s.fs.bounded _ _ hname, ?_⟩
  intro q hq ho
  have hread : some (host.pid q) = some owner := by rw [← howner, h.stamped q hq i ho, ownerPid_pid]
  simpa using hread.symm

omit [DecidableEq ι] in
lemma Inv.judged_dead (h : Inv host s) {owner : Nat} (hpc : s.pc p = .recheckProbe owner i)
    (hkill : kill0 host s.procs owner = .noSuchProcess) : Judged host s (.reclaimUnlink (some i)) := by
  have hjudged : Judged host s (.recheckProbe owner i) := hpc ▸ h.judged p
  refine ⟨hjudged.1, ?_⟩
  intro q hq ho
  rw [hjudged.2 q hq ho, kill0_pid_of_running hq] at hkill
  cases hkill

/-! ## Every admitted step keeps the invariant -/

lemma Inv.advance (h : Inv host s) (hp : p ∈ s.procs.running) (hok : Unswapped s (.run p))
    (hst : LivePlanning.advance host s p = some t) : Inv host t := by
  unfold LivePlanning.advance at hst
  cases hpc : s.pc p with
  | idle => simp [hpc] at hst
  | claim =>
    simp only [hpc] at hst
    split at hst
    · cases hst
      exact h.goto hp rfl trivial
    · next fs hfs =>
      cases hst
      obtain ⟨hfree, rfl⟩ := Fs.createExclusive_eq_some hfs
      -- step 1: the marker is published and held at once
      refine h.publish hp hfree rfl (fun q hq => by simp [hq]) (fun q hq => by simp [hq])
        rfl ?_ (.inl (by simp))
      intro i hi
      have hnext : s.fs.next = i := by simpa [Occupies, Pc.occupied] using hi
      exact .inl hnext.symm
  | checkRead | checkProbe _ | cleanupRead | cleanupProbe _ =>
    simp only [hpc] at hst
    split at hst
    all_goals
      cases hst
      exact h.goto hp rfl trivial
  -- the cleanup lock protects nothing that the invariant is about
  | lockCleanup | relockCleanup =>
    simp only [hpc] at hst
    split at hst
    · cases hst
      exact h.goto hp rfl trivial
    · next fs hfs =>
      cases hst
      exact (h.createCleanup hfs).goto hp rfl trivial
  | cleanupUnlink =>
    simp only [hpc] at hst
    cases hst
    exact h.unlinkCleanup.goto hp rfl trivial
  | recheckRead =>
    simp only [hpc] at hst
    split at hst
    · cases hst
      exact h.goto hp rfl trivial
    · next i hname =>
      split at hst
      · next howner =>
        cases hst
        exact h.goto hp rfl (h.judged_garbage hname howner)
      · next owner howner =>
        cases hst
        exact h.goto hp rfl (h.judged_owner hname howner)
  | recheckProbe owner i =>
    simp only [hpc] at hst
    split at hst
    · next hkill =>
      cases hst
      exact h.goto hp rfl (h.judged_dead hpc hkill)
    · cases hst
      exact h.goto hp rfl trivial
    · cases hst
      exact h.goto hp rfl trivial
  | reclaimUnlink seen =>
    simp only [hpc] at hst
    cases hst
    refine (h.unlinkMarker ?_).goto hp rfl trivial
    intro j hj q hq
    -- the marker is the file that the re-check judged
    have hseen : seen = some j := hok p rfl seen (by simp [hpc, Pc.reclaiming]) j hj
    have hjudged : Judged host s (.reclaimUnlink (some j)) := hseen ▸ hpc ▸ h.judged p
    exact hjudged.2 q hq
  | reclaimCreate =>
    simp only [hpc] at hst
    split at hst
    · cases hst
      exact h.goto hp rfl trivial
    · next fs hfs =>
      cases hst
      obtain ⟨hfree, rfl⟩ := Fs.createExclusive_eq_some hfs
      -- step 4: the winner still has to drop the cleanup lock before it returns
      refine h.publish hp hfree rfl (fun q hq => by simp [hq]) (fun _ _ => rfl)
        rfl ?_ (.inr ⟨_, State.goto_pc_self _ _ _⟩)
      intro i hi
      rcases hi with hheld | hi
      · exact .inr (.inl hheld)
      · exact .inl (by simpa [Pc.occupied] using hi.symm)
  | leave won =>
    simp only [hpc] at hst
    cases won with
    | none =>
      cases hst
      exact h.unlinkCleanup.goto hp rfl trivial
    | some i =>
      cases hst
      exact (h.returnTrue hp hpc).unlinkCleanup
  | clearUnlink i =>
    simp only [hpc] at hst
    cases hst
    exact h.clear hp hpc

lemma Inv.begin (h : Inv host s) (hp : p ∈ s.procs.running) {c : Call}
    (hst : LivePlanning.begin s p c = some t) : Inv host t := by
  cases c with
  | tryAcquire =>
    cases hst
    exact h.goto hp rfl trivial
  | clear =>
    cases hheld : s.held p with
    | none => simp [LivePlanning.begin, hheld] at hst
    | some i =>
      simp only [LivePlanning.begin, hheld, Option.some.injEq] at hst
      exact hst ▸ h.begin_clear hp hheld

lemma Inv.step (h : Inv host s) {a : Act ι} (hok : Unswapped s a)
    (hst : LivePlanning.step host s a = some t) : Inv host t := by
  cases a with
  | spawn p =>
    obtain ⟨procs, hprocs, rfl⟩ := Option.map_eq_some_iff.1 hst
    exact h.withProcs (Table.changes_of_spawn hprocs)
  | crash p =>
    obtain ⟨procs, hprocs, rfl⟩ := Option.map_eq_some_iff.1 hst
    exact h.withProcs (Table.changes_of_crash hprocs)
  | call p c =>
    simp only [LivePlanning.step] at hst
    split at hst
    · next hp => exact h.begin hp.1 hst
    · cases hst
  | run p =>
    simp only [LivePlanning.step] at hst
    split at hst
    · next hp => exact h.advance hp hok hst
    · cases hst

/-- In every run in which the unlink of step 4 never meets a swapped marker, at most one live
process has obtained the marker and not cleared it, in every state reached. -/
theorem safe_of_unswapped {s₀ s : State ι} {as : List (Act ι)} (h₀ : Initial s₀)
    (hrun : Run (LivePlanning.step host) Unswapped s₀ as s) : Safe s := by
  have hinv : Inv host s :=
    hrun.invariant (fun _ _ _ hok hs hst => hs.step hok hst) (Inv.of_initial h₀)
  exact hinv.safe

/-! ## Fixed runs -/

def smallHost : Host (Fin 4) := fourProcesses fun _ => none

/-- The processes of `procs` have not called anything yet; `text`, when given, is in a marker
that an earlier process left. -/
def atRest (text : Option String) (procs : Table (Fin 4)) : State (Fin 4) where
  fs :=
    match text with
    | none => Fs.empty ""
    | some text => (Fs.empty "").replace .marker text
  procs := procs
  pc := fun _ => .idle
  held := fun _ => none

lemma initial_atRest (text : Option String) (procs : Table (Fin 4)) : Initial (atRest text procs) :=
  ⟨fun _ => rfl, fun _ => rfl⟩

/-- Process 1 reclaims the marker of dead process 0; process 2 then finds process 1 alive. -/
def reclaimRun : List (Act (Fin 4)) :=
  .call 1 .tryAcquire :: List.replicate 9 (.run 1) ++ .call 2 .tryAcquire :: List.replicate 3 (.run 2)

theorem safe_of_unswapped_reclaim :
    ∃ s, Run (LivePlanning.step smallHost) Unswapped (atRest (some "100") ⟨[1, 2], [0]⟩)
        reclaimRun s ∧ ((s.held 1).isSome ∧ s.held 2 = none) ∧ Safe s := by
  have hrun : ∃ s, Run (LivePlanning.step smallHost) Unswapped
      (atRest (some "100") ⟨[1, 2], [0]⟩) reclaimRun s ∧
      ((s.held 1).isSome ∧ s.held 2 = none) :=
    Run.exists_of_exec _ (by decide +kernel)
  rcases hrun with ⟨s, hs, hheld⟩
  exact ⟨s, hs, hheld, safe_of_unswapped (initial_atRest _ _) hs⟩

/-- Process 2 obtains the marker and clears it while process 1 is on its way; process 1 re-checks
the missing marker; process 3 obtains it, and process 1 unlinks it and obtains it as well. -/
def swappedRun : List (Act (Fin 4)) :=
  [.call 2 .tryAcquire, .run 2, .call 1 .tryAcquire, .run 1, .call 2 .clear, .run 2,
    .run 1, .run 1, .run 1, .call 3 .tryAcquire, .run 3, .run 1, .run 1, .run 1]

theorem not_safe_swappedRun :
    ¬ ∀ (s₀ s : State (Fin 4)) (as : List (Act (Fin 4))), Initial s₀ →
      Run (LivePlanning.step smallHost) (fun _ _ => True) s₀ as s → Safe s := by
  intro hsafe
  have hrun : ∃ s, Run (LivePlanning.step smallHost) (fun _ _ => True)
      (atRest none ⟨[1, 2, 3], []⟩) swappedRun s ∧
      (1 ∈ s.procs.running ∧ 3 ∈ s.procs.running ∧ (s.held 1).isSome ∧ (s.held 3).isSome) :=
    Run.exists_of_exec _ (by decide +kernel)
  rcases hrun with ⟨s, hs, hlive₁, hlive₃, hheld₁, hheld₃⟩
  have heq := hsafe _ s _ (initial_atRest _ _) hs 1 hlive₁ 3 hlive₃ hheld₁ hheld₃
  exact absurd heq (by decide)

end LivePlanning
end AgentPipeline.Locks
