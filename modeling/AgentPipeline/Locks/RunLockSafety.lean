import AgentPipeline.Locks.RunLock

/-!
# RunLockSafety: when the durable-run lock excludes

The invariant says where a live holder's record is, and that nobody who is about to remove a
record aims at one that a live process owns. Every step keeps it as long as no rename of a
compare-and-delete takes a record other than the expected one (`Undisturbed`). Without that
condition three processes suffice to let two of them hold the lock at once.
-/

universe u

namespace AgentPipeline.Locks
namespace RunLock

open FileSystem Process Transition

variable {ι : Type u} {cfg : Config ι} {s t : State ι} {p : ι}

/-! ## The invariant -/

/-- `p` holds the record `r`, or is inside the `acquireLock` that will make it hold `r`. -/
def Owns (s : State ι) (p : ι) (r : LockRecord ι) : Prop :=
  (∃ i, s.held p = some (r, i)) ∨ s.pc p = .acquireCreate r ∨ ∃ i, s.pc p = .acquireWrite r i

/-- `p` relies on inode `i` staying at `lock.json`. -/
def Occupies (s : State ι) (p : ι) (i : Nat) : Prop :=
  (∃ r, s.held p = some (r, i)) ∨ ∃ r, s.pc p = .acquireWrite r i

structure Inv (cfg : Config ι) (s : State ι) : Prop where
  unborn : ∀ p, ¬ s.procs.Born p → s.pc p = .idle ∧ s.held p = none
  stamped : ∀ p r, Owns s p r → r.token.minter = p ∧ (r.hostname, r.pid) = cfg.ident p ∧ r.token.serial < s.serial
  minted : ∀ i r, s.fs.data i = some r → r.token.serial < s.serial
  observed : ∀ p e, s.pc p = .recoverProbe e ∨ s.pc p = .removeRename e → e.token.serial < s.serial
  releasing : ∀ p token, s.pc p = .releaseRead token → token.minter = p ∧ s.held p = none
  stale : ∀ p e, s.pc p = .removeRename e → ∀ q ∈ s.procs.running, ¬ Owns s q e
  holding : ∀ p ∈ s.procs.running, ∀ r i, s.held p = some (r, i) → s.fs.names .lock = some i ∧ s.fs.data i = some r
  creating : ∀ p ∈ s.procs.running, ∀ r i, s.pc p = .acquireWrite r i → s.fs.names .lock = some i ∧ s.fs.data i = none
  single : ∀ p ∈ s.procs.running, ∀ q ∈ s.procs.running, ∀ r i r' i',
    s.pc p = .acquireWrite r i → s.pc q = .acquireWrite r' i' → p = q

lemma Inv.of_initial (h : Initial s) : Inv cfg s where
  unborn := fun p _ => ⟨h.idle p, h.free p⟩
  stamped := by
    intro p r hr
    rcases hr with ⟨i, hi⟩ | hc | ⟨i, hi⟩
    · simp [h.free p] at hi
    · simp [h.idle p] at hc
    · simp [h.idle p] at hi
  minted := h.minted
  observed := by
    intro p e he
    simp [h.idle p] at he
  releasing := by
    intro p token hp
    simp [h.idle p] at hp
  stale := by
    intro p e he
    simp [h.idle p] at he
  holding := by
    intro p _ r i hi
    simp [h.free p] at hi
  creating := by
    intro p _ r i hi
    simp [h.idle p] at hi
  single := by
    intro p _ q _ r i r' i' hi
    simp [h.idle p] at hi

lemma Inv.safe (h : Inv cfg s) : Safe s := by
  intro p hp r i hheld
  obtain ⟨hname, hdata⟩ := h.holding p hp r i hheld
  refine ⟨(Fs.read_eq_some_iff _).2 ⟨i, hname, hdata⟩, ?_⟩
  intro q hq hne
  cases hq' : s.held q with
  | none => rfl
  | some ri =>
    rcases ri with ⟨r', i'⟩
    obtain ⟨hname', hdata'⟩ := h.holding q hq r' i' hq'
    have hi : i = i' := by simpa [hname] using hname'
    have hr : r = r' := by simpa [hi, hdata'] using hdata.symm
    -- one name, one inode, one record: both processes minted its token
    have hmint := (h.stamped p r (.inl ⟨i, hheld⟩)).1
    have hmint' := (h.stamped q r' (.inl ⟨i', hq'⟩)).1
    exact absurd (by rw [← hmint', ← hr, hmint]) hne

/-- Whoever occupies `lock.json` finds its inode there. -/
lemma Inv.occupied (h : Inv cfg s) (hp : p ∈ s.procs.running) {i : Nat} (ho : Occupies s p i) :
    s.fs.names .lock = some i := by
  rcases ho with ⟨r, hr⟩ | ⟨r, hr⟩
  · exact (h.holding p hp r i hr).1
  · exact (h.creating p hp r i hr).1

/-! ## Frame lemmas -/

lemma Inv.withProcs (h : Inv cfg s) {t : Table ι} (hchanges : s.procs.Changes t) :
    Inv cfg { s with procs := t } where
  unborn := fun p hp => h.unborn p (hchanges.born p hp)
  stamped := h.stamped
  minted := h.minted
  observed := h.observed
  releasing := h.releasing
  stale := by
    intro p e he q hq
    rcases (hchanges.running q hq).imp_right (h.unborn q) with hq' | ⟨hpc, hheld⟩
    · exact h.stale p e he q hq'
    · rintro (⟨i, hi⟩ | hc | ⟨i, hi⟩)
      · simp [hheld] at hi
      · simp [hpc] at hc
      · simp [hpc] at hi
  holding := by
    intro p hp r i hi
    rcases (hchanges.running p hp).imp_right (h.unborn p) with hp' | ⟨_, hheld⟩
    · exact h.holding p hp' r i hi
    · simp [hheld] at hi
  creating := by
    intro p hp r i hi
    rcases (hchanges.running p hp).imp_right (h.unborn p) with hp' | ⟨hpc, _⟩
    · exact h.creating p hp' r i hi
    · simp [hpc] at hi
  single := by
    intro p hp q hq r i r' i' hpw hqw
    rcases (hchanges.running p hp).imp_right (h.unborn p) with hp' | ⟨hpc, _⟩
    · rcases (hchanges.running q hq).imp_right (h.unborn q) with hq' | ⟨hqc, _⟩
      · exact h.single p hp' q hq' r i r' i' hpw hqw
      · simp [hqc] at hqw
    · simp [hpc] at hpw

/-- The names may change as long as every live occupant keeps its inode at `lock.json`. -/
lemma Inv.withFs (h : Inv cfg s) {fs : Fs (Path ι) (Content ι)} (hdata : fs.data = s.fs.data)
    (hlock : ∀ p ∈ s.procs.running, ∀ i, Occupies s p i → fs.names .lock = some i) : Inv cfg { s with fs := fs } where
  unborn := h.unborn
  stamped := h.stamped
  minted := by
    intro i r hr
    exact h.minted i r (by simpa [hdata] using hr)
  observed := h.observed
  releasing := h.releasing
  stale := h.stale
  holding := by
    intro p hp r i hi
    exact ⟨hlock p hp i (.inl ⟨r, hi⟩), by simpa [hdata] using (h.holding p hp r i hi).2⟩
  creating := by
    intro p hp r i hi
    exact ⟨hlock p hp i (.inr ⟨r, hi⟩), by simpa [hdata] using (h.creating p hp r i hi).2⟩
  single := h.single

/-- What a process owes when it moves to a program point outside `acquireLock` and the first
step of `releaseLock`, which are treated on their own below. -/
def Owed (s : State ι) : Pc ι → Prop
  | .acquireCreate _ | .acquireWrite _ _ | .releaseRead _ => False
  | .recoverProbe e => e.token.serial < s.serial
  | .removeRename e => e.token.serial < s.serial ∧ ∀ q ∈ s.procs.running, ¬ Owns s q e
  | .idle | .recoverRead | .removeReadClaim _ | .removeLinkBack | .removeUnlinkClaim => True

variable [DecidableEq ι] {r : LockRecord ι} {pc : Pc ι}

lemma owns_of_goto {q : ι} (hpc : Owed s pc) (h : Owns (s.goto p pc) q r) : Owns s q r := by
  by_cases hq : q = p
  · subst hq
    rcases h with hheld | hc | ⟨i, hi⟩
    · exact .inl hheld
    · have hc' : pc = .acquireCreate r := by simpa [State.goto] using hc
      simp [hc', Owed] at hpc
    · have hi' : pc = .acquireWrite r i := by simpa [State.goto] using hi
      simp [hi', Owed] at hpc
  · simpa [Owns, State.goto, Function.update_of_ne hq] using h

/-- Only `p` moves; everybody else stays at the program point it was at. -/
lemma pc_of_goto {q : ι} {pc' : Pc ι} (h : (s.goto p pc).pc q = pc') : q = p ∧ pc = pc' ∨ q ≠ p ∧ s.pc q = pc' := by
  by_cases hq : q = p
  · subst hq
    exact .inl ⟨rfl, by simpa [State.goto] using h⟩
  · exact .inr ⟨hq, by simpa [State.goto, Function.update_of_ne hq] using h⟩

lemma pc_of_goto_ne {q : ι} {pc' : Pc ι} (h : (s.goto p pc).pc q = pc') (hne : pc ≠ pc') : q ≠ p ∧ s.pc q = pc' := by
  rcases pc_of_goto h with ⟨_, heq⟩ | hq
  · exact absurd heq hne
  · exact hq

section

variable (h : Inv cfg s)
include h

lemma Inv.unborn_goto (hp : p ∈ s.procs.running) {q : ι} (hq : ¬ s.procs.Born q) (pc : Pc ι) :
    q ≠ p ∧ (s.goto p pc).pc q = .idle ∧ s.held q = none := by
  have hne : q ≠ p := by
    intro heq
    exact hq (.inl (heq ▸ hp))
  obtain ⟨hidle, hfree⟩ := h.unborn q hq
  exact ⟨hne, by simpa [State.goto, Function.update_of_ne hne] using hidle, hfree⟩

lemma Inv.observed_goto {q : ι} {e : LockRecord ι} (hprobe : pc ≠ .recoverProbe e) (hrename : pc ≠ .removeRename e)
    (he : (s.goto p pc).pc q = .recoverProbe e ∨ (s.goto p pc).pc q = .removeRename e) : e.token.serial < s.serial := by
  rcases he with he | he
  · exact h.observed q e (.inl (pc_of_goto_ne he hprobe).2)
  · exact h.observed q e (.inr (pc_of_goto_ne he hrename).2)

variable (hp : p ∈ s.procs.running)
include hp

lemma Inv.goto (hpc : Owed s pc) :
    Inv cfg (s.goto p pc) where
  unborn := fun q hq => (h.unborn_goto hp hq _).2
  stamped := fun q r hr => h.stamped q r (owns_of_goto hpc hr)
  minted := h.minted
  observed := by
    intro q e he
    rcases he with he | he
    · rcases pc_of_goto he with ⟨_, rfl⟩ | ⟨_, he'⟩
      · exact hpc
      · exact h.observed q e (.inl he')
    · rcases pc_of_goto he with ⟨_, rfl⟩ | ⟨_, he'⟩
      · exact hpc.1
      · exact h.observed q e (.inr he')
  releasing := by
    intro q token hq
    rcases pc_of_goto hq with ⟨_, rfl⟩ | ⟨_, hq'⟩
    · simp [Owed] at hpc
    · exact h.releasing q token hq'
  stale := by
    intro q e he q' hq' ho
    have ho' : Owns s q' e := owns_of_goto hpc ho
    rcases pc_of_goto he with ⟨_, rfl⟩ | ⟨_, he'⟩
    · exact hpc.2 q' hq' ho'
    · exact h.stale q e he' q' hq' ho'
  holding := h.holding
  creating := by
    intro q hq r i hi
    rcases pc_of_goto hi with ⟨_, rfl⟩ | ⟨_, hi'⟩
    · simp [Owed] at hpc
    · exact h.creating q hq r i hi'
  single := by
    intro q hq q' hq' r i r' i' hi hi'
    rcases pc_of_goto hi with ⟨_, rfl⟩ | ⟨_, hi₁⟩
    · simp [Owed] at hpc
    · rcases pc_of_goto hi' with ⟨_, rfl⟩ | ⟨_, hi₂⟩
      · simp [Owed] at hpc
      · exact h.single q hq q' hq' r i r' i' hi₁ hi₂

/-! ## Steps of `acquireLock` and `releaseLock` -/

lemma Inv.begin_acquire (htoken : r.token = { minter := p, serial := s.serial })
    (hident : (r.hostname, r.pid) = cfg.ident p) :
    Inv cfg { s.goto p (.acquireCreate r) with serial := s.serial + 1 } where
  unborn := fun q hq => (h.unborn_goto hp hq _).2
  stamped := by
    intro q r' hr
    -- what was owned before is owned with the same stamp under the larger serial
    have hlift : Owns s q r' → r'.token.minter = q ∧ (r'.hostname, r'.pid) = cfg.ident q ∧
        r'.token.serial < s.serial + 1 := by
      intro ho
      obtain ⟨hm, hi, hs⟩ := h.stamped q r' ho
      exact ⟨hm, hi, Nat.lt_succ_of_lt hs⟩
    rcases hr with hheld | hc | ⟨i, hi⟩
    · exact hlift (.inl hheld)
    · rcases pc_of_goto hc with ⟨rfl, hr'⟩ | ⟨_, hc'⟩
      · cases hr'
        exact ⟨by simp [htoken], hident, by simp [htoken]⟩
      · exact hlift (.inr (.inl hc'))
    · exact hlift (.inr (.inr ⟨i, (pc_of_goto_ne hi (by simp)).2⟩))
  minted := fun i r' hr => Nat.lt_succ_of_lt (h.minted i r' hr)
  observed := fun q e he => Nat.lt_succ_of_lt (h.observed_goto (by simp) (by simp) he)
  releasing := fun q token hq => h.releasing q token (pc_of_goto_ne hq (by simp)).2
  stale := by
    intro q e he q' hq' ho
    have he' := (pc_of_goto_ne he (by simp)).2
    rcases ho with hheld | hc | ⟨i, hi⟩
    · exact h.stale q e he' q' hq' (.inl hheld)
    · rcases pc_of_goto hc with ⟨_, hr'⟩ | ⟨_, hc'⟩
      · -- the fresh record carries a token nobody can have read before
        cases hr'
        have hlt := h.observed q r (.inr he')
        simp [htoken] at hlt
      · exact h.stale q e he' q' hq' (.inr (.inl hc'))
    · exact h.stale q e he' q' hq' (.inr (.inr ⟨i, (pc_of_goto_ne hi (by simp)).2⟩))
  holding := h.holding
  creating := fun q hq r' i hi => h.creating q hq r' i (pc_of_goto_ne hi (by simp)).2
  single := fun q hq q' hq' r₁ i₁ r₂ i₂ h₁ h₂ =>
    h.single q hq q' hq' r₁ i₁ r₂ i₂ (pc_of_goto_ne h₁ (by simp)).2 (pc_of_goto_ne h₂ (by simp)).2

lemma Inv.begin_release {i : Nat} (hheld : s.held p = some (r, i)) : Inv cfg
      { s.goto p (.releaseRead r.token) with held := Function.update s.held p none } := by
  have howns : ∀ q r', Owns { s.goto p (.releaseRead r.token) with held := Function.update s.held p none } q r' →
      Owns s q r' := by
    intro q r' ho
    by_cases hq : q = p
    · subst hq
      simp [Owns, State.goto] at ho
    · simpa [Owns, State.goto, Function.update_of_ne hq] using ho
  have hkeep : ∀ q v, Function.update s.held p none q = some v → s.held q = some v := by
    intro q v hv
    by_cases hq : q = p
    · subst hq
      simp at hv
    · simpa [Function.update_of_ne hq] using hv
  refine
    { unborn := ?_
      stamped := fun q r' hr => h.stamped q r' (howns q r' hr)
      minted := h.minted
      observed := ?_
      releasing := ?_
      stale := ?_
      holding := fun q hq r' i' hi => h.holding q hq r' i' (hkeep q _ hi)
      creating := fun q hq r' i' hi => h.creating q hq r' i' (pc_of_goto_ne hi (by simp)).2
      single := fun q hq q' hq' r₁ i₁ r₂ i₂ h₁ h₂ =>
        h.single q hq q' hq' r₁ i₁ r₂ i₂ (pc_of_goto_ne h₁ (by simp)).2
          (pc_of_goto_ne h₂ (by simp)).2 }
  · intro q hq
    obtain ⟨hne, hidle, hfree⟩ := h.unborn_goto hp hq (.releaseRead r.token)
    exact ⟨hidle, by simpa [Function.update_of_ne hne] using hfree⟩
  · intro q e he
    exact h.observed_goto (by simp) (by simp) he
  · intro q token hq
    rcases pc_of_goto hq with ⟨rfl, hq'⟩ | ⟨hne, hq'⟩
    · cases hq'
      exact ⟨(h.stamped q r (.inl ⟨i, hheld⟩)).1, by simp⟩
    · simpa [Function.update_of_ne hne] using h.releasing q token hq'
  · intro q e he q' hq' ho
    exact h.stale q e (pc_of_goto_ne he (by simp)).2 q' hq' (howns q' e ho)

/-- The exclusive create succeeds only while nobody alive occupies `lock.json`. -/
lemma Inv.create (hpc : s.pc p = .acquireCreate r) (hfree : s.fs.names .lock = none) : Inv cfg
      { s.goto p (.acquireWrite r s.fs.next) with fs := s.fs.replace .lock none } := by
  have hvacant : ∀ q ∈ s.procs.running, ∀ i, ¬ Occupies s q i := by
    intro q hq i ho
    have hname := h.occupied hq ho
    simp [hfree] at hname
  have howns : ∀ q r', Owns { s.goto p (.acquireWrite r s.fs.next) with fs := s.fs.replace .lock none } q r' →
      Owns s q r' := by
    intro q r' ho
    by_cases hq : q = p
    · subst hq
      rcases ho with hheld | hc | ⟨i, hi⟩
      · exact .inl hheld
      · simp [State.goto] at hc
      · have hr : r = r' := by
          have := hi
          simp [State.goto] at this
          exact this.1
        exact .inr (.inl (hr ▸ hpc))
    · simpa [Owns, State.goto, Function.update_of_ne hq] using ho
  refine
    { unborn := ?_
      stamped := fun q r' hr => h.stamped q r' (howns q r' hr)
      minted := ?_
      observed := ?_
      releasing := ?_
      stale := ?_
      holding := fun q hq r' i hi => absurd (.inl ⟨r', hi⟩) (hvacant q hq i)
      creating := ?_
      single := ?_ }
  · intro q hq
    exact (h.unborn_goto hp hq _).2
  · intro i r' hr
    by_cases hi : i = s.fs.next
    · subst hi
      simp at hr
    · exact h.minted i r' (by simpa [Function.update_of_ne hi] using hr)
  · intro q e he
    exact h.observed_goto (by simp) (by simp) he
  · intro q token hq
    exact h.releasing q token (pc_of_goto_ne hq (by simp)).2
  · intro q e he q' hq' ho
    exact h.stale q e (pc_of_goto_ne he (by simp)).2 q' hq' (howns q' e ho)
  · intro q hq r' i hi
    rcases pc_of_goto hi with ⟨_, hi'⟩ | ⟨_, hi'⟩
    · cases hi'
      simp
    · exact absurd (.inr ⟨r', hi'⟩) (hvacant q hq i)
  · intro q hq q' hq' r₁ i₁ r₂ i₂ h₁ h₂
    rcases pc_of_goto h₁ with ⟨hq₁, _⟩ | ⟨_, h₁'⟩
    · rcases pc_of_goto h₂ with ⟨hq₂, _⟩ | ⟨_, h₂'⟩
      · rw [hq₁, hq₂]
      · exact absurd (.inr ⟨r₂, h₂'⟩) (hvacant q' hq' i₂)
    · exact absurd (.inr ⟨r₁, h₁'⟩) (hvacant q hq i₁)

/-- Writing the record completes `acquireLock`: the creator's file was empty until now, so it is
nobody else's. -/
lemma Inv.write {i : Nat} (hpc : s.pc p = .acquireWrite r i) : Inv cfg { s.goto p .idle with
        fs := s.fs.write i (some r)
        held := Function.update s.held p (some (r, i)) } := by
  obtain ⟨hname, hempty⟩ := h.creating p hp r i hpc
  have hstamp := h.stamped p r (.inr (.inr ⟨i, hpc⟩))
  have howns : ∀ q r', Owns { s.goto p .idle with
        fs := s.fs.write i (some r)
        held := Function.update s.held p (some (r, i)) } q r' → Owns s q r' := by
    intro q r' ho
    by_cases hq : q = p
    · subst hq
      rcases ho with ⟨j, hj⟩ | hc | ⟨j, hj⟩
      · have hr : r = r' := by
          have := hj
          simp at this
          exact this.1
        exact hr ▸ .inr (.inr ⟨i, hpc⟩)
      · simp [State.goto] at hc
      · simp [State.goto] at hj
    · simpa [Owns, State.goto, Function.update_of_ne hq] using ho
  refine
    { unborn := ?_
      stamped := fun q r' hr => h.stamped q r' (howns q r' hr)
      minted := ?_
      observed := ?_
      releasing := ?_
      stale := fun q e he q' hq' ho =>
        h.stale q e (pc_of_goto_ne he (by simp)).2 q' hq' (howns q' e ho)
      holding := ?_
      creating := ?_
      single := fun q hq q' hq' r₁ i₁ r₂ i₂ h₁ h₂ =>
        h.single q hq q' hq' r₁ i₁ r₂ i₂ (pc_of_goto_ne h₁ (by simp)).2 (pc_of_goto_ne h₂ (by simp)).2 }
  · intro q hq
    obtain ⟨hne, hidle, hfree⟩ := h.unborn_goto hp hq .idle
    exact ⟨hidle, by simpa [Function.update_of_ne hne] using hfree⟩
  · intro j r' hr
    by_cases hj : j = i
    · subst hj
      have hr' : r = r' := by simpa using hr
      exact hr' ▸ hstamp.2.2
    · exact h.minted j r' (by simpa [Function.update_of_ne hj] using hr)
  · intro q e he
    exact h.observed_goto (by simp) (by simp) he
  · intro q token hq
    obtain ⟨hne, hq'⟩ := pc_of_goto_ne hq (by simp)
    simpa [Function.update_of_ne hne] using h.releasing q token hq'
  · intro q hq r' j hj
    by_cases hqp : q = p
    · subst hqp
      have hrj : r = r' ∧ i = j := by simpa using hj
      obtain ⟨rfl, rfl⟩ := hrj
      exact ⟨hname, by simp⟩
    · have hj' : s.held q = some (r', j) := by simpa [Function.update_of_ne hqp] using hj
      obtain ⟨hname', hdata'⟩ := h.holding q hq r' j hj'
      -- another holder would find its record in a file that is still empty
      have hij : i = j := by simpa [hname] using hname'
      simp [← hij, hempty] at hdata'
  · intro q hq r' j hj
    obtain ⟨hne, hj'⟩ := pc_of_goto_ne hj (by simp)
    -- `p` was the only creator, and it has left
    exact absurd (h.single q hq p hp r' j r i hj' hpc) hne

end

/-! ## Every admitted step keeps the invariant -/

omit [DecidableEq ι] in
/-- The record `releaseLock` reads back with its own token is not owned by anybody any more. -/
lemma Inv.owed_release (h : Inv cfg s) {token : Token ι} {lock : LockRecord ι}
    (hpc : s.pc p = .releaseRead token) (hread : s.fs.read .lock = some (some lock))
    (htoken : lock.token = token) : Owed s (.removeRename lock) := by
  obtain ⟨i, _, hdata⟩ := (Fs.read_eq_some_iff _).1 hread
  refine ⟨h.minted i lock hdata, ?_⟩
  intro q _ ho
  obtain ⟨hminter, hheld⟩ := h.releasing p token hpc
  -- an owner of the record minted its token, so it would be the releaser itself
  obtain rfl : q = p := by rw [← (h.stamped q lock ho).1, htoken, hminter]
  rcases ho with ⟨j, hj⟩ | hc | ⟨j, hj⟩
  · simp [hheld] at hj
  · simp [hpc] at hc
  · simp [hpc] at hj

omit [DecidableEq ι] in
lemma Inv.owed_recover (h : Inv cfg s) {lock : LockRecord ι} (hpc : s.pc p = .recoverProbe lock)
    (hstale : classifyStaleness cfg s.procs p lock = .staleSameHostDeadPid) : Owed s (.removeRename lock) := by
  refine ⟨h.observed p lock (.inl hpc), ?_⟩
  intro q hq ho
  unfold classifyStaleness at hstale
  split at hstale
  · cases hstale
  · next hhost =>
    have hhost' : lock.hostname = cfg.hostname p := by simpa using hhost
    -- a live owner answers the probe, since the record carries its host and PID
    have hprobe : s.procs.probe cfg.ident (cfg.hostname p, lock.pid) = true := by
      rw [← hhost', (h.stamped q lock ho).2.1]
      exact Table.probe_eq_true_of_running hq
    simp [hprobe] at hstale

lemma Inv.rename (h : Inv cfg s) {e : LockRecord ι} {fs : Fs (Path ι) (Content ι)} (hpc : s.pc p = .removeRename e)
    (hok : ∀ c, s.fs.read .lock = some c → c = some e)
    (hfs : s.fs.rename .lock (.claim p) = some fs) : Inv cfg { s with fs := fs } := by
  obtain ⟨_, _, _, hdata, _⟩ := Fs.rename_eq_some hfs
  refine h.withFs hdata ?_
  intro q hq i ho
  -- who occupies the file is seen by the read that the rename was judged on
  exfalso
  rcases ho with ⟨r, hr⟩ | ⟨r, hr⟩
  · have hread : s.fs.read .lock = some (some r) := (Fs.read_eq_some_iff _).2 ⟨i, h.holding q hq r i hr⟩
    have heq : r = e := by simpa using hok _ hread
    exact h.stale p e hpc q hq (heq ▸ .inl ⟨i, hr⟩)
  · have hread : s.fs.read .lock = some none := (Fs.read_eq_some_iff _).2 ⟨i, h.creating q hq r i hr⟩
    simpa using hok _ hread

lemma Inv.linkBack (h : Inv cfg s) (p : ι) : Inv cfg { s with fs := (s.fs.link (.claim p) .lock).getD s.fs } := by
  refine h.withFs (by simp) ?_
  intro q hq i ho
  have hname := h.occupied hq ho
  rw [Fs.link_getD_names _ (.inr (by simp [hname]))]
  exact hname

lemma Inv.unlinkClaim (h : Inv cfg s) (p : ι) : Inv cfg { s with fs := s.fs.unlink (.claim p) } := by
  refine h.withFs (by simp) ?_
  intro q hq i ho
  simpa using h.occupied hq ho

lemma Inv.advance (h : Inv cfg s) (hp : p ∈ s.procs.running)
    (hok : Undisturbed s (.run p)) (hst : RunLock.advance cfg s p = some t) : Inv cfg t := by
  unfold RunLock.advance at hst
  split at hst
  · cases hst
  · next r hpc =>
    cases hc : s.fs.createExclusive .lock none with
    | none =>
      simp only [hc, Option.some.injEq] at hst
      exact hst ▸ h.goto hp trivial
    | some fs =>
      simp only [hc, Option.some.injEq] at hst
      obtain ⟨hfree, rfl⟩ := Fs.createExclusive_eq_some hc
      exact hst ▸ h.create hp hpc hfree
  · next r i hpc =>
    simp only [Option.some.injEq] at hst
    exact hst ▸ h.write hp hpc
  · next token hpc =>
    split at hst
    · next lock hread =>
      split at hst
      · next htoken =>
        cases hst
        exact h.goto hp (h.owed_release hpc hread htoken)
      · cases hst
        exact h.goto hp trivial
    · cases hst
      exact h.goto hp trivial
  · split at hst
    · next lock hread =>
      cases hst
      obtain ⟨i, _, hdata⟩ := (Fs.read_eq_some_iff _).1 hread
      exact h.goto hp (h.minted i lock hdata)
    · cases hst
      exact h.goto hp trivial
  · next lock hpc =>
    split at hst
    · next hstale =>
      cases hst
      exact h.goto hp (h.owed_recover hpc hstale)
    · cases hst
      exact h.goto hp trivial
  · next e hpc =>
    split at hst
    · cases hst
      exact h.goto hp trivial
    · next fs hfs =>
      cases hst
      exact (h.rename hpc (hok p rfl e (by simp [hpc, Pc.renaming])) hfs).goto hp trivial
  · split at hst
    · cases hst
      exact h.goto hp trivial
    · cases hst
      exact h.goto hp trivial
  · cases hst
    exact (h.linkBack p).goto hp trivial
  · cases hst
    exact (h.unlinkClaim p).goto hp trivial

lemma Inv.begin (h : Inv cfg s) (hp : p ∈ s.procs.running) {c : Call}
    (hst : RunLock.begin cfg s p c = some t) : Inv cfg t := by
  cases c with
  | acquireLock engine acquiredAt startTime =>
    cases hst
    exact h.begin_acquire hp rfl rfl
  | releaseLock =>
    cases hheld : s.held p with
    | none => simp [RunLock.begin, hheld] at hst
    | some ri =>
      rcases ri with ⟨r, i⟩
      simp only [RunLock.begin, hheld, Option.some.injEq] at hst
      exact hst ▸ h.begin_release hp hheld
  | recoverLock =>
    cases hst
    exact h.goto hp trivial

lemma Inv.step (h : Inv cfg s) {a : Act ι} (hok : Undisturbed s a)
    (hst : RunLock.step cfg s a = some t) : Inv cfg t := by
  cases a with
  | spawn p =>
    obtain ⟨procs, hprocs, rfl⟩ := Option.map_eq_some_iff.1 hst
    exact h.withProcs (Table.changes_of_spawn hprocs)
  | crash p =>
    obtain ⟨procs, hprocs, rfl⟩ := Option.map_eq_some_iff.1 hst
    exact h.withProcs (Table.changes_of_crash hprocs)
  | call p c =>
    simp only [RunLock.step] at hst
    split at hst
    · next hp => exact h.begin hp.1 hst
    · cases hst
  | run p =>
    simp only [RunLock.step] at hst
    split at hst
    · next hp => exact h.advance hp hok hst
    · cases hst

/-- `lock.json` holds `lock`, and the processes of `procs` have not called anything yet. -/
def atRest (lock : Option (LockRecord Nat)) (procs : Table Nat) : State Nat where
  fs :=
    match lock with
    | none => Fs.empty none
    | some r => (Fs.empty none).replace .lock (some r)
  procs := procs
  pc := fun _ => .idle
  held := fun _ => none
  serial := 1

/-- The record that process 0 left behind. -/
def leftBehind : LockRecord Nat where
  engine := .claude
  pid := 0
  hostname := "host-a"
  acquiredAt := "2026-01-01T00:00:00.000Z"
  token := { minter := 0, serial := 0 }
  runId := "run-1"
  startTime := none

lemma initial_atRest (procs : Table Nat) : Initial (atRest (some leftBehind) procs) where
  idle := fun _ => rfl
  free := fun _ => rfl
  minted := by
    intro i r hr
    by_cases hi : i = 0
    · subst hi
      obtain rfl : leftBehind = r := by simpa [atRest, Fs.empty] using hr
      show 0 < 1
      decide
    · simp [atRest, Fs.empty, Function.update_of_ne hi] at hr

/-- `acquireLock` up to its exclusive create. -/
def attempt (p : Nat) : List (Act Nat) :=
  [.call p (.acquireLock .claude "2026-01-01T00:01:00.000Z" none), .run p]

def acquire (p : Nat) : List (Act Nat) :=
  attempt p ++ [.run p]

end RunLock
end AgentPipeline.Locks
