import Mathlib.Data.List.Basic

/-!
# Process: a process table with births and deaths

Lock protocols probe process identifiers for liveness. A `Table` records which processes run and
which have died. A process is born at most once and dies at most once; the operating-system
identity it carries (a PID, or a host together with a PID) may be carried by several processes
over time, so a probe answers for the identity and not for the process.
-/

universe u v

namespace Process

variable {ι : Type u}

/-- The processes that run now and those that ran and died. -/
structure Table (ι : Type u) where
  running : List ι
  dead : List ι
  deriving DecidableEq, Repr

namespace Table

/-- The process exists in the table, running or dead. -/
def Born (t : Table ι) (p : ι) : Prop :=
  p ∈ t.running ∨ p ∈ t.dead

/-- Signal-0 probe: some running process carries the identity `k`. -/
def probe {κ : Type v} [DecidableEq κ] (ident : ι → κ) (t : Table ι) (k : κ) : Bool :=
  t.running.any fun q => ident q = k

lemma probe_eq_true_of_running {κ : Type v} [DecidableEq κ] {ident : ι → κ} {t : Table ι}
    {p : ι} (h : p ∈ t.running) : t.probe ident (ident p) = true := by
  simp only [probe, List.any_eq_true, decide_eq_true_eq]
  exact ⟨p, h, rfl⟩

variable [DecidableEq ι]

instance (t : Table ι) (p : ι) : Decidable (t.Born p) :=
  inferInstanceAs (Decidable (p ∈ t.running ∨ p ∈ t.dead))

/-- A process that was never born starts to run. -/
def spawn (t : Table ι) (p : ι) : Option (Table ι) :=
  if t.Born p then none else some { t with running := p :: t.running }

/-- A running process dies, at any point of what it is doing. -/
def crash (t : Table ι) (p : ι) : Option (Table ι) :=
  if p ∈ t.running then
    some { running := t.running.filter (fun q => q ≠ p), dead := p :: t.dead }
  else
    none

lemma spawn_eq_some {t t' : Table ι} {p : ι} (h : t.spawn p = some t') :
    ¬ t.Born p ∧ t' = { t with running := p :: t.running } := by
  unfold spawn at h
  split at h
  · cases h
  · next hb =>
    cases h
    exact ⟨hb, rfl⟩

lemma mem_running_of_spawn {t t' : Table ι} {p q : ι} (h : t.spawn p = some t')
    (hq : q ∈ t'.running) : q = p ∨ q ∈ t.running := by
  obtain ⟨_, rfl⟩ := spawn_eq_some h
  simpa using hq

/-- What a birth and a death leave as it was. -/
structure Changes (t t' : Table ι) : Prop where
  born : ∀ q, ¬ t'.Born q → ¬ t.Born q
  running : ∀ q ∈ t'.running, q ∈ t.running ∨ ¬ t.Born q

lemma changes_of_spawn {t t' : Table ι} {p : ι} (h : t.spawn p = some t') : t.Changes t' := by
  obtain ⟨hfresh, rfl⟩ := spawn_eq_some h
  refine ⟨fun q hq hb => hq ?_, fun q hq => ?_⟩
  · rcases hb with hr | hd
    · exact .inl (List.mem_cons_of_mem _ hr)
    · exact .inr hd
  · rcases mem_running_of_spawn h hq with rfl | hq
    · exact .inr hfresh
    · exact .inl hq

lemma mem_running_of_crash {t t' : Table ι} {p q : ι} (h : t.crash p = some t')
    (hq : q ∈ t'.running) : q ∈ t.running := by
  unfold crash at h
  split at h
  · cases h
    exact List.mem_of_mem_filter hq
  · cases h

lemma changes_of_crash {t t' : Table ι} {p : ι} (h : t.crash p = some t') : t.Changes t' := by
  refine ⟨fun q hq => ?_, fun q hq => .inl (mem_running_of_crash h hq)⟩
  unfold crash at h
  split at h
  · cases h
    intro hb
    refine hq ?_
    rcases hb with hr | hd
    · by_cases hqp : q = p
      · exact .inr (by simp [hqp])
      · exact .inl (List.mem_filter.2 ⟨hr, by simpa using hqp⟩)
    · exact .inr (List.mem_cons_of_mem _ hd)
  · cases h

end Table

end Process
