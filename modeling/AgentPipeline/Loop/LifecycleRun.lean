import AgentPipeline.Loop.Lifecycle

/-!
# LifecycleRun: what a lifecycle record keeps over repeated admissions

A cycle consults the durable record with its own evidence, acts on the ownership it gets and binds
it to the ledger (`LifecycleStep.apply`). The consulted ownership puts fresh evidence first, while
the record that is written is sticky once it is `succeeded` or `cancelled`:

* `apply_record`: what one step stores;
* `Continues`: how the record at the end of a run continues the one at its start: a terminal
  state and the logical-operation id stay, and the revision counts the changes of ownership.
-/

namespace AgentPipeline.Loop

/-- `TERMINAL_LIFECYCLE_STATES`. -/
def RecoveryLifecycleState.isTerminal : RecoveryLifecycleState → Bool
  | .succeeded | .cancelled => true
  | _ => false

lemma RecoveryLifecycleState.isTerminal_iff {state : RecoveryLifecycleState} :
    state.isTerminal = true ↔ state = .succeeded ∨ state = .cancelled := by
  cases state <;> simp [isTerminal]

/-- The ownership that a cycle acts on: derived when there is no record yet. -/
def reportedOwnership (record : Option DurableLifecycleRecord)
    (evidence : LifecycleDerivationInput) : LifecycleOwnership :=
  match record with
  | some rec => consultLifecycleRecord (some rec) evidence
  | none => deriveLifecycleState evidence

/-- One admission: the evidence of a cycle, its clock and the id it resolved. -/
structure LifecycleStep where
  evidence : LifecycleDerivationInput
  updatedAt : String
  logicalOperationId : String

namespace LifecycleStep

def apply (ledger : LoopLedger) (s : LifecycleStep) : LoopLedger :=
  bindLifecycleRecord ledger s.logicalOperationId
    (reportedOwnership ledger.lifecycle s.evidence) s.updatedAt

/-- A run of admissions, each of which may be made on every ledger. -/
def applyAll (ledger : LoopLedger) (steps : List LifecycleStep) : LoopLedger :=
  steps.foldl apply ledger

/-- The ownership of the record after the step is not the one before it. -/
def Changes (ledger : LoopLedger) (s : LifecycleStep) : Prop :=
  (s.apply ledger).lifecycle.map (·.toLifecycleOwnership) ≠ ledger.lifecycle.map (·.toLifecycleOwnership)

instance (ledger : LoopLedger) (s : LifecycleStep) : Decidable (s.Changes ledger) :=
  inferInstanceAs (Decidable (¬_))

/-- The steps of a run that change the ownership. -/
def changes : LoopLedger → List LifecycleStep → Nat
  | _, [] => 0
  | ledger, s :: steps => (if s.Changes ledger then 1 else 0) + changes (s.apply ledger) steps

/-! ## One step -/

lemma apply_record (ledger : LoopLedger) (s : LifecycleStep) : ∃ rec, (s.apply ledger).lifecycle = some rec ∧
      (rec.toLifecycleOwnership = reportedOwnership ledger.lifecycle s.evidence ∨
        (ledger.lifecycle = some rec ∧ rec.state.isTerminal = true ∧
          (reportedOwnership ledger.lifecycle s.evidence).state ≠ rec.state)) := by
  refine ⟨_, rfl, ?_⟩
  unfold applyLifecycleTransition
  split
  · exact .inl rfl
  · next rec hrec =>
    split
    · next hsticky =>
      exact .inr ⟨hrec, RecoveryLifecycleState.isTerminal_iff.2 hsticky.1, hsticky.2⟩
    · split
      · next hsame => exact .inl hsame
      · exact .inl rfl

lemma apply_of_record {ledger : LoopLedger} {rec : DurableLifecycleRecord}
    (h : ledger.lifecycle = some rec) (s : LifecycleStep) :
    ∃ rec', (s.apply ledger).lifecycle = some rec' ∧ rec'.logicalOperationId = rec.logicalOperationId ∧
      (rec.state.isTerminal = true → rec'.state = rec.state) ∧
      rec'.revision = rec.revision + if s.Changes ledger then 1 else 0 := by
  have hchanges : ∀ rec', (s.apply ledger).lifecycle = some rec' →
      (s.Changes ledger ↔ rec'.toLifecycleOwnership ≠ rec.toLifecycleOwnership) := by
    intro rec' hrec'
    simp [Changes, hrec', h]
  -- by the three ways a record is written: sticky, unchanged, replaced
  have hstored : (s.apply ledger).lifecycle = some (applyLifecycleTransition (some rec)
      (reportedOwnership ledger.lifecycle s.evidence) s.updatedAt s.logicalOperationId) := by
    rw [← h]
    rfl
  unfold applyLifecycleTransition at hstored
  dsimp only at hstored
  split at hstored
  · have hno : ¬s.Changes ledger := by simp [hchanges _ hstored]
    exact ⟨rec, hstored, rfl, fun _ => rfl, by simp [hno]⟩
  · next hfree =>
    split at hstored
    · have hno : ¬s.Changes ledger := by simp [hchanges _ hstored]
      exact ⟨rec, hstored, rfl, fun _ => rfl, by simp [hno]⟩
    · next hdiffers =>
      have hyes : s.Changes ledger := by
        rw [hchanges _ hstored]
        exact fun heq => hdiffers heq.symm
      refine ⟨_, hstored, rfl, fun hterminal => ?_, by simp [hyes]⟩
      -- a terminal record would have been kept
      by_contra hstate
      exact hfree ⟨RecoveryLifecycleState.isTerminal_iff.1 hterminal, hstate⟩

/-! ## Runs -/

/-- How the record after `n` changes of ownership continues `rec`. -/
structure Continues (rec : DurableLifecycleRecord) (n : Nat) (rec' : DurableLifecycleRecord) :
    Prop where
  logicalOperationId : rec'.logicalOperationId = rec.logicalOperationId
  terminal : rec.state.isTerminal = true → rec'.state = rec.state
  revision : rec'.revision = rec.revision + n

lemma Continues.trans {rec₁ rec₂ rec₃ : DurableLifecycleRecord} {m n : Nat}
    (h : Continues rec₁ m rec₂) (h' : Continues rec₂ n rec₃) : Continues rec₁ (m + n) rec₃ where
  logicalOperationId := h'.logicalOperationId.trans h.logicalOperationId
  terminal hterminal := by
    have hstate := h.terminal hterminal
    exact (h'.terminal (by rwa [hstate])).trans hstate
  revision := by
    rw [h'.revision, h.revision, Nat.add_assoc]

lemma continues_applyAll {ledger : LoopLedger} {rec : DurableLifecycleRecord}
    (h : ledger.lifecycle = some rec) (steps : List LifecycleStep) :
    ∃ rec', (applyAll ledger steps).lifecycle = some rec' ∧ Continues rec (changes ledger steps) rec' := by
  -- along the run; each step leaves a record for the next one
  induction steps generalizing ledger rec with
  | nil => exact ⟨rec, h, rfl, fun _ => rfl, rfl⟩
  | cons s steps ih =>
    obtain ⟨rec₁, hrec₁, hid, hterminal, hrevision⟩ := apply_of_record h s
    obtain ⟨rec₂, hrec₂, hcontinues⟩ := ih hrec₁
    exact ⟨rec₂, hrec₂, Continues.trans ⟨hid, hterminal, hrevision⟩ hcontinues⟩

end LifecycleStep

open LifecycleStep (applyAll changes Continues)

/-- After any run of admissions, the next one stores the ownership it reports or keeps a terminal
record that has another state; and over the run the record keeps its id and a terminal state, and
its revision grows by one with every change of ownership. -/
theorem lifecycle_admissions (ledger : LoopLedger) (steps : List LifecycleStep) :
    (∀ s : LifecycleStep, ∃ rec, (s.apply (applyAll ledger steps)).lifecycle = some rec ∧
      (rec.toLifecycleOwnership = reportedOwnership (applyAll ledger steps).lifecycle s.evidence ∨
        ((applyAll ledger steps).lifecycle = some rec ∧ rec.state.isTerminal = true ∧
          (reportedOwnership (applyAll ledger steps).lifecycle s.evidence).state ≠ rec.state))) ∧
    ∀ rec, ledger.lifecycle = some rec → ∃ rec', (applyAll ledger steps).lifecycle = some rec' ∧
      Continues rec (changes ledger steps) rec' :=
  ⟨fun s => s.apply_record _, fun _ hrec => LifecycleStep.continues_applyAll hrec steps⟩

/-- An operation that has succeeded is then cancelled: the cycle acts on `cancelled`, and the record
stays `succeeded`. -/
theorem cancelled_reported_succeeded_stored :
    ¬∀ (ledger : LoopLedger) (steps : List LifecycleStep) (s : LifecycleStep),
      (s.apply (applyAll ledger steps)).lifecycle.map (·.toLifecycleOwnership) =
        some (reportedOwnership (applyAll ledger steps).lifecycle s.evidence) := by
  intro h
  have hsame := h { runId := "r", items := .empty }
    [⟨{ observerProvedPostcondition := true }, "1970-01-01T00:00:00.000Z", "op"⟩]
    ⟨{ cancelledByAuthenticatedCaller := true }, "1970-01-01T00:00:01.000Z", "op"⟩
  exact absurd hsame (by decide)

end AgentPipeline.Loop
