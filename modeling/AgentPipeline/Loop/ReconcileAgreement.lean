import AgentPipeline.Loop.Reconcile

/-!
# ReconcileAgreement: when the pass throws on itself

`classifyDrift` decides `ledger-behind` for a `pr_opened` item on the raw state of the pull request
and its ready label, while `verifiedForwardTarget` also asks that the pull request is bound to the
item. Where the two differ, `reconcile` throws its "these must agree" error and the whole pass is
lost. This file shows that they differ exactly on `readyLabelWithoutBinding`, and that the pass
throws exactly when some item of the ledger is observed so.
-/

namespace AgentPipeline.Loop

section Agreement

variable (rt : JsRuntime)

lemma reconcilePass_mustAgree_iff (observed : String → LoopExternalIdentity)
    (contains : String → Option Bool) (input : ReconcileInput) (time : String)
    (ledger : LoopLedger) :
    (∃ id, reconcilePass rt ⟨fun id _ => .ok (observed id), contains⟩ input time ledger = .error (mustAgree id)) ↔
      refusingStop ledger = none ∧ ∃ id entry, ledger.items.get? id = some entry ∧
          readyLabelWithoutBinding rt entry.state (observed id) := by
  have hturn : ∀ id entry e, observeItem rt ⟨fun id _ => .ok (observed id), contains⟩ ledger
      input.engine time id entry = .error e ↔
        e = mustAgree id ∧ readyLabelWithoutBinding rt entry.state (observed id) :=
    fun id entry e => reconcileItem_eq_error_iff rt
  unfold reconcilePass
  cases hstop : refusingStop ledger with
  | some stop =>
    simp [stopRefusal, mustAgree]
  | none =>
    simp only [true_and]
    cases hitems : ledger.items.traverse
        (observeItem rt ⟨fun id _ => .ok (observed id), contains⟩ ledger input.engine time) with
    | error e =>
      obtain ⟨id, entry, hentry, he⟩ := JsObject.traverse_eq_error hitems
      obtain ⟨rfl, hlabel⟩ := (hturn id entry e).1 he
      exact ⟨fun _ => ⟨id, entry, hentry, hlabel⟩, fun _ => ⟨id, rfl⟩⟩
    | ok results =>
      simp only [reduceCtorEq, exists_false, false_iff, not_exists, not_and]
      intro id entry hentry hlabel
      -- a pass that went through had a turn of this item that did not throw
      rcases JsObject.get?_traverse hitems id with ⟨hnone, _⟩ | ⟨a, b, ha, hb, _⟩
      · simp [hentry] at hnone
      · obtain rfl : entry = a := by simpa [hentry] using ha
        rw [(hturn id entry _).2 ⟨rfl, hlabel⟩] at hb
        simp at hb

lemma assembleReconciliation_lastReconciliation (deps : ReconcileObserveDeps)
    (input : ReconcileInput) (time : String) (ledger : LoopLedger) (results : JsObject ReconciledItem) :
    (assembleReconciliation rt deps input time ledger results).2.lastReconciliation =
      some (assembleReconciliation rt deps input time ledger results).1 := by
  unfold assembleReconciliation
  dsimp only
  split
  · simp [bindLifecycleForItemTransition]
  · rfl

lemma reconcilePass_eq_ok {deps : ReconcileObserveDeps} {input : ReconcileInput}
    {time : String} {ledger next : LoopLedger} {report : LoopReconciliation}
    (h : reconcilePass rt deps input time ledger = .ok (report, next)) : refusingStop ledger = none ∧ ∃ results,
      ledger.items.traverse (observeItem rt deps ledger input.engine time) = .ok results ∧
        (report, next) = assembleReconciliation rt deps input time ledger results := by
  unfold reconcilePass at h
  split at h
  · simp at h
  · next hstop =>
    split at h
    · simp at h
    · next results hresults =>
      exact ⟨hstop, results, hresults, by simpa [eq_comm] using h⟩

/-- What a committed decision of `reconcile` says of its pass. -/
lemma reconcilePass_of_decided {deps : ReconcileObserveDeps} {input : ReconcileInput} {time : String}
    {ledger next : LoopLedger} {report : LoopReconciliation}
    (h : (reconcilePass rt deps input time ledger).map (fun r => (r.1, some r.2)) = .ok (report, some next)) :
    reconcilePass rt deps input time ledger = .ok (report, next) := by
  cases hpass : reconcilePass rt deps input time ledger with
  | error e => simp [hpass, Except.map] at h
  | ok decision => simpa [hpass, Except.map, Prod.ext_iff] using h

/-- A throw of the pass is the throw of `reconcile`; the read and the write fail otherwise. -/
lemma reconcile_mustAgree_iff {now : Instant} {deps : ReconcileObserveDeps}
    {input : ReconcileInput} {d : RunDir} {id : String} : (reconcile rt now deps input d).1 = .error (mustAgree id) ↔
      ∃ ledger, (readLedger rt now none d).1 = .ok ledger ∧
        reconcilePass rt deps input (rt.toISOString now) ledger = .error (mustAgree id) := by
  unfold reconcile transact
  cases hread : readLedger rt now none d with
  | mk result d₁ =>
    cases result with
    | error e =>
      -- the errors of a read are of class `lock`, the disagreement is of class `validation`
      have hclass := readLedger_none_eq_error rt now hread
      simp only [reduceCtorEq, false_and, exists_false, iff_false, Except.error.injEq]
      rintro rfl
      simp [mustAgree] at hclass
    | ok ledger =>
      simp only [Except.ok.injEq, exists_eq_left']
      cases hpass : reconcilePass rt deps input (rt.toISOString now) ledger with
      | error e => simp [Except.map]
      | ok decision =>
        obtain ⟨report, next⟩ := decision
        obtain ⟨_, results, _, hassemble⟩ := reconcilePass_eq_ok rt hpass
        have hlast : next.lastReconciliation = some report := by
          have h := assembleReconciliation_lastReconciliation rt deps input
            (rt.toISOString now) ledger results
          rwa [← hassemble] at h
        simp only [Except.map, reduceCtorEq, iff_false]
        cases hwrite : writeLedger rt input.token next d₁ with
        | mk written d₂ =>
          cases written with
          | ok _ => simp
          | error e =>
            -- a reconciled ledger is refused for its token only: class `lock` again
            have hclass := requireToken_eq_error (writeLedger_eq_error rt (by simp [hlast]) hwrite)
            simp only [Except.error.injEq]
            rintro rfl
            simp [mustAgree] at hclass

/-- Classification and target agree exactly off `readyLabelWithoutBinding`, and `reconcile` throws
on their disagreement exactly when it reads an item that is observed so. -/
theorem reconciliation_agreement_iff :
    (∀ (state : LoopItemState) (identity : LoopExternalIdentity)
        (bound : Option LoopExternalIdentity),
      (classifyDrift rt state identity bound = some .ledgerBehind →
          (verifiedForwardTarget rt identity).isSome = true) ↔
        ¬readyLabelWithoutBinding rt state identity) ∧
    ∀ (now : Instant) (observed : String → LoopExternalIdentity)
        (contains : String → Option Bool) (input : ReconcileInput) (d : RunDir),
      (∃ id, (reconcile rt now ⟨fun id _ => .ok (observed id), contains⟩ input d).1 = .error (mustAgree id)) ↔
        ∃ ledger, (readLedger rt now none d).1 = .ok ledger ∧ refusingStop ledger = none ∧
          ∃ id entry, ledger.items.get? id = some entry ∧ readyLabelWithoutBinding rt entry.state (observed id) := by
  refine ⟨ledgerBehind_isSome_iff rt, fun now observed contains input d => ?_⟩
  simp only [reconcile_mustAgree_iff]
  constructor
  · rintro ⟨id, ledger, hread, hpass⟩
    exact ⟨ledger, hread, (reconcilePass_mustAgree_iff rt observed contains input _ ledger).1 ⟨id, hpass⟩⟩
  · rintro ⟨ledger, hread, hlabel⟩
    obtain ⟨id, hpass⟩ :=
      (reconcilePass_mustAgree_iff rt observed contains input (rt.toISOString now) ledger).2 hlabel
    exact ⟨id, ledger, hread, hpass⟩

end Agreement

/-! ## An observation that aborts the pass -/

/-- An open pull request with the ready label whose artifact binding could not be read: a fetch of
its diff failed, so the role is unknown and no identity or epoch is bound. -/
def unboundReadyIdentity : LoopExternalIdentity where
  issueNumber := 7
  issueOpen := true
  readyLabelPresent := true
  blockedLabelPresent := false
  prNumber := some 12
  prState := some .opened
  headBranch := "pipeline/7"
  headSha := "a"
  mergeCommitSha := none
  checksConclusion := .success
  pipelineStage := some "ready-to-deploy"
  observedAt := "1970-01-01T00:00:00.000Z"
  localHeadSha := none
  rebaseInProgress := false
  productDirt := false
  integrationCertainty := some .knownAbsent
  artifactRole := some .unknown
  artifactIdentity := none
  candidateEpoch := none
  logicalCandidateEpoch := none
  logicalOperationId := none
  expectedLogicalOperationId := none
  linkedPrNumbers := [12]

theorem ledgerBehind_without_target :
    ¬∀ (rt : JsRuntime) (state : LoopItemState) (identity : LoopExternalIdentity)
        (bound : Option LoopExternalIdentity),
      classifyDrift rt state identity bound = some .ledgerBehind →
        (verifiedForwardTarget rt identity).isSome = true := by
  intro h
  have hsome := h (.onFirstDay []) .prOpened unboundReadyIdentity none (by decide +kernel)
  exact absurd hsome (by decide +kernel)

end AgentPipeline.Loop
