import AgentPipeline.Loop.AcceptedRows

/-!
# LegacyMigration: runs of the workflow policy from before the Tester-rebind strategy

A run whose contract still holds the five-strategy workflow-engine default is validated under
today's six strategies, with its cursors rebased to the place of the new one. The validator relates
the cursor to three other things, and the rebase touches none of them:

* the strategies below the cursor — the first three are the same in both sequences;
* the counters and the skipped rows — they do not mention the cursor;
* the number of listed skips, which the cursor bounds — `ListsFewSkips` is what is left to ask.
-/

namespace AgentPipeline.Loop

open List

/-- The workflow-engine entry is the default from before the Tester-rebind strategy, and no other
entry is a stale default. -/
structure PreTesterRebind (policy : RecoveryPolicy) : Prop where
  workflow : rebasesLegacyCursor policy
  others : ∀ cls, cls ≠ .workflowEngineDefect → policy cls ∉ staleDefaultPolicyEntries cls

/-- The rows whose cursor the migration rebases list no more skips than the rebased cursor. -/
def ListsFewSkips (a : LoopRecoveryAttempt) : Prop :=
  isWorkflowEngineRow a → a.strategyCursor.any (3 ≤ ·) = true → (a.skippedStrategies.getD []).length ≤ 3

instance (a : LoopRecoveryAttempt) : Decidable (ListsFewSkips a) :=
  inferInstanceAs (Decidable (_ → _ → _))

/-! ## The upgraded entry -/

/-- What a row accepted under `old` needs of `new`, up to the cursor `cursor`. -/
structure EntryUpgrade (cls : DurableBlockerClass) (old new : RecoveryPolicyEntry) (cursor : Nat) :
    Prop where
  entry : isRecoveryPolicyEntry cls old = true → isRecoveryPolicyEntry cls new = true
  bound : perStrategyBound new = perStrategyBound old
  recipes : ∀ r ∈ old.recipes, r ∈ new.recipes
  length : old.recipes.length ≤ new.recipes.length
  take : new.recipes.take cursor = old.recipes.take cursor

lemma EntryUpgrade.refl (cls : DurableBlockerClass) (entry : RecoveryPolicyEntry) (cursor : Nat) :
    EntryUpgrade cls entry entry cursor := ⟨id, rfl, fun _ => id, le_rfl, rfl⟩

variable {cursor : Nat}

lemma EntryUpgrade.workflow (h : cursor ≤ 3) :
    EntryUpgrade .workflowEngineDefect pre1468WorkflowEntry
      (defaultRecoveryPolicy .workflowEngineDefect) cursor where
  entry _ := by decide +kernel
  bound := rfl
  recipes := by decide
  length := by decide
  take := by
    have hthree : (defaultRecoveryPolicy .workflowEngineDefect).recipes.take 3 =
        pre1468WorkflowEntry.recipes.take 3 := rfl
    calc (defaultRecoveryPolicy .workflowEngineDefect).recipes.take cursor
        = ((defaultRecoveryPolicy .workflowEngineDefect).recipes.take 3).take cursor := by
          rw [take_take, min_eq_left h]
      _ = (pre1468WorkflowEntry.recipes.take 3).take cursor := by rw [hthree]
      _ = pre1468WorkflowEntry.recipes.take cursor := by rw [take_take, min_eq_left h]

lemma effectivePolicy_upgrades {policy : RecoveryPolicy} (h : PreTesterRebind policy) (cls : DurableBlockerClass)
    (hcursor : cls = .workflowEngineDefect → cursor ≤ 3) :
    EntryUpgrade cls (policy cls) (effectivePolicy policy cls) cursor := by
  cases hcompiled : compileRecoveryPolicy (normalizeRecoveryPolicyCompatibility policy) with
  | error fault =>
    simp only [effectivePolicy, hcompiled]
    exact EntryUpgrade.refl cls _ cursor
  | ok compiled =>
    obtain ⟨rfl, _⟩ := compileRecoveryPolicy_eq_ok.1 hcompiled
    simp only [effectivePolicy, hcompiled, normalizeRecoveryPolicyCompatibility]
    by_cases hcls : cls = .workflowEngineDefect
    · subst hcls
      have hstale : policy .workflowEngineDefect = pre1468WorkflowEntry := h.workflow
      rw [if_pos (by simp [hstale, staleDefaultPolicyEntries]), hstale]
      exact EntryUpgrade.workflow (hcursor rfl)
    · rw [if_neg (h.others cls hcls)]
      exact EntryUpgrade.refl cls _ cursor

/-! ## One row -/

section Rows

variable {rt : JsRuntime} {policy : RecoveryPolicy} {rows : List LoopRecoveryAttempt}

lemma rebaseCursor_eq (policy : RecoveryPolicy) (a : LoopRecoveryAttempt) :
    ∃ cursor, rebaseCursor policy a = { a with strategyCursor := cursor } := by
  unfold rebaseCursor
  split
  · exact ⟨_, rfl⟩
  · exact ⟨a.strategyCursor, rfl⟩

variable {a : LoopRecoveryAttempt}

lemma rebaseCursor_cursor (h : rebasesLegacyCursor policy)
    (hcursor : a.strategyCursor = some cursor) :
    (rebaseCursor policy a).strategyCursor = some (if isWorkflowEngineRow a then min cursor 3 else cursor) := by
  by_cases hrow : isWorkflowEngineRow a
  · by_cases hpast : 3 ≤ cursor
    · simp [rebaseCursor, h, hrow, hcursor, hpast]
    · simp [rebaseCursor, hcursor, hpast, hrow]
      omega
  · simp [rebaseCursor, hrow, hcursor]

lemma normalizeAttempt_of_shape (h : isLoopRecoveryAttemptShape rt policy a = true) (disk : RecoveryPolicy) :
    normalizeAttempt rt disk a = rebaseCursor disk a := by
  have hsame : normalizeStartedRecoveryEpisodeIdentity rt a = a := by
    by_cases hcarries : attemptCarriesEpisodeState a = true
    · obtain ⟨_, key, cursor, persisted, hauth⟩ := authoritative_of_shape rt policy h hcarries
      exact normalizeStarted_of_episodeId rt (by simp [hauth.episodeId])
    · have hnone : a.operation = none := by
        simp only [attemptCarriesEpisodeState, Bool.or_eq_true, not_or] at hcarries
        simpa using hcarries.1.1.1.1.1.1.2
      simp [normalizeStartedRecoveryEpisodeIdentity, hnone]
  rw [normalizeAttempt, hsame]

lemma derivedAttemptCounts_rebase (id : Option String) (rows : List LoopRecoveryAttempt) :
    derivedAttemptCounts id (rows.map (rebaseCursor policy)) = derivedAttemptCounts id rows := by
  funext r
  unfold derivedAttemptCounts
  rw [countP_map]
  congr 1
  funext a
  obtain ⟨cursor, ha⟩ := rebaseCursor_eq policy a
  simp [ha, isChargedFor]

lemma mem_skippedRecipes_rebase (policy : RecoveryPolicy) (rows : List LoopRecoveryAttempt)
    (hid : a.episodeId ≠ none) (r : RecoveryRecipe) :
    r ∈ skippedRecipes (rebaseCursor policy a) (rows.map (rebaseCursor policy)) ↔ r ∈ skippedRecipes a rows := by
  obtain ⟨cursor, ha⟩ := rebaseCursor_eq policy a
  have hfields : ∀ b : LoopRecoveryAttempt, (rebaseCursor policy b).episodeId = b.episodeId ∧
      (rebaseCursor policy b).outcome = b.outcome ∧ (rebaseCursor policy b).action = b.action := by
    intro b
    obtain ⟨cursor, hb⟩ := rebaseCursor_eq policy b
    simp [hb]
  have hid' : (rebaseCursor policy a).episodeId ≠ none := by simpa [ha] using hid
  rw [mem_skippedRecipes hid, mem_skippedRecipes hid', (hfields a).1]
  have hlisted : (rebaseCursor policy a).skippedStrategies = a.skippedStrategies := by simp [ha]
  rw [hlisted]
  by_cases hrows : rows = []
  · simp [hrows, hfields]
  · simp [hrows, hfields]

lemma Authoritative.rebase (hpolicy : PreTesterRebind policy)
    {key : RecoveryEpisodeKey} {persisted : StrategyCounts}
    (h : Authoritative rt policy a rows key cursor persisted) (hskips : ListsFewSkips a) :
    Authoritative rt (effectivePolicy policy) (rebaseCursor policy a)
      (rows.map (rebaseCursor policy)) key (if isWorkflowEngineRow a then min cursor 3 else cursor)
      persisted := by
  have hcursor := rebaseCursor_cursor hpolicy.workflow h.cursor_eq
  obtain ⟨rebased, ha⟩ := rebaseCursor_eq policy a
  have hid : a.episodeId ≠ none := by simp [h.episodeId]
  have hmem := mem_skippedRecipes_rebase policy rows hid
  set cursor' := if isWorkflowEngineRow a then min cursor 3 else cursor with hcursor'
  have hle : cursor' ≤ cursor := by
    rw [hcursor']
    split <;> omega
  have hthree : a.blockerClass = .workflowEngineDefect → cursor' ≤ 3 := by
    intro hcls
    have hrow : isWorkflowEngineRow a := .inl hcls
    rw [hcursor', if_pos hrow]
    omega
  have hup := effectivePolicy_upgrades hpolicy a.blockerClass hthree
  have hclass : (rebaseCursor policy a).blockerClass = a.blockerClass := by simp [ha]
  -- only the cursor moves, so the identity of the row is that of `a`
  refine
    { operation := by simpa [ha] using h.operation
      invariant := by simpa [ha] using h.invariant
      candidateEpoch := by simpa [ha] using h.candidateEpoch
      evidenceIdentity := by simpa [ha] using h.evidenceIdentity
      nonBlank_operation := h.nonBlank_operation
      nonBlank_invariant := h.nonBlank_invariant
      episodeId := by simpa [ha] using h.episodeId
      cursor_eq := hcursor
      persisted_eq := by simpa [ha] using h.persisted_eq
      entry := ?_, action := ?_, actions := ?_, skips_fit := ?_, skips_allowed := ?_
      keys_allowed := ?_, counts := ?_, cursor_le := ?_, justified := ?_ }
  · rw [hclass]
    exact hup.entry h.entry
  · intro r hr
    rw [hclass]
    exact hup.recipes r (h.action r (by simpa [ha] using hr))
  · intro rs hrs r hr
    rw [hclass]
    exact hup.recipes r (h.actions rs (by simpa [ha] using hrs) r hr)
  · -- the one fact that the rebase can break
    have hlisted : (rebaseCursor policy a).skippedStrategies = a.skippedStrategies := by simp [ha]
    rw [hlisted, hcursor']
    have hfit := h.skips_fit
    split
    · next hrow =>
      by_cases hpast : 3 ≤ cursor
      · have := hskips hrow (by simp [h.cursor_eq, hpast])
        omega
      · omega
    · exact hfit
  · intro r hr
    rw [hclass]
    exact hup.recipes r (h.skips_allowed r ((hmem r).1 hr))
  · intro r hr
    rw [hclass]
    exact hup.recipes r (h.keys_allowed r hr)
  · intro hrows hlive
    have hrows₀ : rows ≠ [] := by simpa using hrows
    have hagree := h.counts hrows₀ (by simpa [ha] using hlive)
    rw [derivedAttemptCounts_rebase]
    simpa [ha] using hagree
  · rw [hclass]
    exact hle.trans (h.cursor_le.trans hup.length)
  · intro r hr
    -- below the rebased cursor both sequences name the same strategies
    rw [hclass, hup.take] at hr
    have hbelow : r ∈ (policy a.blockerClass).recipes.take cursor := take_subset_take_left _ hle hr
    have hjust := h.justified r hbelow
    rw [hclass, hup.bound]
    simp only [isAccountedFor, Bool.or_eq_true, decide_eq_true_eq] at hjust ⊢
    exact hjust.imp (hmem r).2 fun hspent => hspent

lemma shape_rebaseCursor_iff (hpolicy : PreTesterRebind policy) (h : isLoopRecoveryAttemptShape rt policy a = true) :
    isLoopRecoveryAttemptShape rt (effectivePolicy policy) (rebaseCursor policy a) = true ↔ ListsFewSkips a := by
  constructor
  · intro hshape hrow hpast
    have hrebased : (rebaseCursor policy a).strategyCursor = some 3 := by
      simp [rebaseCursor, hpolicy.workflow, hrow, hpast]
    have hcarries : attemptCarriesEpisodeState (rebaseCursor policy a) = true := by
      simp [attemptCarriesEpisodeState, hrebased]
    obtain ⟨_, key, cursor, persisted, hauth⟩ := authoritative_of_shape rt _ hshape hcarries
    have hthree : cursor = 3 := by simpa [hrebased] using hauth.cursor_eq.symm
    obtain ⟨_, ha⟩ := rebaseCursor_eq policy a
    simpa [ha, hthree] using hauth.skips_fit
  · intro hskips
    by_cases hcarries : attemptCarriesEpisodeState a = true
    · obtain ⟨heligible, key, cursor, persisted, hauth⟩ := authoritative_of_shape rt policy h hcarries
      have hauth' := (isAuthoritativeEpisodeState_iff rt _).2 ⟨_, _, _, hauth.rebase hpolicy hskips⟩
      obtain ⟨_, ha⟩ := rebaseCursor_eq policy a
      rw [ha] at hauth' ⊢
      simp only [isLoopRecoveryAttemptShape, Bool.and_eq_true] at h ⊢
      exact ⟨h.1, by simpa [isCompleteEpisodeState, heligible] using .inr hauth'⟩
    · -- a row of an older ledger has no cursor to rebase
      have hnone : a.strategyCursor = none := by
        simp only [attemptCarriesEpisodeState, Bool.or_eq_true, not_or] at hcarries
        simpa using hcarries.1.2
      have ha : rebaseCursor policy a = a := by simp [rebaseCursor, hnone]
      rw [ha]
      simp only [isLoopRecoveryAttemptShape, Bool.and_eq_true] at h ⊢
      exact ⟨h.1, by simp [hcarries]⟩

/-! ## The ledger -/

lemma episodeRows_rebase (rows : List LoopRecoveryAttempt) (eid : String) :
    episodeRows (rows.map (rebaseCursor policy)) eid = (episodeRows rows eid).map (rebaseCursor policy) := by
  unfold episodeRows
  rw [filter_map]
  congr 1
  apply filter_congr
  intro a _
  obtain ⟨_, ha⟩ := rebaseCursor_eq policy a
  simp [ha]

lemma rowsAccepted_rebase_iff (hpolicy : PreTesterRebind policy) (h : RowsAccepted rt policy rows) :
    RowsAccepted rt (effectivePolicy policy) (rows.map (rebaseCursor policy)) ↔ ∀ a ∈ rows, ListsFewSkips a := by
  constructor
  · intro hrebased a ha
    exact (shape_rebaseCursor_iff hpolicy (h.shape a ha)).1
      (hrebased.shape _ (mem_map_of_mem ha))
  · intro hskips
    refine ⟨fun b hb => ?_, fun eid latest hlatest => ?_⟩
    · obtain ⟨a, ha, rfl⟩ := mem_map.1 hb
      exact (shape_rebaseCursor_iff hpolicy (h.shape a ha)).2 (hskips a ha)
    -- the rebased newest row is the newest rebased row
    · rw [episodeRows_rebase, getLast?_map] at hlatest
      obtain ⟨a, ha, rfl⟩ := Option.map_eq_some_iff.1 hlatest
      obtain ⟨key, cursor, persisted, hauth⟩ := h.newest eid a ha
      exact ⟨key, _, persisted, hauth.rebase hpolicy (hskips a (mem_of_newest ha).1)⟩

lemma normalize_of_rowsAccepted (h : RowsAccepted rt policy rows) (disk : RecoveryPolicy) :
    rows.map (normalizeAttempt rt disk) = rows.map (rebaseCursor disk) :=
  map_congr_left fun a ha => normalizeAttempt_of_shape (h.shape a ha) disk

end Rows

/-- A run that is accepted under its own policy, whose workflow entry predates the Tester-rebind
strategy, is accepted after the migration, and read without a quarantine, exactly when no rebased
row lists more skips than the rebased cursor. -/
theorem migration_keeps_authority_iff (rt : JsRuntime) (d : RunDir)
    (hpolicy : PreTesterRebind d.contract.recoveryPolicy)
    (haccepted : isLoopLedgerShape rt d.contract.recoveryPolicy d.ledger = true) :
    (isLoopLedgerShape rt (effectivePolicy d.contract.recoveryPolicy)
        (normalizeRecoveryLedgerCompatibility rt d.contract.recoveryPolicy d.ledger) = true ∧
      ∀ now token, (readLedger rt now token d).2.quarantined = d.quarantined) ↔
      ∀ a ∈ d.ledger.recoveryAttempts, ListsFewSkips a := by
  obtain ⟨hrun, hrows, hcooling, hitemCooling⟩ := isLoopLedgerShape_iff.1 haccepted
  have hshape : isLoopLedgerShape rt (effectivePolicy d.contract.recoveryPolicy)
        (normalizeRecoveryLedgerCompatibility rt d.contract.recoveryPolicy d.ledger) = true ↔
      ∀ a ∈ d.ledger.recoveryAttempts, ListsFewSkips a := by
    rw [isLoopLedgerShape_iff, ← rowsAccepted_rebase_iff hpolicy hrows]
    simp only [normalizeRecoveryLedgerCompatibility, normalize_of_rowsAccepted hrows]
    exact ⟨fun h => h.2.1, fun h => ⟨hrun, h, hcooling, hitemCooling⟩⟩
  constructor
  · rintro ⟨h, _⟩
    exact hshape.1 h
  · intro h
    refine ⟨hshape.2 h, fun now token => ?_⟩
    rw [readLedger_of_accepts rt now (hshape.2 h)]

/-! ## Two runs of the old engine -/

/-- Today's defaults with the workflow entry from before the Tester-rebind strategy. -/
def preTesterRebindPolicy : RecoveryPolicy := fun cls =>
  if cls = .workflowEngineDefect then pre1468WorkflowEntry else defaultRecoveryPolicy cls

lemma preTesterRebind_policy : PreTesterRebind preTesterRebindPolicy where
  workflow := rfl
  others cls hcls := by
    cases cls <;> first | exact absurd rfl hcls | decide +kernel

def repairDigests : List (String × String) :=
  [("\x00".intercalate
      ["pipeline-recovery-episode@1", "loop_recovery", "workflow-engine-defect", "a1b2c3", "5f1e"],
    "568b5b68111fa97219c87f4cb585b0ef03782c73701d9c72195f56ab2a0004c4")]

/-- A started workflow-engine attempt that passed over the strategies in `skipped`. -/
def passedOver (action : RecoveryRecipe) (skipped : List RecoveryRecipe) : LoopRecoveryAttempt where
  attemptId := some "a"
  seq := 0
  time := "1970-01-01T00:00:00.000Z"
  itemId := "12"
  blockerClass := .workflowEngineDefect
  candidateIdentity := some "a1b2c3"
  action := some action
  actions := none
  evidenceFingerprint := "5f1e"
  outcome := .started
  budgetRemaining := some 1
  invariant := some "workflow-engine-defect"
  candidateEpoch := some "a1b2c3"
  evidenceIdentity := some "5f1e"
  attemptsPerStrategy := some (StrategyCounts.empty.charge action)
  strategyCursor := some skipped.length
  skippedStrategies := some skipped
  nextEligibleAt := some "1970-01-01T00:00:05.000Z"
  episodeId := some "568b5b68111fa97219c87f4cb585b0ef03782c73701d9c72195f56ab2a0004c4"
  operation := some "loop_recovery"

/-- A run whose only item is recovered by that attempt. -/
def passedOverRun (action : RecoveryRecipe) (skipped : List RecoveryRecipe) : RunDir :=
  let run := runOf { id := "12", state := .blocked, blockedTheme := some "workflow-engine-defect" }
  { run with
    contract := { run.contract with recoveryPolicy := preTesterRebindPolicy }
    ledger := { run.ledger with recoveryAttempts := [passedOver action skipped] } }

/-- The fourth strategy passed over three. -/
theorem migration_keeps_restart :
    isLoopLedgerShape (.onFirstDay repairDigests) (effectivePolicy preTesterRebindPolicy)
      (normalizeRecoveryLedgerCompatibility (.onFirstDay repairDigests) preTesterRebindPolicy
        (passedOverRun .restartWorkflowEngine
          [.unlinkEngineScratch, .checkpointOwnedHarnessDirt, .publishUnpublishedStageCommit]).ledger) = true :=
  ((migration_keeps_authority_iff (.onFirstDay repairDigests)
    (passedOverRun .restartWorkflowEngine
      [.unlinkEngineScratch, .checkpointOwnedHarnessDirt, .publishUnpublishedStageCommit])
    preTesterRebind_policy (by decide +kernel)).2 (by decide +kernel)).1

/-- The fifth strategy passed over four, one more than the rebased cursor: the old engine's ledger
is quarantined by the upgrade. -/
theorem migration_rejects_repair :
    ¬∀ (rt : JsRuntime) (d : RunDir), PreTesterRebind d.contract.recoveryPolicy →
      isLoopLedgerShape rt d.contract.recoveryPolicy d.ledger = true →
      isLoopLedgerShape rt (effectivePolicy d.contract.recoveryPolicy)
        (normalizeRecoveryLedgerCompatibility rt d.contract.recoveryPolicy d.ledger) = true := by
  intro h
  have haccepted := h (.onFirstDay repairDigests)
    (passedOverRun .repairPipelineItem
      [.unlinkEngineScratch, .checkpointOwnedHarnessDirt, .publishUnpublishedStageCommit, .restartWorkflowEngine])
    preTesterRebind_policy (by decide +kernel)
  exact absurd haccepted (by decide +kernel)

end AgentPipeline.Loop
