import AgentPipeline.Loop.Types

/-!
# RecoveryPolicy: compiled policies and their compatibility normalization

`loop/recovery-policy-compat.ts` on documents of the declared types:

* `compileRecoveryPolicy`: validates an entry for every blocker class;
* `normalizeRecoveryPolicyCompatibility`: replaces exact stale defaults by today's;
* `normalizeRecoveryLedgerCompatibility`: restores derivable episode ids of started claims and,
  under the policy from before the Tester-rebind strategy, rebases cursors of the
  workflow-engine class to the position where that strategy was inserted.

Both normalizations change a ledger's attempts row by row (`normalizeAttempt`) and are
idempotent.
-/

namespace AgentPipeline.Loop

open JsText (nonBlank)

/-! ## Compilation -/

/-- `HUMAN_AUTHORITY_CLASSES`. -/
def isHumanAuthorityClass : DurableBlockerClass → Bool
  | .missingAuthority | .specificationDecision => true
  | _ => false

def invalid (message : String) : LoopError where
  loopFailureClass := .validation
  message := message

/-- What `compileEntry` refuses; the fields that the type already decides are left out. -/
def compileEntryFault (cls : DurableBlockerClass) (entry : RecoveryPolicyEntry) :
    Option LoopError :=
  if entry.retryBudget < 0 then
    some (invalid ("recovery policy for \"" ++ cls.name ++ "\" is missing a valid retry_budget"))
  else if entry.perStrategyBound.any (fun b => b.den ≠ 1 || b < 0) then
    some (invalid ("recovery policy for \"" ++ cls.name ++ "\" has an invalid per_strategy_bound"))
  else if entry.repeatedEvidenceLimit < 1 then
    some (invalid ("recovery policy for \"" ++ cls.name ++ "\" is missing a valid repeated_evidence_limit"))
  else if isHumanAuthorityClass cls ∧ (entry.terminalOutcome ≠ .humanAuthority ∨ entry.recipes ≠ []) then
    some (invalid ("recovery policy for \"" ++ cls.name ++
      "\" must route to a terminal human-authority outcome with no automated recipe"))
  else none

def compileRecoveryPolicy (policy : RecoveryPolicy) : Except LoopError RecoveryPolicy :=
  match DurableBlockerClass.all.findSome? fun cls => compileEntryFault cls (policy cls) with
  | some fault => .error fault
  | none => .ok policy

variable {compiled policy : RecoveryPolicy}

lemma compileRecoveryPolicy_eq_ok : compileRecoveryPolicy policy = .ok compiled ↔
      compiled = policy ∧ ∀ cls, compileEntryFault cls (policy cls) = none := by
  unfold compileRecoveryPolicy
  -- the first fault in the order of the classes is reported, so none means none at all
  have hall : (DurableBlockerClass.all.findSome? fun cls => compileEntryFault cls (policy cls)) =
      none ↔ ∀ cls, compileEntryFault cls (policy cls) = none := by
    simp [DurableBlockerClass.mem_all]
  split
  · next fault hfault =>
    have hne : ¬∀ cls, compileEntryFault cls (policy cls) = none := fun h => by simp [hall.2 h] at hfault
    simp [hne]
  · next hnone => simp [hall.1 hnone, eq_comm]

/-! ## Defaults -/

def retryEntry (recipes : List RecoveryRecipe) (retryBudget : ℚ)
    (initialSeconds multiplier maxSeconds : ℚ) (runFatal : Bool) (repeatedEvidenceLimit : ℚ) :
    RecoveryPolicyEntry where
  recipes := recipes
  retryBudget := retryBudget
  backoff := ⟨initialSeconds, multiplier, maxSeconds⟩
  terminalOutcome := .retry
  runFatal := runFatal
  repeatedEvidenceLimit := repeatedEvidenceLimit
  perStrategyBound := none

def humanAuthorityEntry : RecoveryPolicyEntry :=
  { retryEntry [] 0 0 1 0 true 1 with terminalOutcome := .humanAuthority }

/-- `DEFAULT_RECOVERY_POLICY_INPUT`. -/
def defaultRecoveryPolicy : RecoveryPolicy
  | .transientRateLimit => retryEntry [.waitAndRetry] 5 30 2 900 false 3
  | .workflowState =>
    retryEntry [.resyncWorkflowState, .repairPipelineItem] 3 15 2 300 false 2
  | .implementationCi =>
    retryEntry [.verifyHeadGoal, .rerunCi, .repairPipelineItem] 3 30 2 600 false 2
  | .reviewFindings =>
    retryEntry [.unlinkEngineScratch, .repairPipelineItem] 3 15 2 300 false 2
  | .environmentAuth => retryEntry [.verifyAuthentication] 2 10 2 120 true 2
  | .specificationDecision => humanAuthorityEntry
  | .missingAuthority => humanAuthorityEntry
  | .upstreamDependency => retryEntry [.retryUpstreamCheck] 3 60 2 1800 false 3
  | .workflowEngineDefect =>
    retryEntry
      [.unlinkEngineScratch, .checkpointOwnedHarnessDirt, .publishUnpublishedStageCommit,
        .rebindTesterEvidenceAfterPr, .restartWorkflowEngine, .repairPipelineItem]
      2 5 1 5 true 2

/-- The workflow-engine default from before the Tester-rebind strategy, the last of the stale
ones. -/
def pre1468WorkflowEntry : RecoveryPolicyEntry :=
  retryEntry
    [.unlinkEngineScratch, .checkpointOwnedHarnessDirt, .publishUnpublishedStageCommit,
      .restartWorkflowEngine, .repairPipelineItem]
    2 5 1 5 true 2

/-- `STALE_DEFAULT_POLICY_ENTRIES`. The stale `environment-auth` default names a recipe that is
no longer in the catalogue, so no document of the declared type equals it. -/
def staleDefaultPolicyEntries : DurableBlockerClass → List RecoveryPolicyEntry
  | .workflowState => [retryEntry [.resyncWorkflowState] 3 15 2 300 false 2]
  | .implementationCi =>
    [retryEntry [.rerunCi] 3 30 2 600 false 2, retryEntry [.rerunCi, .repairPipelineItem] 3 30 2 600 false 2]
  | .workflowEngineDefect =>
    [retryEntry [.restartWorkflowEngine] 1 5 1 5 true 1,
      retryEntry [.restartWorkflowEngine, .repairPipelineItem] 1 5 1 5 true 1,
      retryEntry [.restartWorkflowEngine, .repairPipelineItem] 2 5 1 5 true 2,
      retryEntry [.unlinkEngineScratch, .restartWorkflowEngine, .repairPipelineItem] 2 5 1 5 true 2,
      retryEntry
        [.unlinkEngineScratch, .checkpointOwnedHarnessDirt, .restartWorkflowEngine, .repairPipelineItem]
        2 5 1 5 true 2,
      pre1468WorkflowEntry]
  | .reviewFindings => [retryEntry [.repairPipelineItem] 3 15 2 300 false 2]
  | _ => []

def normalizeRecoveryPolicyCompatibility (policy : RecoveryPolicy) : RecoveryPolicy := fun cls =>
  if policy cls ∈ staleDefaultPolicyEntries cls then defaultRecoveryPolicy cls else policy cls

/-- `effectiveRecoveryPolicyForLedgerValidation(policy) ?? policy`. -/
def effectivePolicy (policy : RecoveryPolicy) : RecoveryPolicy :=
  match compileRecoveryPolicy (normalizeRecoveryPolicyCompatibility policy) with
  | .ok compiled => compiled
  | .error _ => policy

lemma compileEntryFault_default (cls : DurableBlockerClass) :
    compileEntryFault cls (defaultRecoveryPolicy cls) = none := by
  cases cls <;> decide +kernel

lemma compileRecoveryPolicy_normalize (h : compileRecoveryPolicy policy = .ok compiled) :
    compileRecoveryPolicy (normalizeRecoveryPolicyCompatibility policy) =
      .ok (normalizeRecoveryPolicyCompatibility policy) := by
  have hpolicy := (compileRecoveryPolicy_eq_ok.1 h).2
  refine compileRecoveryPolicy_eq_ok.2 ⟨rfl, fun cls => ?_⟩
  unfold normalizeRecoveryPolicyCompatibility
  -- a stale entry is replaced by a default, which compiles; the others stay
  split
  · exact compileEntryFault_default cls
  · exact hpolicy cls

lemma effectivePolicy_of_compiled (h : compileRecoveryPolicy policy = .ok compiled) :
    effectivePolicy policy = normalizeRecoveryPolicyCompatibility policy := by
  simp [effectivePolicy, compileRecoveryPolicy_normalize h]

/-! ## Attempt rows -/

variable (rt : JsRuntime)

structure RecoveryEpisodeKey where
  operation : String
  invariant : String
  candidateEpoch : String
  evidenceIdentity : String
deriving DecidableEq, Repr

/-- `recoveryEpisodeId(key)`: the digest of the joined key, so keys may collide. -/
def recoveryEpisodeId (key : RecoveryEpisodeKey) : String :=
  rt.sha256 ("\x00".intercalate
    ["pipeline-recovery-episode@1", key.operation, key.invariant, key.candidateEpoch, key.evidenceIdentity])

/-- `normalizeStartedRecoveryEpisodeIdentity`: restore the derived id of an otherwise complete
started claim. -/
def normalizeStartedRecoveryEpisodeIdentity (attempt : LoopRecoveryAttempt) : LoopRecoveryAttempt :=
  let evidenceIdentity := attempt.evidenceIdentity.getD attempt.evidenceFingerprint
  match attempt.operation, attempt.invariant, attempt.candidateEpoch with
  | some operation, some invariant, some candidateEpoch =>
    if attempt.outcome = .started ∧ attempt.episodeId = none ∧ nonBlank operation ∧
        nonBlank invariant ∧ nonBlank candidateEpoch ∧ nonBlank evidenceIdentity then
      { attempt with
        evidenceIdentity := some evidenceIdentity
        episodeId := some (recoveryEpisodeId rt
          ⟨operation, invariant, candidateEpoch, evidenceIdentity⟩) }
    else attempt
  | _, _, _ => attempt

/-- The policy on disk is the exact default from before the Tester-rebind strategy. -/
def rebasesLegacyCursor (policy : RecoveryPolicy) : Prop :=
  policy .workflowEngineDefect = pre1468WorkflowEntry

instance (policy : RecoveryPolicy) : Decidable (rebasesLegacyCursor policy) :=
  inferInstanceAs (Decidable (_ = _))

def isWorkflowEngineRow (attempt : LoopRecoveryAttempt) : Prop :=
  attempt.blockerClass = .workflowEngineDefect ∨ attempt.invariant = some DurableBlockerClass.workflowEngineDefect.name

instance (attempt : LoopRecoveryAttempt) : Decidable (isWorkflowEngineRow attempt) :=
  inferInstanceAs (Decidable (_ ∨ _))

/-- A cursor at or past the inserted strategy goes back to it. -/
def rebaseCursor (policy : RecoveryPolicy) (attempt : LoopRecoveryAttempt) : LoopRecoveryAttempt :=
  if rebasesLegacyCursor policy ∧ isWorkflowEngineRow attempt ∧ attempt.strategyCursor.any (3 ≤ ·) then
    { attempt with strategyCursor := some 3 }
  else attempt

def normalizeAttempt (policy : RecoveryPolicy) (attempt : LoopRecoveryAttempt) :
    LoopRecoveryAttempt :=
  rebaseCursor policy (normalizeStartedRecoveryEpisodeIdentity rt attempt)

def normalizeRecoveryLedgerCompatibility (policy : RecoveryPolicy) (ledger : LoopLedger) :
    LoopLedger :=
  { ledger with recoveryAttempts := ledger.recoveryAttempts.map (normalizeAttempt rt policy) }

lemma normalizeStarted_of_episodeId {attempt : LoopRecoveryAttempt} (h : attempt.episodeId ≠ none) :
    normalizeStartedRecoveryEpisodeIdentity rt attempt = attempt := by
  unfold normalizeStartedRecoveryEpisodeIdentity
  split
  · rw [if_neg fun hc => h hc.2.1]
  · rfl

lemma normalizeStarted_cases (attempt : LoopRecoveryAttempt) :
    normalizeStartedRecoveryEpisodeIdentity rt attempt = attempt ∨
      ∃ evidence id, normalizeStartedRecoveryEpisodeIdentity rt attempt =
        { attempt with evidenceIdentity := some evidence, episodeId := some id } := by
  unfold normalizeStartedRecoveryEpisodeIdentity
  dsimp only
  split
  · split
    · exact .inr ⟨_, _, rfl⟩
    · exact .inl rfl
  · exact .inl rfl

lemma normalizeStarted_rebaseCursor (policy : RecoveryPolicy) (attempt : LoopRecoveryAttempt) :
    normalizeStartedRecoveryEpisodeIdentity rt (rebaseCursor policy attempt) =
      rebaseCursor policy (normalizeStartedRecoveryEpisodeIdentity rt attempt) := by
  -- restoring the id reads no cursor, and rebasing reads no id: the two commute
  have hcursor : ∀ a : LoopRecoveryAttempt,
      normalizeStartedRecoveryEpisodeIdentity rt { a with strategyCursor := some 3 } =
        { normalizeStartedRecoveryEpisodeIdentity rt a with strategyCursor := some 3 } := by
    intro a
    unfold normalizeStartedRecoveryEpisodeIdentity
    dsimp only
    split
    · split <;> rfl
    · rfl
  have hrow : ∀ a : LoopRecoveryAttempt,
      (isWorkflowEngineRow (normalizeStartedRecoveryEpisodeIdentity rt a) ↔ isWorkflowEngineRow a) ∧
      (normalizeStartedRecoveryEpisodeIdentity rt a).strategyCursor = a.strategyCursor := by
    intro a
    rcases normalizeStarted_cases rt a with h | ⟨_, _, h⟩ <;> rw [h] <;>
      simp [isWorkflowEngineRow]
  unfold rebaseCursor
  simp only [(hrow attempt).1, (hrow attempt).2]
  split
  · exact hcursor attempt
  · rfl

lemma rebaseCursor_idem (policy : RecoveryPolicy) (attempt : LoopRecoveryAttempt) :
    rebaseCursor policy (rebaseCursor policy attempt) = rebaseCursor policy attempt := by
  by_cases h : rebasesLegacyCursor policy ∧ isWorkflowEngineRow attempt ∧ attempt.strategyCursor.any (3 ≤ ·)
  -- a cursor that was rebased is at 3 and is rebased to 3 again
  · have hrow : isWorkflowEngineRow { attempt with strategyCursor := some 3 } := h.2.1
    simp [rebaseCursor, h.1, h.2.1, h.2.2, hrow]
  · have hid : rebaseCursor policy attempt = attempt := if_neg h
    rw [hid, hid]

lemma normalizeStarted_idem (attempt : LoopRecoveryAttempt) : normalizeStartedRecoveryEpisodeIdentity rt
        (normalizeStartedRecoveryEpisodeIdentity rt attempt) = normalizeStartedRecoveryEpisodeIdentity rt attempt := by
  rcases normalizeStarted_cases rt attempt with h | ⟨_, _, h⟩
  · rw [h, h]
  · rw [h]
    exact normalizeStarted_of_episodeId rt (by simp)

lemma normalizeAttempt_idem (policy : RecoveryPolicy) (attempt : LoopRecoveryAttempt) :
    normalizeAttempt rt policy (normalizeAttempt rt policy attempt) = normalizeAttempt rt policy attempt := by
  unfold normalizeAttempt
  rw [normalizeStarted_rebaseCursor, normalizeStarted_idem, rebaseCursor_idem]

@[simp] lemma normalizeLedger_idem (policy : RecoveryPolicy) (ledger : LoopLedger) :
    normalizeRecoveryLedgerCompatibility rt policy (normalizeRecoveryLedgerCompatibility rt policy ledger) =
      normalizeRecoveryLedgerCompatibility rt policy ledger := by
  simp [normalizeRecoveryLedgerCompatibility, Function.comp_def, normalizeAttempt_idem]

end AgentPipeline.Loop
