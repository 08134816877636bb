import AgentPipeline.Foundation.Json
import AgentPipeline.Loop.Store

/-!
# Documents: the shape checks on what a file really holds

`Store` works on ledgers of the declared types. A file holds any text, so here the checks of
`loop/store.ts`, `loop/recovery-episodes.ts` and `loop/recovery-policy-compat.ts` are stated on parsed
JSON values, with their type tests:

* `isLoopContractShape`, `isLoopLedgerShape`: the checks that make a document live authority;
* `effectiveRecoveryPolicyForLedgerValidation`: the policy they read from a contract;
* `normalizeRecoveryLedgerCompatibility`: what a ledger is turned into before it is checked.

A policy is a JSON value here as well, since a policy that does not compile is used as it stands.
-/

namespace AgentPipeline.Loop

open List
namespace Documents

open Json
open JsText (nonBlank)

/-- `LOOP_LEDGER_SCHEMA`. -/
def loopLedgerSchema : String := "pipeline/loop-ledger@1"

/-- `LOOP_CONTRACT_SCHEMA`. -/
def loopContractSchema : String := "pipeline/loop-contract@1"

/-- `RECOVERY_ATTEMPT_OUTCOMES`. -/
def recoveryAttemptOutcomes : List String :=
  ["started", "recovered", "superseded", "exhausted", "skipped", "repeated_no_progress",
    "needs_human", "human_authority", "failed"]

/-! ## Type tests -/

/-- `isRecoveryRecipe(value)`: the recipe a value names, if it names one. -/
def recipe? (value : Json) : Option RecoveryRecipe :=
  value.text?.bind fun text => RecoveryRecipe.all.find? fun recipe => recipe.name = text

/-- An array of recipes only. -/
def recipes? (value : Json) : Option (List RecoveryRecipe) :=
  value.elems?.bind fun elems =>
    if elems.all fun elem => (recipe? elem).isSome then some (elems.filterMap recipe?) else none

def classAt (value : Json) (key : String) : Option DurableBlockerClass :=
  (value.textAt key).bind isDurableBlockerClass

/-- `isNonEmptyString(value[key])`. -/
def isNonEmptyStringAt (value : Json) (key : String) : Bool :=
  (value.textAt key).any (· ≠ "")

/-- Absent, or a value that passes. -/
def absentOr (value : Json) (key : String) (test : Json → Bool) : Bool :=
  (value.get? key).all test

/-! ## Policies -/

/-- The JSON form of a policy entry. -/
def encodeEntry (entry : RecoveryPolicyEntry) : Json :=
  .obj
    ([("recipes", .arr (entry.recipes.map fun recipe => .str recipe.name)),
      ("retry_budget", .num (.finite entry.retryBudget)),
      ("backoff", .obj
        [("initial_seconds", .num (.finite entry.backoff.initialSeconds)),
          ("multiplier", .num (.finite entry.backoff.multiplier)),
          ("max_seconds", .num (.finite entry.backoff.maxSeconds))]),
      ("terminal_outcome", .str (match entry.terminalOutcome with
        | .retry => "retry"
        | .humanAuthority => "human_authority")),
      ("run_fatal", .bool entry.runFatal),
      ("repeated_evidence_limit", .num (.finite entry.repeatedEvidenceLimit))] ++
      match entry.perStrategyBound with
      | some bound => [("per_strategy_bound", .num (.finite bound))]
      | none => [])

/-- `DEFAULT_RECOVERY_POLICY_INPUT`. -/
def defaultRecoveryPolicyInput : Json :=
  .obj (DurableBlockerClass.all.map fun cls => (cls.name, encodeEntry (defaultRecoveryPolicy cls)))

/-- The `environment-auth` default that still names `reauthenticate`. -/
def staleEnvironmentAuthEntry : Json :=
  (encodeEntry (defaultRecoveryPolicy .environmentAuth)).set "recipes"
    (.arr [.str "reauthenticate"])

/-- `STALE_DEFAULT_POLICY_ENTRIES`. -/
def staleEntries (cls : DurableBlockerClass) : List Json :=
  match cls with
  | .environmentAuth => [staleEnvironmentAuthEntry]
  | cls => (staleDefaultPolicyEntries cls).map encodeEntry

/-- What an entry on disk becomes; `none` when it stays. -/
def migrateEntry (cls : DurableBlockerClass) : Option Json → Option Json
  | none => some (encodeEntry (defaultRecoveryPolicy cls))
  | some entry =>
    -- a stale default is compared as a whole, whatever the order of its keys
    if (staleEntries cls).any fun stale => entry.same stale then
      some (encodeEntry (defaultRecoveryPolicy cls))
    else
      match entry.get? "recipes" with
      | some (.arr recipes) =>
        -- a hand-written entry keeps everything but the retired recipe name
        if recipes.any fun recipe => recipe.text? = some "reauthenticate" then
          some (entry.set "recipes" (.arr (recipes.map fun recipe =>
            if recipe.text? = some "reauthenticate" then .str "verify_authentication"
            else recipe)))
        else none
      | _ => none

/-- `normalizeRecoveryPolicyCompatibility(policy)`. -/
def normalizeRecoveryPolicyCompatibility : Option Json → Json
  | none => defaultRecoveryPolicyInput
  | some policy =>
    if policy.isPlainObject then
      DurableBlockerClass.all.foldl
        (fun migrated cls =>
          match migrateEntry cls (migrated.get? cls.name) with
          | some entry => migrated.set cls.name entry
          | none => migrated)
        policy
    else policy

def isBackoff (value : Json) : Bool :=
  ["initial_seconds", "multiplier", "max_seconds"].all fun key =>
    ((value.get? key).bind number?).isSome

def isTerminalOutcome (value : Json) : Bool :=
  value.text? = some "retry" || value.text? = some "human_authority"

/-- The checks that `compileEntry` and `isRecoveryPolicyEntry` share. -/
def isPolicyEntry (cls : DurableBlockerClass) (entry : Json) (isBound : ℚ → Bool) : Bool :=
  entry.isPlainObject && (match (entry.get? "recipes").bind recipes? with
      | none => false
      | some recipes =>
        !isHumanAuthorityClass cls || (entry.textAt "terminal_outcome" = some "human_authority" && recipes.isEmpty)) &&
    (entry.rationalAt "retry_budget").any (0 ≤ ·) &&
    absentOr entry "per_strategy_bound" (fun bound => bound.rational?.any isBound) &&
    (entry.get? "backoff").any (fun backoff => backoff.isPlainObject && isBackoff backoff) &&
    (entry.get? "terminal_outcome").any isTerminalOutcome &&
    (match entry.get? "run_fatal" with
      | some (.bool _) => true
      | _ => false) &&
    (entry.rationalAt "repeated_evidence_limit").any (1 ≤ ·)

def isRecoveryPolicyEntry (cls : DurableBlockerClass) (entry : Json) : Bool :=
  isPolicyEntry cls entry (0 ≤ ·)

/-- `compileEntry(cls, entry)`: the known fields of an entry that passes; the bound has to be an
integer. -/
def compileEntry (cls : DurableBlockerClass) (entry : Json) : Option Json :=
  if isPolicyEntry cls entry fun bound => bound.den = 1 && decide (0 ≤ bound) then
    some (.obj
      (["recipes", "retry_budget"].filterMap (fun key => (entry.get? key).map (key, ·)) ++
        [("backoff", .obj (["initial_seconds", "multiplier", "max_seconds"].filterMap fun key =>
          ((entry.get? "backoff").bind (·.get? key)).map (key, ·)))] ++
        ["terminal_outcome", "run_fatal", "repeated_evidence_limit", "per_strategy_bound"].filterMap
          fun key => (entry.get? key).map (key, ·)))
  else none

/-- `compileRecoveryPolicy(policy)`; `none` is a thrown error. -/
def compileRecoveryPolicy (policy : Json) : Option Json :=
  match policy.fields? with
  | none => none
  | some fields =>
    -- an unknown class and a missing one are both refused
    if fields.any fun field => (isDurableBlockerClass field.1).isNone then none
    else
      let compiled := DurableBlockerClass.all.map fun cls =>
        (cls.name, (policy.get? cls.name).bind (compileEntry cls))
      if compiled.all fun field => field.2.isSome then
        some (.obj (compiled.filterMap fun field => field.2.map (field.1, ·)))
      else none

def effectiveRecoveryPolicyForLedgerValidation (policy : Option Json) : Option Json :=
  compileRecoveryPolicy (normalizeRecoveryPolicyCompatibility policy)

def perStrategyBound (entry : Json) : ℚ :=
  match (entry.rationalAt "per_strategy_bound").filter (0 ≤ ·) with
  | some bound => bound
  | none => (entry.rationalAt "retry_budget").getD 0

/-- `CLASS_RECOVERY_SEQUENCE`. -/
def classRecoverySequence : DurableBlockerClass → List RecoveryRecipe × ℚ
  | .transientRateLimit => ([.waitAndRetry], 5)
  | .workflowState => ([.resyncWorkflowState, .repairPipelineItem], 3)
  | .implementationCi => ([.verifyHeadGoal, .rerunCi, .repairPipelineItem], 3)
  | .reviewFindings => ([.unlinkEngineScratch, .repairPipelineItem], 3)
  | .environmentAuth => ([.verifyAuthentication], 2)
  | .specificationDecision => ([], 0)
  | .missingAuthority => ([], 0)
  | .upstreamDependency => ([.retryUpstreamCheck], 3)
  | .workflowEngineDefect =>
    ([.unlinkEngineScratch, .checkpointOwnedHarnessDirt, .publishUnpublishedStageCommit,
      .rebindTesterEvidenceAfterPr, .restartWorkflowEngine, .repairPipelineItem], 2)

/-- The recipes of a row's class with their bound: those of the policy entry where there is one,
else the configured ones; `none` when the row names no class or the entry is malformed. -/
def sequenceFor (policy : Option Json) (value : Json) : Option (List RecoveryRecipe × ℚ) :=
  match classAt value "class" <|> classAt value "invariant" with
  | none => none
  | some cls =>
    match policy.bind (·.get? cls.name) with
    -- a policy without the class falls back to the configured sequence
    | none => some (classRecoverySequence cls)
    | some entry =>
      if isRecoveryPolicyEntry cls entry then
        some (((entry.get? "recipes").bind recipes?).getD [], perStrategyBound entry)
      else none

/-! ## Episodes -/

section Shape

variable (rt : JsRuntime) (policy : Option Json)

def isOfEpisode (episodeId : String) (row : Json) : Bool :=
  row.textAt "episode_id" = some episodeId

/-- `collectSkippedRecipes(value, history)`, of a value with this episode id and cursor. -/
def collectSkippedRecipes (value : Json) (history : List Json) (episodeId : String)
    (cursor : Nat) : Option (List RecoveryRecipe) :=
  let rows := if history.isEmpty then [value] else history
  let ofRows := rows.filterMap fun row =>
    if isOfEpisode episodeId row && row.textAt "outcome" = some "skipped" then
      (row.get? "action").bind recipe?
    else none
  match value.get? "skipped_strategies" with
  | none => some ofRows
  | some listed =>
    match recipes? listed with
    | none => none
    -- every listed skip advanced the cursor by one
    | some recipes => if cursor < recipes.length then none else some (recipes ++ ofRows)

def derivedAttemptCounts (episodeId : String) (history : List Json) (recipe : RecoveryRecipe) :
    Nat :=
  history.countP fun row =>
    isOfEpisode episodeId row && (row.get? "action").bind recipe? = some recipe &&
      row.textAt "outcome" ≠ some "skipped" && row.textAt "outcome" ≠ some "superseded"

/-- The counters of a row, for the recipes it names. -/
def persistedCounts (persisted : List (String × Json)) (recipe : RecoveryRecipe) : Nat :=
  ((persisted.lookup recipe.name).bind natural?).getD 0

/-- The counters of a row name allowed recipes, and each is a count. -/
def countersAllowed (persisted : List (String × Json)) (recipes : List RecoveryRecipe) : Bool :=
  persisted.all fun (key, count) =>
    (recipe? (.str key)).any (· ∈ recipes) && (natural? count).isSome

/-- The checks on cursor, counters and skips, for a row whose identity is settled. -/
def isAuthoritativeProgress (value : Json) (siblings : List Json) (episodeId : String)
    (cursor : Nat) (persisted : List (String × Json)) (recipes : List RecoveryRecipe) (bound : ℚ) :
    Bool :=
  match collectSkippedRecipes value siblings episodeId cursor with
  | none => false
  | some skipped =>
    -- a superseded newest row is a frozen claim: its counters are not compared with the rows
    let derives := !siblings.isEmpty && value.textAt "outcome" ≠ some "superseded"
    let derived := derivedAttemptCounts episodeId siblings
    let counts := if derives then derived else persistedCounts persisted
    skipped.all (· ∈ recipes) && countersAllowed persisted recipes &&
      (!derives || RecoveryRecipe.all.all fun r => persistedCounts persisted r = derived r) &&
      cursor ≤ justifiedStrategyCursor recipes bound counts skipped &&
      -- a cursor at the end claims that the whole sequence is used up
      (cursor ≠ recipes.length || sequenceFullyAccounted recipes bound counts skipped)

/-- `isAuthoritativeEpisodeState(value, siblings, policy)`. -/
def isAuthoritativeEpisodeState (value : Json) (siblings : List Json) : Bool :=
  match value.textAt "operation", value.textAt "invariant", value.textAt "candidate_epoch",
      value.textAt "evidence_identity", value.textAt "episode_id",
      (value.get? "strategy_cursor").bind natural?,
      (value.get? "attempts_per_strategy").bind fields?, sequenceFor policy value with
  | some operation, some invariant, some candidateEpoch, some evidenceIdentity, some episodeId,
      some cursor, some persisted, some (recipes, bound) =>
      -- the epoch and the evidence may be empty texts
      nonBlank operation && nonBlank invariant && nonBlank episodeId &&
        episodeId = recoveryEpisodeId rt ⟨operation, invariant, candidateEpoch, evidenceIdentity⟩ &&
        ((value.get? "action").bind recipe?).all (· ∈ recipes) &&
        absentOr value "actions" (fun actions =>
          (recipes? actions).any fun named => named.all (· ∈ recipes)) &&
        cursor ≤ recipes.length &&
        isAuthoritativeProgress value siblings episodeId cursor persisted recipes bound
  | _, _, _, _, _, _, _, _ => false

/-- `ledgerEpisodesAreAuthoritative(attempts, policy)`: the newest row of every episode stands
against all rows. -/
def ledgerEpisodesAreAuthoritative (attempts : List Json) : Bool :=
  attempts.all fun attempt =>
    match attempt.textAt "episode_id" with
    | none => true
    | some episodeId =>
      episodeId = "" || (attempts.filter (isOfEpisode episodeId)).getLast?.all fun latest =>
          isAuthoritativeEpisodeState rt policy latest attempts

/-! ## Shapes -/

/-- `isIsoTimestamp(value[key])`. -/
def isIsoTimestampAt (value : Json) (key : String) : Bool :=
  (value.textAt key).any (isIsoTimestamp rt)

def isAttemptsPerStrategy (value : Json) : Bool :=
  value.fields?.any fun fields =>
    fields.all fun (key, count) =>
      (recipe? (.str key)).isSome && count.rational?.any (0 ≤ ·)

def attemptCarriesEpisodeState (value : Json) : Bool :=
  ["episode_id", "operation", "invariant", "candidate_epoch", "evidence_identity",
    "attempts_per_strategy", "strategy_cursor", "next_eligible_at"].any value.isPresentAt

/-- `isCompleteEpisodeState(value, policy)`. -/
def isCompleteEpisodeState (value : Json) : Bool :=
  (value.textAt "invariant").isSome && (value.textAt "candidate_epoch").isSome &&
    (value.textAt "evidence_identity").isSome &&
    (value.get? "attempts_per_strategy").any isAttemptsPerStrategy &&
    ((value.get? "strategy_cursor").bind natural?).isSome &&
    isIsoTimestampAt rt value "next_eligible_at" &&
    isAuthoritativeEpisodeState rt policy value []

/-- `isLoopRecoveryAttemptShape(value, policy)`. -/
def isLoopRecoveryAttemptShape (value : Json) : Bool :=
  value.isPlainObject && isNonEmptyStringAt value "item_id" &&
    (value.rationalAt "seq").isSome && isNonEmptyStringAt value "time" &&
    (classAt value "class").isSome &&
    absentOr value "action" (fun action => (recipe? action).isSome) &&
    absentOr value "actions" (fun actions => (recipes? actions).isSome) &&
    (((value.get? "action").bind recipe?).isSome || ((value.get? "actions").bind elems?).any (!·.isEmpty)) &&
    (value.textAt "outcome").any (· ∈ recoveryAttemptOutcomes) &&
    (!attemptCarriesEpisodeState value || isCompleteEpisodeState rt policy value) &&
    absentOr value "strategy_cursor" (fun cursor => (natural? cursor).isSome) &&
    absentOr value "attempts_per_strategy" isAttemptsPerStrategy

def isCoolingRecordShape (value : Json) : Bool :=
  value.isPlainObject && (value.textAt "reason" = some "strategy_cursor_exhausted" ||
      value.textAt "reason" = some "mechanical_exhaustion") &&
    isIsoTimestampAt rt value "time" && isIsoTimestampAt rt value "next_eligible_at" &&
    absentOr value "candidate_epoch" (fun epoch => epoch.text?.isSome)

def attemptsInShape (attempts : Json) : Bool :=
  match attempts with
  | .arr rows =>
    rows.all (isLoopRecoveryAttemptShape rt policy) &&
      ledgerEpisodesAreAuthoritative rt policy (rows.filter isPlainObject)
  | _ => false

def coolingInShape : Json → Bool
  | .null => true
  | cooling => isCoolingRecordShape rt cooling

def itemCoolingInShape : Json → Bool
  | .null => true
  | .obj records => records.all fun record => isCoolingRecordShape rt record.2
  | _ => false

/-- `isLoopLedgerShape(value, policy)`. -/
def isLoopLedgerShape (value : Json) : Bool :=
  value.isPlainObject && value.textAt "schema" = some loopLedgerSchema &&
    isNonEmptyStringAt value "run_id" && (value.get? "items").any isPlainObject &&
    ((value.get? "consecutive_blocked").bind number?).isSome && (value.get? "stop").isSome &&
    (value.get? "merge_barrier").isSome && (value.get? "last_reconciliation").isSome &&
    absentOr value "recovery_attempts" (attemptsInShape rt policy) &&
    absentOr value "cooling" (coolingInShape rt) &&
    absentOr value "item_cooling" (itemCoolingInShape rt)

end Shape

def isLoopContractShape (value : Json) : Bool :=
  value.isPlainObject && value.textAt "schema" = some loopContractSchema &&
    isNonEmptyStringAt value "run_id" && (value.textAt "engine").isSome &&
    (value.get? "repo").any isPlainObject && ((value.get? "items").bind elems?).isSome &&
    absentOr value "recovery_policy" isPlainObject

/-! ## Normalization -/

variable {value : Json}

section Normalization

variable (rt : JsRuntime)

/-- The evidence identity and the episode id that an otherwise complete started claim lacks. -/
def derivedIdentity (value : Json) : Option (String × String) :=
  let evidenceIdentity :=
    if value.isPresentAt "evidence_identity" then value.textAt "evidence_identity"
    else value.textAt "evidence_fingerprint"
  match value.textAt "operation", value.textAt "invariant", value.textAt "candidate_epoch", evidenceIdentity with
  | some operation, some invariant, some candidateEpoch, some evidence =>
    if value.textAt "outcome" = some "started" ∧ (value.get? "episode_id").isNone ∧
        nonBlank operation ∧ nonBlank invariant ∧ nonBlank candidateEpoch ∧ nonBlank evidence then
      some (evidence, recoveryEpisodeId rt ⟨operation, invariant, candidateEpoch, evidence⟩)
    else none
  | _, _, _, _ => none

def normalizeStartedRecoveryEpisodeIdentity (value : Json) : Json :=
  match derivedIdentity rt value with
  | some (evidence, episodeId) =>
    (value.set "evidence_identity" (.str evidence)).set "episode_id" (.str episodeId)
  | none => value

/-- The policy on disk has the exact workflow-engine default from before the Tester rebind. -/
def rebasesLegacyCursor (policy : Option Json) : Bool :=
  (policy.bind (·.get? "workflow-engine-defect")).any
    fun entry => entry.same (encodeEntry pre1468WorkflowEntry)

/-- A workflow-engine row whose cursor is at or past the inserted strategy. -/
def hasLegacyCursor (value : Json) : Bool :=
  (value.textAt "class" = some "workflow-engine-defect" || value.textAt "invariant" = some "workflow-engine-defect") &&
    ((value.get? "strategy_cursor").bind natural?).any (3 ≤ ·)

def normalizeAttempt (policy : Option Json) (value : Json) : Json :=
  let started := normalizeStartedRecoveryEpisodeIdentity rt value
  if rebasesLegacyCursor policy && hasLegacyCursor started then
    started.set "strategy_cursor" (.num (.finite 3))
  else started

/-- The row is replaced by a new object. -/
def attemptChanges (policy : Option Json) (value : Json) : Bool :=
  (derivedIdentity rt value).isSome || (rebasesLegacyCursor policy &&
      hasLegacyCursor (normalizeStartedRecoveryEpisodeIdentity rt value))

/-- A row of the ledger is replaced. -/
def ledgerChanges (policy : Option Json) (value : Json) : Bool :=
  ((value.get? "recovery_attempts").bind elems?).any fun rows =>
    rows.any (attemptChanges rt policy)

def normalizeRecoveryLedgerCompatibility (policy : Option Json) (value : Json) : Json :=
  match value.get? "recovery_attempts" with
  | some (.arr rows) =>
    if rows.any (attemptChanges rt policy) then
      value.set "recovery_attempts" (.arr (rows.map (normalizeAttempt rt policy)))
    else value
  | _ => value

/-! ## What the normalization leaves alone -/

lemma isPlainObject_of_textAt {key text : String} (h : value.textAt key = some text) : value.isPlainObject = true := by
  cases value with
  | obj fields => rfl
  | _ => simp [textAt, get?] at h

variable {rt}

lemma derivedIdentity_eq_some {identity : String × String} (h : derivedIdentity rt value = some identity) :
    value.isPlainObject = true ∧ value.get? "episode_id" = none := by
  unfold derivedIdentity at h
  dsimp only at h
  split at h
  · next hoperation _ _ _ =>
    split at h
    · next hcond =>
      exact ⟨isPlainObject_of_textAt hoperation, Option.isNone_iff_eq_none.1 hcond.2.1⟩
    · simp at h
  · simp at h

lemma derivedIdentity_eq_none (h : value.get? "episode_id" ≠ none) : derivedIdentity rt value = none := by
  by_contra hsome
  obtain ⟨identity, hidentity⟩ := Option.ne_none_iff_exists'.1 hsome
  exact h (derivedIdentity_eq_some hidentity).2

lemma derivedIdentity_normalizeStarted (value : Json) :
    derivedIdentity rt (normalizeStartedRecoveryEpisodeIdentity rt value) = none := by
  unfold normalizeStartedRecoveryEpisodeIdentity
  split
  · next evidence episodeId hidentity =>
    have hobject := (derivedIdentity_eq_some hidentity).1
    apply derivedIdentity_eq_none
    rw [get?_set_self (by simpa using hobject)]
    simp
  · next hnone => exact hnone

lemma derivedIdentity_set_cursor (value cursor : Json) :
    derivedIdentity rt (value.set "strategy_cursor" cursor) = derivedIdentity rt value := by
  have hget : ∀ key, key ≠ "strategy_cursor" → (value.set "strategy_cursor" cursor).get? key = value.get? key :=
    fun key hkey => get?_set_of_ne hkey value cursor
  unfold derivedIdentity textAt isPresentAt
  rw [hget "operation" (by decide), hget "invariant" (by decide),
    hget "candidate_epoch" (by decide), hget "evidence_identity" (by decide),
    hget "evidence_fingerprint" (by decide), hget "outcome" (by decide), hget "episode_id" (by decide)]

lemma derivedIdentity_normalizeAttempt (policy : Option Json) (value : Json) :
    derivedIdentity rt (normalizeAttempt rt policy value) = none := by
  unfold normalizeAttempt
  dsimp only
  split
  · rw [derivedIdentity_set_cursor, derivedIdentity_normalizeStarted]
  · exact derivedIdentity_normalizeStarted value

lemma normalizeStarted_of_none (h : derivedIdentity rt value = none) :
    normalizeStartedRecoveryEpisodeIdentity rt value = value := by
  simp [normalizeStartedRecoveryEpisodeIdentity, h]

lemma normalizeAttempt_of_none {policy : Option Json}
    (h : derivedIdentity rt value = none) :
    normalizeAttempt rt policy value = if rebasesLegacyCursor policy && hasLegacyCursor value then
        value.set "strategy_cursor" (.num (.finite 3))
      else value := by
  simp only [normalizeAttempt, normalizeStarted_of_none h]

lemma isPlainObject_of_hasLegacyCursor (h : hasLegacyCursor value = true) : value.isPlainObject = true := by
  simp only [hasLegacyCursor, Bool.and_eq_true, Bool.or_eq_true, decide_eq_true_eq] at h
  obtain ⟨hclass | hinvariant, _⟩ := h
  · exact isPlainObject_of_textAt hclass
  · exact isPlainObject_of_textAt hinvariant

lemma normalizeAttempt_idem (policy : Option Json) (value : Json) :
    normalizeAttempt rt policy (normalizeAttempt rt policy value) = normalizeAttempt rt policy value := by
  rw [normalizeAttempt_of_none (derivedIdentity_normalizeAttempt policy value)]
  split
  · next hrebase =>
    -- the first normalization put the cursor where this one would put it
    apply set_of_get?
    unfold normalizeAttempt at hrebase ⊢
    dsimp only at hrebase ⊢
    split
    · next hlegacy =>
      have hlegacy := (Bool.and_eq_true_iff.1 hlegacy).2
      exact get?_set_self (isPlainObject_of_hasLegacyCursor hlegacy) _ _
    · next hnot =>
      rw [if_neg hnot] at hrebase
      exact absurd hrebase hnot
  · rfl

lemma normalizeAttempt_of_unchanged {policy : Option Json}
    (h : attemptChanges rt policy value = false) : normalizeAttempt rt policy value = value := by
  simp only [attemptChanges, Bool.or_eq_false_iff, Option.isSome_eq_false_iff, Option.isNone_iff_eq_none] at h
  rw [normalizeStarted_of_none h.1] at h
  rw [normalizeAttempt_of_none h.1, h.2]
  rfl

/-! ## Finite numbers -/

lemma isFinite_normalizeAttempt (policy : Option Json)
    (h : value.isFinite = true) : (normalizeAttempt rt policy value).isFinite = true := by
  have hstarted : (normalizeStartedRecoveryEpisodeIdentity rt value).isFinite = true := by
    unfold normalizeStartedRecoveryEpisodeIdentity
    split
    · exact isFinite_set (isFinite_set h rfl _) rfl _
    · exact h
  unfold normalizeAttempt
  dsimp only
  split
  · exact isFinite_set hstarted rfl _
  · exact hstarted

lemma isFinite_normalizeLedger (policy : Option Json) (h : value.isFinite = true) :
    (normalizeRecoveryLedgerCompatibility rt policy value).isFinite = true := by
  unfold normalizeRecoveryLedgerCompatibility
  split
  · next rows hrows =>
    split
    · have harray : (Json.arr rows).isFinite = true := isFinite_of_get? h hrows
      have hall : ∀ row ∈ rows, row.isFinite = true := by simpa [isFinite, isFiniteElems_eq_all] using harray
      apply isFinite_set h
      simp only [isFinite, isFiniteElems_eq_all, all_map, all_eq_true]
      exact fun row hrow => isFinite_normalizeAttempt policy (hall row hrow)
    · exact h
  · exact h

end Normalization

/-! ## Printed documents

A check reads texts, recipes and finite numbers, and all of these survive printing. -/

@[simp] lemma recipe?_printed (value : Json) : recipe? value.printed = recipe? value := by
  simp [recipe?]

@[simp] lemma recipes?_printed (value : Json) : recipes? value.printed = recipes? value := by
  simp [recipes?, Option.bind_map]

@[simp] lemma classAt_printed (value : Json) (key : String) : classAt value.printed key = classAt value key := by
  simp [classAt]

@[simp] lemma isOfEpisode_printed (episodeId : String) (row : Json) :
    isOfEpisode episodeId row.printed = isOfEpisode episodeId row := by
  simp [isOfEpisode]

lemma absentOr_printed {test : Json → Bool} (htest : ∀ value, test value.printed = test value)
    (value : Json) (key : String) : absentOr value.printed key test = absentOr value key test := by
  unfold absentOr
  cases hget : value.get? key with
  | none => simp [hget]
  | some field => simp [hget, htest]

lemma absentOr_printed_of {test : Json → Bool} {key : String} (h : absentOr value key test = true)
    (htest : ∀ field, test field = true → test field.printed = true) : absentOr value.printed key test = true := by
  unfold absentOr at h ⊢
  rw [get?_printed]
  cases hget : value.get? key with
  | none => rfl
  | some field => exact htest field (by simpa [hget] using h)

@[simp] lemma sequenceFor_printed (policy : Option Json) (value : Json) :
    sequenceFor policy value.printed = sequenceFor policy value := by
  simp [sequenceFor]

lemma actionAt_printed (row : Json) : (row.printed.get? "action").bind recipe? = (row.get? "action").bind recipe? := by
  simp [Option.bind_map]

lemma collectSkippedRecipes_printed (value : Json) (history : List Json) (episodeId : String) (cursor : Nat) :
    collectSkippedRecipes value.printed (history.map printed) episodeId cursor =
      collectSkippedRecipes value history episodeId cursor := by
  have hrows : (if (history.map printed).isEmpty then [value.printed] else history.map printed) =
      (if history.isEmpty then [value] else history).map printed := by
    cases history <;> simp
  unfold collectSkippedRecipes
  dsimp only
  rw [hrows, filterMap_map]
  simp only [Function.comp_def, isOfEpisode_printed, textAt_printed, actionAt_printed]
  rw [get?_printed]
  cases value.get? "skipped_strategies" with
  | none => rfl
  | some listed => simp only [Option.map_some, recipes?_printed]

lemma derivedAttemptCounts_printed (episodeId : String) (history : List Json) :
    derivedAttemptCounts episodeId (history.map printed) = derivedAttemptCounts episodeId history := by
  funext recipe
  simp only [derivedAttemptCounts, countP_map, Function.comp_def, isOfEpisode_printed,
    textAt_printed, actionAt_printed]

lemma persistedCounts_printed (persisted : List (String × Json)) :
    persistedCounts (printedFields persisted) = persistedCounts persisted := by
  funext recipe
  simp [persistedCounts, lookup_printedFields, Option.bind_map]

lemma countersAllowed_printed (persisted : List (String × Json)) (recipes : List RecoveryRecipe) :
    countersAllowed (printedFields persisted) recipes = countersAllowed persisted recipes := by
  simp [countersAllowed, printedFields_eq_map, Function.comp_def]

lemma isAttemptsPerStrategy_printed (value : Json) :
    isAttemptsPerStrategy value.printed = isAttemptsPerStrategy value := by
  unfold isAttemptsPerStrategy
  rw [fields?_printed]
  cases value.fields? with
  | none => rfl
  | some fields => simp [printedFields_eq_map, Function.comp_def]

lemma isAuthoritativeProgress_printed (value : Json) (siblings : List Json)
    (episodeId : String) (cursor : Nat) (persisted : List (String × Json)) (recipes : List RecoveryRecipe) (bound : ℚ) :
    isAuthoritativeProgress value.printed (siblings.map printed) episodeId cursor
        (printedFields persisted) recipes bound =
      isAuthoritativeProgress value siblings episodeId cursor persisted recipes bound := by
  simp only [isAuthoritativeProgress, collectSkippedRecipes_printed, derivedAttemptCounts_printed,
    persistedCounts_printed, countersAllowed_printed, textAt_printed, isEmpty_map]

variable {rt : JsRuntime} {policy : Option Json}

lemma isAuthoritativeEpisodeState_printed (value : Json) (siblings : List Json) :
    isAuthoritativeEpisodeState rt policy value.printed (siblings.map printed) =
      isAuthoritativeEpisodeState rt policy value siblings := by
  have hcursor : (value.printed.get? "strategy_cursor").bind natural? =
      (value.get? "strategy_cursor").bind natural? := by
    simp [Option.bind_map]
  have hpersisted : (value.printed.get? "attempts_per_strategy").bind fields? =
      ((value.get? "attempts_per_strategy").bind fields?).map printedFields := by
    cases hget : value.get? "attempts_per_strategy" <;> simp [hget]
  have hactions : ∀ recipes : List RecoveryRecipe, absentOr value.printed "actions"
        (fun actions => (recipes? actions).any fun named => named.all (· ∈ recipes)) =
      absentOr value "actions"
        (fun actions => (recipes? actions).any fun named => named.all (· ∈ recipes)) :=
    fun recipes => absentOr_printed (by simp) value "actions"
  unfold isAuthoritativeEpisodeState
  rw [hcursor, hpersisted]
  simp only [textAt_printed, sequenceFor_printed, actionAt_printed]
  -- a missing field refuses both rows
  cases value.textAt "operation" with
  | none => rfl
  | some operation =>
  cases value.textAt "invariant" with
  | none => rfl
  | some invariant =>
  cases value.textAt "candidate_epoch" with
  | none => rfl
  | some candidateEpoch =>
  cases value.textAt "evidence_identity" with
  | none => rfl
  | some evidenceIdentity =>
  cases value.textAt "episode_id" with
  | none => rfl
  | some episodeId =>
  cases (value.get? "strategy_cursor").bind natural? with
  | none => rfl
  | some cursor =>
  cases (value.get? "attempts_per_strategy").bind fields? with
  | none => rfl
  | some persisted =>
  cases sequenceFor policy value with
  | none => rfl
  | some sequence =>
    simp only [Option.map_some, hactions, isAuthoritativeProgress_printed]

lemma ledgerEpisodesAreAuthoritative_printed (attempts : List Json) :
    ledgerEpisodesAreAuthoritative rt policy (attempts.map printed) =
      ledgerEpisodesAreAuthoritative rt policy attempts := by
  have hrows : ∀ episodeId, (attempts.map printed).filter (isOfEpisode episodeId) =
      (attempts.filter (isOfEpisode episodeId)).map printed := by
    intro episodeId
    rw [filter_map]
    simp only [Function.comp_def, isOfEpisode_printed]
  unfold ledgerEpisodesAreAuthoritative
  rw [all_map]
  refine all_congr rfl fun attempt => ?_
  simp only [Function.comp_apply, textAt_printed, hrows, getLast?_map, Option.all_map,
    isAuthoritativeEpisodeState_printed]

lemma isCompleteEpisodeState_printed (value : Json) :
    isCompleteEpisodeState rt policy value.printed = isCompleteEpisodeState rt policy value := by
  have hauthoritative : isAuthoritativeEpisodeState rt policy value.printed [] =
      isAuthoritativeEpisodeState rt policy value [] :=
    isAuthoritativeEpisodeState_printed value []
  have hcounters : (value.printed.get? "attempts_per_strategy").any isAttemptsPerStrategy =
      (value.get? "attempts_per_strategy").any isAttemptsPerStrategy := by
    cases hget : value.get? "attempts_per_strategy" <;> simp [hget, isAttemptsPerStrategy_printed]
  have hcursor : (value.printed.get? "strategy_cursor").bind natural? =
      (value.get? "strategy_cursor").bind natural? := by
    simp [Option.bind_map]
  unfold isCompleteEpisodeState isIsoTimestampAt
  rw [hauthoritative, hcounters, hcursor]
  simp only [textAt_printed]

lemma isLoopRecoveryAttemptShape_printed (h : isLoopRecoveryAttemptShape rt policy value = true) :
    isLoopRecoveryAttemptShape rt policy value.printed = true := by
  -- a number that is lost leaves a field absent, so no more rows have to be complete
  have hcarries : attemptCarriesEpisodeState value.printed = true → attemptCarriesEpisodeState value = true := by
    intro hprinted
    obtain ⟨key, hkey, hpresent⟩ := any_eq_true.1 hprinted
    exact any_eq_true.2 ⟨key, hkey, isPresentAt_of_printed hpresent⟩
  have hepisode : (!attemptCarriesEpisodeState value || isCompleteEpisodeState rt policy value) = true →
      (!attemptCarriesEpisodeState value.printed || isCompleteEpisodeState rt policy value.printed) = true := by
    rw [isCompleteEpisodeState_printed]
    cases hprinted : attemptCarriesEpisodeState value.printed with
    | false => simp
    | true => simp [hcarries hprinted]
  have hlisted : ((value.printed.get? "actions").bind elems?).any (!·.isEmpty) =
      ((value.get? "actions").bind elems?).any (!·.isEmpty) := by
    cases hget : value.get? "actions" with
    | none => simp [hget]
    | some actions => cases helems : actions.elems? <;> simp [hget, helems]
  have haction : absentOr value.printed "action" (fun action => (recipe? action).isSome) =
      absentOr value "action" (fun action => (recipe? action).isSome) :=
    absentOr_printed (by simp) value "action"
  have hactions : absentOr value.printed "actions" (fun actions => (recipes? actions).isSome) =
      absentOr value "actions" (fun actions => (recipes? actions).isSome) :=
    absentOr_printed (by simp) value "actions"
  have hcursor : absentOr value.printed "strategy_cursor" (fun cursor => (natural? cursor).isSome) =
      absentOr value "strategy_cursor" (fun cursor => (natural? cursor).isSome) :=
    absentOr_printed (by simp) value "strategy_cursor"
  have hcounters := absentOr_printed isAttemptsPerStrategy_printed value "attempts_per_strategy"
  unfold isLoopRecoveryAttemptShape isNonEmptyStringAt at h ⊢
  rw [hlisted, haction, hactions, hcursor, hcounters]
  simp only [isPlainObject_printed, textAt_printed, rationalAt_printed, classAt_printed, actionAt_printed]
  simp only [Bool.and_eq_true] at h ⊢
  obtain ⟨⟨⟨hfront, hcarried⟩, hcursorOk⟩, hcountersOk⟩ := h
  exact ⟨⟨⟨hfront, hepisode hcarried⟩, hcursorOk⟩, hcountersOk⟩

lemma isCoolingRecordShape_printed (value : Json) :
    isCoolingRecordShape rt value.printed = isCoolingRecordShape rt value := by
  have hepoch : absentOr value.printed "candidate_epoch" (fun epoch => epoch.text?.isSome) =
      absentOr value "candidate_epoch" (fun epoch => epoch.text?.isSome) :=
    absentOr_printed (by simp) value "candidate_epoch"
  unfold isCoolingRecordShape isIsoTimestampAt
  rw [hepoch]
  simp only [isPlainObject_printed, textAt_printed]

lemma attemptsInShape_printed {attempts : Json} (h : attemptsInShape rt policy attempts = true) :
    attemptsInShape rt policy attempts.printed = true := by
  cases attempts with
  | arr rows =>
    simp only [attemptsInShape, Bool.and_eq_true, all_eq_true] at h
    have hplain : (rows.map printed).filter isPlainObject = (rows.filter isPlainObject).map printed := by
      rw [filter_map]
      simp only [Function.comp_def, isPlainObject_printed]
    simp only [printed, printedElems_eq_map, attemptsInShape, Bool.and_eq_true,
      all_eq_true, hplain, ledgerEpisodesAreAuthoritative_printed]
    refine ⟨fun row hrow => ?_, h.2⟩
    obtain ⟨source, hsource, rfl⟩ := mem_map.1 hrow
    exact isLoopRecoveryAttemptShape_printed (h.1 source hsource)
  | _ => simp [attemptsInShape] at h

lemma coolingInShape_printed {cooling : Json} (h : coolingInShape rt cooling = true) :
    coolingInShape rt cooling.printed = true := by
  cases cooling with
  | null => rfl
  | obj fields =>
    have hprinted : isCoolingRecordShape rt (Json.obj fields).printed =
        isCoolingRecordShape rt (.obj fields) := isCoolingRecordShape_printed _
    exact hprinted.trans h
  | _ => simp [coolingInShape, isCoolingRecordShape, isPlainObject, fields?] at h

lemma itemCoolingInShape_printed {records : Json} (h : itemCoolingInShape rt records = true) :
    itemCoolingInShape rt records.printed = true := by
  cases records with
  | null => rfl
  | obj fields =>
    simp only [itemCoolingInShape, all_eq_true] at h
    simp only [printed, printedFields_eq_map, itemCoolingInShape, all_eq_true]
    intro record hrecord
    obtain ⟨source, hsource, rfl⟩ := mem_map.1 hrecord
    rw [isCoolingRecordShape_printed]
    exact h source hsource
  | _ => simp [itemCoolingInShape] at h

lemma isLoopLedgerShape_printed (h : isLoopLedgerShape rt policy value = true) :
    isLoopLedgerShape rt policy value.printed = (value.rationalAt "consecutive_blocked").isSome := by
  have hcount : ((value.printed.get? "consecutive_blocked").bind number?).isSome =
      (value.rationalAt "consecutive_blocked").isSome := by
    unfold rationalAt
    rw [get?_printed]
    cases hget : value.get? "consecutive_blocked" with
    | none => rfl
    | some field =>
      cases field with
      | num n => cases n <;> rfl
      | _ => rfl
  have hitems : (value.printed.get? "items").any isPlainObject = (value.get? "items").any isPlainObject := by
    cases hget : value.get? "items" <;> simp [hget]
  simp only [isLoopLedgerShape, isNonEmptyStringAt, Bool.and_eq_true] at h
  obtain ⟨⟨⟨⟨⟨⟨⟨⟨⟨⟨hobject, hschema⟩, hrun⟩, hitem⟩, _⟩, hstop⟩, hbarrier⟩, hlast⟩, hattempts⟩,
    hcooling⟩, hitemCooling⟩ := h
  unfold isLoopLedgerShape isNonEmptyStringAt
  rw [hcount, hitems, absentOr_printed_of hattempts fun _ => attemptsInShape_printed,
    absentOr_printed_of hcooling fun _ => coolingInShape_printed,
    absentOr_printed_of hitemCooling fun _ => itemCoolingInShape_printed]
  simp only [isPlainObject_printed, textAt_printed, get?_printed, Option.isSome_map, hobject,
    hschema, hrun, hitem, hstop, hbarrier, hlast, Bool.true_and, Bool.and_true]

lemma derivedIdentity_of_shape
    (h : isLoopRecoveryAttemptShape rt policy value = true) : derivedIdentity rt value = none := by
  by_contra hsome
  obtain ⟨identity, hidentity⟩ := Option.ne_none_iff_exists'.1 hsome
  have hid := (derivedIdentity_eq_some hidentity).2
  have hoperation : value.isPresentAt "operation" = true := by
    unfold derivedIdentity at hidentity
    dsimp only at hidentity
    split at hidentity
    · next operation _ _ _ hop _ _ _ =>
      unfold isPresentAt
      unfold textAt at hop
      cases hget : value.get? "operation" with
      | none => simp [hget] at hop
      | some field =>
        cases field with
        | null => simp [hget, text?] at hop
        | _ => rfl
    · simp at hidentity
  have hcarries : attemptCarriesEpisodeState value = true := any_eq_true.2 ⟨"operation", by simp, hoperation⟩
  simp only [isLoopRecoveryAttemptShape, hcarries, Bool.not_true, Bool.false_or, Bool.and_eq_true] at h
  have hcomplete := h.1.1.2
  simp only [isCompleteEpisodeState, Bool.and_eq_true] at hcomplete
  have hauthoritative := hcomplete.2
  have hnone : value.textAt "episode_id" = none := by simp [textAt, hid]
  unfold isAuthoritativeEpisodeState at hauthoritative
  rw [hnone] at hauthoritative
  split at hauthoritative
  · next hepisode _ _ _ => simp at hepisode
  · simp at hauthoritative

end Documents
end AgentPipeline.Loop
