import AgentPipeline.Loop.RecoveryPolicy

/-!
# RecoveryEpisodes: episode records and the checks that make them live authority

`loop/recovery-episodes.ts`:

* the writer's side — `resumeEpisodeFromAttempts`, `emptyEpisode`, `applyClaimToEpisode`,
  `attachEpisodeFields`, `stampEpisodeNextEligibleAt`;
* the validator's side — `derivedAttemptCounts`, `justifiedStrategyCursor`,
  `isAuthoritativeEpisodeState`, `ledgerEpisodesAreAuthoritative`.

The two sides share no code. `Authoritative` restates the validator's verdict on one row as a
list of facts, in which the counts are always the persisted ones: where the validator derives
them from the rows, it has compared them first.
-/

namespace AgentPipeline.Loop

open JsText (nonBlank)

namespace StrategyCounts

def empty : StrategyCounts := fun _ => none

/-- `counts[recipe] ?? 0`. -/
def spent (counts : StrategyCounts) (recipe : RecoveryRecipe) : Nat :=
  (counts recipe).getD 0

/-- `counts[recipe] = (counts[recipe] ?? 0) + 1`. -/
def charge (counts : StrategyCounts) (recipe : RecoveryRecipe) : StrategyCounts := fun r =>
  if r = recipe then some (counts.spent recipe + 1) else counts r

def isEmpty (counts : StrategyCounts) : Bool :=
  RecoveryRecipe.all.all fun r => (counts r).isNone

@[simp] lemma spent_charge (counts : StrategyCounts) (recipe r : RecoveryRecipe) :
    (counts.charge recipe).spent r = counts.spent r + if r = recipe then 1 else 0 := by
  by_cases h : r = recipe
  · simp [spent, charge, h]
  · simp [spent, charge, h]

end StrategyCounts

/-! ## Bounds -/

/-- `perStrategyBound(entry)`: the class budget stands in where no bound is configured. -/
def perStrategyBound (entry : RecoveryPolicyEntry) : ℚ :=
  match entry.perStrategyBound with
  | some bound => if 0 ≤ bound then bound else entry.retryBudget
  | none => entry.retryBudget

/-- `isRecoveryPolicyEntry(cls, entry)`; integrality of the bound is not asked here. -/
def isRecoveryPolicyEntry (cls : DurableBlockerClass) (entry : RecoveryPolicyEntry) : Bool :=
  0 ≤ entry.retryBudget && !entry.perStrategyBound.any (· < 0) && 1 ≤ entry.repeatedEvidenceLimit &&
    !(isHumanAuthorityClass cls && (entry.terminalOutcome ≠ .humanAuthority || entry.recipes ≠ []))

/-! ## The writer's side -/

structure RecoveryEpisodeRecord where
  episodeId : String
  operation : String
  invariant : String
  candidateEpoch : String
  evidenceIdentity : String
  attemptsPerStrategy : StrategyCounts
  strategyCursor : Nat
  nextEligibleAt : String
  skippedStrategies : List RecoveryRecipe

/-- The row counts towards its recipe: neither skipped nor superseded. -/
def isChargedFor (recipe : RecoveryRecipe) (attempt : LoopRecoveryAttempt) : Bool :=
  attempt.action = some recipe && attempt.outcome ≠ .skipped && attempt.outcome ≠ .superseded

/-- The counters as a loop over the rows builds them: a key appears with its first row. -/
def countedAttempts (rows : List LoopRecoveryAttempt) : StrategyCounts := fun r =>
  match rows.countP (isChargedFor r) with
  | 0 => none
  | n + 1 => some (n + 1)

/-- Append the action of every skipped row that is not in the list yet. -/
def collectSkips (skipped : List RecoveryRecipe) : List LoopRecoveryAttempt → List RecoveryRecipe
  | [] => skipped
  | row :: rows =>
    match row.outcome, row.action with
    | .skipped, some recipe =>
      collectSkips (if recipe ∈ skipped then skipped else skipped ++ [recipe]) rows
    | _, _ => collectSkips skipped rows

section Writer

variable (rt : JsRuntime)

def projectEpisode (latest : LoopRecoveryAttempt) (matching : List LoopRecoveryAttempt)
    (key : RecoveryEpisodeKey) : RecoveryEpisodeRecord :=
  let persisted : StrategyCounts := latest.attemptsPerStrategy.getD StrategyCounts.empty
  { episodeId := latest.episodeId.getD (recoveryEpisodeId rt key)
    operation := latest.operation.getD key.operation
    invariant := latest.invariant.getD key.invariant
    candidateEpoch := latest.candidateEpoch.getD key.candidateEpoch
    evidenceIdentity := latest.evidenceIdentity.getD key.evidenceIdentity
    attemptsPerStrategy := if StrategyCounts.isEmpty persisted then countedAttempts matching else persisted
    strategyCursor := latest.strategyCursor.getD 0
    nextEligibleAt := (latest.nextEligibleAt <|> latest.notBefore).getD latest.time
    skippedStrategies := collectSkips (latest.skippedStrategies.getD []) matching }

/-- The rows of one episode. -/
def episodeRows (attempts : List LoopRecoveryAttempt) (episodeId : String) :
    List LoopRecoveryAttempt :=
  attempts.filter fun a => a.episodeId = some episodeId

/-- The rows that carry the key's fields without its id. -/
def keyRows (attempts : List LoopRecoveryAttempt) (key : RecoveryEpisodeKey) :
    List LoopRecoveryAttempt :=
  attempts.filter fun a =>
    a.operation = some key.operation ∧ a.invariant = some key.invariant ∧ a.candidateEpoch = some key.candidateEpoch ∧
      a.evidenceIdentity.getD a.evidenceFingerprint = key.evidenceIdentity

def resumeEpisodeFromAttempts (attempts : List LoopRecoveryAttempt) (key : RecoveryEpisodeKey) :
    Option RecoveryEpisodeRecord :=
  let matching := episodeRows attempts (recoveryEpisodeId rt key)
  match matching.getLast? with
  | some latest => some (projectEpisode rt latest matching key)
  -- rows from before episodes had an id are found by their fields
  | none =>
    let byFields := keyRows attempts key
    byFields.getLast?.map fun latest => projectEpisode rt latest byFields key

def emptyEpisode (key : RecoveryEpisodeKey) (nextEligibleAt : String) : RecoveryEpisodeRecord where
  episodeId := recoveryEpisodeId rt key
  operation := key.operation
  invariant := key.invariant
  candidateEpoch := key.candidateEpoch
  evidenceIdentity := key.evidenceIdentity
  attemptsPerStrategy := StrategyCounts.empty
  strategyCursor := 0
  nextEligibleAt := nextEligibleAt
  skippedStrategies := []

end Writer

def applyClaimToEpisode (episode : RecoveryEpisodeRecord) (recipe : RecoveryRecipe)
    (nextEligibleAt : String) : RecoveryEpisodeRecord :=
  { episode with
    attemptsPerStrategy := episode.attemptsPerStrategy.charge recipe
    nextEligibleAt := nextEligibleAt }

/-- `attachEpisodeFields(attempt, episode, fenceToken)`; every required field is present then. -/
def attachEpisodeFields (attempt : LoopRecoveryAttempt) (episode : RecoveryEpisodeRecord)
    (fenceToken : String) : LoopRecoveryAttempt :=
  { attempt with
    episodeId := some episode.episodeId
    operation := some episode.operation
    invariant := some episode.invariant
    candidateEpoch := some episode.candidateEpoch
    evidenceIdentity := some episode.evidenceIdentity
    attemptsPerStrategy := some episode.attemptsPerStrategy
    strategyCursor := some episode.strategyCursor
    skippedStrategies := some episode.skippedStrategies
    nextEligibleAt := some episode.nextEligibleAt
    sideEffectCertainty :=
      attempt.sideEffectCertainty <|> if attempt.outcome = .started then some .uncertain else none
    fenceToken := if fenceToken = "" then attempt.fenceToken else some fenceToken }

/-- `stampEpisodeNextEligibleAt`: the wake time goes to every row of the item's newest episode. -/
def stampEpisodeNextEligibleAt (attempts : List LoopRecoveryAttempt) (itemId : String)
    (nextEligibleAt : String) : List LoopRecoveryAttempt :=
  let newest := attempts.reverse.findSome? fun a =>
    if a.itemId = itemId then a.episodeId.filter (· ≠ "") else none
  match newest with
  | none => attempts
  | some episodeId => attempts.map fun a =>
    if a.episodeId = some episodeId then { a with nextEligibleAt := some nextEligibleAt } else a

structure CoolingInput where
  reason : CoolingReason
  time : String
  nextEligibleAt : String
  itemId : Option String := none
  theme : Option String := none
  candidateEpoch : Option String := none
  historicalEvidence : Option String := none
  quarantinePath : Option String := none

/-- `buildCoolingRecord(input)`: an empty text is left out like an absent one. -/
def buildCoolingRecord (input : CoolingInput) : LoopCoolingRecord where
  reason := input.reason
  time := input.time
  nextEligibleAt := some input.nextEligibleAt
  itemId := input.itemId.filter (· ≠ "")
  theme := input.theme.filter (· ≠ "")
  candidateEpoch := input.candidateEpoch.filter (· ≠ "")
  historicalEvidence := input.historicalEvidence.filter (· ≠ "")
  quarantinePath := input.quarantinePath.filter (· ≠ "")

/-! ## The validator's side -/

/-- `collectSkippedRecipes`: `none` when more strategies are skipped than the cursor passed. -/
def collectSkippedRecipes (value : LoopRecoveryAttempt) (history : List LoopRecoveryAttempt) :
    Option (List RecoveryRecipe) :=
  -- a row that is checked alone is its own history
  let rows := if history.isEmpty then [value] else history
  let listed := value.skippedStrategies.getD []
  if value.strategyCursor.any (· < listed.length) then none
  else
    some (listed ++ rows.filterMap fun row =>
      if (value.episodeId = none ∨ row.episodeId = value.episodeId) ∧ row.outcome = .skipped then
        row.action
      else none)

def derivedAttemptCounts (episodeId : Option String) (history : List LoopRecoveryAttempt)
    (recipe : RecoveryRecipe) : Nat :=
  history.countP fun row => row.episodeId = episodeId && isChargedFor recipe row

def countsMatchPersisted (persisted : StrategyCounts) (derived : RecoveryRecipe → Nat) : Bool :=
  RecoveryRecipe.all.all fun r => persisted.spent r = derived r

/-- Skipped, or its bound is spent. -/
def isAccountedFor (bound : ℚ) (counts : RecoveryRecipe → Nat) (skipped : List RecoveryRecipe)
    (recipe : RecoveryRecipe) : Bool :=
  recipe ∈ skipped || bound ≤ counts recipe

def justifiedStrategyCursor (recipes : List RecoveryRecipe) (bound : ℚ)
    (counts : RecoveryRecipe → Nat) (skipped : List RecoveryRecipe) : Nat :=
  recipes.findIdx fun r => !isAccountedFor bound counts skipped r

def sequenceFullyAccounted (recipes : List RecoveryRecipe) (bound : ℚ)
    (counts : RecoveryRecipe → Nat) (skipped : List RecoveryRecipe) : Bool :=
  recipes.all (isAccountedFor bound counts skipped)

/-- A superseded newest row is a frozen claim: its counters are not compared with the rows. -/
def derivesCounts (value : LoopRecoveryAttempt) (siblings : List LoopRecoveryAttempt) : Bool :=
  !siblings.isEmpty && value.outcome ≠ .superseded

def countsInForce (value : LoopRecoveryAttempt) (siblings : List LoopRecoveryAttempt)
    (persisted : StrategyCounts) : RecoveryRecipe → Nat :=
  if derivesCounts value siblings then derivedAttemptCounts value.episodeId siblings
  else persisted.spent

def keysAllowed (persisted : StrategyCounts) (recipes : List RecoveryRecipe) : Bool :=
  RecoveryRecipe.all.all fun r => (persisted r).isNone || r ∈ recipes

section Validator

variable (rt : JsRuntime) (policy : RecoveryPolicy)

/-- The checks on cursor, counters and skips, for a row whose identity is settled. -/
def isAuthoritativeProgress (value : LoopRecoveryAttempt) (siblings : List LoopRecoveryAttempt)
    (cursor : Nat) (persisted : StrategyCounts) : Bool :=
  let recipes := (policy value.blockerClass).recipes
  let bound := perStrategyBound (policy value.blockerClass)
  let counts := countsInForce value siblings persisted
  match collectSkippedRecipes value siblings with
  | none => false
  | some skipped =>
    skipped.all (· ∈ recipes) && keysAllowed persisted recipes && (!derivesCounts value siblings ||
        countsMatchPersisted persisted (derivedAttemptCounts value.episodeId siblings)) &&
      cursor ≤ justifiedStrategyCursor recipes bound counts skipped &&
      (cursor ≠ recipes.length || sequenceFullyAccounted recipes bound counts skipped)

/-- `isAuthoritativeEpisodeState(value, siblings, policy)`. -/
def isAuthoritativeEpisodeState (value : LoopRecoveryAttempt)
    (siblings : List LoopRecoveryAttempt) : Bool :=
  let entry := policy value.blockerClass
  match value.operation, value.invariant, value.candidateEpoch, value.evidenceIdentity,
      value.strategyCursor, value.attemptsPerStrategy with
  | some operation, some invariant, some candidateEpoch, some evidenceIdentity, some cursor, some persisted =>
      nonBlank operation && nonBlank invariant && value.episodeId.any nonBlank && value.episodeId =
          some (recoveryEpisodeId rt ⟨operation, invariant, candidateEpoch, evidenceIdentity⟩) &&
        isRecoveryPolicyEntry value.blockerClass entry &&
        value.action.all (· ∈ entry.recipes) &&
        value.actions.all (fun as => as.all (· ∈ entry.recipes)) &&
        cursor ≤ entry.recipes.length &&
        isAuthoritativeProgress policy value siblings cursor persisted
  | _, _, _, _, _, _ => false

/-- `ledgerEpisodesAreAuthoritative`: the newest row of every episode stands against all rows. -/
def ledgerEpisodesAreAuthoritative (attempts : List LoopRecoveryAttempt) : Bool :=
  attempts.all fun a =>
    match a.episodeId with
    | none => true
    | some episodeId =>
      episodeId = "" || (episodeRows attempts episodeId).getLast?.all fun latest =>
          isAuthoritativeEpisodeState rt policy latest attempts

end Validator

/-! ## The verdict as facts -/

variable {cursor : Nat} {recipes skipped : List RecoveryRecipe}

lemma le_justifiedStrategyCursor {bound : ℚ} {counts : RecoveryRecipe → Nat} :
    cursor ≤ justifiedStrategyCursor recipes bound counts skipped ↔ cursor ≤ recipes.length ∧
        ∀ r ∈ recipes.take cursor, isAccountedFor bound counts skipped r = true := by
  -- along the sequence: the first strategy that is not accounted for stops both sides
  induction recipes generalizing cursor with
  | nil => simp [justifiedStrategyCursor]
  | cons r recipes ih =>
    cases cursor with
    | zero => simp
    | succ cursor =>
      cases hr : isAccountedFor bound counts skipped r with
      | false => simp [justifiedStrategyCursor, List.findIdx_cons, hr]
      | true =>
        have hrest : cursor ≤ justifiedStrategyCursor recipes bound counts skipped ↔ _ := ih
        simp only [justifiedStrategyCursor] at hrest
        simp [justifiedStrategyCursor, List.findIdx_cons, hr, hrest]

variable {persisted : StrategyCounts}

lemma countsMatchPersisted_iff {derived : RecoveryRecipe → Nat} :
    countsMatchPersisted persisted derived = true ↔ persisted.spent = derived := by
  simp [countsMatchPersisted, RecoveryRecipe.mem_all, funext_iff]

/-- The strategies that count as skipped for `value`: the listed ones and those of the skipped
rows of its episode. -/
def skippedRecipes (value : LoopRecoveryAttempt) (history : List LoopRecoveryAttempt) :
    List RecoveryRecipe :=
  value.skippedStrategies.getD [] ++ (if history.isEmpty then [value] else history).filterMap fun row =>
      if (value.episodeId = none ∨ row.episodeId = value.episodeId) ∧ row.outcome = .skipped then
        row.action
      else none

variable {value : LoopRecoveryAttempt} {history : List LoopRecoveryAttempt}

lemma mem_skippedRecipes
    (hid : value.episodeId ≠ none) {r : RecoveryRecipe} :
    r ∈ skippedRecipes value history ↔ r ∈ value.skippedStrategies.getD [] ∨
        ∃ row ∈ (if history.isEmpty then [value] else history),
          row.episodeId = value.episodeId ∧ row.outcome = .skipped ∧ row.action = some r := by
  simp only [skippedRecipes, List.mem_append, List.mem_filterMap, hid, false_or]
  constructor
  · rintro (h | ⟨row, hrow, h⟩)
    · exact .inl h
    · split at h
      · next hc => exact .inr ⟨row, hrow, hc.1, hc.2, h⟩
      · simp at h
  · rintro (h | ⟨row, hrow, hid', hskip, hact⟩)
    · exact .inl h
    · exact .inr ⟨row, hrow, by simp [hid', hskip, hact]⟩

lemma collectSkippedRecipes_eq_some (hc : value.strategyCursor = some cursor) :
    collectSkippedRecipes value history = some skipped ↔ (value.skippedStrategies.getD []).length ≤ cursor ∧
        skipped = skippedRecipes value history := by
  unfold collectSkippedRecipes skippedRecipes
  dsimp only
  by_cases h : cursor < (value.skippedStrategies.getD []).length
  · simp only [hc, Option.any_some, h, decide_true, if_true]
    constructor
    · intro hfalse
      simp at hfalse
    · intro hle
      omega
  · simp only [hc, Option.any_some, h, decide_false, Bool.false_eq_true, if_false,
      Option.some.injEq, not_lt.1 h, true_and]
    exact eq_comm

/-- The persisted counters agree with the rows wherever the validator compares them. -/
def CountsAgree (value : LoopRecoveryAttempt) (siblings : List LoopRecoveryAttempt)
    (persisted : StrategyCounts) : Prop :=
  siblings ≠ [] → value.outcome ≠ .superseded → persisted.spent = derivedAttemptCounts value.episodeId siblings

variable (rt : JsRuntime) (policy : RecoveryPolicy)

/-- What the validator establishes about `value`, written against the persisted counters. -/
structure Authoritative (value : LoopRecoveryAttempt) (siblings : List LoopRecoveryAttempt)
    (key : RecoveryEpisodeKey) (cursor : Nat) (persisted : StrategyCounts) : Prop where
  operation : value.operation = some key.operation
  invariant : value.invariant = some key.invariant
  candidateEpoch : value.candidateEpoch = some key.candidateEpoch
  evidenceIdentity : value.evidenceIdentity = some key.evidenceIdentity
  nonBlank_operation : nonBlank key.operation = true
  nonBlank_invariant : nonBlank key.invariant = true
  episodeId : value.episodeId = some (recoveryEpisodeId rt key)
  cursor_eq : value.strategyCursor = some cursor
  persisted_eq : value.attemptsPerStrategy = some persisted
  entry : isRecoveryPolicyEntry value.blockerClass (policy value.blockerClass) = true
  action : ∀ a, value.action = some a → a ∈ (policy value.blockerClass).recipes
  actions : ∀ as, value.actions = some as → ∀ a ∈ as, a ∈ (policy value.blockerClass).recipes
  skips_fit : (value.skippedStrategies.getD []).length ≤ cursor
  skips_allowed : ∀ r ∈ skippedRecipes value siblings, r ∈ (policy value.blockerClass).recipes
  keys_allowed : ∀ r, persisted r ≠ none → r ∈ (policy value.blockerClass).recipes
  counts : CountsAgree value siblings persisted
  cursor_le : cursor ≤ (policy value.blockerClass).recipes.length
  justified : ∀ r ∈ (policy value.blockerClass).recipes.take cursor,
    isAccountedFor (perStrategyBound (policy value.blockerClass)) persisted.spent
      (skippedRecipes value siblings) r = true

lemma keysAllowed_iff : keysAllowed persisted recipes = true ↔ ∀ r, persisted r ≠ none → r ∈ recipes := by
  simp only [keysAllowed, List.all_eq_true, RecoveryRecipe.mem_all, true_implies,
    Bool.or_eq_true, Option.isNone_iff_eq_none, decide_eq_true_eq, or_iff_not_imp_left, ne_eq]

variable {siblings : List LoopRecoveryAttempt}

lemma compares_iff :
    (!derivesCounts value siblings ||
        countsMatchPersisted persisted (derivedAttemptCounts value.episodeId siblings)) = true ↔
      CountsAgree value siblings persisted := by
  by_cases hs : siblings = [] <;> by_cases ho : value.outcome = .superseded <;>
    simp [derivesCounts, CountsAgree, hs, ho, countsMatchPersisted_iff]

lemma CountsAgree.countsInForce (h : CountsAgree value siblings persisted) :
    countsInForce value siblings persisted = persisted.spent := by
  unfold Loop.countsInForce
  split
  · next hd =>
    simp only [derivesCounts, Bool.and_eq_true, Bool.not_eq_true', List.isEmpty_eq_false_iff, decide_eq_true_eq] at hd
    exact (h hd.1 hd.2).symm
  · rfl

lemma isAuthoritativeProgress_iff (hc : value.strategyCursor = some cursor) :
    isAuthoritativeProgress policy value siblings cursor persisted = true ↔
      (value.skippedStrategies.getD []).length ≤ cursor ∧
      (∀ r ∈ skippedRecipes value siblings, r ∈ (policy value.blockerClass).recipes) ∧
      (∀ r, persisted r ≠ none → r ∈ (policy value.blockerClass).recipes) ∧ CountsAgree value siblings persisted ∧
      cursor ≤ (policy value.blockerClass).recipes.length ∧ ∀ r ∈ (policy value.blockerClass).recipes.take cursor,
        isAccountedFor (perStrategyBound (policy value.blockerClass)) persisted.spent
          (skippedRecipes value siblings) r = true := by
  unfold isAuthoritativeProgress
  dsimp only
  cases hsk : collectSkippedRecipes value siblings with
  | none =>
    -- more skips are listed than the cursor passed
    have hlen : ¬(value.skippedStrategies.getD []).length ≤ cursor := fun h => by
      have hsome : collectSkippedRecipes value siblings = some _ := (collectSkippedRecipes_eq_some hc).2 ⟨h, rfl⟩
      simp [hsome] at hsk
    simp [hlen]
  | some skipped =>
    obtain ⟨hfit, rfl⟩ := (collectSkippedRecipes_eq_some hc).1 hsk
    by_cases hagree : CountsAgree value siblings persisted
    · -- whichever counters are used, they are the persisted ones once compared
      simp only [hagree.countsInForce, compares_iff.2 hagree, Bool.and_true, Bool.and_eq_true,
        decide_eq_true_eq, le_justifiedStrategyCursor, keysAllowed_iff, List.all_eq_true]
      constructor
      · rintro ⟨⟨⟨hall, hkeys⟩, hle, hjust⟩, _⟩
        exact ⟨hfit, hall, hkeys, hagree, hle, hjust⟩
      · rintro ⟨_, hall, hkeys, _, hle, hjust⟩
        refine ⟨⟨⟨hall, hkeys⟩, hle, hjust⟩, ?_⟩
        -- a cursor at the end asks for the whole sequence, which is the prefix then
        by_cases hlen : cursor = (policy value.blockerClass).recipes.length
        · simpa [hlen, sequenceFullyAccounted] using hjust
        · simp [hlen]
    · have hfalse := Bool.eq_false_iff.2 (fun h => hagree (compares_iff.1 h))
      simp only [hfalse, hagree, Bool.and_false, Bool.false_and, Bool.false_eq_true, false_iff]
      tauto

lemma isAuthoritativeEpisodeState_iff : isAuthoritativeEpisodeState rt policy value siblings = true ↔
      ∃ key cursor persisted, Authoritative rt policy value siblings key cursor persisted := by
  constructor
  · intro h
    unfold isAuthoritativeEpisodeState at h
    dsimp only at h
    split at h
    -- the six fields are there, and the conjuncts follow the order of the checks
    · next operation invariant candidateEpoch evidenceIdentity cursor persisted
        hop hinv hce hei hcur hper =>
        simp only [Bool.and_eq_true, decide_eq_true_eq, isAuthoritativeProgress_iff policy hcur]
          at h
        obtain ⟨⟨⟨⟨⟨⟨⟨⟨hnop, hninv⟩, _⟩, hid⟩, hentry⟩, hact⟩, hacts⟩, _⟩, hfit, hskips, hkeys,
          hcounts, hle, hjust⟩ := h
        refine ⟨⟨operation, invariant, candidateEpoch, evidenceIdentity⟩, cursor, persisted, ?_⟩
        exact
          { operation := hop, invariant := hinv, candidateEpoch := hce, evidenceIdentity := hei
            nonBlank_operation := hnop, nonBlank_invariant := hninv, episodeId := hid
            cursor_eq := hcur, persisted_eq := hper, entry := hentry
            action := fun a ha => by simpa [ha] using hact
            actions := fun as has => by simpa [has] using hacts
            skips_fit := hfit, skips_allowed := hskips, keys_allowed := hkeys
            counts := hcounts, cursor_le := hle, justified := hjust }
    · simp at h
  · rintro ⟨key, cursor, persisted, h⟩
    have hprogress := (isAuthoritativeProgress_iff policy h.cursor_eq).2
      ⟨h.skips_fit, h.skips_allowed, h.keys_allowed, h.counts, h.cursor_le, h.justified⟩
    have hact : value.action.all (· ∈ (policy value.blockerClass).recipes) = true := by
      cases ha : value.action with
      | none => simp
      | some a => simpa using h.action a ha
    have hacts : value.actions.all
        (fun as => as.all (· ∈ (policy value.blockerClass).recipes)) = true := by
      cases has : value.actions with
      | none => simp
      | some as => simpa using h.actions as has
    unfold isAuthoritativeEpisodeState
    simp [h.operation, h.invariant, h.candidateEpoch, h.evidenceIdentity, h.cursor_eq,
      h.persisted_eq, h.nonBlank_operation, h.nonBlank_invariant, h.episodeId,
      rt.nonBlank_sha256, recoveryEpisodeId, h.entry, hact, hacts, h.cursor_le, hprogress]

end AgentPipeline.Loop
