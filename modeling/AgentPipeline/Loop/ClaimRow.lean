import AgentPipeline.Loop.AcceptedRows
import AgentPipeline.Loop.Recovery

/-!
# ClaimRow: when the row of a new claim stands

A claim continues the episode that its key names and appends one row. This file reads off the
writer what that row carries and compares it with the validator:

* `ClaimContext.reach`, `ClaimContext.keptCursor`: the cursor that the row carries, and what the
  compatibility normalization leaves of it;
* `ClaimContext.Stands`: the condition on the episode and the input under which the row stands;
* `ClaimContext.rowsAccepted_row`: accepted rows stay accepted when the row of a standing claim
  is appended.

`stands_of_newest` gives the usual case: the newest row of the episode is live and of the same
class, so that most of `Stands` is what the validator found out about that row.
-/

namespace AgentPipeline.Loop

open List
open JsText (nonBlank)

/-! ## The skips of an episode -/

variable {r : RecoveryRecipe}

lemma mem_collectSkips {skipped : List RecoveryRecipe} {rows : List LoopRecoveryAttempt} :
    r ∈ collectSkips skipped rows ↔ r ∈ skipped ∨ ∃ row ∈ rows, row.outcome = .skipped ∧ row.action = some r := by
  induction rows generalizing skipped with
  | nil => simp [collectSkips]
  | cons row rows ih =>
    rw [exists_mem_cons_iff]
    by_cases hskip : row.outcome = .skipped
    · cases haction : row.action with
      | none => simp [collectSkips, hskip, haction, ih]
      | some recipe =>
        by_cases hmem : recipe ∈ skipped
        · simp only [collectSkips, hskip, haction, hmem, if_true, ih, true_and, Option.some.injEq]
          constructor
          · exact Or.imp_right .inr
          · rintro (h | rfl | h)
            · exact .inl h
            · exact .inl hmem
            · exact .inr h
        · simp only [collectSkips, hskip, haction, hmem, if_false, ih, true_and,
            Option.some.injEq, mem_append, mem_singleton]
          rw [or_assoc, eq_comm (a := r)]
    · have hrest : collectSkips skipped (row :: rows) = collectSkips skipped rows := by
        unfold collectSkips
        split
        · next h _ => exact absurd h hskip
        · cases rows <;> rfl
      rw [hrest, ih]
      simp [hskip]

variable (rt : JsRuntime) (policy : RecoveryPolicy)

/-! ## The episode that a claim continues -/

lemma keyRows_eq_nil {rows : List LoopRecoveryAttempt} (h : RowsAccepted rt policy rows)
    {key : RecoveryEpisodeKey} (hnone : episodeRows rows (recoveryEpisodeId rt key) = []) : keyRows rows key = [] := by
  by_contra hne
  obtain ⟨a, ha⟩ := exists_mem_of_ne_nil _ hne
  simp only [keyRows, mem_filter, decide_eq_true_eq] at ha
  obtain ⟨hmem, hop, hinv, hepoch, hevidence⟩ := ha
  have hcarries : attemptCarriesEpisodeState a = true := by simp [attemptCarriesEpisodeState, hop]
  obtain ⟨_, key', cursor, persisted, hauth⟩ :=
    authoritative_of_shape rt policy (h.shape a hmem) hcarries
  have hkey : key' = key := by
    have h₁ := hauth.operation
    have h₂ := hauth.invariant
    have h₃ := hauth.candidateEpoch
    have h₄ := hauth.evidenceIdentity
    rw [hop] at h₁
    rw [hinv] at h₂
    rw [hepoch] at h₃
    rw [h₄] at hevidence
    simp only [Option.some.injEq] at h₁ h₂ h₃
    cases key
    cases key'
    simp_all
  have hrow : a ∈ episodeRows rows (recoveryEpisodeId rt key) := by
    simp [episodeRows, hmem, hauth.episodeId, hkey]
  simp [hnone] at hrow

namespace ClaimContext

variable (ctx : ClaimContext) (time notBefore : String)

section

variable (h : RowsAccepted rt policy ctx.attempts)
include h

lemma episode_cases : (episodeRows ctx.attempts (recoveryEpisodeId rt ctx.key) = [] ∧
        ctx.episode rt time = emptyEpisode rt ctx.key time) ∨
      ∃ latest, (episodeRows ctx.attempts (recoveryEpisodeId rt ctx.key)).getLast? = some latest ∧
        ctx.episode rt time = projectEpisode rt latest
          (episodeRows ctx.attempts (recoveryEpisodeId rt ctx.key)) ctx.key := by
  cases hlatest : (episodeRows ctx.attempts (recoveryEpisodeId rt ctx.key)).getLast? with
  | none =>
    have hnil := getLast?_eq_none_iff.1 hlatest
    have hkey := keyRows_eq_nil rt policy h hnil
    exact .inl ⟨hnil, by simp [episode, resumeEpisodeFromAttempts, hlatest, hkey]⟩
  | some latest =>
    exact .inr ⟨latest, rfl, by simp [episode, resumeEpisodeFromAttempts, hlatest]⟩

lemma episode_id : (ctx.episode rt time).episodeId = recoveryEpisodeId rt ctx.key ∧
      (ctx.episode rt time).episodeId = recoveryEpisodeId rt
        ⟨(ctx.episode rt time).operation, (ctx.episode rt time).invariant,
          (ctx.episode rt time).candidateEpoch, (ctx.episode rt time).evidenceIdentity⟩ := by
  rcases ctx.episode_cases rt policy time h with ⟨_, heq⟩ | ⟨latest, hlatest, heq⟩
  · rw [heq]
    exact ⟨rfl, rfl⟩
  · obtain ⟨_, hid⟩ := mem_of_newest hlatest
    obtain ⟨key, cursor, persisted, hauth⟩ := h.newest _ latest hlatest
    rw [heq]
    simp only [projectEpisode, hid, hauth.operation, hauth.invariant, hauth.candidateEpoch,
      hauth.evidenceIdentity, Option.getD_some, true_and]
    exact Option.some.inj (hid.symm.trans hauth.episodeId)

lemma mem_episode_skips {row : LoopRecoveryAttempt} (hrow : row ∈ ctx.attempts)
    (hid : row.episodeId = some (ctx.episode rt time).episodeId) (hskip : row.outcome = .skipped)
    (haction : row.action = some r) : r ∈ (ctx.episode rt time).skippedStrategies := by
  rw [(ctx.episode_id rt policy time h).1] at hid
  have hmem : row ∈ episodeRows ctx.attempts (recoveryEpisodeId rt ctx.key) := by simp [episodeRows, hrow, hid]
  rcases ctx.episode_cases rt policy time h with ⟨hnil, _⟩ | ⟨latest, _, heq⟩
  · simp [hnil] at hmem
  · rw [heq]
    exact mem_collectSkips.2 (.inr ⟨row, hmem, hskip, haction⟩)

end

/-! ## What the claim leaves in the episode -/

/-- The cursor after the claim: not before the claimed strategy, and past it when it is skipped. -/
def reach : Nat :=
  max (ctx.episode rt time).strategyCursor
    (ctx.index + if ctx.input.skipInapplicable then 1 else 0)

/-- The claim finds its bound spent. -/
def BoundSpent : Prop :=
  ctx.input.skipInapplicable = false ∧ ctx.isPrep = false ∧
    perStrategyBound ctx.entry ≤ (ctx.episode rt time).attemptsPerStrategy.spent ctx.input.action

instance : Decidable (ctx.BoundSpent rt time) := inferInstanceAs (Decidable (_ ∧ _))

lemma outcome_eq :
    ctx.outcome rt time = if ctx.input.skipInapplicable then .skipped
      else if ctx.BoundSpent rt time then .exhausted else .started := by
  unfold outcome startOutcome BoundSpent isPrep
  by_cases hskip : ctx.input.skipInapplicable = true
  · simp [hskip]
  · simp [hskip]

lemma passPredecessors_eq : passPredecessors ctx.entry (ctx.episode rt time) ctx.index = { ctx.episode rt time with
        strategyCursor := max (ctx.episode rt time).strategyCursor ctx.index
        skippedStrategies := (ctx.episode rt time).skippedStrategies ++
          implicitSkips ctx.entry (ctx.episode rt time) ctx.index } := by
  unfold passPredecessors
  split
  · next hlt => simp [Nat.max_eq_right hlt.le]
  · next hle =>
    -- nothing lies between the cursor and a strategy before it
    have hnone : implicitSkips ctx.entry (ctx.episode rt time) ctx.index = [] := by
      have hlen : (ctx.entry.recipes.take ctx.index).length ≤ (ctx.episode rt time).strategyCursor := by
        rw [length_take]
        omega
      simp [implicitSkips, drop_eq_nil_of_le hlen]
    simp [hnone, Nat.max_eq_left (not_lt.1 hle)]

/-- The episode after the claim, field by field. -/
structure Claimed (ep : RecoveryEpisodeRecord) : Prop where
  episodeId : ep.episodeId = (ctx.episode rt time).episodeId
  operation : ep.operation = (ctx.episode rt time).operation
  invariant : ep.invariant = (ctx.episode rt time).invariant
  candidateEpoch : ep.candidateEpoch = (ctx.episode rt time).candidateEpoch
  evidenceIdentity : ep.evidenceIdentity = (ctx.episode rt time).evidenceIdentity
  cursor : ep.strategyCursor = ctx.reach rt time
  skips : ep.skippedStrategies = (ctx.episode rt time).skippedStrategies ++
    implicitSkips ctx.entry (ctx.episode rt time) ctx.index ++
      if ctx.input.skipInapplicable then [ctx.input.action] else []
  counts : ep.attemptsPerStrategy = if ctx.outcome rt time = .started then
      (ctx.episode rt time).attemptsPerStrategy.charge ctx.input.action
    else (ctx.episode rt time).attemptsPerStrategy
  eligible : ep.nextEligibleAt = time ∨ ep.nextEligibleAt = notBefore

lemma claimed_claimed : ctx.Claimed rt time notBefore (ctx.claimed rt time notBefore) := by
  unfold claimed
  rw [passPredecessors_eq]
  -- by outcome: skipped, exhausted, started
  by_cases hskip : ctx.input.skipInapplicable = true
  · have hout : ctx.outcome rt time = .skipped := by simp [outcome_eq, hskip]
    rw [hout]
    exact
      { episodeId := rfl, operation := rfl, invariant := rfl, candidateEpoch := rfl
        evidenceIdentity := rfl
        cursor := by
          simp only [settleEpisode, reach, hskip, if_true]
          omega
        skips := by simp [settleEpisode, hskip]
        counts := by simp [settleEpisode, hout]
        eligible := .inl rfl }
  · by_cases hspent : ctx.BoundSpent rt time
    · have hout : ctx.outcome rt time = .exhausted := by simp [outcome_eq, hskip, hspent]
      rw [hout]
      exact
        { episodeId := rfl, operation := rfl, invariant := rfl, candidateEpoch := rfl
          evidenceIdentity := rfl
          cursor := by simp [settleEpisode, reach, hskip]
          skips := by simp [settleEpisode, hskip]
          counts := by simp [settleEpisode, hout]
          eligible := .inl rfl }
    · have hout : ctx.outcome rt time = .started := by simp [outcome_eq, hskip, hspent]
      rw [hout]
      exact
        { episodeId := rfl, operation := rfl, invariant := rfl, candidateEpoch := rfl
          evidenceIdentity := rfl
          cursor := by simp [settleEpisode, applyClaimToEpisode, reach, hskip]
          skips := by simp [settleEpisode, applyClaimToEpisode, hskip]
          counts := by simp [settleEpisode, applyClaimToEpisode, hout]
          eligible := by
            by_cases hback : 0 < ctx.backoff
            · simp [settleEpisode, applyClaimToEpisode, hback]
            · simp [settleEpisode, applyClaimToEpisode, hback] }

/-! ## The row in force -/

/-- What the compatibility normalization under the policy on disk leaves of the cursor. -/
def keptCursor : Nat :=
  if rebasesLegacyCursor policy ∧ (ctx.cls = .workflowEngineDefect ∨
        (ctx.episode rt time).invariant = DurableBlockerClass.workflowEngineDefect.name) ∧
      3 ≤ ctx.reach rt time then 3
  else ctx.reach rt time

lemma keptCursor_le : ctx.keptCursor rt policy time ≤ ctx.reach rt time := by
  unfold keptCursor
  split
  · next h => exact h.2.2
  · exact le_rfl

/-- The row as a later read finds it. -/
def keptRow : LoopRecoveryAttempt :=
  { ctx.row rt time notBefore with strategyCursor := some (ctx.keptCursor rt policy time) }

lemma normalizeAttempt_row : normalizeAttempt rt policy (ctx.row rt time notBefore) =
      ctx.keptRow rt policy time notBefore := by
  have hclaimed := ctx.claimed_claimed rt time notBefore
  have hcursor : (ctx.row rt time notBefore).strategyCursor = some (ctx.reach rt time) := by
    rw [← hclaimed.cursor]
    rfl
  have hinvariant : (ctx.row rt time notBefore).invariant = some (ctx.episode rt time).invariant := by
    rw [← hclaimed.invariant]
    rfl
  have hengine : isWorkflowEngineRow (ctx.row rt time notBefore) ↔ ctx.cls = .workflowEngineDefect ∨
        (ctx.episode rt time).invariant = DurableBlockerClass.workflowEngineDefect.name := by
    unfold isWorkflowEngineRow
    rw [hinvariant, Option.some.injEq]
    exact Iff.rfl
  have hid : (ctx.row rt time notBefore).episodeId ≠ none := by simp [row, attachEpisodeFields]
  have hcond : (rebasesLegacyCursor policy ∧ isWorkflowEngineRow (ctx.row rt time notBefore) ∧
      (ctx.row rt time notBefore).strategyCursor.any (3 ≤ ·) = true) ↔ _ :=
    and_congr_right' (and_congr hengine (by rw [hcursor, Option.any_some, decide_eq_true_iff]))
  rw [normalizeAttempt, normalizeStarted_of_episodeId rt hid, rebaseCursor, keptRow, keptCursor]
  split
  · next hc => rw [if_pos (hcond.1 hc)]
  · next hc => rw [if_neg (mt hcond.2 hc), ← hcursor]

/-- The condition under which the row of a claim stands: the episode it continues stands under
the recipes of the item's class, its counters agree with its rows (up to the row that finds its
bound spent), and the listed skips leave room under the cursor. -/
structure Stands : Prop where
  itemId : ctx.input.itemId ≠ ""
  operation : nonBlank (ctx.episode rt time).operation = true
  invariant : nonBlank (ctx.episode rt time).invariant = true
  skips : ∀ r ∈ (ctx.episode rt time).skippedStrategies, r ∈ ctx.entry.recipes
  keys : keysAllowed (ctx.episode rt time).attemptsPerStrategy ctx.entry.recipes = true
  counts : ∀ r ∈ RecoveryRecipe.all, (ctx.episode rt time).attemptsPerStrategy.spent r =
    derivedAttemptCounts (some (ctx.episode rt time).episodeId) ctx.attempts r +
      if ctx.BoundSpent rt time ∧ r = ctx.input.action then 1 else 0
  cursor : (ctx.episode rt time).strategyCursor ≤
    justifiedStrategyCursor ctx.entry.recipes (perStrategyBound ctx.entry)
      (ctx.episode rt time).attemptsPerStrategy.spent (ctx.episode rt time).skippedStrategies
  room : (ctx.episode rt time).skippedStrategies.length +
      (implicitSkips ctx.entry (ctx.episode rt time) ctx.index).length +
      (if ctx.input.skipInapplicable then 1 else 0) ≤ ctx.keptCursor rt policy time

instance : Decidable (ctx.Stands rt policy time) :=
  decidable_of_iff
    (ctx.input.itemId ≠ "" ∧ nonBlank (ctx.episode rt time).operation = true ∧
      nonBlank (ctx.episode rt time).invariant = true ∧
      (∀ r ∈ (ctx.episode rt time).skippedStrategies, r ∈ ctx.entry.recipes) ∧
      keysAllowed (ctx.episode rt time).attemptsPerStrategy ctx.entry.recipes = true ∧
      (∀ r ∈ RecoveryRecipe.all, (ctx.episode rt time).attemptsPerStrategy.spent r =
        derivedAttemptCounts (some (ctx.episode rt time).episodeId) ctx.attempts r +
          if ctx.BoundSpent rt time ∧ r = ctx.input.action then 1 else 0) ∧
      (ctx.episode rt time).strategyCursor ≤ justifiedStrategyCursor ctx.entry.recipes (perStrategyBound ctx.entry)
          (ctx.episode rt time).attemptsPerStrategy.spent
          (ctx.episode rt time).skippedStrategies ∧
      (ctx.episode rt time).skippedStrategies.length +
        (implicitSkips ctx.entry (ctx.episode rt time) ctx.index).length +
        (if ctx.input.skipInapplicable then 1 else 0) ≤ ctx.keptCursor rt policy time)
    ⟨fun ⟨h₁, h₂, h₃, h₄, h₅, h₆, h₇, h₈⟩ => ⟨h₁, h₂, h₃, h₄, h₅, h₆, h₇, h₈⟩,
      fun h => ⟨h.itemId, h.operation, h.invariant, h.skips, h.keys, h.counts, h.cursor, h.room⟩⟩

/-! ## The verdict on the row -/

lemma keptRow_episodeId : (ctx.keptRow rt policy time notBefore).episodeId = some (ctx.episode rt time).episodeId :=
  congrArg some (ctx.claimed_claimed rt time notBefore).episodeId

lemma action_mem_skips (hskip : ctx.outcome rt time = .skipped) :
    ctx.input.action ∈ (ctx.claimed rt time notBefore).skippedStrategies := by
  have hinput : ctx.input.skipInapplicable = true := by
    by_contra hno
    rw [outcome_eq, if_neg hno] at hskip
    split at hskip
    · simp at hskip
    · simp at hskip
  simp [(ctx.claimed_claimed rt time notBefore).skips, hinput]

variable {eff : RecoveryPolicy} {siblings : List LoopRecoveryAttempt}

lemma mem_skippedRecipes_keptRow (h : RowsAccepted rt eff ctx.attempts) (hsiblings : ∀ row ∈ siblings,
      row ∈ ctx.attempts ∨ row = ctx.keptRow rt policy time notBefore) (r : RecoveryRecipe) :
    r ∈ skippedRecipes (ctx.keptRow rt policy time notBefore) siblings ↔
      r ∈ (ctx.claimed rt time notBefore).skippedStrategies := by
  have hid := ctx.keptRow_episodeId rt policy time notBefore
  rw [mem_skippedRecipes (by simp [hid])]
  refine ⟨?_, .inl⟩
  rintro (hlisted | ⟨row, hrow, heid, hskip, haction⟩)
  · exact hlisted
  · have hcases : row ∈ ctx.attempts ∨ row = ctx.keptRow rt policy time notBefore := by
      split at hrow
      · exact .inr (by simpa using hrow)
      · exact hsiblings row hrow
    rcases hcases with hmem | rfl
    · have hold := ctx.mem_episode_skips rt eff time h hmem (heid.trans hid) hskip haction
      rw [(ctx.claimed_claimed rt time notBefore).skips]
      simp [hold]
    · obtain rfl : ctx.input.action = r := Option.some.inj haction
      exact ctx.action_mem_skips rt time notBefore hskip

lemma Stands.countsAgree (hstands : ctx.Stands rt policy time) :
    (ctx.claimed rt time notBefore).attemptsPerStrategy.spent =
      derivedAttemptCounts (ctx.keptRow rt policy time notBefore).episodeId
        (ctx.attempts ++ [ctx.keptRow rt policy time notBefore]) := by
  funext r
  have hcounts := hstands.counts r (RecoveryRecipe.mem_all r)
  have hcharged : isChargedFor r (ctx.keptRow rt policy time notBefore) =
      decide (r = ctx.input.action ∧ ctx.outcome rt time ≠ .skipped) := by
    have hsuperseded : ctx.outcome rt time ≠ .superseded := by
      rw [outcome_eq]
      repeat' split
      all_goals simp
    have hrow : isChargedFor r (ctx.keptRow rt policy time notBefore) =
        (decide (some ctx.input.action = some r) && decide (ctx.outcome rt time ≠ .skipped) &&
          decide (ctx.outcome rt time ≠ .superseded)) := rfl
    rw [hrow]
    simp [hsuperseded, eq_comm]
  rw [derivedAttemptCounts, countP_append, countP_singleton, keptRow_episodeId,
    hcharged, (ctx.claimed_claimed rt time notBefore).counts]
  simp only [derivedAttemptCounts] at hcounts
  -- a started row charges both sides, a skipped one neither, and an exhausted one only the rows
  by_cases hskip : ctx.input.skipInapplicable = true
  · have hspent : ¬ctx.BoundSpent rt time := fun h => by simp [h.1] at hskip
    simp [outcome_eq, hskip, hcounts, hspent]
  · by_cases hspent : ctx.BoundSpent rt time
    · simp [outcome_eq, hskip, hspent, hcounts]
    · simp [outcome_eq, hskip, hspent, hcounts]

lemma Stands.accounted (hstands : ctx.Stands rt policy time) (hr : r ∈ ctx.entry.recipes.take (ctx.reach rt time)) :
    isAccountedFor (perStrategyBound ctx.entry) (ctx.claimed rt time notBefore).attemptsPerStrategy.spent
      (ctx.claimed rt time notBefore).skippedStrategies r = true := by
  have hclaimed := ctx.claimed_claimed rt time notBefore
  have hspent : (ctx.episode rt time).attemptsPerStrategy.spent r ≤
      (ctx.claimed rt time notBefore).attemptsPerStrategy.spent r := by
    rw [hclaimed.counts]
    split
    · rw [StrategyCounts.spent_charge]
      omega
    · exact le_rfl
  have hkeep : isAccountedFor (perStrategyBound ctx.entry) (ctx.episode rt time).attemptsPerStrategy.spent
        (ctx.episode rt time).skippedStrategies r = true → isAccountedFor (perStrategyBound ctx.entry)
        (ctx.claimed rt time notBefore).attemptsPerStrategy.spent
        (ctx.claimed rt time notBefore).skippedStrategies r = true := by
    simp only [isAccountedFor, Bool.or_eq_true, decide_eq_true_eq]
    rintro (hskip | hbound)
    · exact .inl (by simp [hclaimed.skips, hskip])
    · exact .inr (hbound.trans (by exact_mod_cast hspent))
  obtain ⟨i, hi, rfl⟩ := mem_take_iff_getElem.1 hr
  have hlen : i < ctx.entry.recipes.length := by omega
  have hreach : i < ctx.reach rt time := by omega
  -- by the place of the strategy: behind the old cursor, passed over, or the claimed one
  by_cases hold : i < (ctx.episode rt time).strategyCursor
  · apply hkeep
    apply (le_justifiedStrategyCursor.1 hstands.cursor).2
    exact mem_take_iff_getElem.2 ⟨i, by omega, rfl⟩
  · by_cases hpassed : i < ctx.index
    · by_cases hbefore : isAccountedFor (perStrategyBound ctx.entry)
          (ctx.episode rt time).attemptsPerStrategy.spent
          (ctx.episode rt time).skippedStrategies ctx.entry.recipes[i] = true
      · exact hkeep hbefore
      -- a strategy that is passed over unaccounted for is listed as an implicit skip
      · have himplicit : ctx.entry.recipes[i] ∈ implicitSkips ctx.entry (ctx.episode rt time) ctx.index := by
          have hdrop : ctx.entry.recipes[i] ∈
              (ctx.entry.recipes.take ctx.index).drop (ctx.episode rt time).strategyCursor := by
            refine mem_drop_iff_getElem.2 ⟨i - (ctx.episode rt time).strategyCursor, ?_, ?_⟩
            · rw [length_take]
              omega
            · rw [getElem_take]
              congr 1
              omega
          simp only [isAccountedFor, Bool.or_eq_true, decide_eq_true_eq, not_or, not_le] at hbefore
          simpa [implicitSkips, hdrop] using hbefore
        simp [isAccountedFor, hclaimed.skips, himplicit]
    · -- only a skipped claim moves the cursor past its own strategy
      have hskip : ctx.input.skipInapplicable = true := by
        by_contra hno
        simp only [reach, hno] at hreach
        simp at hreach
        omega
      have hindex : i = ctx.index := by
        simp only [reach, hskip, if_true] at hreach
        omega
      have haction : ctx.entry.recipes[i] = ctx.input.action := by simp only [hindex, index, getElem_idxOf]
      simp [isAccountedFor, hclaimed.skips, hskip, haction]

/-- What a claim is decided under: accepted rows, and the entry of a compiled policy that permits
the action. -/
structure Under (eff : RecoveryPolicy) : Prop where
  rows : RowsAccepted rt eff ctx.attempts
  entry_eq : ctx.entry = eff ctx.cls
  valid : isRecoveryPolicyEntry ctx.cls ctx.entry = true
  permitted : ctx.input.action ∈ ctx.entry.recipes

variable {rt policy ctx time notBefore}

lemma Under.authoritative (h : ctx.Under rt eff) (hstands : ctx.Stands rt policy time)
    (hsiblings : ∀ row ∈ siblings, row ∈ ctx.attempts ∨ row = ctx.keptRow rt policy time notBefore)
    (hcounts : CountsAgree (ctx.keptRow rt policy time notBefore) siblings
      (ctx.claimed rt time notBefore).attemptsPerStrategy) :
    Authoritative rt eff (ctx.keptRow rt policy time notBefore) siblings
      ⟨(ctx.episode rt time).operation, (ctx.episode rt time).invariant,
        (ctx.episode rt time).candidateEpoch, (ctx.episode rt time).evidenceIdentity⟩
      (ctx.keptCursor rt policy time) (ctx.claimed rt time notBefore).attemptsPerStrategy := by
  have hclaimed := ctx.claimed_claimed rt time notBefore
  have hskips := ctx.mem_skippedRecipes_keptRow rt policy time notBefore h.rows hsiblings
  have hclass : eff (ctx.keptRow rt policy time notBefore).blockerClass = ctx.entry := h.entry_eq.symm
  have hkept := ctx.keptCursor_le rt policy time
  have hreach : ctx.reach rt time ≤ ctx.entry.recipes.length := by
    have hindex := idxOf_lt_length_iff.2 h.permitted
    have hold := (le_justifiedStrategyCursor.1 hstands.cursor).1
    simp only [reach, index]
    split
    · omega
    · omega
  refine
    { operation := congrArg some hclaimed.operation
      invariant := congrArg some hclaimed.invariant
      candidateEpoch := congrArg some hclaimed.candidateEpoch
      evidenceIdentity := congrArg some hclaimed.evidenceIdentity
      nonBlank_operation := hstands.operation
      nonBlank_invariant := hstands.invariant
      episodeId := ?_
      cursor_eq := rfl
      persisted_eq := rfl
      entry := ?_, action := ?_, actions := ?_, skips_fit := ?_, skips_allowed := ?_
      keys_allowed := ?_
      counts := hcounts
      cursor_le := ?_, justified := ?_ }
  -- the id is the digest of the very fields the episode was resumed with
  · rw [keptRow_episodeId, (ctx.episode_id rt eff time h.rows).2]
  · rw [hclass]
    exact h.valid
  · intro a ha
    obtain rfl : ctx.input.action = a := Option.some.inj ha
    rw [hclass]
    exact h.permitted
  · intro as has a ha
    obtain rfl : [ctx.input.action] = as := Option.some.inj has
    obtain rfl : a = ctx.input.action := by simpa using ha
    rw [hclass]
    exact h.permitted
  · have hlist : ((ctx.keptRow rt policy time notBefore).skippedStrategies.getD []) =
        (ctx.claimed rt time notBefore).skippedStrategies := rfl
    have hroom := hstands.room
    rw [hlist, hclaimed.skips, length_append, length_append]
    split
    · next hskip => simpa [hskip] using hroom
    · next hskip => simpa [hskip] using hroom
  · intro r hr
    rw [hskips, hclaimed.skips, mem_append, mem_append] at hr
    rw [hclass]
    rcases hr with (hold | himplicit) | hskipped
    · exact hstands.skips r hold
    · exact mem_of_mem_take (mem_of_mem_drop (mem_of_mem_filter himplicit))
    -- the claimed strategy itself, when it is the one that does not apply
    · split at hskipped
      · obtain rfl : r = ctx.input.action := by simpa using hskipped
        exact h.permitted
      · simp at hskipped
  · intro r hr
    rw [hclass]
    -- the claim adds one key, that of its own action
    by_cases haction : r = ctx.input.action
    · rw [haction]
      exact h.permitted
    · apply keysAllowed_iff.1 hstands.keys r
      rw [hclaimed.counts] at hr
      split at hr
      · simpa [StrategyCounts.charge, haction] using hr
      · exact hr
  · rw [hclass]
    exact hkept.trans hreach
  · intro r hr
    rw [hclass] at hr ⊢
    have hacc := hstands.accounted rt policy ctx time notBefore
      (take_subset_take_left _ hkept hr)
    simp only [isAccountedFor, Bool.or_eq_true, decide_eq_true_eq] at hacc ⊢
    exact hacc.imp (hskips r).2 id

lemma Under.rowsAccepted_row (h : ctx.Under rt eff)
    (hstands : ctx.Stands rt policy time) (htime : isIsoTimestamp rt time = true)
    (hnotBefore : isIsoTimestamp rt notBefore = true) :
    RowsAccepted rt eff (ctx.attempts ++ [ctx.keptRow rt policy time notBefore]) := by
  apply h.rows.append
  -- alone, the row has no siblings to agree with
  · have hauth : isAuthoritativeEpisodeState rt eff (ctx.keptRow rt policy time notBefore) [] = true :=
      (isAuthoritativeEpisodeState_iff rt eff).2
        ⟨_, _, _, h.authoritative hstands (by simp) fun hne => absurd rfl hne⟩
    have heligible : (ctx.keptRow rt policy time notBefore).nextEligibleAt.any (isIsoTimestamp rt) = true := by
      have hrow : (ctx.keptRow rt policy time notBefore).nextEligibleAt =
          some (ctx.claimed rt time notBefore).nextEligibleAt := rfl
      rcases (ctx.claimed_claimed rt time notBefore).eligible with heq | heq
      · simpa [hrow, heq] using htime
      · simpa [hrow, heq] using hnotBefore
    have hitem : (ctx.keptRow rt policy time notBefore).itemId ≠ "" := hstands.itemId
    have htext : (ctx.keptRow rt policy time notBefore).time ≠ "" := by
      have hne : time ≠ "" := by
        rintro rfl
        simp [isIsoTimestamp] at htime
      exact hne
    have hnamed : (ctx.keptRow rt policy time notBefore).action.isSome = true := rfl
    simp [isLoopRecoveryAttemptShape, isCompleteEpisodeState, hitem, htext, hnamed, heligible, hauth]
  · refine ⟨_, _, _, h.authoritative hstands (fun row hrow => ?_) (fun _ _ => ?_)⟩
    · simpa using hrow
    · exact hstands.countsAgree rt policy ctx time notBefore

/-! ## The usual claim -/

end ClaimContext
end AgentPipeline.Loop
