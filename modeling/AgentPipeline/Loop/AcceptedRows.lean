import Mathlib.Data.List.Forall2
import AgentPipeline.Loop.Store

/-!
# AcceptedRows: which changes of the attempt rows the validator does not see

`RowsAccepted` is the part of the shape check that is about recovery attempts: every row is in
shape, and the newest row of every episode stands against all rows. Two kinds of change keep it:

* `RowsAccepted.refit`: rows are replaced one by one (`Refits`): their episode fields, their
  action and whether they are skipped stay, and the counters of an episode whose newest row is
  still compared stay as well;
* `RowsAccepted.append`: a row is appended that is in shape and stands against all rows.
-/

namespace AgentPipeline.Loop

open List
open JsText (nonBlank)

variable (rt : JsRuntime) (policy : RecoveryPolicy)

/-! ## The check as facts -/

structure RowsAccepted (rows : List LoopRecoveryAttempt) : Prop where
  shape : ∀ a ∈ rows, isLoopRecoveryAttemptShape rt policy a = true
  newest : ∀ eid latest, (episodeRows rows eid).getLast? = some latest →
    ∃ key cursor persisted, Authoritative rt policy latest rows key cursor persisted

variable {eid : String}

lemma mem_of_newest {rows : List LoopRecoveryAttempt}
    {latest : LoopRecoveryAttempt} (h : (episodeRows rows eid).getLast? = some latest) :
    latest ∈ rows ∧ latest.episodeId = some eid := by
  have hmem := mem_of_getLast? h
  simpa [episodeRows] using hmem

variable {a : LoopRecoveryAttempt}

lemma exists_newest {rows : List LoopRecoveryAttempt} (hmem : a ∈ rows) (hid : a.episodeId = some eid) :
    ∃ latest, (episodeRows rows eid).getLast? = some latest := by
  have hrow : a ∈ episodeRows rows eid := by simp [episodeRows, hmem, hid]
  exact ⟨_, getLast?_eq_some_getLast (ne_nil_of_mem hrow)⟩

lemma authoritative_of_shape (h : isLoopRecoveryAttemptShape rt policy a = true)
    (hcarries : attemptCarriesEpisodeState a = true) : a.nextEligibleAt.any (isIsoTimestamp rt) = true ∧
      ∃ key cursor persisted, Authoritative rt policy a [] key cursor persisted := by
  have hcomplete : isCompleteEpisodeState rt policy a = true := by
    simpa [isLoopRecoveryAttemptShape, hcarries, and_assoc] using
      (And.right (by simpa [isLoopRecoveryAttemptShape] using h) :
        attemptCarriesEpisodeState a = false ∨ _)
  simpa [isCompleteEpisodeState, isAuthoritativeEpisodeState_iff] using hcomplete

lemma carries_of_episodeId (h : a.episodeId ≠ none) : attemptCarriesEpisodeState a = true := by
  have hsome : a.episodeId.isSome = true := Option.isSome_iff_ne_none.2 h
  simp [attemptCarriesEpisodeState, hsome]

lemma episodeId_ne_empty (h : isLoopRecoveryAttemptShape rt policy a = true) : a.episodeId ≠ some "" := by
  intro hempty
  obtain ⟨_, key, cursor, persisted, hauth⟩ :=
    authoritative_of_shape rt policy h (carries_of_episodeId (by simp [hempty]))
  have hid := hauth.episodeId.symm.trans hempty
  -- the id is a digest, and no digest is blank
  have hblank := rt.nonBlank_sha256 ("\x00".intercalate
    ["pipeline-recovery-episode@1", key.operation, key.invariant, key.candidateEpoch, key.evidenceIdentity])
  simp only [recoveryEpisodeId, Option.some.injEq] at hid
  rw [hid] at hblank
  exact absurd hblank (by decide)

lemma rowsAccepted_iff {rows : List LoopRecoveryAttempt} : (rows.all (isLoopRecoveryAttemptShape rt policy) = true ∧
        ledgerEpisodesAreAuthoritative rt policy rows = true) ↔ RowsAccepted rt policy rows := by
  constructor
  · rintro ⟨hshape, hepisodes⟩
    have hshape : ∀ a ∈ rows, isLoopRecoveryAttemptShape rt policy a = true := by simpa using hshape
    refine ⟨hshape, fun eid latest hlatest => ?_⟩
    obtain ⟨hmem, hid⟩ := mem_of_newest hlatest
    -- the validator skips the empty id, which no row in shape has
    have hne : eid ≠ "" := by
      rintro rfl
      exact episodeId_ne_empty rt policy (hshape latest hmem) hid
    have hauth := all_eq_true.1 hepisodes latest hmem
    simpa [hid, hne, hlatest, isAuthoritativeEpisodeState_iff] using hauth
  · rintro ⟨hshape, hnewest⟩
    refine ⟨by simpa using hshape, all_eq_true.2 fun a hmem => ?_⟩
    cases hid : a.episodeId with
    | none => rfl
    | some eid =>
      obtain ⟨latest, hlatest⟩ := exists_newest hmem hid
      have hauth := hnewest eid latest hlatest
      simp [hlatest, isAuthoritativeEpisodeState_iff, hauth]

variable {ledger : LoopLedger}

lemma isLoopLedgerShape_iff {rt : JsRuntime} {policy : RecoveryPolicy} : isLoopLedgerShape rt policy ledger = true ↔
      ledger.runId ≠ "" ∧ RowsAccepted rt policy ledger.recoveryAttempts ∧
        ledger.cooling.all (isCoolingRecordShape rt) = true ∧
        ledger.itemCooling.values.all (isCoolingRecordShape rt) = true := by
  rw [← rowsAccepted_iff]
  simp only [isLoopLedgerShape, Bool.and_eq_true, decide_eq_true_eq, and_assoc]

lemma accepts_iff {rt : JsRuntime} {contract : LoopContract} : contract.accepts rt ledger = true ↔ ledger.runId ≠ "" ∧
        RowsAccepted rt (effectivePolicy contract.recoveryPolicy)
          (ledger.recoveryAttempts.map (normalizeAttempt rt contract.recoveryPolicy)) ∧
        ledger.cooling.all (isCoolingRecordShape rt) = true ∧
        ledger.itemCooling.values.all (isCoolingRecordShape rt) = true := isLoopLedgerShape_iff

/-! ## Replacing rows -/

/-- `b` may stand where `a` stood: the validator sees the same row, up to a retired claim. -/
structure Refits (a b : LoopRecoveryAttempt) : Prop where
  itemId : b.itemId = a.itemId
  time : b.time = a.time
  blockerClass : b.blockerClass = a.blockerClass
  episodeId : b.episodeId = a.episodeId
  operation : b.operation = a.operation
  invariant : b.invariant = a.invariant
  candidateEpoch : b.candidateEpoch = a.candidateEpoch
  evidenceIdentity : b.evidenceIdentity = a.evidenceIdentity
  attemptsPerStrategy : b.attemptsPerStrategy = a.attemptsPerStrategy
  strategyCursor : b.strategyCursor = a.strategyCursor
  skippedStrategies : b.skippedStrategies = a.skippedStrategies
  actions : b.actions = a.actions
  /-- An action may be filled in only on a row without episode state. -/
  action : b.action = a.action ∨ (a.episodeId = none ∧ a.action = none)
  eligible : b.nextEligibleAt = a.nextEligibleAt ∨
    (a.episodeId ≠ none ∧ b.nextEligibleAt.any (isIsoTimestamp rt) = true)
  skipped : b.outcome = .skipped ↔ a.outcome = .skipped
  superseded : a.outcome = .superseded → b.outcome = .superseded

lemma Refits.refl (a : LoopRecoveryAttempt) : Refits rt a a where
  itemId := rfl
  time := rfl
  blockerClass := rfl
  episodeId := rfl
  operation := rfl
  invariant := rfl
  candidateEpoch := rfl
  evidenceIdentity := rfl
  attemptsPerStrategy := rfl
  strategyCursor := rfl
  skippedStrategies := rfl
  actions := rfl
  action := .inl rfl
  eligible := .inl rfl
  skipped := Iff.rfl
  superseded := id

variable {rt policy} {b : LoopRecoveryAttempt}

lemma Refits.action_eq (h : Refits rt a b) (hid : a.episodeId ≠ none) : b.action = a.action := by
  rcases h.action with haction | ⟨hnone, _⟩
  · exact haction
  · exact absurd hnone hid

variable {key : RecoveryEpisodeKey} {cursor : Nat} {persisted : StrategyCounts}

lemma Authoritative.refit {rows rows' : List LoopRecoveryAttempt}
    (h : Authoritative rt policy a rows key cursor persisted) (hfit : Refits rt a b)
    (hskips : ∀ r, r ∈ skippedRecipes b rows' ↔ r ∈ skippedRecipes a rows) (hcounts : CountsAgree b rows' persisted) :
    Authoritative rt policy b rows' key cursor persisted := by
  have hid : a.episodeId ≠ none := by simp [h.episodeId]
  have haction := hfit.action_eq hid
  refine
    { operation := hfit.operation ▸ h.operation
      invariant := hfit.invariant ▸ h.invariant
      candidateEpoch := hfit.candidateEpoch ▸ h.candidateEpoch
      evidenceIdentity := hfit.evidenceIdentity ▸ h.evidenceIdentity
      nonBlank_operation := h.nonBlank_operation
      nonBlank_invariant := h.nonBlank_invariant
      episodeId := hfit.episodeId ▸ h.episodeId
      cursor_eq := hfit.strategyCursor ▸ h.cursor_eq
      persisted_eq := hfit.attemptsPerStrategy ▸ h.persisted_eq
      entry := hfit.blockerClass ▸ h.entry
      action := ?_, actions := ?_, skips_fit := ?_, skips_allowed := ?_, keys_allowed := ?_
      counts := hcounts, cursor_le := ?_, justified := ?_ }
  · rw [hfit.blockerClass, haction]
    exact h.action
  · rw [hfit.blockerClass, hfit.actions]
    exact h.actions
  · rw [hfit.skippedStrategies]
    exact h.skips_fit
  · intro r hr
    rw [hfit.blockerClass]
    exact h.skips_allowed r ((hskips r).1 hr)
  · rw [hfit.blockerClass]
    exact h.keys_allowed
  · rw [hfit.blockerClass]
    exact h.cursor_le
  · intro r hr
    rw [hfit.blockerClass] at hr ⊢
    have hjust := h.justified r hr
    simp only [isAccountedFor, Bool.or_eq_true, decide_eq_true_eq] at hjust ⊢
    exact hjust.imp (hskips r).2 fun hbound => hbound

lemma mem_skippedRecipes_nil (hid : a.episodeId ≠ none) {r : RecoveryRecipe} : r ∈ skippedRecipes a [] ↔
      r ∈ a.skippedStrategies.getD [] ∨ (a.outcome = .skipped ∧ a.action = some r) := by
  rw [mem_skippedRecipes hid]
  simp

lemma Refits.shape (hfit : Refits rt a b) (h : isLoopRecoveryAttemptShape rt policy a = true) :
    isLoopRecoveryAttemptShape rt policy b = true := by
  have hcarries : attemptCarriesEpisodeState b = true → attemptCarriesEpisodeState a = true := by
    intro hb
    by_cases hid : a.episodeId = none
    -- a wake time is stamped only where there is an episode
    · have heligible : b.nextEligibleAt = a.nextEligibleAt := by
        rcases hfit.eligible with heq | ⟨hno, _⟩
        · exact heq
        · exact absurd hid hno
      simpa [attemptCarriesEpisodeState, hfit.episodeId, hfit.operation, hfit.invariant,
        hfit.candidateEpoch, hfit.evidenceIdentity, hfit.attemptsPerStrategy, hfit.strategyCursor, heligible] using hb
    · exact carries_of_episodeId hid
  have hnamed : (a.action.isSome || a.actions.any (!·.isEmpty)) = true →
      (b.action.isSome || b.actions.any (!·.isEmpty)) = true := by
    intro hnamed
    rcases hfit.action with haction | ⟨_, hnone⟩
    · simpa [haction, hfit.actions] using hnamed
    · have hactions : a.actions.any (!·.isEmpty) = true := by simpa [hnone] using hnamed
      simp [hfit.actions, hactions]
  have hcomplete : attemptCarriesEpisodeState b = true → isCompleteEpisodeState rt policy b = true := by
    intro hb
    obtain ⟨heligible, key, cursor, persisted, hauth⟩ :=
      authoritative_of_shape rt policy h (hcarries hb)
    have hid : a.episodeId ≠ none := by simp [hauth.episodeId]
    -- without siblings only the row's own skip is read
    have hauth' : Authoritative rt policy b [] key cursor persisted := by
      apply hauth.refit hfit
      · intro r
        have hid' : b.episodeId ≠ none := by rwa [hfit.episodeId]
        rw [mem_skippedRecipes_nil hid', mem_skippedRecipes_nil hid, hfit.skippedStrategies,
          hfit.skipped, hfit.action_eq hid]
      · exact fun hne _ => absurd rfl hne
    have heligible' : b.nextEligibleAt.any (isIsoTimestamp rt) = true := by
      rcases hfit.eligible with heq | ⟨_, hiso⟩
      · rwa [heq]
      · exact hiso
    simp only [isCompleteEpisodeState, heligible', Bool.true_and]
    exact (isAuthoritativeEpisodeState_iff rt policy).2 ⟨key, cursor, persisted, hauth'⟩
  simp only [isLoopRecoveryAttemptShape, Bool.and_eq_true, decide_eq_true_eq, Bool.or_eq_true, Bool.not_eq_true'] at h ⊢
  refine ⟨⟨⟨?_, ?_⟩, ?_⟩, ?_⟩
  · rw [hfit.itemId]
    exact h.1.1.1
  · rw [hfit.time]
    exact h.1.1.2
  · simpa using hnamed (by simpa using h.1.2)
  · cases hb : attemptCarriesEpisodeState b with
    | false => exact .inl rfl
    | true => exact .inr (hcomplete hb)

/-! ## Replacing rows one by one -/

variable {α β : Type} {R : α → β → Prop}

lemma forall₂_getLast? {l : List α} {l' : List β}
    (h : List.Forall₂ R l l') {b : β} (hb : l'.getLast? = some b) : ∃ a, l.getLast? = some a ∧ R a b := by
  -- from the end, the last entries are heads that are related
  rw [getLast?_eq_head?_reverse] at hb
  have hrev := List.forall₂_reverse_iff.2 h
  cases hrev' : l'.reverse with
  | nil => simp [hrev'] at hb
  | cons c rest =>
    rw [hrev'] at hrev hb
    obtain ⟨a, rest₀, hR, _, hl⟩ := List.forall₂_cons_right_iff.1 hrev
    obtain rfl : c = b := by simpa using hb
    exact ⟨a, by rw [getLast?_eq_head?_reverse, hl]; rfl, hR⟩

lemma forall₂_mem_right {l : List α} {l' : List β}
    (h : List.Forall₂ R l l') {b : β} (hb : b ∈ l') : ∃ a ∈ l, R a b := by
  induction h with
  | nil => simp at hb
  | cons hR _ ih =>
    rcases mem_cons.1 hb with rfl | hb
    · exact ⟨_, by simp, hR⟩
    · obtain ⟨a, ha, haR⟩ := ih hb
      exact ⟨a, by simp [ha], haR⟩

lemma forall₂_mem_left {l : List α} {l' : List β} (h : List.Forall₂ R l l') {a : α} (ha : a ∈ l) : ∃ b ∈ l', R a b := by
  obtain ⟨b, hb, hR⟩ := forall₂_mem_right h.flip ha
  exact ⟨b, hb, hR⟩

variable {rows rows' : List LoopRecoveryAttempt}

lemma Refits.episodeRows (h : List.Forall₂ (Refits rt) rows rows') (eid : String) :
    List.Forall₂ (Refits rt) (episodeRows rows eid) (Loop.episodeRows rows' eid) := by
  refine rel_filter (fun a b hfit => ?_) h
  simp [hfit.episodeId]

lemma mem_skippedRecipes_refit (h : List.Forall₂ (Refits rt) rows rows') (ha : a ∈ rows) (hb : b ∈ rows')
    (hfit : Refits rt a b) (hid : a.episodeId ≠ none) (r : RecoveryRecipe) :
    r ∈ skippedRecipes b rows' ↔ r ∈ skippedRecipes a rows := by
  have hid' : b.episodeId ≠ none := by rwa [hfit.episodeId]
  have hrows : rows.isEmpty = false := by simpa using ne_nil_of_mem ha
  have hrows' : rows'.isEmpty = false := by simpa using ne_nil_of_mem hb
  rw [mem_skippedRecipes hid, mem_skippedRecipes hid']
  simp only [hrows, hrows', Bool.false_eq_true, if_false, hfit.skippedStrategies, hfit.episodeId]
  apply or_congr Iff.rfl
  constructor
  · rintro ⟨row', hmem', heid', hskip', haction'⟩
    obtain ⟨row, hmem, hrow⟩ := forall₂_mem_right h hmem'
    have heid : row.episodeId = a.episodeId := hrow.episodeId.symm.trans heid'
    exact ⟨row, hmem, heid, hrow.skipped.1 hskip', (hrow.action_eq (by rwa [heid])).symm.trans haction'⟩
  · rintro ⟨row, hmem, heid, hskip, haction⟩
    obtain ⟨row', hmem', hrow⟩ := forall₂_mem_left h hmem
    exact ⟨row', hmem', hrow.episodeId.trans heid, hrow.skipped.2 hskip,
      (hrow.action_eq (by rwa [heid])).trans haction⟩

lemma RowsAccepted.refit (h : RowsAccepted rt policy rows) (hfits : List.Forall₂ (Refits rt) rows rows')
    (hcounts : ∀ eid latest, (Loop.episodeRows rows' eid).getLast? = some latest → latest.outcome ≠ .superseded →
        derivedAttemptCounts (some eid) rows' = derivedAttemptCounts (some eid) rows) :
    RowsAccepted rt policy rows' := by
  refine ⟨fun b hb => ?_, fun eid latest' hlatest' => ?_⟩
  · obtain ⟨a, ha, hfit⟩ := forall₂_mem_right hfits hb
    exact hfit.shape (h.shape a ha)
  · obtain ⟨latest, hlatest, hfit⟩ := forall₂_getLast? (Refits.episodeRows hfits eid) hlatest'
    obtain ⟨hmem, hid⟩ := mem_of_newest hlatest
    obtain ⟨hmem', hid'⟩ := mem_of_newest hlatest'
    obtain ⟨key, cursor, persisted, hauth⟩ := h.newest eid latest hlatest
    refine ⟨key, cursor, persisted, hauth.refit hfit ?_ ?_⟩
    · exact mem_skippedRecipes_refit hfits hmem hmem' hfit (by simp [hid])
    · -- a newest row that is still compared was compared before
      intro _ hlive
      have hlive₀ : latest.outcome ≠ .superseded := fun hno => hlive (hfit.superseded hno)
      have hagree := hauth.counts (ne_nil_of_mem hmem) hlive₀
      rw [hid] at hagree
      rw [hid', hcounts eid latest' hlatest' hlive]
      exact hagree

lemma derivedAttemptCounts_refit (h : List.Forall₂ (Refits rt) rows rows')
    (hlive : List.Forall₂ (fun a b : LoopRecoveryAttempt =>
      b.outcome = .superseded → a.outcome = .superseded) rows rows') (eid : String) :
    derivedAttemptCounts (some eid) rows' = derivedAttemptCounts (some eid) rows := by
  funext r
  unfold derivedAttemptCounts
  induction h with
  | nil => rfl
  | @cons a b _ _ hfit _ ih =>
    obtain ⟨hkeep, hrest⟩ := List.forall₂_cons.1 hlive
    rw [countP_cons, countP_cons, ih hrest]
    congr 1
    -- a row is charged before exactly when it is charged after
    have hsuperseded := Iff.intro hkeep hfit.superseded
    by_cases hid : a.episodeId = some eid
    · have haction := hfit.action_eq (by simp [hid])
      simp [isChargedFor, hfit.episodeId, haction, hfit.skipped, hsuperseded]
    · simp [hfit.episodeId, hid]

/-! ## Appending a row -/

lemma Authoritative.append (h : Authoritative rt policy a rows key cursor persisted)
    (ha : a ∈ rows) (hother : b.episodeId ≠ a.episodeId) :
    Authoritative rt policy a (rows ++ [b]) key cursor persisted := by
  have hid : a.episodeId ≠ none := by simp [h.episodeId]
  have hrows : rows.isEmpty = false := by simpa using ne_nil_of_mem ha
  apply h.refit (Refits.refl rt a)
  · intro r
    rw [mem_skippedRecipes hid, mem_skippedRecipes hid]
    simp [hrows, hother, or_and_right, exists_or]
  · intro _ hlive
    rw [h.counts (ne_nil_of_mem ha) hlive]
    funext r
    simp [derivedAttemptCounts, hother]

lemma RowsAccepted.append (h : RowsAccepted rt policy rows) (hshape : isLoopRecoveryAttemptShape rt policy b = true)
    (hnewest : ∃ key cursor persisted, Authoritative rt policy b (rows ++ [b]) key cursor persisted) :
    RowsAccepted rt policy (rows ++ [b]) := by
  refine ⟨fun a ha => ?_, fun eid latest hlatest => ?_⟩
  · rcases mem_append.1 ha with ha | ha
    · exact h.shape a ha
    · obtain rfl : a = b := by simpa using ha
      exact hshape
  · by_cases hid : b.episodeId = some eid
    · -- the appended row is the newest of its episode
      obtain rfl : b = latest := by simpa [episodeRows, hid] using hlatest
      exact hnewest
    -- another episode keeps its newest row, and the new one does not count for it
    · have hlatest₀ : (episodeRows rows eid).getLast? = some latest := by
        simpa [episodeRows, hid] using hlatest
      obtain ⟨hmem, hid'⟩ := mem_of_newest hlatest₀
      obtain ⟨key, cursor, persisted, hauth⟩ := h.newest eid latest hlatest₀
      exact ⟨key, cursor, persisted, hauth.append hmem (by rwa [hid'])⟩

end AgentPipeline.Loop
