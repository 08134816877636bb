import AgentPipeline.Foundation.Transition
import AgentPipeline.Loop.ClaimRow

/-!
# RecoveryClosure: whether the writer's ledgers pass the validator

Writer and validator of recovery attempts are two formulations of one state machine. This file
compares them operation by operation on an accepted ledger: the upgrade, a completion and a
cooling replace rows in a way the validator does not see; a retired claim is not compared as long
as it is the newest row of its episode; and a new claim appends a row that stands exactly when the
episode it continues stands (`StartSafe`).

`recovery_runs_accepted` puts the steps together: over every run whose steps are safe, every
published ledger passes and nothing is quarantined.
-/

namespace AgentPipeline.Loop

open List
open Transition (Run)

section Ledger

variable (rt : JsRuntime)

/-! ## Normal rows and their upgrade -/

/-- A row that compatibility normalization leaves alone. -/
def NormalRow (policy : RecoveryPolicy) (a : LoopRecoveryAttempt) : Prop :=
  normalizeAttempt rt policy a = a

/-- A row of an episode names its action. -/
def NamedRow (a : LoopRecoveryAttempt) : Prop :=
  a.episodeId ≠ none → a.action ≠ none

variable {a : LoopRecoveryAttempt}

lemma NormalRow.started {policy : RecoveryPolicy}
    (h : NormalRow rt policy a) : normalizeStartedRecoveryEpisodeIdentity rt a = a := by
  by_cases hid : a.episodeId = none
  · rcases normalizeStarted_cases rt a with heq | ⟨evidence, id, heq⟩
    · exact heq
    · -- the id that was added would still be there
      have hsome : (normalizeAttempt rt policy a).episodeId = some id := by
        unfold normalizeAttempt rebaseCursor
        rw [heq]
        split <;> rfl
      rw [h, hid] at hsome
      simp at hsome
  · exact normalizeStarted_of_episodeId rt hid

lemma NormalRow.cursor {policy : RecoveryPolicy} (h : NormalRow rt policy a) : rebaseCursor policy a = a := by
  have hnormal := h
  unfold NormalRow normalizeAttempt at hnormal
  rwa [h.started] at hnormal

lemma NormalRow.congr {policy : RecoveryPolicy} {b : LoopRecoveryAttempt}
    (h : NormalRow rt policy a) (hstarted : normalizeStartedRecoveryEpisodeIdentity rt b = b)
    (hclass : b.blockerClass = a.blockerClass) (hinvariant : b.invariant = a.invariant)
    (hcursor : b.strategyCursor = a.strategyCursor) : NormalRow rt policy b := by
  have hengine : isWorkflowEngineRow b ↔ isWorkflowEngineRow a := by
    simp [isWorkflowEngineRow, hclass, hinvariant]
  have ha := h.cursor
  unfold NormalRow normalizeAttempt
  rw [hstarted]
  unfold rebaseCursor at ha ⊢
  split
  · next hb =>
    rw [if_pos ⟨hb.1, hengine.1 hb.2.1, hcursor ▸ hb.2.2⟩] at ha
    -- a normal row whose cursor would be rebased has the rebased cursor already
    have hthree : b.strategyCursor = some 3 := by rw [hcursor, ← ha]
    rw [← hthree]
  · rfl

lemma NormalRow.fill {policy : RecoveryPolicy} (h : NormalRow rt policy a) (attemptId candidateIdentity : Option String)
    (action : Option RecoveryRecipe) (budgetRemaining : Option ℚ) :
    NormalRow rt policy { a with attemptId, candidateIdentity, action, budgetRemaining } ∧
      normalizeStartedRecoveryEpisodeIdentity rt { a with attemptId, candidateIdentity, action, budgetRemaining } =
        { a with attemptId, candidateIdentity, action, budgetRemaining } := by
  have hstarted : normalizeStartedRecoveryEpisodeIdentity rt
      { a with attemptId, candidateIdentity, action, budgetRemaining } =
      { normalizeStartedRecoveryEpisodeIdentity rt a with attemptId, candidateIdentity, action, budgetRemaining } := by
    unfold normalizeStartedRecoveryEpisodeIdentity
    dsimp only
    split
    · split <;> rfl
    · rfl
  rw [h.started] at hstarted
  exact ⟨h.congr rt hstarted rfl rfl rfl, hstarted⟩

lemma upgradeAttempt_of_normal {policy : RecoveryPolicy}
    (h : NormalRow rt policy a) :
    ∃ attemptId candidateIdentity fallback budgetRemaining, upgradeAttempt rt a =
        { a with
          attemptId, candidateIdentity, action := a.action <|> fallback, budgetRemaining } := by
  unfold upgradeAttempt
  split
  · refine ⟨a.attemptId, a.candidateIdentity, none, a.budgetRemaining, ?_⟩
    rw [h.started]
    simp
  · split
    · next hnone =>
      refine ⟨a.attemptId, a.candidateIdentity, none, a.budgetRemaining, ?_⟩
      simp
    · next action haction =>
      refine ⟨some (a.attemptId.getD (recoveryAttemptId rt a.itemId
          (a.candidateIdentity.getD ("legacy:" ++ toString a.seq)) a.evidenceFingerprint action)),
        some (a.candidateIdentity.getD ("legacy:" ++ toString a.seq)),
        a.actions.bind List.head?, some (a.budgetRemaining.getD 0), ?_⟩
      rw [haction]
      exact (h.fill rt _ _ _ _).2

lemma refits_upgrade {policy : RecoveryPolicy} (h : NormalRow rt policy a) (hnamed : NamedRow a) :
    Refits rt a (upgradeAttempt rt a) ∧ NormalRow rt policy (upgradeAttempt rt a) ∧
      NamedRow (upgradeAttempt rt a) ∧ (upgradeAttempt rt a).outcome = a.outcome := by
  obtain ⟨attemptId, candidateIdentity, fallback, budgetRemaining, heq⟩ :=
    upgradeAttempt_of_normal rt h
  rw [heq]
  refine ⟨?_, (h.fill rt _ _ _ _).1, ?_, rfl⟩
  · refine { Refits.refl rt a with action := ?_ }
    cases haction : a.action with
    | some action => exact .inl (by simp)
    | none =>
      -- an action is filled in only where no episode is named
      have hid : a.episodeId = none := by
        by_contra hid
        exact hnamed hid haction
      exact .inr ⟨hid, rfl⟩
  · intro hid
    have haction := hnamed hid
    cases ha : a.action with
    | some action => simp
    | none => exact absurd ha haction

/-! ## The rows that an operation sees -/

variable (policy : RecoveryPolicy)

/-- Rows in good order: accepted, normal and named. -/
structure GoodRows (rows : List LoopRecoveryAttempt) : Prop where
  accepted : RowsAccepted rt (effectivePolicy policy) rows
  normal : ∀ a ∈ rows, NormalRow rt policy a
  named : ∀ a ∈ rows, NamedRow a

variable {rt policy} {rows : List LoopRecoveryAttempt}

lemma GoodRows.upgrade (h : GoodRows rt policy rows) : GoodRows rt policy (rows.map (upgradeAttempt rt)) := by
  have hrow : ∀ a ∈ rows, _ := fun a ha => refits_upgrade rt (h.normal a ha) (h.named a ha)
  have hfits : List.Forall₂ (Refits rt) rows (rows.map (upgradeAttempt rt)) :=
    List.forall₂_map_right_iff.2 (List.forall₂_same.2 fun a ha => (hrow a ha).1)
  refine ⟨h.accepted.refit hfits fun eid _ _ _ => ?_, fun b hb => ?_, fun b hb => ?_⟩
  · apply derivedAttemptCounts_refit hfits
    refine List.forall₂_map_right_iff.2 (List.forall₂_same.2 fun a ha => ?_)
    rw [(hrow a ha).2.2.2]
    exact id
  · obtain ⟨a, ha, rfl⟩ := mem_map.1 hb
    exact (hrow a ha).2.1
  · obtain ⟨a, ha, rfl⟩ := mem_map.1 hb
    exact (hrow a ha).2.2.1

lemma map_normalize_of_normal
    (h : ∀ a ∈ rows, NormalRow rt policy a) : rows.map (normalizeAttempt rt policy) = rows := by
  calc
    rows.map (normalizeAttempt rt policy) = rows.map id := map_congr_left h
    _ = rows := map_id rows

/-! ## Directories in good order -/

variable (rt)

/-- The published ledger passes, and its rows are named. -/
structure InOrder (d : RunDir) : Prop where
  accepts : d.contract.accepts rt d.ledger = true
  named : ∀ a ∈ (d.contract.normalize rt d.ledger).recoveryAttempts, NamedRow a

/-- The ledger that an operation works on. -/
def seenLedger (d : RunDir) : LoopLedger :=
  upgradeLedgerForRecovery rt (d.contract.normalize rt d.ledger)

variable {rt}

lemma InOrder.goodRows {d : RunDir} (h : InOrder rt d) :
    GoodRows rt d.contract.recoveryPolicy (seenLedger rt d).recoveryAttempts := by
  have hrows : GoodRows rt d.contract.recoveryPolicy (d.contract.normalize rt d.ledger).recoveryAttempts := by
    refine ⟨(accepts_iff.1 h.accepts).2.1, fun a ha => ?_, h.named⟩
    obtain ⟨b, _, rfl⟩ := mem_map.1 ha
    exact normalizeAttempt_idem rt _ b
  exact hrows.upgrade

/-- What an operation may write on a directory in good order: the same run with good rows and
cooling records in shape. -/
structure GoodWrite (rt : JsRuntime) (d : RunDir) (next : LoopLedger) : Prop where
  runId : next.runId = d.ledger.runId
  rows : ∃ rows, GoodRows rt d.contract.recoveryPolicy rows ∧
    next.recoveryAttempts.map (normalizeAttempt rt d.contract.recoveryPolicy) = rows
  cooling : next.cooling.all (isCoolingRecordShape rt) = true
  itemCooling : next.itemCooling.values.all (isCoolingRecordShape rt) = true

variable {next : LoopLedger}

lemma InOrder.goodWrite {d : RunDir} (h : InOrder rt d) (hrun : next.runId = d.ledger.runId)
    (hcooling : next.cooling = d.ledger.cooling) (hitemCooling : next.itemCooling = d.ledger.itemCooling)
    (hgood : GoodRows rt d.contract.recoveryPolicy rows)
    (hrows : next.recoveryAttempts.map (normalizeAttempt rt d.contract.recoveryPolicy) = rows) :
    GoodWrite rt d next := by
  obtain ⟨_, _, hc, hi⟩ := accepts_iff.1 h.accepts
  exact ⟨hrun, ⟨rows, hgood, hrows⟩, by rwa [hcooling], by rwa [hitemCooling]⟩

lemma GoodWrite.inOrder {d d' : RunDir} (h : InOrder rt d)
    (hnext : GoodWrite rt d next) (hcontract : d'.contract = d.contract)
    (hledger : d'.ledger = d.contract.normalize rt next) : InOrder rt d' := by
  obtain ⟨rows, hgood, hrows⟩ := hnext.rows
  have hacc : d.contract.accepts rt next = true := by
    refine accepts_iff.2 ⟨?_, hrows ▸ hgood.accepted, hnext.cooling, hnext.itemCooling⟩
    rw [hnext.runId]
    exact (accepts_iff.1 h.accepts).1
  refine ⟨?_, ?_⟩
  · rw [hcontract, hledger, accepts_normalize, hacc]
  · rw [hcontract, hledger, normalize_normalize]
    intro a ha
    exact hgood.named a (hrows ▸ ha)

variable {α : Type}

lemma InOrder.transact_cases {d : RunDir} (h : InOrder rt d) (now : Instant)
    (readToken : Option String) (token : String) (decide : LoopLedger → Except LoopError (α × Option LoopLedger)) :
    (Loop.transact rt now readToken token decide d).2 = d ∨
      ∃ a next, decide (d.contract.normalize rt d.ledger) = .ok (a, some next) ∧
        (Loop.transact rt now readToken token decide d).1 = .ok a ∧
        (Loop.transact rt now readToken token decide d).2.ledger = d.contract.normalize rt next ∧
        (Loop.transact rt now readToken token decide d).2.quarantined = d.quarantined ∧
        (d.contract.accepts rt next = false → (Loop.transact rt now readToken token decide d).2.lastValid =
            some (d.contract.normalize rt d.ledger)) := by
  unfold Loop.transact
  rw [readLedger_of_accepts rt now h.accepts]
  dsimp only
  split
  · exact .inl rfl
  · exact .inl rfl
  · next a next hnext =>
    -- a refused write leaves the directory alone
    unfold writeLedger
    dsimp only
    split
    · next hwrite =>
      split at hwrite
      · exact .inl (Prod.ext_iff.1 hwrite).2.symm
      · split at hwrite
        · exact .inl (Prod.ext_iff.1 hwrite).2.symm
        · simp at hwrite
    · next hwrite =>
      split at hwrite
      · simp at hwrite
      · split at hwrite
        · simp at hwrite
        · obtain rfl := (Prod.ext_iff.1 hwrite).2
          -- the ledger that is written over passes, so it becomes the last valid one
          exact .inr ⟨a, next, hnext, rfl, rfl, rfl, fun hrejected => by
            simp [hrejected, h.accepts]⟩

variable {token : String}

lemma InOrder.transact {now : Instant} {readToken : Option String}
    {decide : LoopLedger → Except LoopError (α × Option LoopLedger)} {d : RunDir} (h : InOrder rt d)
    (hdecide : ∀ a next, decide (d.contract.normalize rt d.ledger) = .ok (a, some next) → GoodWrite rt d next) :
    InOrder rt (Loop.transact rt now readToken token decide d).2 ∧
      (Loop.transact rt now readToken token decide d).2.quarantined = d.quarantined := by
  have hsame := sameRun_transact rt now readToken token decide d
  obtain hsame' | ⟨a, next, hnext, _, hledger, hquarantined, _⟩ :=
    h.transact_cases now readToken token decide
  · rw [hsame']
    exact ⟨h, rfl⟩
  · exact ⟨(hdecide a next hnext).inOrder h hsame.contract hledger, hquarantined⟩

/-! ## The operations -/

variable {contract : LoopContract}

lemma upgradeContract_of_compiled {compiled : RecoveryPolicy}
    (h : compileRecoveryPolicy contract.recoveryPolicy = .ok compiled) : upgradeContractForRecovery contract =
      .ok { contract with recoveryPolicy := effectivePolicy contract.recoveryPolicy } := by
  simp [upgradeContractForRecovery, compileRecoveryPolicy_normalize h, effectivePolicy_of_compiled h]

lemma isRecoveryPolicyEntry_of_compiled {policy compiled : RecoveryPolicy}
    (h : compileRecoveryPolicy policy = .ok compiled) (cls : DurableBlockerClass) :
    isRecoveryPolicyEntry cls (effectivePolicy policy cls) = true := by
  have hfault : compileEntryFault cls (effectivePolicy policy cls) = none := by
    rw [effectivePolicy_of_compiled h]
    exact (compileRecoveryPolicy_eq_ok.1 (compileRecoveryPolicy_normalize h)).2 cls
  unfold compileEntryFault at hfault
  split at hfault
  · simp at hfault
  · next hbudget =>
    split at hfault
    · simp at hfault
    · next hbound =>
      split at hfault
      · simp at hfault
      · next hlimit =>
        split at hfault
        · simp at hfault
        · next hauthority =>
          have hnonneg : (effectivePolicy policy cls).perStrategyBound.any (· < 0) = false := by
            cases hb : (effectivePolicy policy cls).perStrategyBound with
            | none => rfl
            | some b =>
              simp only [hb, Option.any_some, Bool.or_eq_true, not_or] at hbound
              simpa using hbound.2
          -- the compiler and the validator ask the same of a human-authority class
          by_cases hhuman : isHumanAuthorityClass cls = true
          · simpa [isRecoveryPolicyEntry, hnonneg, not_lt.1 hbudget, not_lt.1 hlimit, hhuman] using hauthority
          · simp [isRecoveryPolicyEntry, hnonneg, not_lt.1 hbudget, not_lt.1 hlimit, hhuman]

lemma InOrder.goodWrite_seen {d : RunDir} (h : InOrder rt d)
    (hrun : next.runId = d.ledger.runId) (hcooling : next.cooling = d.ledger.cooling)
    (hitemCooling : next.itemCooling = d.ledger.itemCooling)
    (hrows : next.recoveryAttempts = (seenLedger rt d).recoveryAttempts) : GoodWrite rt d next := by
  refine h.goodWrite hrun hcooling hitemCooling h.goodRows ?_
  rw [hrows, map_normalize_of_normal h.goodRows.normal]

/-- The claim that a start decides on, when it does not refuse. -/
def claimOf (rt : JsRuntime) (d : RunDir) (input : StartRecoveryAttemptInput) :
    Except LoopError ClaimContext :=
  claimContext { d.contract with recoveryPolicy := effectivePolicy d.contract.recoveryPolicy }
    input (seenLedger rt d)

/-- The attempt of a claim is on record. -/
def ClaimContext.Replays (rt : JsRuntime) (ctx : ClaimContext) : Prop :=
  ctx.attempts.any (fun a => a.attemptId = some (ctx.attemptId rt)) = true

instance (ctx : ClaimContext) : Decidable (ctx.Replays rt) := inferInstanceAs (Decidable (_ = _))

variable {result : LoopLedger × LoopRecoveryAttempt}

section Start

variable {now : Instant} {input : StartRecoveryAttemptInput} {d : RunDir} {compiled : RecoveryPolicy}

variable {ctx : ClaimContext}

lemma InOrder.under (h : InOrder rt d)
    (hcompiled : compileRecoveryPolicy d.contract.recoveryPolicy = .ok compiled) (hctx : claimOf rt d input = .ok ctx) :
    ctx.Under rt (effectivePolicy d.contract.recoveryPolicy) := by
  have hfacts := claimContext_eq_ok hctx
  refine ⟨?_, hfacts.entry_eq, ?_, ?_⟩
  · rw [hfacts.attempts_eq]
    exact h.goodRows.accepted
  · rw [hfacts.entry_eq]
    exact isRecoveryPolicyEntry_of_compiled hcompiled ctx.cls
  · rw [hfacts.input_eq]
    exact hfacts.permitted

lemma InOrder.start_writes (h : InOrder rt d) (hdecide : decideStart rt now
      { d.contract with recoveryPolicy := effectivePolicy d.contract.recoveryPolicy } input
      (seenLedger rt d) = .ok (result, some next)) :
    (GoodWrite rt d next ∧ next.recoveryAttempts = (seenLedger rt d).recoveryAttempts ∧
        next.items = (seenLedger rt d).items) ∨
    ∃ ctx eligible, claimOf rt d input = .ok ctx ∧ ¬ctx.Replays rt ∧
      result.2 = ctx.row rt (rt.toISOString now) (rt.toISOString eligible) ∧
      next.runId = d.ledger.runId ∧ next.cooling = d.ledger.cooling ∧
      next.itemCooling = d.ledger.itemCooling ∧
      next.recoveryAttempts = (seenLedger rt d).recoveryAttempts ++
        [ctx.row rt (rt.toISOString now) (rt.toISOString eligible)] := by
  obtain ⟨ctx, hctx, ⟨_, hadmit⟩ | ⟨hfind, eligible, hrow, hafter, hwrite⟩⟩ :=
    decideStart_eq_ok rt now hdecide
  · have hnext := admitOnly_eq_some hadmit
    subst hnext
    exact .inl ⟨h.goodWrite_seen rfl rfl rfl rfl, rfl, rfl⟩
  · obtain rfl : next = result.1 := Option.some.inj hwrite
    refine .inr ⟨ctx, eligible, hctx, ?_, hrow, ?_⟩
    · have hnone := find?_eq_none.1 hfind
      rw [ClaimContext.Replays, (claimContext_eq_ok hctx).attempts_eq]
      simpa using hnone
    · rw [hafter]
      exact ⟨rfl, rfl, rfl, rfl⟩

lemma InOrder.start_good (h : InOrder rt d)
    (hcompiled : compileRecoveryPolicy d.contract.recoveryPolicy = .ok compiled) (hctx : claimOf rt d input = .ok ctx)
    (hstands : ctx.Stands rt d.contract.recoveryPolicy (rt.toISOString now)) (eligible : Instant) :
    GoodRows rt d.contract.recoveryPolicy ((seenLedger rt d).recoveryAttempts ++
      [ctx.keptRow rt d.contract.recoveryPolicy (rt.toISOString now) (rt.toISOString eligible)]) := by
  have hrows := (h.under hcompiled hctx).rowsAccepted_row hstands
    (isIsoTimestamp_toISOString rt now) (isIsoTimestamp_toISOString rt eligible)
  rw [(claimContext_eq_ok hctx).attempts_eq] at hrows
  refine ⟨hrows, fun a ha => ?_, fun a ha => ?_⟩
  · rcases mem_append.1 ha with hold | hnew
    · exact h.goodRows.normal a hold
    · obtain rfl := mem_singleton.1 hnew
      rw [← ClaimContext.normalizeAttempt_row]
      exact normalizeAttempt_idem rt _ _
  · rcases mem_append.1 ha with hold | hnew
    · exact h.goodRows.named a hold
    · obtain rfl := mem_singleton.1 hnew
      exact fun _ => by simp [ClaimContext.keptRow, ClaimContext.row, attachEpisodeFields]

lemma InOrder.start (h : InOrder rt d) (hcompiled : compileRecoveryPolicy d.contract.recoveryPolicy = .ok compiled)
    (hsafe : ∀ ctx, claimOf rt d input = .ok ctx → ¬ctx.Replays rt →
      ctx.Stands rt d.contract.recoveryPolicy (rt.toISOString now)) :
    InOrder rt (startRecoveryAttempt rt now d.contract input d).2 ∧
      (startRecoveryAttempt rt now d.contract input d).2.quarantined = d.quarantined := by
  unfold startRecoveryAttempt
  rw [upgradeContract_of_compiled hcompiled]
  refine h.transact fun result next hdecide => ?_
  rcases h.start_writes hdecide with ⟨hgood, _⟩ | ⟨ctx, eligible, hctx, hnew, _, hrun, hcooling, hitemCooling, hrows⟩
  · exact hgood
  · have hgood := h.start_good hcompiled hctx (hsafe ctx hctx hnew) eligible
    refine h.goodWrite hrun hcooling hitemCooling hgood ?_
    rw [hrows, map_append, map_normalize_of_normal h.goodRows.normal, map_singleton, ClaimContext.normalizeAttempt_row]

end Start

section Settle

variable {now : Instant} {d : RunDir}

lemma forall₂_modify {R : α → α → Prop} (hrefl : ∀ a, R a a) {f : α → α}
    {l : List α} {i : Nat} (h : ∀ a, l[i]? = some a → R a (f a)) : List.Forall₂ R l (l.modify i f) := by
  induction l generalizing i with
  | nil => cases i <;> exact .nil
  | cons a l ih =>
    cases i with
    | zero => exact .cons (h a rfl) (List.forall₂_same.2 fun b _ => hrefl b)
    | succ i => exact .cons (hrefl a) (ih fun b hb => h b hb)

/-- `b` may stand where `a` stood, and its episode id is settled. -/
def Settles (rt : JsRuntime) (a b : LoopRecoveryAttempt) : Prop :=
  Refits rt a b ∧ (b = a ∨ normalizeStartedRecoveryEpisodeIdentity rt b = b)

lemma Settles.refl (a : LoopRecoveryAttempt) : Settles rt a a := ⟨Refits.refl rt a, .inl rfl⟩

lemma GoodRows.settle {policy : RecoveryPolicy} {rows' : List LoopRecoveryAttempt}
    (h : GoodRows rt policy rows) (hsettles : List.Forall₂ (Settles rt) rows rows')
    (hcounts : ∀ eid latest, (episodeRows rows' eid).getLast? = some latest → latest.outcome ≠ .superseded →
        derivedAttemptCounts (some eid) rows' = derivedAttemptCounts (some eid) rows) : GoodRows rt policy rows' := by
  have hfits : List.Forall₂ (Refits rt) rows rows' := hsettles.imp fun _ _ => And.left
  refine ⟨h.accepted.refit hfits hcounts, fun b hb => ?_, fun b hb => ?_⟩
  · obtain ⟨a, ha, hfit, hsettled⟩ := forall₂_mem_right hsettles hb
    rcases hsettled with rfl | hsettled
    · exact h.normal b ha
    · exact (h.normal a ha).congr rt hsettled hfit.blockerClass hfit.invariant hfit.strategyCursor
  · obtain ⟨a, ha, hfit⟩ := forall₂_mem_right hfits hb
    intro hid
    have hid' : a.episodeId ≠ none := hfit.episodeId ▸ hid
    rw [hfit.action_eq hid']
    exact h.named a ha hid'

lemma normalizeStarted_of_outcome (h : a.outcome ≠ .started) : normalizeStartedRecoveryEpisodeIdentity rt a = a := by
  unfold normalizeStartedRecoveryEpisodeIdentity
  dsimp only
  split
  · rw [if_neg fun hc => h hc.1]
  · rfl

variable {claim : LoopRecoveryAttempt}

lemma settles_completed (h : claim.outcome = .started) (input : CompleteRecoveryAttemptInput) (time : String) :
    Settles rt claim (completedAttempt input time claim) ∧
      (completedAttempt input time claim).outcome ≠ .superseded := by
  have hfit : Refits rt claim (completedAttempt input time claim) ∧
      (completedAttempt input time claim).outcome ≠ .started ∧
      (completedAttempt input time claim).outcome ≠ .superseded := by
    unfold completedAttempt
    dsimp only
    split
    · exact ⟨{ Refits.refl rt claim with skipped := by simp [h], superseded := by simp [h] }, by simp, by simp⟩
    · exact ⟨{ Refits.refl rt claim with skipped := by simp [h], superseded := by simp [h] }, by simp, by simp⟩
  exact ⟨⟨hfit.1, .inr (normalizeStarted_of_outcome hfit.2.1)⟩, hfit.2.2⟩

lemma GoodRows.complete {policy : RecoveryPolicy}
    (h : GoodRows rt policy rows) {p : LoopRecoveryAttempt → Bool}
    (hclaim : rows.find? p = some claim) (hstarted : claim.outcome = .started)
    (input : CompleteRecoveryAttemptInput) (time : String) :
    GoodRows rt policy
        (rows.modify (rows.findIdx p) fun _ => completedAttempt input time claim) ∧
      ∀ eid, derivedAttemptCounts (some eid)
          (rows.modify (rows.findIdx p) fun _ => completedAttempt input time claim) =
        derivedAttemptCounts (some eid) rows := by
  obtain ⟨hsettles, hlive⟩ : Settles rt claim (completedAttempt input time claim) ∧ _ :=
    settles_completed hstarted input time
  -- the row that is replaced is the one that was found
  have hentry : ∀ a, rows[rows.findIdx p]? = some a → a = claim := by
    intro a ha
    rw [← find?_eq_getElem?_findIdx, hclaim] at ha
    exact (Option.some.inj ha).symm
  have hrows : List.Forall₂ (Settles rt) rows
      (rows.modify (rows.findIdx p) fun _ => completedAttempt input time claim) :=
    forall₂_modify Settles.refl fun a ha => hentry a ha ▸ hsettles
  have hcounts := derivedAttemptCounts_refit (hrows.imp fun _ _ => And.left)
    (forall₂_modify (fun _ => id) fun _ _ hsuperseded => absurd hsuperseded hlive)
  exact ⟨h.settle hrows fun eid _ _ _ => hcounts eid, hcounts⟩

variable {input : CompleteRecoveryAttemptInput}

lemma InOrder.complete_writes
    (h : InOrder rt d)
    (hdecide : decideComplete rt now contract input (seenLedger rt d) = .ok (result, some next)) :
    GoodWrite rt d next ∧ (next.recoveryAttempts = (seenLedger rt d).recoveryAttempts ∨
        ∃ claim, (seenLedger rt d).recoveryAttempts.find?
            (fun a => decide (a.attemptId = some input.attemptId)) = some claim ∧
          claim.outcome = .started ∧
          next.recoveryAttempts = (seenLedger rt d).recoveryAttempts.modify
            ((seenLedger rt d).recoveryAttempts.findIdx
              fun a => decide (a.attemptId = some input.attemptId))
            fun _ => completedAttempt input (rt.toISOString now) claim) := by
  rcases decideComplete_eq_ok rt now hdecide with
    hadmit | ⟨claim, item, hclaim, hstarted, _, _, hattempt, hafter, hwrite⟩
  · have hnext := admitOnly_eq_some hadmit
    subst hnext
    exact ⟨h.goodWrite_seen rfl rfl rfl rfl, .inl rfl⟩
  · obtain rfl : next = result.1 := Option.some.inj hwrite
    have hrows := (h.goodRows.complete hclaim hstarted input (rt.toISOString now)).1
    rw [hafter, hattempt]
    exact ⟨h.goodWrite rfl rfl rfl hrows (map_normalize_of_normal hrows.normal), .inr ⟨claim, hclaim, hstarted, rfl⟩⟩

lemma InOrder.complete (h : InOrder rt d) : InOrder rt (completeRecoveryAttempt rt now d.contract input d).2 ∧
      (completeRecoveryAttempt rt now d.contract input d).2.quarantined = d.quarantined := by
  unfold completeRecoveryAttempt
  split
  · exact ⟨h, rfl⟩
  · exact h.transact fun result next hdecide => (h.complete_writes hdecide).1

/-! ### Retired claims -/

variable {ids : List (Option String)}

lemma settles_retired {time : String}
    (h : a.attemptId ∈ ids → a.outcome ≠ .skipped) : Settles rt a (retireAttempt ids time a) := by
  unfold retireAttempt
  split
  · next hid =>
    have hskipped := h hid
    refine ⟨{ Refits.refl rt a with
      skipped := by simp [hskipped], superseded := fun _ => rfl }, .inr ?_⟩
    exact normalizeStarted_of_outcome (by simp)
  · exact Settles.refl a

lemma GoodRows.retire {policy : RecoveryPolicy} (h : GoodRows rt policy rows) (hsafe : RetireSafe rows ids)
    (time : String) : GoodRows rt policy (rows.map (retireAttempt ids time)) := by
  have hsettles : List.Forall₂ (Settles rt) rows (rows.map (retireAttempt ids time)) :=
    List.forall₂_map_right_iff.2
      (List.forall₂_same.2 fun a ha => settles_retired fun hid => (hsafe a ha hid).1)
  refine h.settle hsettles fun eid latest' hlatest' hlive => ?_
  -- the newest row was not retired, so no row of the episode lost its charge
  obtain ⟨latest, hlatest, rfl⟩ : ∃ latest, (episodeRows rows eid).getLast? = some latest ∧
      retireAttempt ids time latest = latest' := by
    have hrows : episodeRows (rows.map (retireAttempt ids time)) eid =
        (episodeRows rows eid).map (retireAttempt ids time) := by
      unfold episodeRows
      rw [filter_map]
      congr 2
      funext a
      simp only [Function.comp_apply, retireAttempt]
      split <;> rfl
    rw [hrows, getLast?_map, Option.map_eq_some_iff] at hlatest'
    exact hlatest'
  have hkept : latest.attemptId ∉ ids ∧ latest.outcome ≠ .superseded := by
    by_cases hid : latest.attemptId ∈ ids
    · simp [retireAttempt, hid] at hlive
    · exact ⟨hid, by simpa [retireAttempt, hid] using hlive⟩
  funext r
  unfold derivedAttemptCounts
  rw [countP_map]
  refine countP_congr fun a ha => ?_
  simp only [Function.comp_apply, retireAttempt]
  split
  · next hid =>
    by_cases heid : a.episodeId = some eid
    -- a live row of this episode could be retired only together with the newest one
    · have hsuperseded : a.outcome = .superseded := by
        by_contra hne
        have hall := (hsafe a ha hid).2 hne
        simp only [heid, Option.all_some, hlatest, decide_eq_true_eq] at hall
        exact hall.elim hkept.1 hkept.2
      simp [isChargedFor, hsuperseded]
    · simp [heid]
  · exact Iff.rfl

lemma InOrder.supersede {itemId : String} {select : LoopRecoveryAttempt → Bool} (h : InOrder rt d)
    (hsafe : RetireSafe (seenLedger rt d).recoveryAttempts
      (supersededIds itemId select (seenLedger rt d).recoveryAttempts)) :
    InOrder rt (supersedeStartedRecoveryAttempts rt now token itemId select d).2 ∧
      (supersedeStartedRecoveryAttempts rt now token itemId select d).2.quarantined = d.quarantined := by
  unfold supersedeStartedRecoveryAttempts
  refine h.transact fun result next hdecide => ?_
  dsimp only at hdecide
  split at hdecide
  · simp at hdecide
  · cases hdecide
    have hrows := h.goodRows.retire hsafe (rt.toISOString now)
    exact h.goodWrite rfl rfl rfl hrows (map_normalize_of_normal hrows.normal)

/-! ### Cooling -/

/-- One row of a stamped episode. -/
def stampedRow (episodeId wakeAt : String) (a : LoopRecoveryAttempt) : LoopRecoveryAttempt :=
  if a.episodeId = some episodeId then { a with nextEligibleAt := some wakeAt } else a

lemma stampedRow_outcome (episodeId wakeAt : String) (a : LoopRecoveryAttempt) :
    (stampedRow episodeId wakeAt a).outcome = a.outcome := by
  unfold stampedRow
  split <;> rfl

variable {cooling : LoopCoolingRecord}

lemma cooledLedger_rows (hshape : isCoolingRecordShape rt cooling = true) (ledger : LoopLedger) :
    (cooledLedger cooling ledger).recoveryAttempts = ledger.recoveryAttempts ∨
      ∃ episodeId wakeAt, isIsoTimestamp rt wakeAt = true ∧ (cooledLedger cooling ledger).recoveryAttempts =
          ledger.recoveryAttempts.map (stampedRow episodeId wakeAt) := by
  unfold cooledLedger
  dsimp only
  split
  · next itemId wakeAt _ hwakeAt =>
    have hwake : isIsoTimestamp rt wakeAt = true := by
      have hrecord := (Option.filter_eq_some_iff.1 hwakeAt).1
      simp only [isCoolingRecordShape, hrecord, Option.any_some, Bool.and_eq_true] at hshape
      exact hshape.2
    unfold stampEpisodeNextEligibleAt
    dsimp only
    split
    · exact .inl rfl
    · next episodeId _ => exact .inr ⟨episodeId, wakeAt, hwake, rfl⟩
  · exact .inl rfl

lemma cooledLedger_itemCooling {ledger : LoopLedger} (hshape : isCoolingRecordShape rt cooling = true)
    (h : ledger.itemCooling.values.all (isCoolingRecordShape rt) = true) :
    (cooledLedger cooling ledger).itemCooling.values.all (isCoolingRecordShape rt) = true := by
  unfold cooledLedger
  dsimp only
  split
  · refine all_eq_true.2 fun record hrecord => ?_
    obtain ⟨key, hget⟩ := JsObject.mem_values.1 hrecord
    rw [JsObject.get?_set] at hget
    split at hget
    · obtain rfl := Option.some.inj hget
      exact hshape
    · exact all_eq_true.1 h record (JsObject.mem_values.2 ⟨key, hget⟩)
  · exact h

variable {wakeAt : String}

lemma settles_stampedRow {episodeId : String} (hwake : isIsoTimestamp rt wakeAt = true)
    (a : LoopRecoveryAttempt) : Settles rt a (stampedRow episodeId wakeAt a) := by
  unfold stampedRow
  split
  · next hid =>
    have hne : a.episodeId ≠ none := by simp [hid]
    refine ⟨{ Refits.refl rt a with eligible := .inr ⟨hne, ?_⟩ }, .inr ?_⟩
    · simpa using hwake
    · exact normalizeStarted_of_episodeId rt hne
  · exact Settles.refl a

lemma derivedAttemptCounts_stamp (hwake : isIsoTimestamp rt wakeAt = true)
    (rows : List LoopRecoveryAttempt) (episodeId eid : String) :
    derivedAttemptCounts (some eid) (rows.map (stampedRow episodeId wakeAt)) =
      derivedAttemptCounts (some eid) rows := by
  have hrefits : List.Forall₂ (Refits rt) rows (rows.map (stampedRow episodeId wakeAt)) :=
    List.forall₂_map_right_iff.2
      (List.forall₂_same.2 fun a _ => (settles_stampedRow hwake a).1)
  apply derivedAttemptCounts_refit hrefits
  refine List.forall₂_map_right_iff.2 (List.forall₂_same.2 fun a _ => ?_)
  rw [stampedRow_outcome]
  exact id

lemma GoodRows.stamp {policy : RecoveryPolicy} (h : GoodRows rt policy rows) (hwake : isIsoTimestamp rt wakeAt = true)
    (episodeId : String) : GoodRows rt policy (rows.map (stampedRow episodeId wakeAt)) := by
  have hsettles : List.Forall₂ (Settles rt) rows (rows.map (stampedRow episodeId wakeAt)) :=
    List.forall₂_map_right_iff.2 (List.forall₂_same.2 fun a _ => settles_stampedRow hwake a)
  exact h.settle hsettles fun eid _ _ _ => derivedAttemptCounts_stamp hwake rows episodeId eid

lemma InOrder.cool (h : InOrder rt d) (hshape : isCoolingRecordShape rt cooling = true) :
    InOrder rt (persistOwnedCooling rt now token cooling d).2 ∧
      (persistOwnedCooling rt now token cooling d).2.quarantined = d.quarantined := by
  unfold persistOwnedCooling
  refine h.transact fun result next hdecide => ?_
  cases hdecide
  have hrows : GoodRows rt d.contract.recoveryPolicy (cooledLedger cooling (seenLedger rt d)).recoveryAttempts := by
    rcases cooledLedger_rows hshape (seenLedger rt d) with hsame | ⟨episodeId, _, hwake, hstamped⟩
    · rw [hsame]
      exact h.goodRows
    · rw [hstamped]
      exact h.goodRows.stamp hwake episodeId
  obtain ⟨_, _, _, hitems⟩ := accepts_iff.1 h.accepts
  have hcooling : (cooledLedger cooling (seenLedger rt d)).cooling.all (isCoolingRecordShape rt) =
    true := by simpa [cooledLedger] using hshape
  exact ⟨rfl, ⟨_, hrows, map_normalize_of_normal hrows.normal⟩, hcooling, cooledLedger_itemCooling hshape hitems⟩

end Settle

/-! ## Runs -/

/-- A step of a run. `elsewhere` stands for every other operation of the engine: it may change
what the recovery rows and the cooling records are not part of. -/
inductive RecoveryOp where
  | start (now : Instant) (input : StartRecoveryAttemptInput)
  | complete (now : Instant) (input : CompleteRecoveryAttemptInput)
  | supersede (now : Instant) (token itemId : String) (select : LoopRecoveryAttempt → Bool)
  | cool (now : Instant) (token : String) (cooling : LoopCoolingRecord)
  | elsewhere (next : LoopLedger) (lock : Option LoopLockRecord)

/-- The claim is on record or stands. -/
def claimSafe (rt : JsRuntime) (policy : RecoveryPolicy) (time : String) :
    Except LoopError ClaimContext → Prop
  | .ok ctx => ctx.Replays rt ∨ ctx.Stands rt policy time
  | .error _ => True

instance (policy : RecoveryPolicy) (time : String) (claim : Except LoopError ClaimContext) :
    Decidable (claimSafe rt policy time claim) :=
  match claim with
  | .ok _ => inferInstanceAs (Decidable (_ ∨ _))
  | .error _ => inferInstanceAs (Decidable True)

namespace RecoveryOp

variable (rt)

def apply (d : RunDir) : RecoveryOp → RunDir
  | .start now input => (startRecoveryAttempt rt now d.contract input d).2
  | .complete now input => (completeRecoveryAttempt rt now d.contract input d).2
  | .supersede now token itemId select =>
    (supersedeStartedRecoveryAttempts rt now token itemId select d).2
  | .cool now token cooling => (persistOwnedCooling rt now token cooling d).2
  | .elsewhere next lock =>
    { d with
      ledger := { next with
        runId := d.ledger.runId, cooling := d.ledger.cooling
        itemCooling := d.ledger.itemCooling, recoveryAttempts := d.ledger.recoveryAttempts }
      lock := lock }

/-- Every operation may be called in every state. -/
def step (d : RunDir) (op : RecoveryOp) : Option RunDir := some (op.apply rt d)

/-- The condition on an operation under which what it writes passes. -/
def Safe (d : RunDir) : RecoveryOp → Prop
  | .start now input =>
    claimSafe rt d.contract.recoveryPolicy (rt.toISOString now) (claimOf rt d input)
  | .supersede _ _ itemId select =>
    RetireSafe (seenLedger rt d).recoveryAttempts
      (supersededIds itemId select (seenLedger rt d).recoveryAttempts)
  | .cool _ _ cooling => isCoolingRecordShape rt cooling = true
  | .complete _ _ => True
  | .elsewhere _ _ => True

instance (d : RunDir) (op : RecoveryOp) : Decidable (op.Safe rt d) :=
  match op with
  | .start _ _ => inferInstanceAs (Decidable (claimSafe _ _ _ _))
  | .supersede _ _ _ _ => inferInstanceAs (Decidable (RetireSafe _ _))
  | .cool _ _ _ => inferInstanceAs (Decidable (_ = _))
  | .complete _ _ => inferInstanceAs (Decidable True)
  | .elsewhere _ _ => inferInstanceAs (Decidable True)

lemma apply_contract (d : RunDir) (op : RecoveryOp) : (op.apply rt d).contract = d.contract := by
  cases op with
  | start now input =>
    simp only [apply, startRecoveryAttempt]
    split
    · rfl
    · exact (sameRun_transact rt now _ _ _ d).contract
  | complete now input =>
    simp only [apply, completeRecoveryAttempt]
    split
    · rfl
    · exact (sameRun_transact rt now _ _ _ d).contract
  | supersede now token itemId select => exact (sameRun_transact rt now _ _ _ d).contract
  | cool now token cooling => exact (sameRun_transact rt now _ _ _ d).contract
  | elsewhere next lock => rfl

variable {rt}

lemma inOrder_elsewhere {d : RunDir} (h : InOrder rt d) (next : LoopLedger)
    (lock : Option LoopLockRecord) : InOrder rt ((elsewhere next lock).apply rt d) where
  accepts := (accepts_congr rt rfl rfl rfl rfl).trans h.accepts
  named := h.named

lemma inOrder_apply {d : RunDir} {compiled : RecoveryPolicy} (h : InOrder rt d)
    (hcompiled : compileRecoveryPolicy d.contract.recoveryPolicy = .ok compiled)
    {op : RecoveryOp} (hsafe : op.Safe rt d) :
    InOrder rt (op.apply rt d) ∧ (op.apply rt d).quarantined = d.quarantined := by
  cases op with
  | start now input =>
    refine h.start hcompiled fun ctx hctx hnew => ?_
    simp only [Safe, hctx, claimSafe] at hsafe
    exact hsafe.resolve_left hnew
  | complete now input => exact h.complete
  | supersede now token itemId select => exact h.supersede hsafe
  | cool now token cooling => exact h.cool hsafe
  | elsewhere next lock => exact ⟨inOrder_elsewhere h next lock, rfl⟩

end RecoveryOp

/-- Over every run whose steps are safe, the published ledger passes in every state, and nothing is
quarantined. -/
theorem recovery_runs_accepted {d d' : RunDir} {ops : List RecoveryOp} {compiled : RecoveryPolicy}
    (hcompiled : compileRecoveryPolicy d.contract.recoveryPolicy = .ok compiled)
    (haccepts : d.contract.accepts rt d.ledger = true)
    (hnamed : ∀ a ∈ (d.contract.normalize rt d.ledger).recoveryAttempts, NamedRow a)
    (hrun : Run (RecoveryOp.step rt) (fun d op => op.Safe rt d) d ops d') :
    d'.contract.accepts rt d'.ledger = true ∧ d'.quarantined = d.quarantined := by
  let I : RunDir → Prop := fun e =>
    InOrder rt e ∧ e.contract = d.contract ∧ e.quarantined = d.quarantined
  have hstart : I d := ⟨⟨haccepts, hnamed⟩, rfl, rfl⟩
  have hend : I d' := by
    refine hrun.invariant (fun e op e' hsafe hI hstep => ?_) hstart
    obtain ⟨hinOrder, hcontract, hquarantined⟩ := hI
    obtain rfl : op.apply rt e = e' := Option.some.inj hstep
    obtain ⟨hnext, hsame⟩ := RecoveryOp.inOrder_apply hinOrder (hcontract ▸ hcompiled) hsafe
    exact ⟨hnext, (op.apply_contract rt e).trans hcontract, hsame.trans hquarantined⟩
  exact ⟨hend.1.accepts, hend.2.2⟩

end Ledger

/-! ## A blocked login -/

/-- The digest of `gh auth status failed`. -/
def loginFingerprint : String :=
  "7ffc1c4b530d17c3dd61952c21317f6b41218428e90ae1054c64c6a0de745624"

/-- The digests of the ids that claims for item `12` get. -/
def loginDigests : List (String × String) :=
  let claim (identity : String) : String := "\x00".intercalate
    ["pipeline-recovery-attempt@1", "12", identity, loginFingerprint, "verify_authentication"]
  [(claim "a1b2c3|attempt=1", "28e3791ec9c13aae33f1a2b2a8b83c672d5247340d9441d6887b7be3f2104d97"),
    (claim "a1b2c3|attempt=2", "c63b86393d2e92db7e95cd6db4769a804410fab4962ebf0f4b43400d35dc0cd4"),
    (claim "a1b2c3|attempt=3", "44ff24d4ccfd99c0010871d4568112d42ea2ee7198dcc0e7e3a257773207c522"),
    ("\x00".intercalate
        ["pipeline-recovery-episode@1", "loop_recovery", "environment-auth", "a1b2c3", loginFingerprint],
      "b61a56b2df4276ce8083b0b87db1e74114104e89175b06a08e5328bcca2b1ed9")]

/-- A run of one item that is blocked on its login, before any attempt. -/
def loginRun : RunDir :=
  runOf { id := "12", state := .blocked, blockedTheme := some "environment-auth"
          evidenceFingerprint := some loginFingerprint }

/-- The claim of the `n`-th attempt; the ordinal is not part of the episode. -/
def loginClaim (n : Nat) : RecoveryOp :=
  .start .epoch
    { token := "t", itemId := "12", engine := .claude, action := .verifyAuthentication
      candidateIdentity := some ("a1b2c3|attempt=" ++ toString n), minted := "op" }

/-- Two claims are within the bound of the class. -/
theorem two_login_claims_accepted :
    ∃ d', Run (RecoveryOp.step (.onFirstDay loginDigests))
        (fun d op => op.Safe (.onFirstDay loginDigests) d) loginRun [loginClaim 1, loginClaim 2] d' ∧
      d'.contract.accepts (.onFirstDay loginDigests) d'.ledger = true ∧
      d'.ledger.recoveryAttempts.length = 2 := by
  obtain ⟨d', hrun, hlength⟩ : ∃ d', Run (RecoveryOp.step (.onFirstDay loginDigests))
      (fun d op => op.Safe (.onFirstDay loginDigests) d) loginRun [loginClaim 1, loginClaim 2] d' ∧
      d'.ledger.recoveryAttempts.length = 2 :=
    Run.exists_of_exec _ (by decide +kernel)
  have hcompiled := compileRecoveryPolicy_eq_ok.2 ⟨rfl, compileEntryFault_default⟩
  have hnamed : ∀ a ∈ (loginRun.contract.normalize (.onFirstDay loginDigests)
      loginRun.ledger).recoveryAttempts, NamedRow a := fun a ha => absurd ha not_mem_nil
  exact ⟨d', hrun, (recovery_runs_accepted hcompiled (by decide +kernel) hnamed hrun).1, hlength⟩

/-- The third claim of the episode is exhausted, and the validator counts its row as an attempt
that the writer did not charge: the next read quarantines what the engine wrote. -/
theorem third_login_claim_quarantined :
    ¬∀ (rt : JsRuntime) (d d' : RunDir) (ops : List RecoveryOp) (compiled : RecoveryPolicy),
      compileRecoveryPolicy d.contract.recoveryPolicy = .ok compiled →
      d.contract.accepts rt d.ledger = true → d.ledger.recoveryAttempts = [] →
      Run (RecoveryOp.step rt) (fun _ _ => True) d ops d' →
      d'.contract.accepts rt d'.ledger = true ∧
        ∀ now token, (readLedger rt now token d').2.quarantined = d'.quarantined := by
  intro h
  obtain ⟨d', hrun, hrejected⟩ : ∃ d', Run (RecoveryOp.step (.onFirstDay loginDigests))
      (fun _ _ => True) loginRun [loginClaim 1, loginClaim 2, loginClaim 3] d' ∧
      d'.contract.accepts (.onFirstDay loginDigests) d'.ledger = false :=
    Run.exists_of_exec _ (by decide +kernel)
  have hcompiled := compileRecoveryPolicy_eq_ok.2 ⟨rfl, compileEntryFault_default⟩
  have haccepted := (h _ _ _ _ _ hcompiled (by decide +kernel) rfl hrun).1
  rw [hrejected] at haccepted
  simp at haccepted

end AgentPipeline.Loop
