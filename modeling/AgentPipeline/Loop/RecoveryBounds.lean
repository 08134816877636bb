import AgentPipeline.Loop.RecoveryClosure

/-!
# RecoveryBounds: how many claims of a strategy are ever started

The bound of a strategy is enforced on what the newest row of an episode says, and a rejected
generation takes its rows with it. So a run is watched together with the rows that its starts
have appended, whether or not they are still there (`Watched`), and the rows in force are those
of the generation that the next read restores (`restored`).

The invariant `Accounted` relates the two: every claim that was started is counted by the rows in
force, so the bound that the writer compares with them is a bound on all claims ever started. A
started row is lost exactly when the validator rejects it, which is what `RecoveryOp.Counted`
excludes.
-/

namespace AgentPipeline.Loop

open List
open Transition (Run)

section Bounds

variable (rt : JsRuntime)

/-! ## What the next read finds -/

/-- The directory after a read: a rejected generation makes way for the last valid one. -/
def restored (d : RunDir) : RunDir :=
  if d.contract.accepts rt d.ledger then d
  else
    match d.lastValid with
    | some last =>
      { d with
        ledger := d.contract.normalize rt last, quarantined := d.quarantined ++ [d.ledger] }
    | none => d

lemma restored_contract (d : RunDir) : (restored rt d).contract = d.contract := by
  unfold restored
  split
  · rfl
  · split
    · rfl
    · rfl

variable {d : RunDir}

lemma restored_of_accepts (h : d.contract.accepts rt d.ledger = true) : restored rt d = d := if_pos h

variable {rt}

lemma readLedger_eq_restored (h : InOrder rt (restored rt d)) (now : Instant) (token : Option String) :
    readLedger rt now token d = readLedger rt now token (restored rt d) := by
  have haccepts := h.accepts
  rw [readLedger_of_accepts rt now haccepts]
  unfold restored at haccepts ⊢
  split at haccepts
  · next hacc =>
    rw [if_pos hacc]
    exact readLedger_of_accepts rt now hacc
  · next hacc =>
    rw [if_neg hacc]
    split at haccepts
    · next last hlast =>
      have hvalid : d.contract.accepts rt last = true := by simpa using haccepts
      simp [readLedger, hacc, hlast, hvalid]
    · exact absurd haccepts hacc

lemma transact_restored {α : Type} (h : InOrder rt (restored rt d)) (now : Instant)
    (readToken : Option String) (token : String) (decide : LoopLedger → Except LoopError (α × Option LoopLedger)) :
    transact rt now readToken token decide d = transact rt now readToken token decide (restored rt d) := by
  unfold transact
  rw [readLedger_eq_restored h]

variable {compiled : RecoveryPolicy}

lemma start_restored (h : InOrder rt (restored rt d))
    (hcompiled : compileRecoveryPolicy d.contract.recoveryPolicy = .ok compiled) (now : Instant)
    (input : StartRecoveryAttemptInput) : startRecoveryAttempt rt now d.contract input d =
      startRecoveryAttempt rt now (restored rt d).contract input (restored rt d) := by
  unfold startRecoveryAttempt
  rw [restored_contract, upgradeContract_of_compiled hcompiled]
  exact transact_restored h _ _ _ _

lemma complete_restored (h : InOrder rt (restored rt d))
    (hcompiled : compileRecoveryPolicy d.contract.recoveryPolicy = .ok compiled) (now : Instant)
    (input : CompleteRecoveryAttemptInput) : completeRecoveryAttempt rt now d.contract input d =
      completeRecoveryAttempt rt now (restored rt d).contract input (restored rt d) := by
  unfold completeRecoveryAttempt
  rw [restored_contract, upgradeContract_of_compiled hcompiled]
  exact transact_restored h _ _ _ _

/-! ## Rows that carry on -/

/-- `rows'` records what `rows` records: as many rows, the same charges, the same attempts. -/
structure Carries (rows rows' : List LoopRecoveryAttempt) : Prop where
  length : rows'.length = rows.length
  counts : ∀ eid, derivedAttemptCounts (some eid) rows' = derivedAttemptCounts (some eid) rows
  ids : ∀ id, (∃ a ∈ rows, a.attemptId = some id) → ∃ a ∈ rows', a.attemptId = some id

lemma Carries.refl (rows : List LoopRecoveryAttempt) : Carries rows rows := ⟨rfl, fun _ => rfl, fun _ => id⟩

lemma Carries.trans {rows₁ rows₂ rows₃ : List LoopRecoveryAttempt} (h : Carries rows₁ rows₂)
    (h' : Carries rows₂ rows₃) : Carries rows₁ rows₃ :=
  ⟨h'.length.trans h.length, fun eid => (h'.counts eid).trans (h.counts eid), fun id hid => h'.ids id (h.ids id hid)⟩

variable {rows : List LoopRecoveryAttempt}

lemma exists_id_of_forall₂ {rows' : List LoopRecoveryAttempt}
    (h : List.Forall₂ (fun a b : LoopRecoveryAttempt =>
      ∀ id, a.attemptId = some id → b.attemptId = some id) rows rows') (id : String)
    (hid : ∃ a ∈ rows, a.attemptId = some id) : ∃ a ∈ rows', a.attemptId = some id := by
  obtain ⟨a, ha, haid⟩ := hid
  obtain ⟨b, hb, hab⟩ := forall₂_mem_left h ha
  exact ⟨b, hb, hab id haid⟩

variable {a : LoopRecoveryAttempt}

lemma upgradeAttempt_attemptId {id : String}
    (h : a.attemptId = some id) : (upgradeAttempt rt a).attemptId = some id := by
  have hkeep : ∀ b : LoopRecoveryAttempt, (normalizeStartedRecoveryEpisodeIdentity rt b).attemptId = b.attemptId := by
    intro b
    rcases normalizeStarted_cases rt b with heq | ⟨_, _, heq⟩
    · rw [heq]
    · rw [heq]
  unfold upgradeAttempt
  split
  · rw [hkeep, h]
  · split
    · exact h
    · rw [hkeep]
      simp [h]

/-- The rows of a ledger as a read returns them. -/
def rowsOf (rt : JsRuntime) (d : RunDir) : List LoopRecoveryAttempt :=
  (d.contract.normalize rt d.ledger).recoveryAttempts

lemma InOrder.carries_seen (h : InOrder rt d) : Carries (rowsOf rt d) (seenLedger rt d).recoveryAttempts := by
  have hrow : ∀ a ∈ rowsOf rt d, Refits rt a (upgradeAttempt rt a) ∧ (upgradeAttempt rt a).outcome = a.outcome := by
    intro a ha
    obtain ⟨b, _, rfl⟩ := mem_map.1 ha
    obtain ⟨hfit, _, _, houtcome⟩ := refits_upgrade rt (normalizeAttempt_idem rt _ b) (h.named _ ha)
    exact ⟨hfit, houtcome⟩
  refine ⟨by simp [rowsOf, seenLedger, upgradeLedgerForRecovery], fun eid => ?_, fun id => ?_⟩
  · apply derivedAttemptCounts_refit (List.forall₂_map_right_iff.2
      (List.forall₂_same.2 fun a ha => (hrow a ha).1))
    refine List.forall₂_map_right_iff.2 (List.forall₂_same.2 fun a ha => ?_)
    rw [(hrow a ha).2]
    exact id
  · apply exists_id_of_forall₂
    exact List.forall₂_map_right_iff.2
      (List.forall₂_same.2 fun a _ id hid => upgradeAttempt_attemptId hid)

/-! ## Steps on a directory in good order -/

/-- A step that records nothing new. -/
def Quiet (rt : JsRuntime) (d d' : RunDir) : Prop :=
  InOrder rt d' ∧ Carries (rowsOf rt d) (rowsOf rt d') ∧
    d'.ledger.recoveryAttempts.length = d.ledger.recoveryAttempts.length

lemma Quiet.refl (h : InOrder rt d) : Quiet rt d d := ⟨h, Carries.refl _, rfl⟩

variable {d' : RunDir} {next : LoopLedger}

lemma InOrder.quiet_of_write (h : InOrder rt d) (hnext : GoodWrite rt d next) (hcontract : d'.contract = d.contract)
    (hledger : d'.ledger = d.contract.normalize rt next) (hcarries : Carries (seenLedger rt d).recoveryAttempts
      (next.recoveryAttempts.map (normalizeAttempt rt d.contract.recoveryPolicy))) : Quiet rt d d' := by
  have hrows : rowsOf rt d' = next.recoveryAttempts.map (normalizeAttempt rt d.contract.recoveryPolicy) := by
    rw [rowsOf, hcontract, hledger, normalize_normalize]
    rfl
  refine ⟨hnext.inOrder h hcontract hledger, ?_, ?_⟩
  · rw [hrows]
    exact h.carries_seen.trans hcarries
  · calc
      d'.ledger.recoveryAttempts.length =
          (next.recoveryAttempts.map (normalizeAttempt rt d.contract.recoveryPolicy)).length := by
        rw [hledger]
        rfl
      _ = (seenLedger rt d).recoveryAttempts.length := hcarries.length
      _ = d.ledger.recoveryAttempts.length := by
        simp [seenLedger, upgradeLedgerForRecovery, LoopContract.normalize, normalizeRecoveryLedgerCompatibility]

lemma InOrder.quiet_of_seen (h : InOrder rt d) (hnext : GoodWrite rt d next) (hcontract : d'.contract = d.contract)
    (hledger : d'.ledger = d.contract.normalize rt next)
    (hrows : next.recoveryAttempts = (seenLedger rt d).recoveryAttempts) : Quiet rt d d' := by
  refine h.quiet_of_write hnext hcontract hledger ?_
  rw [hrows, map_normalize_of_normal h.goodRows.normal]
  exact Carries.refl _

lemma InOrder.complete_quiet (h : InOrder rt d) (now : Instant) (input : CompleteRecoveryAttemptInput) :
    Quiet rt d (completeRecoveryAttempt rt now d.contract input d).2 := by
  unfold completeRecoveryAttempt
  split
  · exact Quiet.refl h
  · next contract _ =>
    let decide := fun ledger =>
      decideComplete rt now contract input (upgradeLedgerForRecovery rt ledger)
    have hsame := sameRun_transact rt now (some input.token) input.token decide d
    obtain hsame' | ⟨result, next, hdecide, _, hledger, _⟩ :=
      h.transact_cases now (some input.token) input.token decide
    · rw [hsame']
      exact Quiet.refl h
    · obtain ⟨hgood, hseen | ⟨claim, hclaim, hstarted, hsettled⟩⟩ := h.complete_writes hdecide
      · exact h.quiet_of_seen hgood hsame.contract hledger hseen
      -- settling a claim changes its outcome, but neither its charge nor its id
      · obtain ⟨hrows, hcounts⟩ :=
          h.goodRows.complete hclaim hstarted input (rt.toISOString now)
        refine h.quiet_of_write hgood hsame.contract hledger ?_
        rw [hsettled, map_normalize_of_normal hrows.normal]
        refine ⟨by simp, hcounts, exists_id_of_forall₂ (forall₂_modify (fun _ _ => id) ?_)⟩
        intro a ha id hid
        rw [← find?_eq_getElem?_findIdx, hclaim] at ha
        obtain rfl := Option.some.inj ha
        unfold completedAttempt
        dsimp only
        split
        · exact hid
        · exact hid

variable (rt) in
/-- The row of a claim is appended; the ledger before it is kept, if the new one is refused. -/
structure Appended (d d' : RunDir) (ctx : ClaimContext) (time notBefore : String) : Prop where
  rows : d'.ledger.recoveryAttempts = (seenLedger rt d).recoveryAttempts ++
    [ctx.keptRow rt d.contract.recoveryPolicy time notBefore]
  valid : d.contract.accepts rt d'.ledger = false → d'.lastValid = some (d.contract.normalize rt d.ledger)

lemma InOrder.start_outcomes (h : InOrder rt d)
    (hcompiled : compileRecoveryPolicy d.contract.recoveryPolicy = .ok compiled) (now : Instant)
    (input : StartRecoveryAttemptInput) : (startRecoveryAttempt rt now d.contract input d).2 = d ∨
      (∃ next, GoodWrite rt d next ∧ next.recoveryAttempts = (seenLedger rt d).recoveryAttempts ∧
        next.items = (seenLedger rt d).items ∧
        (startRecoveryAttempt rt now d.contract input d).2.ledger = d.contract.normalize rt next) ∨
      ∃ ctx eligible after, claimOf rt d input = .ok ctx ∧ ¬ctx.Replays rt ∧
        (startRecoveryAttempt rt now d.contract input d).1 =
          .ok (after, ctx.row rt (rt.toISOString now) (rt.toISOString eligible)) ∧
        Appended rt d (startRecoveryAttempt rt now d.contract input d).2 ctx (rt.toISOString now) (rt.toISOString eligible) := by
  unfold startRecoveryAttempt
  rw [upgradeContract_of_compiled hcompiled]
  dsimp only
  let decide := fun ledger => decideStart rt now
    { d.contract with recoveryPolicy := effectivePolicy d.contract.recoveryPolicy } input
    (upgradeLedgerForRecovery rt ledger)
  obtain hsame' | ⟨result, next, hdecide, hanswer, hledger, _, hvalid⟩ :=
    h.transact_cases now (some input.token) input.token decide
  · exact .inl hsame'
  · rcases h.start_writes hdecide with
      ⟨hgood, hseen, hitems⟩ | ⟨ctx, eligible, hctx, hnew, hrow, hrun, hcooling, hitemCooling, hrows⟩
    · exact .inr (.inl ⟨next, hgood, hseen, hitems, hledger⟩)
    · refine .inr (.inr ⟨ctx, eligible, result.1, hctx, hnew, ?_, ?_, fun hrejected => hvalid ?_⟩)
      · rw [← hrow]
        exact hanswer
      · calc
          _ = next.recoveryAttempts.map (normalizeAttempt rt d.contract.recoveryPolicy) := by
            rw [hledger]
            rfl
          _ = _ := by
            rw [hrows, map_append, map_normalize_of_normal h.goodRows.normal,
              map_singleton, ClaimContext.normalizeAttempt_row]
      · rwa [hledger, accepts_normalize] at hrejected

lemma startRecoveryAttempt_contract (d : RunDir) (now : Instant) (input : StartRecoveryAttemptInput) :
    (startRecoveryAttempt rt now d.contract input d).2.contract = d.contract :=
  (RecoveryOp.start now input).apply_contract rt d

lemma InOrder.start_cases (h : InOrder rt d)
    (hcompiled : compileRecoveryPolicy d.contract.recoveryPolicy = .ok compiled) (now : Instant)
    (input : StartRecoveryAttemptInput) : (Quiet rt d (startRecoveryAttempt rt now d.contract input d).2 ∧
        ((startRecoveryAttempt rt now d.contract input d).2.ledger.items = d.ledger.items ∨
          (startRecoveryAttempt rt now d.contract input d).2.ledger.items = (seenLedger rt d).items)) ∨
      ∃ ctx eligible, claimOf rt d input = .ok ctx ∧ ¬ctx.Replays rt ∧
        Appended rt d (startRecoveryAttempt rt now d.contract input d).2 ctx (rt.toISOString now) (rt.toISOString eligible) := by
  rcases h.start_outcomes hcompiled now input with
    hsame | ⟨next, hgood, hseen, hitems, hledger⟩ | ⟨ctx, eligible, _, hctx, hnew, _, happended⟩
  · rw [hsame]
    exact .inl ⟨Quiet.refl h, .inl rfl⟩
  · refine .inl ⟨h.quiet_of_seen hgood (startRecoveryAttempt_contract d now input) hledger hseen, .inr ?_⟩
    rw [hledger]
    exact hitems
  · exact .inr ⟨ctx, eligible, hctx, hnew, happended⟩

/-! ## Watched runs -/

/-- A directory, and the rows that starts have appended so far, as they were written. -/
structure Watched where
  dir : RunDir
  written : List LoopRecoveryAttempt

/-- What a step appended to the rows that the read before it found. -/
def appended (rt : JsRuntime) (d : RunDir) : RecoveryOp → List LoopRecoveryAttempt
  | .start now input =>
    ((RecoveryOp.start now input).apply rt d).ledger.recoveryAttempts.drop
      (restored rt d).ledger.recoveryAttempts.length
  | _ => []

def Watched.step (rt : JsRuntime) (s : Watched) (op : RecoveryOp) : Option Watched :=
  some { dir := op.apply rt s.dir, written := s.written ++ appended rt s.dir op }

def isStartedIn (eid : String) (r : RecoveryRecipe) (a : LoopRecoveryAttempt) : Bool :=
  a.outcome = .started && a.episodeId = some eid && a.action = some r

/-- The row starts a claim of strategy `r` in episode `eid`, for a blocker of class `cls`. -/
def isStartedClaim (eid : String) (cls : DurableBlockerClass) (r : RecoveryRecipe)
    (a : LoopRecoveryAttempt) : Bool :=
  isStartedIn eid r a && a.blockerClass = cls

/-- A claim that will be started stands, and its bound leaves room for one whole attempt. -/
def claimCounted (rt : JsRuntime) (policy : RecoveryPolicy) (time : String) :
    Except LoopError ClaimContext → Prop
  | .ok ctx =>
    ctx.Replays rt ∨ ctx.input.skipInapplicable = true ∨ ctx.BoundSpent rt time ∨ ctx.Stands rt policy time ∧
        (ctx.isPrep = true ∨ ((ctx.episode rt time).attemptsPerStrategy.spent ctx.input.action : ℚ) + 1 ≤
            perStrategyBound ctx.entry)
  | .error _ => True

instance (policy : RecoveryPolicy) (time : String) (claim : Except LoopError ClaimContext) :
    Decidable (claimCounted rt policy time claim) :=
  match claim with
  | .ok _ => inferInstanceAs (Decidable (_ ∨ _))
  | .error _ => inferInstanceAs (Decidable True)

/-- The steps of the watched runs, and the condition on a start. -/
def RecoveryOp.Counted (rt : JsRuntime) (d : RunDir) : RecoveryOp → Prop
  | .start now input =>
    claimCounted rt d.contract.recoveryPolicy (rt.toISOString now)
      (claimOf rt (restored rt d) input)
  | .complete _ _ | .elsewhere _ _ => True
  | .supersede _ _ _ _ | .cool _ _ _ => False

instance (d : RunDir) (op : RecoveryOp) : Decidable (op.Counted rt d) :=
  match op with
  | .start _ _ => inferInstanceAs (Decidable (claimCounted _ _ _ _))
  | .complete _ _ | .elsewhere _ _ => inferInstanceAs (Decidable True)
  | .supersede _ _ _ _ | .cool _ _ _ => inferInstanceAs (Decidable False)

/-- Every started claim is counted and on record in the rows in force, and the claims of a
strategy are within its bound. -/
structure Accounted (rt : JsRuntime) (contract : LoopContract) (s : Watched) : Prop where
  contract_eq : s.dir.contract = contract
  inOrder : InOrder rt (restored rt s.dir)
  counted : ∀ eid r, s.written.countP (isStartedIn eid r) ≤
    derivedAttemptCounts (some eid) (rowsOf rt (restored rt s.dir)) r
  bounded : ∀ eid cls r, isReviewFindingsPrepUnlink cls (some r) = false →
    (s.written.countP (isStartedClaim eid cls r) : ℚ) ≤ perStrategyBound (effectivePolicy contract.recoveryPolicy cls)
  onRecord : ∀ a ∈ s.written, a.outcome = .started → ∃ id, a.attemptId = some id ∧
    ∃ b ∈ rowsOf rt (restored rt s.dir), b.attemptId = some id

variable {contract : LoopContract} {s s' : Watched}

lemma Accounted.carry (h : Accounted rt contract s)
    (hcontract : s'.dir.contract = s.dir.contract) (hwritten : s'.written = s.written)
    (hinOrder : InOrder rt (restored rt s'.dir))
    (hcarries : Carries (rowsOf rt (restored rt s.dir)) (rowsOf rt (restored rt s'.dir))) :
    Accounted rt contract s' := by
  refine ⟨hcontract.trans h.contract_eq, hinOrder, fun eid r => ?_, ?_, fun a ha hstarted => ?_⟩
  · rw [hwritten, hcarries.counts]
    exact h.counted eid r
  · rw [hwritten]
    exact h.bounded
  · rw [hwritten] at ha
    obtain ⟨id, hid, hrow⟩ := h.onRecord a ha hstarted
    exact ⟨id, hid, hcarries.ids id hrow⟩

lemma Accounted.append_other (h : Accounted rt contract s) (ha : a.outcome ≠ .started)
    (hcontract : s'.dir.contract = s.dir.contract) (hwritten : s'.written = s.written ++ [a])
    (hinOrder : InOrder rt (restored rt s'.dir))
    (hcounts : ∀ eid r, derivedAttemptCounts (some eid) (rowsOf rt (restored rt s.dir)) r ≤
      derivedAttemptCounts (some eid) (rowsOf rt (restored rt s'.dir)) r)
    (hids : ∀ id, (∃ b ∈ rowsOf rt (restored rt s.dir), b.attemptId = some id) →
      ∃ b ∈ rowsOf rt (restored rt s'.dir), b.attemptId = some id) : Accounted rt contract s' := by
  have hno : ∀ eid r, isStartedIn eid r a = false := by
    intro eid r
    simp [isStartedIn, ha]
  refine ⟨hcontract.trans h.contract_eq, hinOrder, fun eid r => ?_, fun eid cls r hprep => ?_, fun b hb hstarted => ?_⟩
  · rw [hwritten, countP_append, countP_singleton, hno]
    exact (h.counted eid r).trans (hcounts eid r)
  · rw [hwritten, countP_append, countP_singleton, isStartedClaim, hno]
    simpa using h.bounded eid cls r hprep
  · rw [hwritten] at hb
    rcases mem_append.1 hb with hold | hnew
    · obtain ⟨id, hid, hrow⟩ := h.onRecord b hold hstarted
      exact ⟨id, hid, hids id hrow⟩
    · obtain rfl := mem_singleton.1 hnew
      exact absurd hstarted ha

/-! ## One start -/

variable {ctx : ClaimContext} {time : String}

lemma ClaimContext.outcome_of_started (h : ctx.outcome rt time = .started) :
    ctx.input.skipInapplicable = false ∧ ¬ctx.BoundSpent rt time := by
  rw [ClaimContext.outcome_eq] at h
  by_cases hskip : ctx.input.skipInapplicable = true
  · simp [hskip] at h
  · by_cases hspent : ctx.BoundSpent rt time
    · simp [hskip, hspent] at h
    · exact ⟨by simpa using hskip, hspent⟩

variable {notBefore : String}

lemma InOrder.restored_append (h : InOrder rt d) (hcontract : d'.contract = d.contract)
    (happended : Appended rt d d' ctx time notBefore) :
    InOrder rt (restored rt d') ∧ if d.contract.accepts rt d'.ledger = true then
        rowsOf rt (restored rt d') = (seenLedger rt d).recoveryAttempts ++
          [ctx.keptRow rt d.contract.recoveryPolicy time notBefore]
      else rowsOf rt (restored rt d') = rowsOf rt d := by
  cases haccepts : d.contract.accepts rt d'.ledger with
  | true =>
    have hdir : restored rt d' = d' := restored_of_accepts rt (by rwa [hcontract])
    -- the appended row passed, so it is in force as it was kept
    have hnormal : rowsOf rt d' = (seenLedger rt d).recoveryAttempts ++
        [ctx.keptRow rt d.contract.recoveryPolicy time notBefore] := by
      have hkept : NormalRow rt d.contract.recoveryPolicy
          (ctx.keptRow rt d.contract.recoveryPolicy time notBefore) := by
        rw [← ClaimContext.normalizeAttempt_row]
        exact normalizeAttempt_idem rt _ _
      calc
        rowsOf rt d' = d'.ledger.recoveryAttempts.map (normalizeAttempt rt d.contract.recoveryPolicy) := by
          rw [rowsOf, hcontract]
          rfl
        _ = _ := by
          rw [happended.rows, map_append, map_normalize_of_normal h.goodRows.normal, map_singleton, hkept]
    rw [hdir]
    refine ⟨⟨by rwa [hcontract], fun a ha => ?_⟩, by simpa using hnormal⟩
    have hmem : a ∈ rowsOf rt d' := ha
    rw [hnormal] at hmem
    rcases mem_append.1 hmem with hold | hnew
    · exact h.goodRows.named a hold
    · obtain rfl := mem_singleton.1 hnew
      exact fun _ => by simp [ClaimContext.keptRow, ClaimContext.row, attachEpisodeFields]
  | false =>
    -- the row was rejected, and the read takes back the generation before it
    have hledger : (restored rt d').ledger = d.contract.normalize rt d.ledger := by
      unfold restored
      rw [hcontract, if_neg (by simp [haccepts]), happended.valid haccepts]
      exact normalize_normalize rt _ _
    have hdir : (restored rt d').contract = d.contract := (restored_contract rt d').trans hcontract
    have hnormal : rowsOf rt (restored rt d') = rowsOf rt d := by
      rw [rowsOf, hdir, hledger, normalize_normalize]
      rfl
    refine ⟨⟨?_, fun a ha => ?_⟩, by simpa using hnormal⟩
    · rw [hdir, hledger, accepts_normalize]
      exact h.accepts
    · have hmem : a ∈ rowsOf rt (restored rt d') := ha
      rw [hnormal] at hmem
      exact h.named a hmem

lemma Accounted.append_started (h : Accounted rt contract s) {policy : RecoveryPolicy}
    (hentry : ctx.entry = effectivePolicy contract.recoveryPolicy ctx.cls)
    (hattempts : ctx.attempts = rows) (hstarted : ctx.outcome rt time = .started) (hstands : ctx.Stands rt policy time)
    (hroom : ctx.isPrep = true ∨ ((ctx.episode rt time).attemptsPerStrategy.spent ctx.input.action : ℚ) + 1 ≤
        perStrategyBound ctx.entry) (hcontract : s'.dir.contract = s.dir.contract)
    (hwritten : s'.written = s.written ++ [ctx.keptRow rt policy time notBefore])
    (hinOrder : InOrder rt (restored rt s'.dir)) (hcarries : Carries (rowsOf rt (restored rt s.dir)) rows)
    (hforce : rowsOf rt (restored rt s'.dir) = rows ++ [ctx.keptRow rt policy time notBefore]) :
    Accounted rt contract s' := by
  have hid := ctx.keptRow_episodeId rt policy time notBefore
  have hcounts : ∀ eid r, derivedAttemptCounts (some eid) (rowsOf rt (restored rt s'.dir)) r =
      derivedAttemptCounts (some eid) (rowsOf rt (restored rt s.dir)) r +
        if isStartedIn eid r (ctx.keptRow rt policy time notBefore) then 1 else 0 := by
    intro eid r
    -- a started row is charged for its own strategy, in its own episode
    have hcharged : isStartedIn eid r (ctx.keptRow rt policy time notBefore) =
        (decide ((ctx.keptRow rt policy time notBefore).episodeId = some eid) &&
          isChargedFor r (ctx.keptRow rt policy time notBefore)) := by
      have houtcome : (ctx.keptRow rt policy time notBefore).outcome = .started := hstarted
      simp [isStartedIn, isChargedFor, houtcome]
    rw [hforce, ← hcarries.counts, hcharged]
    simp only [derivedAttemptCounts, countP_append, countP_singleton]
  refine ⟨hcontract.trans h.contract_eq, hinOrder, fun eid r => ?_, fun eid cls r hprep => ?_, fun a ha hlive => ?_⟩
  · rw [hwritten, countP_append, countP_singleton, hcounts]
    exact Nat.add_le_add_right (h.counted eid r) _
  · rw [hwritten, countP_append, countP_singleton]
    by_cases hclaim : isStartedClaim eid cls r (ctx.keptRow rt policy time notBefore) = true
    · simp only [isStartedClaim, isStartedIn, Bool.and_eq_true, decide_eq_true_eq] at hclaim
      obtain ⟨⟨⟨_, heid⟩, haction⟩, hcls⟩ := hclaim
      obtain rfl : ctx.input.action = r := Option.some.inj haction
      obtain rfl : ctx.cls = cls := hcls
      obtain rfl : (ctx.episode rt time).episodeId = eid := Option.some.inj (hid.symm.trans heid)
      -- the writer compares the bound with a counter that no started claim has escaped
      have hspent := hstands.counts ctx.input.action (RecoveryRecipe.mem_all _)
      have hnot := (ClaimContext.outcome_of_started hstarted).2
      rw [if_neg fun hc => hnot hc.1, Nat.add_zero, hattempts, hcarries.counts] at hspent
      have hold : s.written.countP (isStartedClaim (ctx.episode rt time).episodeId ctx.cls
          ctx.input.action) ≤ (ctx.episode rt time).attemptsPerStrategy.spent ctx.input.action :=
        calc
          _ ≤ s.written.countP (isStartedIn (ctx.episode rt time).episodeId ctx.input.action) :=
            countP_mono_left fun a _ ha => (Bool.and_eq_true _ _ ▸ ha).1
          _ ≤ _ := h.counted _ _
          _ = _ := hspent.symm
      have hbound := hroom.resolve_left (by simpa [ClaimContext.isPrep] using hprep)
      rw [hentry] at hbound
      calc
        _ ≤ ((s.written.countP (isStartedClaim (ctx.episode rt time).episodeId ctx.cls
              ctx.input.action) + 1 : ℕ) : ℚ) := by
          split
          · exact le_rfl
          · exact Nat.cast_le.2 (Nat.le_succ _)
        _ ≤ ((ctx.episode rt time).attemptsPerStrategy.spent ctx.input.action : ℚ) + 1 := by
          exact_mod_cast Nat.succ_le_succ hold
        _ ≤ _ := hbound
    · simpa [hclaim] using h.bounded eid cls r hprep
  · rw [hwritten] at ha
    rcases mem_append.1 ha with hold | hnew
    · obtain ⟨id, hid, hrow⟩ := h.onRecord a hold hlive
      obtain ⟨b, hb, hbid⟩ := hcarries.ids id hrow
      exact ⟨id, hid, b, by simp [hforce, hb], hbid⟩
    · obtain rfl := mem_singleton.1 hnew
      exact ⟨ctx.attemptId rt, rfl, ctx.keptRow rt policy time notBefore, by simp [hforce], rfl⟩

variable {now : Instant} {input : StartRecoveryAttemptInput}

section

variable (h : Accounted rt contract s)
include h

section

variable (hcompiled : compileRecoveryPolicy contract.recoveryPolicy = .ok compiled)
include hcompiled

lemma Accounted.start (hsafe : (RecoveryOp.start now input).Counted rt s.dir) :
    Accounted rt contract ⟨(RecoveryOp.start now input).apply rt s.dir,
        s.written ++ appended rt s.dir (.start now input)⟩ := by
  have hcontract := (RecoveryOp.start now input).apply_contract rt s.dir
  have hdir : (restored rt s.dir).contract = s.dir.contract := restored_contract rt s.dir
  rw [← h.contract_eq] at hcompiled
  have happly : (RecoveryOp.start now input).apply rt s.dir =
      (startRecoveryAttempt rt now (restored rt s.dir).contract input (restored rt s.dir)).2 := by
    rw [RecoveryOp.apply, start_restored h.inOrder hcompiled]
  rw [← hdir] at hcompiled
  rcases h.inOrder.start_cases hcompiled now input with
    ⟨⟨hinOrder, hcarries, hlength⟩, _⟩ | ⟨ctx, eligible, hctx, hnew, happended⟩
  · rw [← happly] at hinOrder hcarries hlength
    have hsame := restored_of_accepts rt hinOrder.accepts
    refine h.carry hcontract ?_ (hsame.symm ▸ hinOrder) (hsame.symm ▸ hcarries)
    simp [appended, ← hlength]
  · rw [← happly] at happended
    obtain ⟨hinOrder, hforce⟩ :=
      h.inOrder.restored_append (hcontract.trans hdir.symm) happended
    -- what is seen is as long as what is stored, so the drop leaves the new row alone
    have hwritten : appended rt s.dir (.start now input) =
        [ctx.keptRow rt (restored rt s.dir).contract.recoveryPolicy (rt.toISOString now)
          (rt.toISOString eligible)] := by
      have hlength : (seenLedger rt (restored rt s.dir)).recoveryAttempts.length =
          (restored rt s.dir).ledger.recoveryAttempts.length := by
        simp [seenLedger, upgradeLedgerForRecovery, LoopContract.normalize, normalizeRecoveryLedgerCompatibility]
      rw [appended, happended.rows, ← hlength, drop_left]
    have hcarries := h.inOrder.carries_seen
    have hfacts := claimContext_eq_ok hctx
    by_cases hstarted : ctx.outcome rt (rt.toISOString now) = .started
    · simp only [RecoveryOp.Counted, hctx, claimCounted] at hsafe
      obtain ⟨hskip, hspent⟩ := ClaimContext.outcome_of_started hstarted
      -- the claim is new, applies, and has budget left: it has to stand
      have hcond := ((hsafe.resolve_left hnew).resolve_left (by simp [hskip])).resolve_left hspent
      rw [← hdir] at hcond
      have hpasses := (h.inOrder.start hcompiled fun ctx' hctx' _ => by
        cases hctx.symm.trans hctx'
        exact hcond.1).1.accepts
      rw [← happly, hcontract, ← hdir] at hpasses
      rw [if_pos hpasses] at hforce
      refine h.append_started ?_ hfacts.attempts_eq hstarted hcond.1 hcond.2 hcontract
        (congrArg _ hwritten) hinOrder hcarries hforce
      rw [hfacts.entry_eq, hdir, h.contract_eq]
    -- a skipped or exhausted claim charges nothing, whether or not it passes
    · refine h.append_other hstarted hcontract (congrArg _ hwritten) hinOrder ?_ ?_
      · intro eid r
        split at hforce
        · rw [hforce, ← hcarries.counts]
          simp [derivedAttemptCounts]
        · rw [hforce]
      · intro id hid
        split at hforce
        · obtain ⟨b, hb, hbid⟩ := hcarries.ids id hid
          exact ⟨b, by simp [hforce, hb], hbid⟩
        · rwa [hforce]

/-! ## The other steps -/

lemma Accounted.complete {input : CompleteRecoveryAttemptInput} :
    Accounted rt contract ⟨(RecoveryOp.complete now input).apply rt s.dir, s.written ++ []⟩ := by
  rw [← h.contract_eq] at hcompiled
  have hcontract := (RecoveryOp.complete now input).apply_contract rt s.dir
  have happly : (RecoveryOp.complete now input).apply rt s.dir =
      (completeRecoveryAttempt rt now (restored rt s.dir).contract input (restored rt s.dir)).2 := by
    rw [RecoveryOp.apply, complete_restored h.inOrder hcompiled]
  obtain ⟨hinOrder, hcarries, _⟩ := h.inOrder.complete_quiet now input
  rw [← happly] at hinOrder hcarries
  have hsame := restored_of_accepts rt hinOrder.accepts
  exact h.carry hcontract (append_nil _) (hsame.symm ▸ hinOrder) (hsame.symm ▸ hcarries)

end

lemma Accounted.elsewhere
    (next : LoopLedger) (lock : Option LoopLockRecord) :
    Accounted rt contract ⟨(RecoveryOp.elsewhere next lock).apply rt s.dir, s.written ++ []⟩ := by
  have haccepts : ((RecoveryOp.elsewhere next lock).apply rt s.dir).contract.accepts rt
      ((RecoveryOp.elsewhere next lock).apply rt s.dir).ledger =
        s.dir.contract.accepts rt s.dir.ledger := accepts_congr rt rfl rfl rfl rfl
  cases hacc : s.dir.contract.accepts rt s.dir.ledger with
  | true =>
    have hsame := restored_of_accepts rt hacc
    have hsame' := restored_of_accepts rt (haccepts.trans hacc)
    have hinOrder := h.inOrder
    rw [hsame] at hinOrder
    refine h.carry rfl (append_nil _) ?_ ?_
    · rw [hsame']
      exact RecoveryOp.inOrder_elsewhere hinOrder next lock
    · rw [hsame, hsame']
      exact Carries.refl _
  | false =>
    -- a rejected generation is replaced in both directories by the same one
    cases hlast : s.dir.lastValid with
    | none =>
      have hinOrder := h.inOrder.accepts
      simp [restored, hacc, hlast] at hinOrder
    | some last =>
      have hledger : (restored rt ((RecoveryOp.elsewhere next lock).apply rt s.dir)).ledger =
          (restored rt s.dir).ledger := by
        have hlast' : ((RecoveryOp.elsewhere next lock).apply rt s.dir).lastValid = some last := hlast
        simp only [restored, haccepts, hacc, hlast, hlast']
        rfl
      have hdir : (restored rt ((RecoveryOp.elsewhere next lock).apply rt s.dir)).contract =
          (restored rt s.dir).contract := by
        rw [restored_contract, restored_contract]
        rfl
      have hrows : rowsOf rt (restored rt ((RecoveryOp.elsewhere next lock).apply rt s.dir)) =
          rowsOf rt (restored rt s.dir) := by
        rw [rowsOf, hdir, hledger]
        rfl
      refine h.carry rfl (append_nil _) ⟨?_, fun a ha => ?_⟩ ?_
      · rw [hdir, hledger]
        exact h.inOrder.accepts
      · rw [hdir, hledger] at ha
        exact h.inOrder.named a ha
      · rw [hrows]
        exact Carries.refl _

end

/-! ## Replays -/

/-- The budgets of an item, as the next read returns them. -/
def budgetsInForce (rt : JsRuntime) (d : RunDir) (id : String) : Option (JsObject ℚ) :=
  ((itemsInForce rt d).get? id).map (·.recoveryBudgetsRemaining)

lemma itemsInForce_eq_restored (h : InOrder rt (restored rt d)) : itemsInForce rt d = (restored rt d).ledger.items := by
  have haccepts := h.accepts
  unfold restored at haccepts ⊢
  split
  · next hacc => exact itemsInForce_of_accepts rt hacc
  · next hacc =>
    rw [if_neg hacc] at haccepts
    split
    · next last hlast =>
      rw [hlast] at haccepts
      have hvalid : d.contract.accepts rt last = true := by simpa using haccepts
      simp [itemsInForce, hacc, hlast, hvalid]
    · next hlast =>
      rw [hlast] at haccepts
      exact absurd haccepts hacc

lemma upgradeItem_budgets (item : LoopItemLedgerEntry) :
    (upgradeItem rt item).recoveryBudgetsRemaining = item.recoveryBudgetsRemaining := by
  unfold upgradeItem
  repeat' split
  all_goals rfl

lemma InOrder.start_replayed (h : InOrder rt (restored rt d))
    (hcompiled : compileRecoveryPolicy d.contract.recoveryPolicy = .ok compiled) (now : Instant)
    (hctx : claimOf rt (restored rt d) input = .ok ctx) (hreplays : ctx.Replays rt) :
    appended rt d (.start now input) = [] ∧ ∀ id, budgetsInForce rt ((RecoveryOp.start now input).apply rt d) id =
        budgetsInForce rt d id := by
  have hdir := restored_contract rt d
  have happly : (RecoveryOp.start now input).apply rt d =
      (startRecoveryAttempt rt now (restored rt d).contract input (restored rt d)).2 := by
    rw [RecoveryOp.apply, start_restored h hcompiled]
  rcases h.start_cases (hdir ▸ hcompiled) now input with ⟨⟨hinOrder, _, hlength⟩, hitems⟩ | ⟨ctx', _, hctx', hnew, _⟩
  · rw [← happly] at hinOrder hlength hitems
    refine ⟨by simp [appended, ← hlength], fun id => ?_⟩
    rw [budgetsInForce, budgetsInForce, itemsInForce_of_accepts rt hinOrder.accepts, itemsInForce_eq_restored h]
    rcases hitems with hsame | hupgraded
    · rw [hsame]
    · have hget : ((RecoveryOp.start now input).apply rt d).ledger.items.get? id =
          ((restored rt d).ledger.items.get? id).map (upgradeItem rt) := by
        rw [hupgraded]
        exact JsObject.get?_mapEntries _ _ _
      rw [hget, Option.map_map]
      congr 1
      funext item
      exact upgradeItem_budgets item
  · cases hctx.symm.trans hctx'
    exact absurd hreplays hnew

/-! ## Every run -/

lemma perStrategyBound_nonneg {cls : DurableBlockerClass} {entry : RecoveryPolicyEntry}
    (h : isRecoveryPolicyEntry cls entry = true) : 0 ≤ perStrategyBound entry := by
  simp only [isRecoveryPolicyEntry, Bool.and_eq_true, decide_eq_true_eq] at h
  have hbudget : 0 ≤ entry.retryBudget := h.1.1.1
  unfold perStrategyBound
  split
  · split
    · assumption
    · exact hbudget
  · exact hbudget

/-- Over every run that starts without attempts and in which every started claim stands: the claims
ever started of a strategy, in an episode and for a class, are within the bound of the class, and a
start whose attempt was recorded before appends nothing and changes no budget. -/
theorem started_claims_bounded {d : RunDir} {s : Watched} {ops : List RecoveryOp}
    {compiled : RecoveryPolicy}
    (hcompiled : compileRecoveryPolicy d.contract.recoveryPolicy = .ok compiled)
    (haccepts : d.contract.accepts rt d.ledger = true) (hempty : d.ledger.recoveryAttempts = [])
    (hrun : Run (Watched.step rt) (fun s op => op.Counted rt s.dir) ⟨d, []⟩ ops s) :
    (∀ eid cls r, isReviewFindingsPrepUnlink cls (some r) = false → (s.written.countP (isStartedClaim eid cls r) : ℚ) ≤
        perStrategyBound (effectivePolicy d.contract.recoveryPolicy cls)) ∧
    ∀ now input ctx, claimOf rt (restored rt s.dir) input = .ok ctx → (ctx.Replays rt ∨
        ∃ a ∈ s.written, a.outcome = .started ∧ a.attemptId = some (ctx.attemptId rt)) →
      appended rt s.dir (.start now input) = [] ∧
        ∀ id, budgetsInForce rt ((RecoveryOp.start now input).apply rt s.dir) id = budgetsInForce rt s.dir id := by
  have hinit : Accounted rt d.contract ⟨d, []⟩ := by
    refine ⟨rfl, ?_, fun eid r => by simp, fun eid cls r _ => ?_, by simp⟩
    · rw [restored_of_accepts rt haccepts]
      refine ⟨haccepts, fun a ha => ?_⟩
      have hnil : (d.contract.normalize rt d.ledger).recoveryAttempts = [] := by
        simp [LoopContract.normalize, normalizeRecoveryLedgerCompatibility, hempty]
      simp [hnil] at ha
    · simpa using perStrategyBound_nonneg (isRecoveryPolicyEntry_of_compiled hcompiled cls)
  have hend : Accounted rt d.contract s := by
    refine hrun.invariant (fun s op s' hsafe hs hstep => ?_) hinit
    obtain rfl := Option.some.inj hstep
    cases op with
    | start now input => exact hs.start hcompiled hsafe
    | complete now input => exact hs.complete hcompiled
    | elsewhere next lock => exact hs.elsewhere next lock
    | supersede now token itemId select => exact hsafe.elim
    | cool now token cooling => exact hsafe.elim
  refine ⟨hend.bounded, fun now input ctx hctx hrecorded => ?_⟩
  have hreplays : ctx.Replays rt := by
    rcases hrecorded with hreplays | ⟨a, ha, hstarted, hid⟩
    · exact hreplays
    · obtain ⟨id, hid', hrow⟩ := hend.onRecord a ha hstarted
      obtain rfl : id = ctx.attemptId rt := Option.some.inj (hid'.symm.trans hid)
      obtain ⟨b, hb, hbid⟩ := hend.inOrder.carries_seen.ids _ hrow
      rw [ClaimContext.Replays, (claimContext_eq_ok hctx).attempts_eq]
      exact any_eq_true.2 ⟨b, hb, by simp [hbid]⟩
  exact hend.inOrder.start_replayed (hend.contract_eq ▸ hcompiled) now hctx hreplays

end Bounds

/-! ## Lost claims -/

/-- The third claim of the login finds its bound spent; its row is lost, and the two started ones
stay within the bound. -/
theorem login_claims_bounded :
    ∃ s, Run (Watched.step (.onFirstDay loginDigests))
        (fun s op => op.Counted (.onFirstDay loginDigests) s.dir) ⟨loginRun, []⟩
        [loginClaim 1, loginClaim 2, loginClaim 3] s ∧
      s.written.map (·.outcome) = [.started, .started, .exhausted] ∧
      (s.written.countP (isStartedClaim
        "b61a56b2df4276ce8083b0b87db1e74114104e89175b06a08e5328bcca2b1ed9" .environmentAuth
        .verifyAuthentication) : ℚ) ≤
        perStrategyBound (effectivePolicy defaultRecoveryPolicy .environmentAuth) := by
  obtain ⟨s, hrun, hwritten⟩ : ∃ s, Run (Watched.step (.onFirstDay loginDigests))
      (fun s op => op.Counted (.onFirstDay loginDigests) s.dir) ⟨loginRun, []⟩
      [loginClaim 1, loginClaim 2, loginClaim 3] s ∧
      s.written.map (·.outcome) = [.started, .started, .exhausted] :=
    Run.exists_of_exec _ (by decide +kernel)
  have hcompiled := compileRecoveryPolicy_eq_ok.2 ⟨rfl, compileEntryFault_default⟩
  exact ⟨s, hrun, hwritten, (started_claims_bounded hcompiled (by decide +kernel) rfl hrun).1 _ _ _ rfl⟩

def restartFingerprint : String :=
  "baabdbb997b44d2c3179e4c9f9ae2d836b27154f93d2c9c83c30a3de8ce7207b"

def restartEpisode : String :=
  "11f4885ba3b3291e11c11ab0caec31b01f48077842f82b4a41ba571b303c2f75"

def restartDigests : List (String × String) :=
  [("\x00".intercalate
        ["pipeline-recovery-attempt@1", "12", "a1b2c3|attempt=1", restartFingerprint, "restart_workflow_engine"],
      "be108a43765fb07b205d6886cb28d14b009da12d2498427c4668c29301a61cc2"),
    ("\x00".intercalate
        ["pipeline-recovery-episode@1", "loop_recovery", "workflow-engine-defect", "a1b2c3", restartFingerprint],
      restartEpisode)]

/-- A run whose contract still has the workflow-engine entry from before the Tester-rebind
strategy. -/
def legacyRun : RunDir :=
  { loginRun with
    contract := { loginRun.contract with
      recoveryPolicy := fun cls =>
        if cls = .workflowEngineDefect then pre1468WorkflowEntry else defaultRecoveryPolicy cls }
    ledger :=
      { runId := "r"
        items := JsObject.empty.set "12"
          { id := "12", state := .blocked, blockedTheme := some "workflow-engine-defect"
            evidenceFingerprint := some restartFingerprint } } }

def restartClaim : RecoveryOp :=
  .start .epoch
    { token := "t", itemId := "12", engine := .claude, action := .restartWorkflowEngine
      candidateIdentity := some "a1b2c3|attempt=1", minted := "op" }

def RecoveryOp.isStartOrComplete : RecoveryOp → Bool
  | .start _ _ | .complete _ _ => true
  | _ => false

lemma compileRecoveryPolicy_legacyRun : compileRecoveryPolicy legacyRun.contract.recoveryPolicy =
      .ok legacyRun.contract.recoveryPolicy := by
  refine compileRecoveryPolicy_eq_ok.2 ⟨rfl, fun cls => ?_⟩
  cases cls <;> decide +kernel

/-- Normalization sets the cursor of the claim back below the strategies that the claim passed
over, so the row is rejected and lost, and the same claim is started again: three times where the
bound is two. -/
theorem legacy_claims_exceed_bound :
    ¬∀ (rt : JsRuntime) (d : RunDir) (s : Watched) (ops : List RecoveryOp)
        (compiled : RecoveryPolicy),
      compileRecoveryPolicy d.contract.recoveryPolicy = .ok compiled →
      d.contract.accepts rt d.ledger = true → d.ledger.recoveryAttempts = [] →
      Run (Watched.step rt) (fun _ op => op.isStartOrComplete = true) ⟨d, []⟩ ops s →
      ∀ eid cls r, isReviewFindingsPrepUnlink cls (some r) = false →
        (s.written.countP (isStartedClaim eid cls r) : ℚ) ≤
          perStrategyBound (effectivePolicy d.contract.recoveryPolicy cls) := by
  intro h
  obtain ⟨s, hrun, hcount⟩ : ∃ s, Run (Watched.step (.onFirstDay restartDigests))
      (fun _ op => op.isStartOrComplete = true) ⟨legacyRun, []⟩
      [restartClaim, restartClaim, restartClaim] s ∧
      s.written.countP
        (isStartedClaim restartEpisode .workflowEngineDefect .restartWorkflowEngine) = 3 :=
    Run.exists_of_exec _ (by decide +kernel)
  have hbound := h _ _ _ _ _ compileRecoveryPolicy_legacyRun (by decide +kernel) rfl hrun
    restartEpisode .workflowEngineDefect .restartWorkflowEngine rfl
  have htwo : perStrategyBound (effectivePolicy legacyRun.contract.recoveryPolicy
      .workflowEngineDefect) = 2 := by decide +kernel
  rw [hcount, htwo] at hbound
  norm_num at hbound

end AgentPipeline.Loop
