import AgentPipeline.Loop.RecoveryBounds

/-!
# CursorMonotone: whether the strategy cursor of an episode ever goes back

The engine advances the cursor of an episode with every claim, but what the next read finds is
another matter: the compatibility normalization rebases the cursor under the policy from before
the Tester-rebind strategy, and a rejected generation takes its rows with it.

A run of reads, starts, completions and writes is watched together with the rows that its starts
returned, as the engine computed them. `cursorInForce` is the cursor of the newest row of an
episode; every step that is no start keeps it, and a start raises it to the cursor of the new row
when `claimKeepsCursor` holds.
-/

namespace AgentPipeline.Loop

open Transition (Run)

section Cursor

variable {rt : JsRuntime}

/-! ## The cursor in force -/

/-- The cursor of the newest row of an episode. -/
def cursorInForce (rows : List LoopRecoveryAttempt) (eid : String) : Nat :=
  ((episodeRows rows eid).getLast?.bind (·.strategyCursor)).getD 0

lemma cursorInForce_refit {rows rows' : List LoopRecoveryAttempt}
    (h : List.Forall₂ (Refits rt) rows rows') (eid : String) : cursorInForce rows' eid = cursorInForce rows eid := by
  have hrows := Refits.episodeRows h eid
  unfold cursorInForce
  cases hlatest : (episodeRows rows' eid).getLast? with
  | none =>
    have hnil : episodeRows rows' eid = [] := List.getLast?_eq_none_iff.1 hlatest
    rw [hnil, List.forall₂_nil_right_iff] at hrows
    simp [hrows]
  | some latest' =>
    obtain ⟨latest, hlatest₀, hfit⟩ := forall₂_getLast? hrows hlatest
    simp [hlatest₀, hfit.strategyCursor]

lemma cursorInForce_append (rows : List LoopRecoveryAttempt) (a : LoopRecoveryAttempt)
    (eid : String) :
    cursorInForce (rows ++ [a]) eid =
      if a.episodeId = some eid then a.strategyCursor.getD 0 else cursorInForce rows eid := by
  unfold cursorInForce episodeRows
  split
  · next hid => simp [hid]
  · next hid => simp [hid]

lemma ClaimContext.episode_cursor {ctx : ClaimContext} {eff : RecoveryPolicy}
    (h : RowsAccepted rt eff ctx.attempts) (time : String) : (ctx.episode rt time).strategyCursor =
      cursorInForce ctx.attempts (recoveryEpisodeId rt ctx.key) := by
  rcases ctx.episode_cases rt eff time h with ⟨hnil, heq⟩ | ⟨latest, hlatest, heq⟩
  · simp [heq, emptyEpisode, cursorInForce, hnil]
  · simp [heq, projectEpisode, cursorInForce, hlatest]

/-! ## Steps -/

/-- The operations that touch the rows of a run. -/
inductive StoreOp where
  | read (now : Instant) (token : Option String)
  | start (now : Instant) (input : StartRecoveryAttemptInput)
  | complete (now : Instant) (input : CompleteRecoveryAttemptInput)
  | write (token : String) (next : LoopLedger)

namespace StoreOp

variable (rt)

def apply (d : RunDir) : StoreOp → RunDir
  | .read now token => (readLedger rt now token d).2
  | .start now input => (startRecoveryAttempt rt now d.contract input d).2
  | .complete now input => (completeRecoveryAttempt rt now d.contract input d).2
  | .write token next => (writeLedger rt token next d).2

/-- The row that a step added, as the engine computed and returned it. A start that answers with
an attempt on record adds none. -/
def returned (d : RunDir) : StoreOp → List LoopRecoveryAttempt
  | .start now input =>
    match startRecoveryAttempt rt now d.contract input d with
    | (.ok (_, attempt), d') =>
      -- a replayed claim is answered from the rows and adds none
      if (restored rt d).ledger.recoveryAttempts.length < d'.ledger.recoveryAttempts.length then
        [attempt]
      else []
    | (.error _, _) => []
  | _ => []

def step (s : Watched) (op : StoreOp) : Option Watched :=
  some { dir := op.apply rt s.dir, written := s.written ++ op.returned rt s.dir }

/-- The claim is on record, or the normalization leaves the cursor of its row alone and the row
stands or does not move the cursor. -/
def claimKeepsCursor (policy : RecoveryPolicy) (time : String) :
    Except LoopError ClaimContext → Prop
  | .ok ctx =>
    ctx.Replays rt ∨ ctx.keptCursor rt policy time = ctx.reach rt time ∧
        (ctx.Stands rt policy time ∨ ctx.reach rt time = (ctx.episode rt time).strategyCursor)
  | .error _ => True

instance (policy : RecoveryPolicy) (time : String) (claim : Except LoopError ClaimContext) :
    Decidable (claimKeepsCursor rt policy time claim) :=
  match claim with
  | .ok _ => inferInstanceAs (Decidable (_ ∨ _))
  | .error _ => inferInstanceAs (Decidable True)

/-- A write puts back the rows that a read returns. -/
def KeepsCursor (d : RunDir) : StoreOp → Prop
  | .start now input =>
    claimKeepsCursor rt d.contract.recoveryPolicy (rt.toISOString now)
      (claimOf rt (restored rt d) input)
  | .write _ next =>
    next.recoveryAttempts.map (normalizeAttempt rt d.contract.recoveryPolicy) = rowsOf rt (restored rt d)
  | .read _ _ | .complete _ _ => True

instance (d : RunDir) (op : StoreOp) : Decidable (op.KeepsCursor rt d) :=
  match op with
  | .start _ _ => inferInstanceAs (Decidable (claimKeepsCursor _ _ _ _))
  | .write _ _ => inferInstanceAs (Decidable (_ = _))
  | .read _ _ | .complete _ _ => inferInstanceAs (Decidable True)

end StoreOp

/-! ## Steps that keep the cursor -/

variable {d : RunDir}

lemma InOrder.refits_seen (h : InOrder rt d) :
    List.Forall₂ (Refits rt) (rowsOf rt d) (seenLedger rt d).recoveryAttempts := by
  refine List.forall₂_map_right_iff.2 (List.forall₂_same.2 fun a ha => ?_)
  obtain ⟨b, _, rfl⟩ := List.mem_map.1 ha
  exact (refits_upgrade rt (normalizeAttempt_idem rt _ b) (h.named _ ha)).1

variable {next : LoopLedger}

lemma rowsOf_of_write {d' : RunDir} (hcontract : d'.contract = d.contract)
    (hledger : d'.ledger = d.contract.normalize rt next) :
    rowsOf rt d' = next.recoveryAttempts.map (normalizeAttempt rt d.contract.recoveryPolicy) := by
  rw [rowsOf, hcontract, hledger, normalize_normalize]
  rfl

lemma InOrder.complete_cursor (h : InOrder rt d) (now : Instant) (input : CompleteRecoveryAttemptInput) (eid : String) :
    cursorInForce (rowsOf rt (completeRecoveryAttempt rt now d.contract input d).2) eid =
      cursorInForce (rowsOf rt d) eid := by
  unfold completeRecoveryAttempt
  split
  · rfl
  · next contract _ =>
    let decide := fun ledger =>
      decideComplete rt now contract input (upgradeLedgerForRecovery rt ledger)
    have hsame := sameRun_transact rt now (some input.token) input.token decide d
    obtain hsame' | ⟨result, next, hdecide, _, hledger, _⟩ :=
      h.transact_cases now (some input.token) input.token decide
    · rw [hsame']
    · rw [rowsOf_of_write hsame.contract hledger, ← cursorInForce_refit h.refits_seen]
      obtain ⟨_, hseen | ⟨claim, hclaim, hstarted, hsettled⟩⟩ := h.complete_writes hdecide
      · rw [hseen, map_normalize_of_normal h.goodRows.normal]
      · have hrows := (h.goodRows.complete hclaim hstarted input (rt.toISOString now)).1
        rw [hsettled, map_normalize_of_normal hrows.normal]
        -- settling a claim changes its outcome, not its cursor
        apply cursorInForce_refit
        refine forall₂_modify (Refits.refl rt) fun a ha => ?_
        rw [← List.find?_eq_getElem?_findIdx, hclaim] at ha
        obtain rfl := Option.some.inj ha
        exact (settles_completed hstarted input (rt.toISOString now)).1.1

lemma readLedger_dir (h : InOrder rt (restored rt d)) (now : Instant) (token : Option String) :
    readLedger rt now token d =
      (.ok ((restored rt d).contract.normalize rt (restored rt d).ledger), restored rt d) := by
  rw [readLedger_eq_restored h, readLedger_of_accepts rt now h.accepts]

lemma restored_restored (h : InOrder rt (restored rt d)) : restored rt (restored rt d) = restored rt d :=
  restored_of_accepts rt h.accepts

lemma InOrder.of_normalize {d' : RunDir} (h : InOrder rt d) (hcontract : d'.contract = d.contract)
    (hledger : d.contract.normalize rt d'.ledger = d.contract.normalize rt d.ledger) :
    InOrder rt d' ∧ rowsOf rt d' = rowsOf rt d := by
  refine ⟨⟨?_, ?_⟩, ?_⟩
  · rw [hcontract, ← accepts_normalize, hledger, accepts_normalize]
    exact h.accepts
  · rw [hcontract, hledger]
    exact h.named
  · rw [rowsOf, rowsOf, hcontract, hledger]

lemma InOrder.write_rows (h : InOrder rt (restored rt d)) (token : String)
    (hrows : next.recoveryAttempts.map (normalizeAttempt rt d.contract.recoveryPolicy) = rowsOf rt (restored rt d)) :
    InOrder rt (restored rt (writeLedger rt token next d).2) ∧
      rowsOf rt (restored rt (writeLedger rt token next d).2) = rowsOf rt (restored rt d) := by
  unfold writeLedger
  dsimp only
  split
  · exact ⟨h, rfl⟩
  · split
    · exact ⟨h, rfl⟩
    · by_cases hnext : d.contract.accepts rt next = true
      · -- the written generation passes
        rw [restored_of_accepts rt (by simpa using hnext)]
        have hsame : (d.contract.normalize rt (d.contract.normalize rt next)).recoveryAttempts =
            rowsOf rt (restored rt d) := by
          rw [normalize_normalize, ← hrows]
          rfl
        have hnamed : ∀ a ∈ rowsOf rt (restored rt d), NamedRow a := h.named
        exact ⟨⟨by simpa using hnext, hsame.symm ▸ hnamed⟩, hsame⟩
      · -- it is rejected, and what was in force before is restored
        apply h.of_normalize
        · rw [restored_contract, restored_contract]
        · by_cases hacc : d.contract.accepts rt d.ledger = true
          · rw [restored_contract]
            simp [restored, hnext, hacc]
          · rw [restored_contract]
            cases hlast : d.lastValid with
            | none =>
              have haccepts := h.accepts
              simp [restored, hacc, hlast] at haccepts
            | some last => simp [restored, hnext, hacc, hlast]

/-! ## The invariant -/

/-- No row that the engine returned is ahead of the cursor in force. -/
structure CursorsKept (rt : JsRuntime) (contract : LoopContract) (s : Watched) : Prop where
  contract_eq : s.dir.contract = contract
  inOrder : InOrder rt (restored rt s.dir)
  behind : ∀ w ∈ s.written, ∀ eid, w.episodeId = some eid → ∀ cursor,
    w.strategyCursor = some cursor → cursor ≤ cursorInForce (rowsOf rt (restored rt s.dir)) eid

variable {contract : LoopContract} {s : Watched} {compiled : RecoveryPolicy}

section

variable (h : CursorsKept rt contract s)
include h

lemma CursorsKept.keep (hcontract : d.contract = s.dir.contract) (hinOrder : InOrder rt (restored rt d))
    (hcursors : ∀ eid, cursorInForce (rowsOf rt (restored rt d)) eid =
      cursorInForce (rowsOf rt (restored rt s.dir)) eid) : CursorsKept rt contract ⟨d, s.written ++ []⟩ := by
  refine ⟨hcontract.trans h.contract_eq, hinOrder, fun w hw eid hid cursor hcursor => ?_⟩
  rw [hcursors]
  exact h.behind w (by simpa using hw) eid hid cursor hcursor

lemma CursorsKept.read (now : Instant) (token : Option String) :
    CursorsKept rt contract ⟨(readLedger rt now token s.dir).2, s.written ++ []⟩ := by
  rw [readLedger_dir h.inOrder]
  apply h.keep (restored_contract rt s.dir)
  · rw [restored_restored h.inOrder]
    exact h.inOrder
  · intro eid
    rw [restored_restored h.inOrder]

lemma CursorsKept.write {token : String} (hsafe : (StoreOp.write token next).KeepsCursor rt s.dir) :
    CursorsKept rt contract ⟨(writeLedger rt token next s.dir).2, s.written ++ []⟩ := by
  obtain ⟨hinOrder, hrows⟩ := h.inOrder.write_rows token hsafe
  apply h.keep (sameRun_writeLedger rt token next s.dir).contract hinOrder
  intro eid
  rw [hrows]

lemma CursorsKept.complete (hcompiled : compileRecoveryPolicy contract.recoveryPolicy = .ok compiled) (now : Instant)
    (input : CompleteRecoveryAttemptInput) : CursorsKept rt contract
      ⟨(completeRecoveryAttempt rt now s.dir.contract input s.dir).2, s.written ++ []⟩ := by
  rw [← h.contract_eq] at hcompiled
  obtain ⟨hinOrder, _⟩ :
      InOrder rt (completeRecoveryAttempt rt now (restored rt s.dir).contract input
        (restored rt s.dir)).2 ∧ _ := h.inOrder.complete
  have hcursor := h.inOrder.complete_cursor now input
  have hcontract : (completeRecoveryAttempt rt now s.dir.contract input s.dir).2.contract =
      s.dir.contract := (RecoveryOp.complete now input).apply_contract rt s.dir
  rw [← complete_restored h.inOrder hcompiled] at hinOrder hcursor
  have hdir := restored_of_accepts rt hinOrder.accepts
  apply h.keep hcontract
  · rw [hdir]
    exact hinOrder
  · intro eid
    rw [hdir, hcursor]

/-! ## One start -/

lemma CursorsKept.grow {w : LoopRecoveryAttempt}
    (hcontract : d.contract = s.dir.contract) (hinOrder : InOrder rt (restored rt d))
    (hgrow : ∀ eid, cursorInForce (rowsOf rt (restored rt s.dir)) eid ≤ cursorInForce (rowsOf rt (restored rt d)) eid)
    (hw : ∀ eid, w.episodeId = some eid → ∀ cursor, w.strategyCursor = some cursor →
      cursor ≤ cursorInForce (rowsOf rt (restored rt d)) eid) : CursorsKept rt contract ⟨d, s.written ++ [w]⟩ := by
  refine ⟨hcontract.trans h.contract_eq, hinOrder, fun v hv eid hid cursor hcursor => ?_⟩
  rcases List.mem_append.1 hv with hold | hnew
  · exact (h.behind v hold eid hid cursor hcursor).trans (hgrow eid)
  · obtain rfl := List.mem_singleton.1 hnew
    exact hw eid hid cursor hcursor

end

variable {now : Instant} {input : StartRecoveryAttemptInput}

lemma returned_of_length (h : (startRecoveryAttempt rt now d.contract input d).2.ledger.recoveryAttempts.length ≤
      (restored rt d).ledger.recoveryAttempts.length) : (StoreOp.start now input).returned rt d = [] := by
  simp only [StoreOp.returned]
  split
  · next hresult =>
    rw [hresult] at h
    simp [h]
  · rfl

lemma returned_of_answer {after : LoopLedger} {w : LoopRecoveryAttempt}
    (hanswer : (startRecoveryAttempt rt now d.contract input d).1 = .ok (after, w))
    (h : (restored rt d).ledger.recoveryAttempts.length <
      (startRecoveryAttempt rt now d.contract input d).2.ledger.recoveryAttempts.length) :
    (StoreOp.start now input).returned rt d = [w] := by
  simp only [StoreOp.returned]
  split
  · next hresult =>
    rw [hresult] at h hanswer
    cases hanswer
    simp [h]
  · next hresult =>
    rw [hresult] at hanswer
    simp at hanswer

lemma ClaimContext.row_cursor (rt : JsRuntime) (ctx : ClaimContext) (time notBefore : String) :
    (ctx.row rt time notBefore).strategyCursor = some (ctx.reach rt time) ∧
      (ctx.row rt time notBefore).episodeId = some (ctx.episode rt time).episodeId :=
  ⟨congrArg some (ctx.claimed_claimed rt time notBefore).cursor,
    congrArg some (ctx.claimed_claimed rt time notBefore).episodeId⟩

section

variable (h : CursorsKept rt contract s)
include h

lemma CursorsKept.claim (hcompiled : compileRecoveryPolicy (restored rt s.dir).contract.recoveryPolicy = .ok compiled)
    {ctx : ClaimContext} {eligible : Instant} (hctx : claimOf rt (restored rt s.dir) input = .ok ctx) (hnew : ¬ctx.Replays rt)
    (hsafe : (StoreOp.start now input).KeepsCursor rt s.dir) (hcontract : d.contract = s.dir.contract)
    (happended : Appended rt (restored rt s.dir) d ctx (rt.toISOString now) (rt.toISOString eligible))
    (hstanding : ctx.Stands rt (restored rt s.dir).contract.recoveryPolicy (rt.toISOString now) →
      (restored rt s.dir).contract.accepts rt d.ledger = true) :
    CursorsKept rt contract ⟨d, s.written ++ [ctx.row rt (rt.toISOString now) (rt.toISOString eligible)]⟩ := by
  have hdir : (restored rt s.dir).contract = s.dir.contract := restored_contract rt s.dir
  have hunder := h.inOrder.under hcompiled hctx
  have hattempts := (claimContext_eq_ok hctx).attempts_eq
  have hforce₀ : ∀ eid, cursorInForce (seenLedger rt (restored rt s.dir)).recoveryAttempts eid =
      cursorInForce (rowsOf rt (restored rt s.dir)) eid :=
    cursorInForce_refit h.inOrder.refits_seen
  have hepisode : (ctx.episode rt (rt.toISOString now)).strategyCursor = cursorInForce (rowsOf rt (restored rt s.dir))
        (ctx.episode rt (rt.toISOString now)).episodeId := by
    rw [ClaimContext.episode_cursor hunder.rows, hattempts, (ctx.episode_id rt _ _ hunder.rows).1]
    exact hforce₀ _
  simp only [StoreOp.KeepsCursor, hctx, StoreOp.claimKeepsCursor] at hsafe
  obtain ⟨hkept, hmoves⟩ := hsafe.resolve_left hnew
  rw [← hdir] at hkept hmoves
  have hreach : (ctx.episode rt (rt.toISOString now)).strategyCursor ≤
      ctx.reach rt (rt.toISOString now) := le_max_left _ _
  obtain ⟨hcursor, hid⟩ :=
    ctx.row_cursor rt (rt.toISOString now) (rt.toISOString eligible)
  obtain ⟨hinOrder, hforce⟩ :=
    h.inOrder.restored_append (hcontract.trans hdir.symm) happended
  split at hforce
  · -- the row passes and is the newest of its episode
    have hnewest : ∀ eid, cursorInForce (rowsOf rt (restored rt d)) eid =
        if (ctx.episode rt (rt.toISOString now)).episodeId = eid then
          ctx.reach rt (rt.toISOString now)
        else cursorInForce (rowsOf rt (restored rt s.dir)) eid := by
      intro eid
      rw [hforce, cursorInForce_append, ClaimContext.keptRow_episodeId, hforce₀]
      simp [ClaimContext.keptRow, hkept]
    refine h.grow hcontract hinOrder (fun eid => ?_) fun eid heid cursor hc => ?_
    · rw [hnewest]
      split
      · next heq => exact heq ▸ hepisode ▸ hreach
      · exact le_rfl
    · obtain rfl := Option.some.inj (hid.symm.trans heid)
      obtain rfl := Option.some.inj (hcursor.symm.trans hc)
      simp [hnewest]
  · next hrejected =>
    -- the row is lost, so it does not stand
    have hsame := hmoves.resolve_left fun hstands => hrejected (hstanding hstands)
    refine h.grow hcontract hinOrder (fun eid => by rw [hforce]) fun eid heid cursor hc => ?_
    obtain rfl := Option.some.inj (hid.symm.trans heid)
    obtain rfl := Option.some.inj (hcursor.symm.trans hc)
    rw [hforce, hsame, hepisode]

variable (hcompiled : compileRecoveryPolicy contract.recoveryPolicy = .ok compiled)
include hcompiled

lemma CursorsKept.start (hsafe : (StoreOp.start now input).KeepsCursor rt s.dir) :
    CursorsKept rt contract ⟨(startRecoveryAttempt rt now s.dir.contract input s.dir).2,
        s.written ++ (StoreOp.start now input).returned rt s.dir⟩ := by
  rw [← h.contract_eq] at hcompiled
  have hdir : (restored rt s.dir).contract = s.dir.contract := restored_contract rt s.dir
  have hcontract : (startRecoveryAttempt rt now s.dir.contract input s.dir).2.contract =
      s.dir.contract := startRecoveryAttempt_contract s.dir now input
  have hstart := start_restored h.inOrder hcompiled now input
  have hlength : (seenLedger rt (restored rt s.dir)).recoveryAttempts.length =
      (restored rt s.dir).ledger.recoveryAttempts.length := by
    simp [seenLedger, upgradeLedgerForRecovery, LoopContract.normalize, normalizeRecoveryLedgerCompatibility]
  rw [← hdir] at hcompiled
  rcases h.inOrder.start_outcomes hcompiled now input with
    hsame | ⟨next, hgood, hseen, _, hledger⟩ |
      ⟨ctx, eligible, after, hctx, hnew, hanswer, happended⟩
  · -- nothing was written
    rw [← hstart] at hsame
    rw [returned_of_length (by rw [hsame]), hsame]
    apply h.keep hdir
    · rw [restored_restored h.inOrder]
      exact h.inOrder
    · intro eid
      rw [restored_restored h.inOrder]
  · -- the rows that were seen are written back
    rw [← hstart] at hledger
    have hinOrder := hgood.inOrder h.inOrder (hcontract.trans hdir.symm) hledger
    have hrowsOf := rowsOf_of_write (hcontract.trans hdir.symm) hledger
    rw [hseen, map_normalize_of_normal h.inOrder.goodRows.normal] at hrowsOf
    have hforce := restored_of_accepts rt hinOrder.accepts
    have hsize : (startRecoveryAttempt rt now s.dir.contract input s.dir).2.ledger.recoveryAttempts.length =
          (restored rt s.dir).ledger.recoveryAttempts.length := by
      rw [← hlength, hledger, ← hseen]
      simp [LoopContract.normalize, normalizeRecoveryLedgerCompatibility]
    rw [returned_of_length hsize.le]
    apply h.keep hcontract
    · rw [hforce]
      exact hinOrder
    · intro eid
      rw [hforce, hrowsOf, cursorInForce_refit h.inOrder.refits_seen]
  · -- the row of a new claim is appended
    have hstanding : ctx.Stands rt (restored rt s.dir).contract.recoveryPolicy
        (rt.toISOString now) → (restored rt s.dir).contract.accepts rt
          (startRecoveryAttempt rt now s.dir.contract input s.dir).2.ledger = true := by
      intro hstands
      have haccepts := (h.inOrder.start hcompiled fun ctx' hctx' _ => by
        cases hctx.symm.trans hctx'
        exact hstands).1.accepts
      rw [← hstart, hcontract] at haccepts
      rw [hdir]
      exact haccepts
    rw [← hstart] at hanswer happended
    rw [returned_of_answer hanswer (by rw [happended.rows, ← hlength]; simp)]
    exact h.claim hcompiled hctx hnew hsafe hcontract happended hstanding

/-! ## Every run -/

lemma CursorsKept.step {op : StoreOp}
    {s' : Watched} (hsafe : op.KeepsCursor rt s.dir) (hstep : op.step rt s = some s') : CursorsKept rt contract s' := by
  obtain rfl := Option.some.inj hstep
  cases op with
  | read now token => exact h.read now token
  | start now input => exact h.start hcompiled hsafe
  | complete now input => exact h.complete hcompiled now input
  | write token next => exact h.write hsafe

end

/-- Over every run whose starts keep the cursor and whose writes put back the rows they read: the
next read returns a ledger, and the newest row of an episode in it is at least as far as every row
of the episode that the engine has added. -/
theorem cursor_never_regresses {d : RunDir} {ops : List StoreOp}
    (hcompiled : compileRecoveryPolicy d.contract.recoveryPolicy = .ok compiled)
    (haccepts : d.contract.accepts rt d.ledger = true)
    (hnamed : ∀ a ∈ (d.contract.normalize rt d.ledger).recoveryAttempts, NamedRow a)
    (hrun : Run (StoreOp.step rt) (fun s op => op.KeepsCursor rt s.dir)
      ⟨d, []⟩ ops s) (now : Instant) (token : Option String) :
    ∃ ledger, (readLedger rt now token s.dir).1 = .ok ledger ∧
      ∀ eid latest, (episodeRows ledger.recoveryAttempts eid).getLast? = some latest →
        ∀ w ∈ s.written, w.episodeId = some eid → ∀ cursor, w.strategyCursor = some cursor →
          ∃ kept, latest.strategyCursor = some kept ∧ cursor ≤ kept := by
  have hinit : CursorsKept rt d.contract ⟨d, []⟩ := by
    refine ⟨rfl, ?_, by simp⟩
    rw [restored_of_accepts rt haccepts]
    exact ⟨haccepts, hnamed⟩
  have hend : CursorsKept rt d.contract s :=
    hrun.invariant (fun s op s' hsafe hs hstep => hs.step hcompiled hsafe hstep) hinit
  refine ⟨_, congrArg Prod.fst (readLedger_dir hend.inOrder now token), ?_⟩
  intro eid latest hlatest w hw hid cursor hcursor
  have hbehind := hend.behind w hw eid hid cursor hcursor
  have hrows := (accepts_iff.1 hend.inOrder.accepts).2.1
  obtain ⟨key, kept, persisted, hauth⟩ := hrows.newest eid latest hlatest
  refine ⟨kept, hauth.cursor_eq, ?_⟩
  have hforce : cursorInForce (rowsOf rt (restored rt s.dir)) eid = kept := by
    have hlatest' : (episodeRows (rowsOf rt (restored rt s.dir)) eid).getLast? = some latest :=
      hlatest
    simp [cursorInForce, hlatest', hauth.cursor_eq]
  rwa [hforce] at hbehind

end Cursor

/-! ## A run under the old policy -/

/-- The digests of the ids of two scratch claims, a checkpoint and a restart claim of item `12`. -/
def scratchDigests : List (String × String) :=
  let claim (identity action : String) : String := "\x00".intercalate
    ["pipeline-recovery-attempt@1", "12", identity, restartFingerprint, action]
  [(claim "a1b2c3|attempt=1" "unlink_engine_scratch",
      "5a11745dab6a51a614eda5f0b2fe9e97965fe31c78cb0213e038b02455d6bc46"),
    (claim "a1b2c3|attempt=2" "unlink_engine_scratch",
      "aef9224eb417d41c1e091ec1db2315eb47c2666f379915ee8cd2f0050e96d323"),
    (claim "a1b2c3|attempt=2" "checkpoint_owned_harness_dirt",
      "8bbeefcb19948a00ecfcb747542e7c9be733dd5ead92f032efb0c9966f847716")] ++ restartDigests

def startOf (action : RecoveryRecipe) (n : Nat) : StoreOp :=
  .start .epoch
    { token := "t", itemId := "12", engine := .claude, action
      candidateIdentity := some ("a1b2c3|attempt=" ++ toString n), minted := "op" }

/-- The first strategies of the sequence keep their cursor even under the old policy. -/
theorem scratch_cursor_kept :
    ∃ s, Run (StoreOp.step (.onFirstDay scratchDigests))
        (fun s op => op.KeepsCursor (.onFirstDay scratchDigests) s.dir) ⟨legacyRun, []⟩
        [startOf .unlinkEngineScratch 1, .read .epoch none, startOf .checkpointOwnedHarnessDirt 2] s ∧
      s.written.map (·.strategyCursor) = [some 0, some 1] ∧
      ∀ now token, ∃ ledger, (readLedger (.onFirstDay scratchDigests) now token s.dir).1 = .ok ledger ∧
        ∀ latest, (episodeRows ledger.recoveryAttempts restartEpisode).getLast? = some latest →
          ∀ w ∈ s.written, w.episodeId = some restartEpisode → ∀ cursor,
            w.strategyCursor = some cursor → ∃ kept, latest.strategyCursor = some kept ∧ cursor ≤ kept := by
  obtain ⟨s, hrun, hwritten⟩ : ∃ s, Run (StoreOp.step (.onFirstDay scratchDigests))
      (fun s op => op.KeepsCursor (.onFirstDay scratchDigests) s.dir) ⟨legacyRun, []⟩
      [startOf .unlinkEngineScratch 1, .read .epoch none, startOf .checkpointOwnedHarnessDirt 2] s ∧
      s.written.map (·.strategyCursor) = [some 0, some 1] :=
    Run.exists_of_exec _ (by decide +kernel)
  refine ⟨s, hrun, hwritten, fun now token => ?_⟩
  have hnamed : ∀ a ∈ (legacyRun.contract.normalize (.onFirstDay scratchDigests)
      legacyRun.ledger).recoveryAttempts, NamedRow a := fun a ha => absurd ha List.not_mem_nil
  obtain ⟨ledger, hread, hcursors⟩ := cursor_never_regresses compileRecoveryPolicy_legacyRun
    (by decide +kernel) hnamed hrun now token
  exact ⟨ledger, hread, fun latest hlatest => hcursors restartEpisode latest hlatest⟩

/-- The restart comes after the inserted strategy, so its row moves the cursor to 4; what is read
back says 3, the place of the strategy that the claim passed over. -/
theorem restart_cursor_regresses :
    ¬∀ (rt : JsRuntime) (d : RunDir) (s : Watched) (ops : List StoreOp) (compiled : RecoveryPolicy),
      compileRecoveryPolicy d.contract.recoveryPolicy = .ok compiled →
      d.contract.accepts rt d.ledger = true → d.ledger.recoveryAttempts = [] →
      Run (StoreOp.step rt) (fun _ op => op matches .start _ _) ⟨d, []⟩ ops s →
      ∀ now token ledger, (readLedger rt now token s.dir).1 = .ok ledger →
        ∀ eid latest, (episodeRows ledger.recoveryAttempts eid).getLast? = some latest →
          ∀ w ∈ s.written, w.episodeId = some eid → ∀ cursor, w.strategyCursor = some cursor →
            ∃ kept, latest.strategyCursor = some kept ∧ cursor ≤ kept := by
  intro h
  obtain ⟨s, hrun, hread, hwritten⟩ : ∃ s, Run (StoreOp.step (.onFirstDay scratchDigests))
      (fun _ op => op matches .start _ _) ⟨legacyRun, []⟩
      [startOf .unlinkEngineScratch 1, startOf .unlinkEngineScratch 2, startOf .restartWorkflowEngine 1] s ∧
      ((readLedger (.onFirstDay scratchDigests) .epoch none s.dir).1.toOption.bind fun ledger =>
        (episodeRows ledger.recoveryAttempts restartEpisode).getLast?.map (·.strategyCursor)) = some (some 3) ∧
      s.written.map (fun w => (w.episodeId, w.strategyCursor)) =
        [(some restartEpisode, some 0), (some restartEpisode, some 0), (some restartEpisode, some 4)] :=
    Run.exists_of_exec _ (by decide +kernel)
  cases hledger : (readLedger (.onFirstDay scratchDigests) .epoch none s.dir).1 with
  | error e => simp [hledger, Except.toOption] at hread
  | ok ledger =>
    rw [hledger] at hread
    obtain ⟨latest, hlatest, hthree⟩ := Option.map_eq_some_iff.1 hread
    obtain ⟨w, hw, hrow⟩ := List.mem_map.1
      (hwritten ▸ (by simp) : (some restartEpisode, some 4) ∈ s.written.map fun w => (w.episodeId, w.strategyCursor))
    obtain ⟨hid, hfour⟩ := Prod.mk.inj hrow
    obtain ⟨kept, hkept, hle⟩ := h _ _ _ _ _ compileRecoveryPolicy_legacyRun (by decide +kernel)
      rfl hrun .epoch none ledger hledger restartEpisode latest hlatest w hw hid 4 hfour
    obtain rfl : kept = 3 := Option.some.inj (hkept.symm.trans hthree)
    omega

end AgentPipeline.Loop
