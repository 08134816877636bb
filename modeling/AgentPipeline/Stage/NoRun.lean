import AgentPipeline.Stage.CiRuns
import AgentPipeline.Stage.ProjectionLaws

/-!
# Stage.NoRun: close and reopen for a head without a check run

`handleZeroRunRecovery` closes and reopens the PR of a head for which no check ran. Its guard is one
remembered head, set after the PR was reopened. `closePr` is recorded as in the ladder, as the side effect
of the class `archiveFail`.

* `inspectZeroRun_evaluate`: the handler and the ladder decide alike;
* `NoRunInv`: the remembered head is the one that was closed last, and the ledger has the closed heads in
  their order;
* `noRun_once`: when a head is closed once.
-/

namespace AgentPipeline.Stage

open List
open Effect (Meets)
open Transition (Run)

/-! ## The handler -/

inductive NoRunOutcome where
  | waiting
  /-- `preMergeBlocked(reason, "needs-human", "ci-failed")`. -/
  | blocked (reason : String)
deriving DecidableEq

def ArchiveInfo.decides (info : ArchiveInfo) : Bool := info.isArchiveOnly && info.priorGreen

variable {α : Type}

section Handler

variable (call : CiCall)

/-- `isArchiveOnly` and `priorGreen`, as they stand after the `try`. -/
def inspectZeroRun : CiM ArchiveInfo := do
  let ctx ← getCtx
  match ctx.preArchiveSha.filter fun sha => sha ≠ "" && sha ≠ call.headSha with
  | none => pure {}
  | some _ => do
      match ← recovered (ask call call.deps.getDiffFilePaths .getDiffFilePaths) with
      | .error _ => pure {}
      | .ok diffPaths =>
        if diffPaths = [] || !diffPaths.all ("openspec/".toList.isPrefixOf ·.toList) then pure {}
        else do
          match ← recovered (ask call call.deps.getSuccessfulCheckRunCount .getSuccessfulCheckRunCount) with
          | .ok successCount => pure { isArchiveOnly := true, priorGreen := 0 < successCount }
          | .error _ => pure { isArchiveOnly := true }

def blockedAs (reason : String) : CiM NoRunOutcome := do
  ask call call.deps.setBlocked .setBlocked
  pure (.blocked reason)

def closeThenReopen : CiM Unit := do
  ask call call.deps.closePr (.sideEffect .archiveFail call.headSha)
  ask call call.deps.reopenPr .reopenPr

/-- `headSha.slice(0, 7)`. -/
def shortSha : String := String.ofList (call.headSha.toList.take 7)

/-- `handleZeroRunRecovery(cfg, issueNumber, prNumber, headSha, ctx)`. -/
def handleZeroRunRecovery : CiM NoRunOutcome := do
  let ctx ← getCtx
  if ctx.noRunRecoveryAttemptedForSha = some call.headSha then
    blockedAs call ("no CI run after recovery for " ++ shortSha call)
  else do
    let info ← inspectZeroRun call
    if info.decides then do
      match ← recovered (closeThenReopen call) with
      | .error message => blockedAs call ("no CI run; close+reopen failed: " ++ message)
      | .ok () => do
          let ctx ← getCtx
          setCtx { ctx with noRunRecoveryAttemptedForSha := some call.headSha }
          pure .waiting
    else blockedAs call ("no CI run detected for head SHA " ++ shortSha call)

/-! ## One test in both ladders -/

variable {call}

lemma run_bind {β : Type} (m : CiM α) (k : α → CiM β) (w : World) : (m >>= k) w = Effect.andThen m k w := rfl

variable (call) in
/-- The handler and the ladder make the same calls and decide alike. -/
theorem inspectZeroRun_evaluate (w : World) : (inspectZeroRun call w).2 = (evaluateArchiveOnlyPriorGreen call w).2 ∧
      (inspectZeroRun call w).1.map ArchiveInfo.decides =
        (evaluateArchiveOnlyPriorGreen call w).1.map ArchiveInfo.decides := by
  unfold inspectZeroRun evaluateArchiveOnlyPriorGreen
  have hctx : getCtx w = (.ok w.ctx, w) := rfl
  rw [Effect.bind_ok hctx, Effect.bind_ok hctx]
  cases w.ctx.preArchiveSha.filter fun sha => sha ≠ "" && sha ≠ call.headSha with
  | none => exact ⟨rfl, rfl⟩
  | some preArchiveSha =>
    simp only [run_bind, Effect.andThen, recovered, Effect.attempt, inspectArchive]
    cases ask call call.deps.getDiffFilePaths .getDiffFilePaths w with
    | mk result w₁ =>
      cases result with
      | error e => cases e <;> exact ⟨rfl, rfl⟩
      | ok diffPaths =>
        dsimp only
        split
        · exact ⟨rfl, rfl⟩
        · simp only [run_bind, Effect.andThen, Effect.attempt]
          cases ask call call.deps.getSuccessfulCheckRunCount .getSuccessfulCheckRunCount w₁ with
          | mk result w₂ =>
            cases result with
            | error e => cases e <;> exact ⟨rfl, rfl⟩
            | ok successCount => exact ⟨rfl, rfl⟩

end Handler

/-! ## The rows of the action -/

section Rows

variable {host : NodeHost} {heads closed : List String} {ledger : StageAttemptLedger} {action : StageAction}
  {head nowIso : String}

lemma distinct_append (texts : List String) (text : String) :
    distinct (texts ++ [text]) = if text ∈ distinct texts then distinct texts else distinct texts ++ [text] := by
  simp [distinct]

variable (host ledger action nowIso) in
lemma attemptedShas_syncedRow (hne : head ≠ "") : attemptedShasForAction host
        { ledger with attempts := ledger.attempts ++ [syncedRow host ledger action head nowIso] } .noRunRecovery =
      if action = .noRunRecovery ∧ head ∉ attemptedShasForAction host ledger .noRunRecovery then
        attemptedShasForAction host ledger .noRunRecovery ++ [head]
      else attemptedShasForAction host ledger .noRunRecovery := by
  have hcounts : CountsFor host action head (syncedRow host ledger action head nowIso) :=
    (countsFor_syncedRow ledger action head nowIso hne).2 ⟨rfl, rfl⟩
  obtain ⟨haction, hconsumed, hhead, -⟩ := hcounts
  unfold attemptedShasForAction
  rw [filter_append, filterMap_append]
  by_cases hsame : action = .noRunRecovery
  · subst hsame
    have hrow : ([syncedRow host ledger .noRunRecovery head nowIso].filter fun row =>
        row.textAt "action" = some StageAction.noRunRecovery.name && isConsumed host row).filterMap
          (fun row => (row.textAt "head_sha").filter (· ≠ "")) = [head] := by
      simp [haction, hconsumed, hhead, Option.filter_some, hne]
    rw [hrow, distinct_append]
    split
    · next hmem => rw [if_neg fun h => h.2 hmem]
    · next hmem => rw [if_pos ⟨rfl, hmem⟩]
  · have hname : action.name ≠ StageAction.noRunRecovery.name := fun h => hsame (StageAction.name_injective h)
    have hrow : ([syncedRow host ledger action head nowIso].filter fun row =>
        row.textAt "action" = some StageAction.noRunRecovery.name && isConsumed host row) = [] := by
      simp [haction, hname]
    rw [hrow, filterMap_nil, append_nil, if_neg fun h => hsame h.1]

variable (host heads closed) in
/-- A row of the action counts for its head, and the heads are closed ones in the order in which they were
closed. -/
structure NoRunRows (ledger : StageAttemptLedger) : Prop where
  accounts : Accounts host heads ledger.attempts
  counted : ∀ head ∈ heads, ∀ row ∈ ledger.attempts,
    row.attemptId = some (host.sha256 (attemptText head .noRunRecovery)) →
      head ∈ attemptedShasForAction host ledger .noRunRecovery
  ordered : (attemptedShasForAction host ledger .noRunRecovery).Sublist closed

variable (nowIso) in
/-- One head of the cache. -/
lemma ensureOne_noRun (hheads : Heads host heads) (hrows : NoRunRows host heads closed ledger)
    (haction : action ∈ ladderActions) (hhead : head ∈ heads)
    (hlast : action = .noRunRecovery → closed.getLast? = some head ∧ closed.Nodup) :
    NoRunRows host heads closed (ensureOne host ledger action head nowIso).2 ∧ (action = .noRunRecovery →
        (attemptedShasForAction host (ensureOne host ledger action head nowIso).2 .noRunRecovery).getLast? =
          some head) ∧ (action ≠ .noRunRecovery →
        attemptedShasForAction host (ensureOne host ledger action head nowIso).2 .noRunRecovery =
          attemptedShasForAction host ledger .noRunRecovery) := by
  have hne := (hheads.isHead head hhead).nonempty
  have haccounts := (ensureOne_spent hheads hrows.accounts haction hhead nowIso).1
  -- a head that is there is the last one, since the heads keep the order in which they were closed
  have hthere : action = .noRunRecovery → head ∈ attemptedShasForAction host ledger .noRunRecovery →
      (attemptedShasForAction host ledger .noRunRecovery).getLast? = some head := by
    intro hsame hmem
    obtain ⟨hlast, hnodup⟩ := hlast hsame
    obtain ⟨before, rfl⟩ := getLast?_eq_some_iff.1 hlast
    obtain ⟨kept, last, hsplit, hkept, hlastOne⟩ := sublist_append_iff.1 hrows.ordered
    rw [hsplit] at hmem ⊢
    have hfresh : head ∉ before := fun hbefore =>
      (nodup_append.1 hnodup).2.2 head hbefore head (mem_singleton_self head) rfl
    rcases mem_append.1 hmem with hmem | hmem
    · exact absurd (hkept.subset hmem) hfresh
    · rcases sublist_singleton.1 hlastOne with rfl | rfl
      · cases hmem
      · simp
  rcases ensureOne_cases (hheads.isHead head hhead) ledger action nowIso with ⟨row, hrow, hid, hsame⟩ | ⟨hfresh, hadded⟩
  · rw [hsame]
    refine ⟨hrows, fun haction => hthere haction ?_, fun _ => rfl⟩
    subst haction
    exact hrows.counted head hhead row hrow hid
  · rw [hadded] at haccounts ⊢
    have hshas := attemptedShas_syncedRow host ledger action nowIso hne
    have hkept : attemptedShasForAction host ledger .noRunRecovery ⊆ attemptedShasForAction host
        { ledger with attempts := ledger.attempts ++ [syncedRow host ledger action head nowIso] } .noRunRecovery := by
      rw [hshas]
      split <;> simp
    refine ⟨⟨haccounts, fun head' hhead' row hrow hid => ?_, ?_⟩, fun hsame => ?_, fun hother => ?_⟩
    · rcases mem_append.1 hrow with hrow | hrow
      · exact hkept (hrows.counted head' hhead' row hrow hid)
      · rw [mem_singleton.1 hrow, attemptId_syncedRow] at hid
        obtain ⟨rfl, rfl⟩ := hheads.eq_of_digest hhead hhead' haction (by decide) (Option.some.inj hid)
        rw [hshas]
        split
        · simp
        · next hmem => exact not_not.1 fun hnot => hmem ⟨rfl, hnot⟩
    · rw [hshas]
      split
      · next hnew =>
        obtain ⟨before, rfl⟩ := getLast?_eq_some_iff.1 (hlast hnew.1).1
        obtain ⟨kept, last, hsplit, hkept, hlastOne⟩ := sublist_append_iff.1 hrows.ordered
        rcases sublist_singleton.1 hlastOne with rfl | rfl
        · rw [hsplit, append_nil]
          exact hkept.append_right [head]
        · rw [hsplit] at hnew
          exact absurd (by simp) hnew.2
      · exact hrows.ordered
    · rw [hshas]
      split
      · simp
      · next hmem => exact hthere hsame (not_not.1 fun hnot => hmem ⟨hsame, hnot⟩)
    · rw [hshas, if_neg fun h => hother h.1]

variable (nowIso) in
/-- The set of another action. -/
lemma ensure_noRun (hheads : Heads host heads) (haction : action ∈ ladderActions) (hother : action ≠ .noRunRecovery)
    {shas : List String} (hshas : ∀ head ∈ shas, head ∈ heads) (hrows : NoRunRows host heads closed ledger) :
    NoRunRows host heads closed (ensure host nowIso action shas ledger).2 ∧
      attemptedShasForAction host (ensure host nowIso action shas ledger).2 .noRunRecovery =
        attemptedShasForAction host ledger .noRunRecovery := by
  induction shas generalizing ledger with
  | nil => exact ⟨hrows, rfl⟩
  | cons head shas ih =>
    obtain ⟨hone, -, hsame⟩ := ensureOne_noRun nowIso hheads hrows haction
      (hshas head mem_cons_self) fun h => absurd h hother
    obtain ⟨hrest, hsame'⟩ := ih (fun head hhead => hshas head (mem_cons_of_mem _ hhead)) hone
    exact ⟨hrest, hsame'.trans (hsame hother)⟩

variable (nowIso) in
lemma ensureAll_noRun (hheads : Heads host heads) {sets : List (StageAction × List String)}
    (hsets : ∀ set ∈ sets, set.1 ∈ ladderActions ∧ set.1 ≠ .noRunRecovery ∧ ∀ head ∈ set.2, head ∈ heads)
    (hrows : NoRunRows host heads closed ledger) : NoRunRows host heads closed (ensureAll host nowIso sets ledger).2 ∧
      attemptedShasForAction host (ensureAll host nowIso sets ledger).2 .noRunRecovery =
        attemptedShasForAction host ledger .noRunRecovery := by
  induction sets generalizing ledger with
  | nil => exact ⟨hrows, rfl⟩
  | cons set sets ih =>
    obtain ⟨action, shas⟩ := set
    obtain ⟨haction, hother, hshas⟩ := hsets _ mem_cons_self
    obtain ⟨hset, hsame⟩ := ensure_noRun nowIso hheads haction hother hshas hrows
    obtain ⟨hrest, hsame'⟩ := ih (fun set hset => hsets set (mem_cons_of_mem _ hset)) hset
    exact ⟨hrest, hsame'.trans hsame⟩

lemma ensureAll_append (sets sets' : List (StageAction × List String)) :
    (ensureAll host nowIso (sets ++ sets') ledger).2 =
      (ensureAll host nowIso sets' (ensureAll host nowIso sets ledger).2).2 := by
  induction sets generalizing ledger with
  | nil => rfl
  | cons set sets ih => exact ih

variable (nowIso) in
/-- A synchronization leaves the remembered head as the last one. -/
lemma sync_noRun (hheads : Heads host heads) (hrows : NoRunRows host heads closed ledger)
    {ctx : PreMergePollingContext} (hctx : ctx.Within heads) (hnodup : closed.Nodup)
    (hclosed : ∀ head ∈ closed, head ∈ heads) (hlast : ctx.noRunRecoveryAttemptedForSha = closed.getLast?) :
    NoRunRows host heads closed (syncCiProjectionIntoLedger host ledger ctx.projection nowIso).2 ∧
      (attemptedShasForAction host (syncCiProjectionIntoLedger host ledger ctx.projection nowIso).2
        .noRunRecovery).getLast? = closed.getLast? := by
  let others : List (StageAction × List String) :=
    [(.ciRebase, ctx.attemptedShas .rebase), (.ciRerun, ctx.attemptedShas .rerun),
      (.ciArchiveFailRecovery, ctx.attemptedShas .archiveFail),
      (.ciAssertionFix, ctx.attemptedShas .assertionFix), (.ciDocsStaleHeal, ctx.attemptedShas .docsStaleHeal)]
  have hothers : ∀ set ∈ others, set.1 ∈ ladderActions ∧ set.1 ≠ .noRunRecovery ∧ ∀ head ∈ set.2, head ∈ heads := by
    simp only [others, forall_mem_cons, not_mem_nil, false_imp_iff, implies_true, and_true]
    exact ⟨⟨by decide, by decide, hctx.attempted .rebase⟩, ⟨by decide, by decide, hctx.attempted .rerun⟩,
      ⟨by decide, by decide, hctx.attempted .archiveFail⟩, ⟨by decide, by decide, hctx.attempted .assertionFix⟩,
      by decide, by decide, hctx.attempted .docsStaleHeal⟩
  obtain ⟨archive, hattempts⟩ := attempts_sync host ledger ctx.projection nowIso
  have harchived : NoRunRows host heads closed { ledger with preArchiveSha := archive } := ⟨hrows.1, hrows.2, hrows.3⟩
  obtain ⟨hkept, hsame⟩ := ensureAll_noRun nowIso hheads hothers harchived
  have hsets : ctx.projection.sets =
      others ++ [(.noRunRecovery, (ctx.noRunRecoveryAttemptedForSha.filter (· ≠ "")).toList)] := rfl
  rw [hsets, ensureAll_append] at hattempts
  generalize hledger : (ensureAll host nowIso others { ledger with preArchiveSha := archive }).2 = synced
    at hattempts hkept hsame
  suffices hend : NoRunRows host heads closed (ensureAll host nowIso
      [(.noRunRecovery, (ctx.noRunRecoveryAttemptedForSha.filter (· ≠ "")).toList)] synced).2 ∧
        (attemptedShasForAction host (ensureAll host nowIso
          [(.noRunRecovery, (ctx.noRunRecoveryAttemptedForSha.filter (· ≠ "")).toList)] synced).2
            .noRunRecovery).getLast? = closed.getLast? by
    obtain ⟨⟨haccounts, hcounted, hordered⟩, hgetLast⟩ := hend
    simp only [attemptedShasForAction, ← hattempts] at haccounts hcounted hordered hgetLast
    exact ⟨⟨haccounts, hcounted, hordered⟩, hgetLast⟩
  cases hremembered : ctx.noRunRecoveryAttemptedForSha with
  | none =>
    have hnil : closed = [] := getLast?_eq_none_iff.1 (hlast.symm.trans hremembered)
    refine ⟨hkept, ?_⟩
    have hempty := sublist_nil.1 (hnil ▸ hkept.ordered)
    simp only [Option.filter_none, Option.toList_none, ensureAll, ensure, hempty, hnil]
  | some head =>
    have hgetLast : closed.getLast? = some head := hlast.symm.trans hremembered
    have hhead := hclosed head (mem_of_getLast? hgetLast)
    have hset : ((some head).filter (· ≠ "")).toList = [head] := by simp [(hheads.isHead head hhead).nonempty]
    obtain ⟨hone, hend, -⟩ := ensureOne_noRun nowIso hheads hkept
      (by decide : StageAction.noRunRecovery ∈ ladderActions) hhead fun _ => ⟨hgetLast, hnodup⟩
    rw [hset, hgetLast]
    exact ⟨hone, hend rfl⟩

end Rows

/-! ## One poll -/

variable {w : World}

section Poll

variable {call : CiCall}

lemma Quietly.run {m : CiM α} (hm : Quietly m) (w : World) : Quiet w (m w).2 := by
  cases hrun : m w with
  | mk result w' =>
    cases result with
    | ok a => exact (hm w w rfl w').1 a hrun
    | error e => exact (hm w w rfl w').2 e hrun

lemma quietly_blockedAs (reason : String) : Quietly (blockedAs call reason) := .bind (.ask rfl) fun _ => .ret _

variable (call) in
lemma quietly_inspectZeroRun : Quietly (inspectZeroRun call) := by
  refine .bind .getCtx fun ctx => ?_
  split
  · exact .ret _
  · refine .bind (.recovered (.ask rfl)) fun result => ?_
    split
    · exact .ret _
    · split
      · exact .ret _
      · refine .bind (.recovered (.ask rfl)) fun result => ?_
        cases result <;> exact .ret _

lemma ask_ok {answer : List CiEvent → Except String α} {event : CiEvent} {a : α}
    (hruns : call.deps.stops w.events = false) (hanswer : answer w.events = .ok a) :
    ask call answer event w = (.ok a, w.push event) := by
  simp [ask, Effect.call, hruns, hanswer]

variable (call) in
/-- A PR that is closed is reopened. -/
def Reopens (w : World) : Prop :=
  ∀ w₁, evaluateArchiveOnlyPriorGreen call w = (.ok ⟨true, true⟩, w₁) →
    call.deps.stops w₁.events = false ∧ call.deps.closePr w₁.events = .ok () ∧
      call.deps.stops (w₁.push (.sideEffect .archiveFail call.headSha)).events = false ∧
        call.deps.reopenPr (w₁.push (.sideEffect .archiveFail call.headSha)).events = .ok ()

variable (call) in
/-- The PR was closed for a head that was not remembered, and the head is remembered. -/
structure Remembers (w w' : World) : Prop where
  fresh : w.ctx.noRunRecoveryAttemptedForSha ≠ some call.headSha
  primary : w'.primary = w.primary
  legacy : w'.legacy = w.legacy
  ctx : w'.ctx = { w.ctx with noRunRecoveryAttemptedForSha := some call.headSha }
  effects : effects w'.trace = effects w.trace ++ [(.archiveFail, call.headSha)]

lemma zeroRun_cases (hreopens : Reopens call w) :
    Quiet w (handleZeroRunRecovery call w).2 ∨ Remembers call w (handleZeroRunRecovery call w).2 := by
  unfold handleZeroRunRecovery
  have hctx : getCtx w = (.ok w.ctx, w) := rfl
  rw [Effect.bind_ok hctx]
  split
  · exact .inl ((quietly_blockedAs _).run w)
  · next hfresh =>
    have hquiet := (quietly_inspectZeroRun call).run w
    obtain ⟨hworld, hsame⟩ := inspectZeroRun_evaluate call w
    cases hrun : inspectZeroRun call w with
    | mk result w₁ =>
      rw [hrun] at hquiet hworld hsame
      cases result with
      | error e =>
        left
        rw [run_bind, Effect.andThen, hrun]
        exact hquiet
      | ok info =>
        rw [Effect.bind_ok hrun]
        split
        · next hdecides =>
          right
          have hevaluate : evaluateArchiveOnlyPriorGreen call w = (.ok ⟨true, true⟩, w₁) := by
            cases hinfo : evaluateArchiveOnlyPriorGreen call w with
            | mk result w₂ =>
              rw [hinfo] at hworld hsame
              obtain rfl : w₁ = w₂ := hworld
              cases result with
              | error e => cases hsame
              | ok info' =>
                have hboth := (Except.ok.inj hsame).symm.trans hdecides
                obtain ⟨isArchiveOnly, priorGreen⟩ := info'
                obtain ⟨rfl, rfl⟩ := Bool.and_eq_true_iff.1 hboth
                rfl
          obtain ⟨hruns, hclose, hruns', hreopen⟩ := hreopens w₁ hevaluate
          have hcloses : closeThenReopen call w₁ =
              (.ok (), (w₁.push (.sideEffect .archiveFail call.headSha)).push .reopenPr) := by
            unfold closeThenReopen
            rw [Effect.bind_ok (ask_ok hruns hclose)]
            exact ask_ok hruns' hreopen
          have hrecovered : recovered (closeThenReopen call) w₁ =
              (.ok (.ok ()), (w₁.push (.sideEffect .archiveFail call.headSha)).push .reopenPr) := by
            unfold recovered Effect.attempt
            rw [hcloses]
          rw [Effect.bind_ok hrecovered]
          refine ⟨hfresh, hquiet.primary, hquiet.legacy, ?_, ?_⟩
          · show ({ w₁.ctx with noRunRecoveryAttemptedForSha := some call.headSha } : PreMergePollingContext) = _
            rw [hquiet.ctx]
          · have htrace := hquiet.effects_eq
            show Stage.effects (w₁.trace ++ [_] ++ [_]) = _
            rw [effects_append, effects_append, htrace]
            exact append_nil _
        · left
          exact hquiet.trans ((quietly_blockedAs _).run w₁)

end Poll

/-! ## Contexts that are rebuilt -/

variable {w' : World}

section Rebuild

variable {host : NodeHost} {call : CiCall} {heads closed : List String}

/-- A hydration that reports no error takes what the ledger knows. -/
lemma hydrated_meets (hrunDir : call.runDir = true) (w : World) : Meets (· = w) (hydrateCiRecoveryMarkers host call)
    (fun result w' => result = .ok () → ∃ ledger, w.Loads host ledger ∧ w'.ctx = w.ctx.hydrated host ledger ∧
      effects w'.trace = effects w.trace ∧
        (w'.primary = w.primary ∧ w'.legacy = w.legacy ∨ w'.primary = persistStageAttemptLedger ledger))
    (fun _ _ => True) := by
  unfold hydrateCiRecoveryMarkers
  refine Meets.bind ((readLedger_meets w).mono (fun _ h => h) (fun _ _ h => h) fun _ _ _ => trivial) fun result => ?_
  cases result with
  | error reason => exact .ret fun _ _ h => by cases h
  | ok loaded =>
    obtain ⟨ledger, migrated⟩ := loaded
    refine meets_of_each fun w₁ hw₁ => ?_
    obtain ⟨hquiet, hloads⟩ := hw₁
    have hload := (hloads ledger migrated rfl).1 hrunDir
    refine Meets.bind getCtx_meets fun ctx => ?_
    have hset : Meets (fun w => w = w₁ ∧ ctx = w.ctx) (setCtx (ctx.hydrated host ledger))
        (fun _ w => w = { w₁ with ctx := w₁.ctx.hydrated host ledger }) (fun _ _ => True) := by
      refine setCtx_meets ?_
      rintro _ ⟨rfl, rfl⟩
      rfl
    refine Meets.bind hset fun _ => ?_
    split
    · refine Meets.bind ((writeLedger_meets _ ledger).mono (fun _ h => h) (fun _ _ h => h)
        fun _ _ _ => trivial) fun written => .ret fun w' hw' _ => ?_
      rcases hw' with ⟨-, hquiet'⟩ | ⟨-, hreplaced⟩
      · refine ⟨ledger, hload, ?_, hquiet'.effects_eq.trans hquiet.effects_eq,
          .inl ⟨hquiet'.primary.trans hquiet.primary, hquiet'.legacy.trans hquiet.legacy⟩⟩
        rw [hquiet'.ctx, ← hquiet.ctx]
      · obtain ⟨steps, htrace, hnone⟩ := hreplaced.trace
        refine ⟨ledger, hload, ?_, ?_, .inr hreplaced.primary⟩
        · rw [hreplaced.ctx, ← hquiet.ctx]
        · rw [htrace, effects_append, hnone, append_nil]
          exact hquiet.effects_eq
    · refine .ret ?_
      rintro w' rfl -
      refine ⟨ledger, hload, ?_, hquiet.effects_eq, .inl ⟨hquiet.primary, hquiet.legacy⟩⟩
      rw [← hquiet.ctx]

variable (host call) in
/-- The world of a new context, after the markers of the one before it were persisted. -/
def renewed (preArchiveSha : Option String) (w : World) : World :=
  { (persistCtxCiMarkers host call w).2 with ctx := { preArchiveSha := preArchiveSha } }

variable (host heads) in
/-- The remembered head is the one that was closed last, and no head was closed twice. -/
structure NoRunInv (w : World) (closed : List String) : Prop where
  trace : (effects w.trace).map Prod.snd = closed
  nodup : closed.Nodup
  within : ∀ head ∈ closed, head ∈ heads
  context : w.ctx.Within heads
  remembered : w.ctx.noRunRecoveryAttemptedForSha = closed.getLast?
  rows : ∀ ledger, w.Loads host ledger → NoRunRows host heads closed ledger

lemma NoRunRows.of_attempts {ledger ledger' : StageAttemptLedger} (h : NoRunRows host heads closed ledger)
    (heq : ledger'.attempts = ledger.attempts) : NoRunRows host heads closed ledger' := by
  have hshas : attemptedShasForAction host ledger' .noRunRecovery = attemptedShasForAction host ledger .noRunRecovery := by
    simp only [attemptedShasForAction, heq]
  refine ⟨heq ▸ h.accounts, fun head hhead row hrow hid => ?_, hshas ▸ h.ordered⟩
  rw [hshas]
  exact h.counted head hhead row (heq ▸ hrow) hid

lemma loads_persisted {ledger : StageAttemptLedger} (hvalid : AllValid ledger.attempts)
    (hfinite : ∀ row ∈ ledger.attempts, row.isFinite = true) (hfile : w.primary = persistStageAttemptLedger ledger)
    {loaded : StageAttemptLedger} (hload : w.Loads host loaded) : loaded.attempts = ledger.attempts :=
  (Replaced.loads (w := w) ⟨hfile, rfl, rfl, [], by simp, rfl⟩ hvalid hfinite).2 loaded hload

lemma NoRunInv.rebuilt (hheads : Heads host heads) (h : NoRunInv host heads w closed)
    {preArchiveSha : Option String} (hpersisted : (persistCtxCiMarkers host call w).1 = .ok (.ok ()))
    (hhydrated : (hydrateCiRecoveryMarkers host call (renewed host call preArchiveSha w)).1 = .ok (.ok ())) :
    NoRunInv host heads (hydrateCiRecoveryMarkers host call (renewed host call preArchiveSha w)).2 closed := by
  have hpersist : Persisted host call w (.ok ()) (persistCtxCiMarkers host call w).2 :=
    (persist_meets w w rfl _).1 (.ok ()) (Prod.ext hpersisted rfl)
  obtain ⟨w₁, hw₁⟩ : ∃ w₁, (persistCtxCiMarkers host call w).2 = w₁ := ⟨_, rfl⟩
  rw [hw₁] at hpersist
  cases hpersist with
  | @persisted ledger nowIso w₁ hrunDir hload hreplaced =>
    obtain ⟨hrows, hlast⟩ := sync_noRun nowIso hheads (h.rows ledger hload) h.context h.nodup h.within
      h.remembered
    have hvalid : AllValid (syncedLedger host w ledger nowIso).attempts :=
      (sync_leaves host ledger _ nowIso).valid (loads_valid hload)
    have hprimary : (renewed host call preArchiveSha w).primary =
        persistStageAttemptLedger (syncedLedger host w ledger nowIso) := by
      rw [renewed, hw₁]
      exact hreplaced.primary
    have hread : ∀ loaded, (renewed host call preArchiveSha w).Loads host loaded →
        loaded.attempts = (syncedLedger host w ledger nowIso).attempts := fun loaded hloaded =>
      loads_persisted hvalid hrows.accounts.finite hprimary hloaded
    have htrace : effects (renewed host call preArchiveSha w).trace = effects w.trace := by
      obtain ⟨steps, hsteps, hnone⟩ := hreplaced.trace
      rw [renewed, hw₁]
      show effects w₁.trace = _
      rw [hsteps, effects_append, hnone, append_nil]
    cases hrun : hydrateCiRecoveryMarkers host call (renewed host call preArchiveSha w) with
    | mk result w₂ =>
    rw [hrun] at hhydrated
    obtain rfl : result = .ok (.ok ()) := hhydrated
    have hhydrate := (hydrated_meets hrunDir (renewed host call preArchiveSha w) _ rfl w₂).1 (.ok ()) hrun rfl
    obtain ⟨taken, htaken, hctx, heffects, hfiles⟩ := hhydrate
    have hattempts := hread taken htaken
    have hknown := hrows.of_attempts hattempts
    have hremembered : (attemptedShasForAction host taken .noRunRecovery).getLast? = closed.getLast? := by
      rw [← hlast]
      simp only [attemptedShasForAction, hattempts]
      rfl
    have hctxShas : ∀ action ∈ ladderActions, ∀ head ∈ attemptedShasForAction host taken action, head ∈ heads := by
      intro action haction head hhead
      obtain ⟨row, hrow, hcounts⟩ := mem_attemptedShasForAction.1 hhead
      exact hknown.accounts.known row hrow action haction head hcounts
    have hnoRun : w₂.ctx.noRunRecoveryAttemptedForSha = closed.getLast? := by
      rw [hctx, ← hremembered]
      rfl
    refine ⟨by rw [heffects, htrace]; exact h.trace, h.nodup, h.within, ⟨fun c head hhead => ?_, ?_⟩, hnoRun, ?_⟩
    · rw [hctx] at hhead
      rcases (mem_ciRecoveryShaSetUnion.1 hhead).1 with hmem | hmem
      · cases hmem
      · exact hctxShas c.action c.action_mem head hmem
    · intro head hhead _
      rw [hnoRun] at hhead
      exact h.within head (mem_of_getLast? hhead)
    · intro loaded hloaded
      rcases hfiles with ⟨hprimary', hlegacy'⟩ | hprimary'
      · refine hrows.of_attempts (hread loaded ?_)
        simpa only [World.Loads, hprimary', hlegacy'] using hloaded
      · have hsame := loads_persisted (loads_valid htaken) hknown.accounts.finite hprimary' hloaded
        exact hknown.of_attempts hsame

lemma NoRunInv.polled (h : NoRunInv host heads w closed) (hhead : call.headSha ∈ heads)
    (hreturn : call.headSha ∈ closed → closed.getLast? = some call.headSha) (hpoll : Remembers call w w') :
    NoRunInv host heads w' (closed ++ [call.headSha]) := by
  have hfresh : call.headSha ∉ closed := fun hmem => hpoll.fresh (h.remembered.trans (hreturn hmem))
  refine ⟨by rw [hpoll.effects, map_append, h.trace]; rfl, ?_, ?_, ⟨?_, ?_⟩, ?_, fun ledger hload => ?_⟩
  · refine nodup_append.2 ⟨h.nodup, nodup_singleton _, fun a ha b hb hab => hfresh ?_⟩
    rwa [← mem_singleton.1 hb, ← hab]
  · intro head hmem
    rcases mem_append.1 hmem with hmem | hmem
    · exact h.within head hmem
    · rwa [mem_singleton.1 hmem]
  · rw [hpoll.ctx]
    exact h.context.attempted
  · rw [hpoll.ctx]
    rintro head hsome -
    rwa [← Option.some.inj hsome]
  · rw [hpoll.ctx]
    simp
  · have hload' : w.Loads host ledger := by simpa only [World.Loads, hpoll.primary, hpoll.legacy] using hload
    obtain ⟨haccounts, hcounted, hordered⟩ := h.rows ledger hload'
    exact ⟨haccounts, hcounted, hordered.trans (sublist_append_left _ _)⟩

lemma NoRunInv.quiet (h : NoRunInv host heads w closed) (hquiet : Quiet w w') :
    NoRunInv host heads w' closed where
  trace := hquiet.effects_eq ▸ h.trace
  nodup := h.nodup
  within := h.within
  context := hquiet.ctx ▸ h.context
  remembered := hquiet.ctx ▸ h.remembered
  rows ledger hload := h.rows ledger (by simpa only [World.Loads, hquiet.primary, hquiet.legacy] using hload)

end Rebuild

/-! ## Runs -/

section Runs

variable (host : NodeHost) (heads : List String)

inductive NoRunAction where
  | poll (call : CiCall)
  /-- Other code finds the head before the archive. -/
  | capture (preArchiveSha : Option String)
  /-- The markers are persisted, and a new context is hydrated. -/
  | rebuild (call : CiCall) (preArchiveSha : Option String)

def noRunStep (w : World) : NoRunAction → Option World
  | .poll call => some (handleZeroRunRecovery call w).2
  | .capture preArchiveSha => some { w with ctx := { w.ctx with preArchiveSha := preArchiveSha } }
  | .rebuild call preArchiveSha => some (hydrateCiRecoveryMarkers host call (renewed host call preArchiveSha w)).2

/-- The heads for which the PR was closed. -/
def closedHeads (w : World) : List String := (effects w.trace).map Prod.snd

/-- A PR that is closed is reopened, no head comes back after another one was closed, and a context is rebuilt
from markers that were persisted. -/
def Steady (w : World) : NoRunAction → Prop
  | .poll call => call.headSha ∈ heads ∧ Reopens call w ∧
      (call.headSha ∈ closedHeads w → (closedHeads w).getLast? = some call.headSha)
  | .capture _ => True
  | .rebuild call preArchiveSha => (persistCtxCiMarkers host call w).1 = .ok (.ok ()) ∧
      (hydrateCiRecoveryMarkers host call (renewed host call preArchiveSha w)).1 = .ok (.ok ())

variable {host heads}

lemma noRunStep_inv (hheads : Heads host heads) {a : NoRunAction} (hsteady : Steady host heads w a)
    (h : NoRunInv host heads w (closedHeads w)) (hstep : noRunStep host w a = some w') :
    NoRunInv host heads w' (closedHeads w') := by
  suffices hsome : ∃ closed, NoRunInv host heads w' closed by
    obtain ⟨closed, hinv⟩ := hsome
    have hclosed : closedHeads w' = closed := hinv.trace
    rwa [hclosed]
  cases a with
  | poll call =>
    obtain ⟨hhead, hreopens, hreturn⟩ := hsteady
    obtain rfl := Option.some.inj hstep
    rcases zeroRun_cases hreopens with hquiet | hpoll
    · exact ⟨_, h.quiet hquiet⟩
    · exact ⟨_, h.polled hhead hreturn hpoll⟩
  | capture preArchiveSha =>
    obtain rfl := Option.some.inj hstep
    exact ⟨_, h.trace, h.nodup, h.within, ⟨h.context.attempted, h.context.noRun⟩, h.remembered, h.rows⟩
  | rebuild call preArchiveSha =>
    obtain rfl := Option.some.inj hstep
    exact ⟨_, h.rebuilt hheads hsteady.1 hsteady.2⟩

/-- In a steady run `closePr` is called once for a head at most; the handler decides as the ladder does in every
world, and after the same calls. -/
theorem noRun_once (hheads : Heads host heads) {w₀ w : World} (htrace : w₀.trace = []) (hcontext : w₀.ctx.Within heads)
    (hnone : w₀.ctx.noRunRecoveryAttemptedForSha = none)
    (hrows : ∀ ledger, w₀.Loads host ledger → NoRunRows host heads [] ledger) {actions : List NoRunAction}
    (hrun : Run (noRunStep host) (Steady host heads) w₀ actions w) :
    (∀ head, (closedHeads w).count head ≤ 1) ∧
      ∀ (call : CiCall) (v : World), (inspectZeroRun call v).2 = (evaluateArchiveOnlyPriorGreen call v).2 ∧
        (inspectZeroRun call v).1.map ArchiveInfo.decides =
          (evaluateArchiveOnlyPriorGreen call v).1.map ArchiveInfo.decides := by
  have hclosed : closedHeads w₀ = [] := by rw [closedHeads, htrace]; rfl
  have hinitial : NoRunInv host heads w₀ (closedHeads w₀) := by
    refine ⟨rfl, ?_, ?_, hcontext, ?_, ?_⟩ <;> rw [hclosed]
    · exact nodup_nil
    · exact fun _ hmem => by cases hmem
    · exact hnone
    · exact hrows
  have hinv := hrun.invariant (I := fun w => NoRunInv host heads w (closedHeads w))
    (fun _ _ _ hok h hstep => noRunStep_inv hheads hok h hstep) hinitial
  exact ⟨fun head => nodup_iff_count_le_one.1 hinv.nodup head, inspectZeroRun_evaluate⟩

end Runs

/-! ## Two heads, and a reopen that fails -/

/-- An archive commit on a head whose checks had passed. -/
def archiveCall (headSha : String) (reopened : Except String Unit) : CiCall where
  headSha := headSha
  deps :=
    { ladderDeps "abc" with
      getDiffFilePaths := fun _ => .ok ["openspec/changes/archive/a.md"]
      getSuccessfulCheckRunCount := fun _ => .ok 1
      reopenPr := fun _ => reopened }

def archivedWorld : World := { ctx := { preArchiveSha := some "123" } }

/-- The PR is closed once for a head that is polled before and after its markers went through the ledger. -/
theorem noRun_once_rebuilt : ∃ w, closedHeads w = ["abc"] ∧ (closedHeads w).count "abc" ≤ 1 := by
  have hreopens : ∀ w, Reopens (archiveCall "abc" (.ok ())) w := fun _ _ _ => ⟨rfl, rfl, rfl, rfl⟩
  have hrows : ∀ ledger, archivedWorld.Loads ladderHost ledger → NoRunRows ladderHost ["abc"] [] ledger := by
    rintro ledger ⟨nowIso, migrated, hload⟩
    cases hload
    exact ⟨⟨by simp, by simp, by simp⟩, by simp, List.Sublist.refl _⟩
  have hcontext : archivedWorld.ctx.Within ["abc"] := by
    refine ⟨fun c head hhead => ?_, fun head hhead _ => ?_⟩ <;> cases hhead
  obtain ⟨w, hrun, hclosed⟩ : ∃ w, Run (noRunStep ladderHost) (Steady ladderHost ["abc"]) archivedWorld
      [.poll (archiveCall "abc" (.ok ())), .rebuild (archiveCall "abc" (.ok ())) (some "123"),
        .poll (archiveCall "abc" (.ok ()))] w ∧ closedHeads w = ["abc"] :=
    ⟨_, .cons ⟨by decide, hreopens _, by decide +kernel⟩ rfl (.cons ⟨by decide +kernel, by decide +kernel⟩ rfl
      (.cons ⟨by decide, hreopens _, by decide +kernel⟩ rfl (.nil _))), by decide +kernel⟩
  exact ⟨w, hclosed, (noRun_once heads_abc rfl hcontext rfl hrows hrun).1 "abc"⟩

/-- The PR is closed again for a head that comes back after another one, and after a reopen that failed. -/
theorem noRun_closed_again :
    (Transition.exec (noRunStep ladderHost) archivedWorld [.poll (archiveCall "abc" (.ok ())),
      .poll (archiveCall "def" (.ok ())), .poll (archiveCall "abc" (.ok ()))]).map closedHeads =
        some ["abc", "def", "abc"] ∧
      (Transition.exec (noRunStep ladderHost) archivedWorld [.poll (archiveCall "abc" (.error "HTTP 502")),
        .poll (archiveCall "abc" (.ok ()))]).map closedHeads = some ["abc", "abc"] := by
  decide +kernel

end AgentPipeline.Stage
