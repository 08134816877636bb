import AgentPipeline.Stage.CiOnce

/-!
# CiRuns: sequences of recovery calls on one run directory

* `LadderState`, `ladderStep`: calls with the context at hand or a new one, and the heads of the calls that waited;
* `unusable_meets`: a call that finds the ledger unusable performs nothing;
* `recovery_bounded`: what holds over every sequence.
-/

namespace AgentPipeline.Stage

open Effect (Meets)
open Transition (Run)

variable {w w' : World} {result : Except CiStop CiOutcome}

section Unusable

variable {host : NodeHost} {call : CiCall}

/-! ## A ledger that is unusable -/

/-- From every world, a computation leaves all but the trace as it is; only the end of the process stops it. -/
def Tame {α : Type} (m : CiM α) : Prop :=
  ∀ w, Meets (· = w) m (fun _ w' => Quiet w w') (fun e w' => Quiet w w' ∧ e = .stopped)

namespace Tame

variable {α β : Type}

lemma ret (a : α) : Tame (pure a : CiM α) := fun w => .ret fun _ h => h ▸ .refl w

lemma bind {m : CiM α} {k : α → CiM β} (hm : Tame m) (hk : ∀ a, Tame (k a)) : Tame (m >>= k) := by
  intro w
  refine Meets.bind (hm w) fun a => meets_of_each fun w₁ hquiet => ?_
  exact (hk a w₁).mono (fun _ h => h) (fun _ _ h => hquiet.trans h) fun _ _ h => ⟨hquiet.trans h.1, h.2⟩

lemma getCtx : Tame getCtx := fun w => getCtx_meets.mono (fun _ h => h) (fun _ _ h => h.1 ▸ .refl w) fun _ _ h => h

lemma recovered {m : CiM α} (hm : Quietly m) : Tame (recovered m) := by
  intro w
  refine Meets.attempt ((hm w).mono (fun _ h => h) (fun _ _ h => h) fun e w' h => ?_)
  cases e with
  | thrown message => exact h
  | stopped => exact ⟨h, rfl⟩

end Tame

lemma tame_fetchLogExcerpt (last : Option String) (checks : List CheckRun) :
    Tame (fetchLogExcerpt call last checks) := by
  induction checks generalizing last with
  | nil => exact .ret last
  | cons check checks ih =>
    refine .bind (.recovered (.ask rfl)) fun answer => ?_
    dsimp only
    split
    · exact .ret _
    · exact ih _

lemma tame_evaluateArchiveOnlyPriorGreen : Tame (evaluateArchiveOnlyPriorGreen call) := by
  refine .bind .getCtx fun ctx => ?_
  split
  · exact .ret _
  · refine .bind (.recovered quietly_inspectArchive) fun result => ?_
    cases result <;> exact .ret _

variable (call) in
/-- Nothing was performed since a world, and every budget of the context is spent for the head. -/
structure Idle (w w' : World) : Prop where
  effects_eq : effects w'.trace = effects w.trace
  exhausted : w'.ctx.IsExhausted call.headSha

/-- A dependency threw out of the call, or the process stopped: nothing was performed. -/
def Rejected (w : World) (e : CiStop) (w' : World) : Prop :=
  effects w'.trace = effects w.trace ∧
    (e = .stopped ∨ w'.events.getLast? = some .getForIssue ∨ w'.events.getLast? = some .setBlocked)

variable {w₁ : World}

lemma Idle.quiet {w₂ : World} (h : Idle call w w₁) (hquiet : Quiet w₁ w₂) : Idle call w w₂ where
  effects_eq := hquiet.effects_eq.trans h.effects_eq
  exhausted := by
    rw [hquiet.ctx]
    exact h.exhausted

lemma Tame.idle {α : Type} {m : CiM α} (hm : Tame m) (w : World) :
    Meets (Idle call w) m (fun _ w' => Idle call w w') (Rejected w) :=
  meets_of_each fun w₁ hw₁ => (hm w₁).mono (fun _ h => h) (fun _ _ h => hw₁.quiet h)
    fun _ _ h => ⟨h.1.effects_eq.trans hw₁.effects_eq, .inl h.2⟩

lemma ask_idle {α : Type} (w : World) (answer : List CiEvent → Except String α) {event : CiEvent}
    (hevent : event = .getForIssue ∨ event = .setBlocked) :
    Meets (Idle call w) (ask call answer event) (fun _ w' => Idle call w w') (Rejected w) := by
  have heffect : event.effect = none := by rcases hevent with rfl | rfl <;> rfl
  intro start hstart w'
  have hquiet := Quiet.push start heffect
  have hlast : (start.push event).events.getLast? = some event := by simp [World.events, World.push]
  unfold ask Effect.call
  dsimp only
  split
  · refine ⟨fun a ha => (by cases ha), fun e he => ?_⟩
    cases he
    exact ⟨hstart.effects_eq, .inl rfl⟩
  · split
    · refine ⟨fun a ha => ?_, fun e he => (by cases he)⟩
      cases ha
      exact hstart.quiet hquiet
    · refine ⟨fun a ha => (by cases ha), fun e he => ?_⟩
      cases he
      refine ⟨hquiet.effects_eq.trans hstart.effects_eq, .inr ?_⟩
      rcases hevent with rfl | rfl
      · exact .inl hlast
      · exact .inr hlast

lemma Idle.start {α : Type} (h : Idle call w w₁) {m : CiM α} {post : α → World → Prop}
    {thrown : CiStop → World → Prop} (hm : Meets (Idle call w) m post thrown) : Meets (· = w₁) m post thrown :=
  hm.mono (fun _ heq => heq ▸ h) (fun _ _ h => h) fun _ _ h => h

lemma contains_of_exhausted {ctx : PreMergePollingContext} {head : String} (h : ctx.IsExhausted head) (c : CiClass) :
    (ctx.attemptedShas c).contains head = true := by simpa using h c

variable (host) in
lemma exhausted_meets (classifyCiFailure : List CheckRun → Option String → CiFailureClass) (w : World) :
    Meets (Idle call w)
      (orElse (rebaseStep host call) do
        let logExcerpt ← fetchLogExcerpt call none call.failedChecks
        afterClassification host call (classifyCiFailure call.failedChecks logExcerpt))
      (fun outcome w' => outcome = .blocked ∧ effects w'.trace = effects w.trace) (Rejected w) := by
  have hrebase : Meets (Idle call w) (rebaseStep host call) (fun outcome w' => outcome = none ∧ Idle call w w')
      (Rejected w) := by
    unfold rebaseStep
    refine Meets.bind (ask_idle w _ (.inl rfl)) fun worktree => Meets.bind getCtx_meets fun ctx => ?_
    refine meets_of_each fun w₁ hw₁ => ?_
    obtain ⟨hidle, rfl⟩ := hw₁
    rw [contains_of_exhausted hidle.exhausted .rebase, Bool.true_or, if_pos rfl]
    exact .ret fun _ h => h ▸ ⟨rfl, hidle⟩
  refine Meets.bind hrebase fun outcome => meets_of_each fun w₁ hw₁ => ?_
  obtain ⟨rfl, hidle⟩ := hw₁
  refine hidle.start ?_
  refine Meets.bind ((tame_fetchLogExcerpt none call.failedChecks).idle w) fun logExcerpt => ?_
  unfold afterClassification
  refine Meets.bind getCtx_meets fun ctx => meets_of_each fun w₂ hw₂ => ?_
  obtain ⟨hidle₂, rfl⟩ := hw₂
  have hspent := contains_of_exhausted hidle₂.exhausted
  have hrerun : ∀ classification, rerunStep host call classification true = pure (none, true) := by
    intro classification
    simp [rerunStep]
  have harchive : ∀ classification, archiveStep host call classification true true = pure none := by
    intro classification
    simp [archiveStep]
  have hfix : ∀ classification, assertionFixStep host call classification true = pure none := by
    intro classification
    simp [assertionFixStep]
  have hheal : ∀ classification, docsStaleHealStep host call classification true = pure none := by
    intro classification
    simp [docsStaleHealStep]
  have hnone : ∀ rest : CiM CiOutcome, orElse (pure none) rest = rest := fun rest => rfl
  have hbind : ∀ (a : Option CiOutcome × Bool) (k : Option CiOutcome × Bool → CiM CiOutcome),
      (pure a >>= k) = k a := fun _ _ => rfl
  simp only [hspent, hrerun, hbind, harchive, hfix, hheal, hnone]
  unfold escalate
  refine hidle₂.start ?_
  refine Meets.bind (tame_evaluateArchiveOnlyPriorGreen.idle w) fun _ => ?_
  refine Meets.bind (ask_idle w _ (.inr rfl)) fun _ => .ret fun w' h => ⟨rfl, h.effects_eq⟩

variable (host call) in
/-- The call finds the recovery markers unusable. -/
def FindsUnusable (w : World) : Prop :=
  ∃ reason w', hydrateCiRecoveryMarkers host call w = (.ok (.error reason), w')

lemma meets_trivial {α : Type} (pre : World → Prop) (m : CiM α) :
    Meets pre m (fun _ _ => True) (fun _ _ => True) := fun _ _ _ => ⟨fun _ _ => trivial, fun _ _ => trivial⟩

lemma quiet_of_hydrate_error {reason : String}
    (h : hydrateCiRecoveryMarkers host call w = (.ok (.error reason), w')) : Quiet w w' := by
  have hmeets : Meets (· = w) (hydrateCiRecoveryMarkers host call)
      (fun result w' => (∃ reason, result = .error reason) → Quiet w w') (fun _ _ => True) := by
    unfold hydrateCiRecoveryMarkers
    refine Meets.bind ((readLedger_meets w).mono (fun _ h => h) (fun _ _ h => h) fun _ _ _ => trivial)
      fun result => ?_
    cases result with
    | error reason => exact .ret fun w' hw' _ => hw'.1
    | ok loaded =>
      have hok : ∀ w', (∃ reason, (.ok () : Except String Unit) = .error reason) → Quiet w w' := by
        rintro w' ⟨reason, hreason⟩
        cases hreason
      refine Meets.bind (meets_trivial _ _) fun ctx => Meets.bind (meets_trivial _ _) fun _ => ?_
      split
      · exact Meets.bind (meets_trivial _ _) fun _ => .ret fun w' _ => hok w'
      · exact .ret fun w' _ => hok w'
  exact (hmeets w rfl w').1 _ h ⟨reason, rfl⟩

lemma unusable_meets (classifyCiFailure : List CheckRun → Option String → CiFailureClass)
    (h : FindsUnusable host call w) (hresult : handleDefinitiveCiFailure host classifyCiFailure call w = (result, w')) :
    effects w'.trace = effects w.trace ∧ (result = .ok .blocked ∨ result = .error .stopped ∨
      (∃ message, result = .error (.thrown message)) ∧
        (w'.events.getLast? = some .getForIssue ∨ w'.events.getLast? = some .setBlocked)) := by
  obtain ⟨reason, w₁, hhydrate⟩ := h
  have hquiet := quiet_of_hydrate_error hhydrate
  let start : World := { w₁ with ctx := w₁.ctx.exhausted call.headSha }
  have hopen : openBudget host call w = (.ok (), start) := Effect.bind_ok hhydrate
  have hidle : Idle call w start := ⟨hquiet.effects_eq, isExhausted_exhausted w₁.ctx call.headSha⟩
  rw [handleDefinitiveCiFailure, Effect.bind_ok hopen] at hresult
  have hmeets := exhausted_meets host classifyCiFailure w start hidle w'
  cases result with
  | ok outcome =>
    obtain ⟨rfl, heffects⟩ := hmeets.1 outcome hresult
    exact ⟨heffects, .inl rfl⟩
  | error e =>
    obtain ⟨heffects, hstop⟩ := hmeets.2 e hresult
    refine ⟨heffects, .inr ?_⟩
    cases e with
    | stopped => exact .inl rfl
    | thrown message => exact .inr ⟨⟨message, rfl⟩, hstop.resolve_left (by simp)⟩

end Unusable

/-! ## Sequences of calls -/

/-- The world, and the heads of the calls that waited. -/
structure LadderState where
  world : World := {}
  waits : List String := []

inductive LadderAction where
  /-- A call with the context at hand. -/
  | call (call : CiCall)
  /-- A new polling context. -/
  | newContext
  /-- Other code sets what the ladder does not own in the context. -/
  | setContext (preArchiveSha : Option String) (terminalShas : List String) (noRunSha : Option String)

section Runs

variable (host : NodeHost) (classifyCiFailure : List CheckRun → Option String → CiFailureClass)

/-- The call returned a `waiting` outcome. -/
def waited : Except CiStop CiOutcome → Bool
  | .ok (.waiting _) => true
  | _ => false

def ladderStep (s : LadderState) : LadderAction → Option LadderState
  | .call call =>
    let result := handleDefinitiveCiFailure host classifyCiFailure call s.world
    some { world := result.2, waits := if waited result.1 then s.waits ++ [call.headSha] else s.waits }
  | .newContext => some { s with world := { s.world with ctx := {} } }
  | .setContext preArchiveSha terminalShas noRunSha =>
    some { s with world := { s.world with ctx := { s.world.ctx with
      preArchiveSha := preArchiveSha, ciTerminalFailRecordedShas := terminalShas
      noRunRecoveryAttemptedForSha := noRunSha } } }

/-- The heads of an action are heads at hand. -/
def Admitted (heads : List String) (_ : LadderState) : LadderAction → Prop
  | .call call => call.headSha ∈ heads
  | .newContext => True
  | .setContext _ _ noRunSha => ∀ head ∈ noRunSha, head ∈ heads

variable {host classifyCiFailure} {heads : List String}

variable (host heads) in
/-- Every call that waited has a class that was charged for its head, each its own. -/
structure LadderInv (s : LadderState) : Prop where
  sound : Sound host heads s.world
  charges : ∃ charges : List (CiClass × String), charges.map Prod.snd = s.waits ∧ charges.Nodup ∧
    ∀ c head, (c, head) ∈ charges → s.world.Spends host c head

variable (classifyCiFailure) in
lemma call_spec (hheads : Heads host heads) (hw : Sound host heads w) {call : CiCall}
    (hhead : call.headSha ∈ heads)
    (hresult : handleDefinitiveCiFailure host classifyCiFailure call w = (result, w')) :
    Kept host heads (fun c head => w.Spends host c head) w' ∧
      (waited result = true → Waits host call (fun c head => w.Spends host c head) w') := by
  have hmeets := handle_meets classifyCiFailure hheads hhead w ⟨hw, fun _ _ h => h⟩ w'
  cases result with
  | ok outcome =>
    obtain ⟨hkept, hwaits⟩ := hmeets.1 outcome hresult
    refine ⟨hkept, fun hwaited => hwaits ?_⟩
    rintro rfl
    cases hwaited
  | error e => exact ⟨hmeets.2 e hresult, fun hwaited => by cases hwaited⟩

lemma ladderStep_inv (hheads : Heads host heads) {s t : LadderState} {a : LadderAction}
    (hok : Admitted heads s a) (h : LadderInv host heads s)
    (hstep : ladderStep host classifyCiFailure s a = some t) : LadderInv host heads t := by
  obtain ⟨charges, hwaits, hnodup, hspends⟩ := h.charges
  cases a with
  | call call =>
    cases hstep
    obtain ⟨hkept, hcharged⟩ := call_spec classifyCiFailure hheads h.sound hok rfl
    refine ⟨hkept.toSound, ?_⟩
    dsimp only
    split
    · next hwaited =>
      obtain ⟨c, hpaid⟩ := hcharged hwaited
      refine ⟨charges ++ [(c, call.headSha)], by simp [hwaits], ?_, fun c' head hmem => ?_⟩
      · refine List.nodup_append.2 ⟨hnodup, List.nodup_singleton _, fun p hp q hq heq => ?_⟩
        obtain rfl := List.mem_singleton.1 hq
        subst heq
        exact hpaid.fresh (hspends c call.headSha hp)
      · rcases List.mem_append.1 hmem with hmem | hmem
        · exact hkept.keeps c' head (hspends c' head hmem)
        · cases List.mem_singleton.1 hmem
          exact hpaid.durable.spends
    · exact ⟨charges, hwaits, hnodup, fun c' head hmem => hkept.keeps c' head (hspends c' head hmem)⟩
  | newContext =>
    cases hstep
    exact ⟨⟨h.sound.toBooks.of_files rfl rfl ⟨[], by simp, rfl⟩, fun _ _ hmem => (by cases hmem),
      fun _ hmem _ => (by cases hmem)⟩, charges, hwaits, hnodup, hspends⟩
  | setContext preArchiveSha terminalShas noRunSha =>
    cases hstep
    exact ⟨⟨h.sound.toBooks.of_files rfl rfl ⟨[], by simp, rfl⟩, h.sound.context.attempted,
      fun head hmem _ => hok head hmem⟩, charges, hwaits, hnodup, hspends⟩

lemma count_le_five {charges : List (CiClass × String)} (h : charges.Nodup) (head : String) :
    (charges.map Prod.snd).count head ≤ 5 := by
  let classes := (charges.filter fun p => p.2 = head).map Prod.fst
  have hnodup : classes.Nodup := by
    refine List.Nodup.map_on ?_ (h.filter _)
    rintro ⟨c, sha⟩ hc ⟨c', sha'⟩ hc' heq
    simp only [List.mem_filter, decide_eq_true_eq] at hc hc'
    exact Prod.ext heq (hc.2.trans hc'.2.symm)
  have hsub : classes ⊆ [.rebase, .rerun, .archiveFail, .assertionFix, .docsStaleHeal] := by
    intro c _
    cases c <;> simp
  have hlength : classes.length = (charges.map Prod.snd).count head := by
    simp [classes, List.count, List.countP_eq_length_filter, List.filter_map, Function.comp_def, beq_eq_decide]
  rw [← hlength]
  exact (hnodup.subperm hsub).length_le

/-- Over every sequence of calls on one run directory whose ledger accounts for its rows: each side effect is
performed at most once for a head and when its charge is in the ledger file; a head waits five times at most;
a call that waits has charged a class whose budget was not spent before; and a call that finds the ledger unusable
performs nothing and is blocked, unless the process stops or the lookup of the worktree or the block itself
throws. -/
theorem recovery_bounded (hheads : Heads host heads) {primary legacy : LedgerText}
    (haccounts : ∀ ledger, World.Loads host { primary := primary, legacy := legacy } ledger →
      Accounts host heads ledger.attempts) {actions : List LadderAction} {s : LadderState}
    (hrun : Run (ladderStep host classifyCiFailure) (Admitted heads)
      { world := { primary := primary, legacy := legacy } } actions s) :
    (effects s.world.trace).Nodup ∧ (∀ step ∈ s.world.trace, ∀ c head, step.event = .sideEffect c head →
        Durable host step.primary c head) ∧
      (∀ head, s.waits.count head ≤ 5) ∧
      ∀ call : CiCall, call.headSha ∈ heads → ∀ result w',
        handleDefinitiveCiFailure host classifyCiFailure call s.world = (result, w') →
          (waited result = true → ∃ c, ¬ s.world.Spends host c call.headSha ∧ Durable host w'.primary c call.headSha) ∧
          (FindsUnusable host call s.world → effects w'.trace = effects s.world.trace ∧
            (result = .ok .blocked ∨ result = .error .stopped ∨ (∃ message, result = .error (.thrown message)) ∧
                (w'.events.getLast? = some .getForIssue ∨ w'.events.getLast? = some .setBlocked))) := by
  have hinitial : LadderInv host heads { world := { primary := primary, legacy := legacy } } := by
    refine ⟨⟨⟨haccounts, List.nodup_nil, fun _ hmem => (by cases hmem), fun _ _ hmem => (by cases hmem)⟩,
      fun _ _ hmem => (by cases hmem), fun _ hmem _ => (by cases hmem)⟩, [], rfl, List.nodup_nil, ?_⟩
    exact fun _ _ hmem => by cases hmem
  have hinv : LadderInv host heads s :=
    hrun.invariant (I := LadderInv host heads) (fun _ _ _ hok h hstep => ladderStep_inv hheads hok h hstep) hinitial
  obtain ⟨charges, hwaits, hnodup, -⟩ := hinv.charges
  refine ⟨hinv.sound.once, fun step hstep c head hevent => ?_, fun head => ?_,
    fun call hhead result w' hresult => ⟨fun hwaited => ?_, fun hunusable => ?_⟩⟩
  · exact hinv.sound.durable step hstep c head (by rw [hevent]; rfl)
  · rw [← hwaits]
    exact count_le_five hnodup head
  · obtain ⟨c, hpaid⟩ := (call_spec classifyCiFailure hheads hinv.sound hhead hresult).2 hwaited
    exact ⟨c, hpaid.fresh, hpaid.durable⟩
  · exact unusable_meets classifyCiFailure hunusable hresult

end Runs

/-! ## Concrete sequences -/

/-- The digests of the attempts of one head. -/
def ladderHost : NodeHost := .onFirstDay []
  [(attemptText "abc" .ciRebase, "4e93c6ec658a846280e3eb2a0c315db199f44866e377d99d47a0fb60ecbf8f90"),
    (attemptText "abc" .ciRerun, "08bf314288de34c6b85abaa99df160d9dad387e0e6f26aee4a418fc98d9a2c63"),
    (attemptText "abc" .ciArchiveFailRecovery, "7886ef38adb9f2aa5a21b017be80024ae2b349bf961cd4dd2f94a38957aa5760"),
    (attemptText "abc" .ciAssertionFix, "8fe0a47f5c29fc9cdabed356c6ee66edbb911954ae96a3ba8a9d564ec38018ae"),
    (attemptText "abc" .ciDocsStaleHeal, "889610d31e936200ebec37e8d302a45b177016611e5b4856947b2eb2dd55d5bb"),
    (attemptText "abc" .noRunRecovery, "ecf65de03174e2bf9b9a478fa9891a687daf362d1f14fea9a056be3956288592")]

lemma heads_abc : Heads ladderHost ["abc"] where
  isHead head hhead := by
    obtain rfl := List.mem_singleton.1 hhead
    exact ⟨by decide, by decide +kernel, by decide +kernel⟩
  digests := by decide +kernel

/-- A worktree, a rebase that succeeds, and the head that is read back. -/
def ladderDeps (afterSha : String) : CiDeps where
  now _ := "1970-01-01T00:00:00.000Z"
  getForIssue _ := .ok true
  tryRebaseAndPush _ := .ok true
  getPrDetail _ := .ok afterSha
  fetchCheckLogExcerpt _ _ := .ok none
  getDiffFilePaths _ := .ok []
  getSuccessfulCheckRunCount _ := .ok 0
  closePr _ := .ok ()
  reopenPr _ := .ok ()
  rerunFailedWorkflows _ := .ok true

def ladderCall (afterSha : String) : CiCall where
  headSha := "abc"
  deps := ladderDeps afterSha

/-- The rebase moves the head, which is then reset: the second call re-runs, and the third is blocked. -/
theorem recovery_bounded_three : ∃ s : LadderState, s.waits = ["abc", "abc"] ∧
    effects s.world.trace = [(.rebase, "abc"), (.rerun, "abc")] ∧ (effects s.world.trace).Nodup := by
  let classify : List CheckRun → Option String → CiFailureClass := fun _ _ => .unknown
  let actions : List LadderAction :=
    [.call (ladderCall "def"), .newContext, .call (ladderCall "def"), .call (ladderCall "def")]
  have hadmitted : ∀ (s : LadderState) (a : LadderAction), a ∈ actions → Admitted ["abc"] s a := by
    intro s a ha
    simp only [actions, List.mem_cons, List.not_mem_nil, or_false] at ha
    rcases ha with rfl | rfl | rfl | rfl
    · exact List.mem_singleton.2 rfl
    · exact trivial
    · exact List.mem_singleton.2 rfl
    · exact List.mem_singleton.2 rfl
  obtain ⟨s, hrun, hwaits, heffects⟩ : ∃ s, Run (ladderStep ladderHost classify) (Admitted ["abc"]) {} actions s ∧
      s.waits = ["abc", "abc"] ∧ effects s.world.trace = [(.rebase, "abc"), (.rerun, "abc")] :=
    ⟨_, .cons (hadmitted _ _ (by simp [actions])) rfl (.cons (hadmitted _ _ (by simp [actions])) rfl
      (.cons (hadmitted _ _ (by simp [actions])) rfl (.cons (hadmitted _ _ (by simp [actions])) rfl (.nil _)))),
      by decide +kernel⟩
  have haccounts : ∀ ledger, World.Loads ladderHost {} ledger → Accounts ladderHost ["abc"] ledger.attempts := by
    rintro ledger ⟨nowIso, migrated, hload⟩
    cases hload
    exact ⟨by simp, by simp, by simp⟩
  exact ⟨s, hwaits, heffects, (recovery_bounded heads_abc haccounts hrun).1⟩

/-- A ledger with a row of the rebase of the head, of a status. -/
def rebaseLedger (status : Json) : LedgerText := .json (.obj
  [("schema_version", .num (.finite 1)), ("attempts", .arr
    [.obj [("attempt_id", .str "4e93c6ec658a846280e3eb2a0c315db199f44866e377d99d47a0fb60ecbf8f90"),
      ("head_sha", .str "abc"), ("action", .str "ci_rebase"), ("status", status),
      ("outcome", .str "superseded"), ("budget_remaining", .num (.finite 0))]])])

/-- A call whose worktree lookup throws. -/
def lookupCall : CiCall where
  headSha := "abc"
  deps := { ladderDeps "abc" with getForIssue := fun _ => .error "git worktree list failed" }

/-- With a superseded row in the ledger, the head is rebased twice, and so it is when the row is damaged between
the calls so that the parser drops it; with a corrupt ledger, a call whose worktree lookup throws is not blocked. -/
theorem superseded_rebased_twice :
    (∃ s, Run (ladderStep ladderHost fun _ _ => .assertion) (Admitted ["abc"])
      { world := { primary := rebaseLedger (.str "superseded") } }
      [.call (ladderCall "abc"), .newContext, .call (ladderCall "abc")] s ∧
        effects s.world.trace = [(.rebase, "abc"), (.rebase, "abc")]) ∧
      effects (handleDefinitiveCiFailure ladderHost (fun _ _ => .assertion) (ladderCall "abc")
        { (handleDefinitiveCiFailure ladderHost (fun _ _ => .assertion) (ladderCall "abc") {}).2 with
          primary := rebaseLedger .null, ctx := {} }).2.trace = [(.rebase, "abc"), (.rebase, "abc")] ∧
      FindsUnusable ladderHost lookupCall { primary := .corrupt "Unexpected end of JSON input" } ∧
      (handleDefinitiveCiFailure ladderHost (fun _ _ => .assertion) lookupCall
        { primary := .corrupt "Unexpected end of JSON input" }).1 = .error (.thrown "git worktree list failed") := by
  refine ⟨⟨_, .cons (List.mem_singleton.2 rfl) rfl (.cons trivial rfl (.cons (List.mem_singleton.2 rfl) rfl
    (.nil _))), by decide +kernel⟩, by decide +kernel, ⟨_, _, rfl⟩, by decide +kernel⟩

end AgentPipeline.Stage
