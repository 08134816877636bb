import AgentPipeline.Loop.Quarantine
import AgentPipeline.Loop.RecoveryClosure

/-!
# CoolingClosure: which Cooling producers write a ledger that is read back

Three producers write Cooling records, each from its own fields, while `isCoolingRecordShape` decides
whether the generation they are part of is live:

* `persistCoolingFromCompatibilityStop` of `loop/supervisor.ts`, which projects a historical stop;
* `persistOwnedCooling` of `loop/recovery.ts` with a record of `buildCoolingRecord`;
* `persistUnreconstructableOwnedWait` of `loop/store.ts`, on a ledger that passes under a contract that
  does not.

The first one writes no wake time. `cooling_closure_iff` says for each of them when what it wrote is
read back.
-/

namespace AgentPipeline.Loop

open Option

variable {token : String}

section Producers

variable (rt : JsRuntime)

/-! ## The producers -/

/-- `coolingDeadline(nowIso, backoff, generation)`; `none` is an invalid date. -/
def coolingDeadline (nowIso : String) (backoff : RecoveryBackoff) (generation : Nat) :
    Option String :=
  let seconds :=
    min backoff.maxSeconds (backoff.initialSeconds * backoff.multiplier ^ generation)
  ((rt.dateParse nowIso).bind (·.addSeconds seconds)).map rt.toISOString

def coolingRecordFromCompatibilityStop (stop : LoopStopRecord) : LoopCoolingRecord where
  reason := .mechanicalExhaustion
  time := stop.time
  itemId := stop.itemId.filter (· ≠ "")
  theme := stop.theme.filter (· ≠ "")
  historicalEvidence := match stop.reason with
    | .recoveryExhausted | .runFatal | .repeatedNoProgress => some stop.reason.name
    | _ => none

def bindLifecycle (contract : LoopContract) (ledger : LoopLedger) (ownership : LifecycleOwnership)
    (updatedAt minted : String) : LoopLedger :=
  bindLifecycleRecord ledger
    (resolveLogicalOperationId
      { loopStore := contract.logicalOperationId
        written := ledger.lifecycle.map (·.logicalOperationId) } minted)
    ownership updatedAt

/-- `persistCoolingFromCompatibilityStop`, on the ledger that the cycle holds. Nothing is written
when it has its Cooling and its lifecycle already. -/
def persistCoolingFromCompatibilityStop (token minted : String) (contract : LoopContract)
    (ledger : LoopLedger) (stop : LoopStopRecord) (d : RunDir) :
    Except LoopError (LoopLedger × LoopCoolingRecord) × RunDir :=
  let cooling := ledger.cooling.getD (coolingRecordFromCompatibilityStop stop)
  let next := bindLifecycle contract { ledger with cooling := some cooling }
    (deriveLifecycleState { cooling := true, stopReason := some stop.reason }) cooling.time minted
  -- `next === ledger`: binding returns the ledger it was given while the record stays
  if ledger.cooling.isSome && next.lifecycle = ledger.lifecycle then (.ok (ledger, cooling), d)
  else
    match writeLedger rt token next d with
    | (.error e, d') => (.error e, d')
    | (.ok (), d') => (.ok (next, cooling), d')

/-! ## Reading back -/

/-- The written ledger passes, and every later read returns it and quarantines nothing. -/
structure ReadBack (d : RunDir) (written : LoopLedger) : Prop where
  accepted : d.contract.accepts rt written = true
  again : ∀ now token, readLedger rt now token d = (.ok (d.contract.normalize rt written), d)

variable {rt} {d : RunDir}

lemma readBack_iff {written : LoopLedger} (h : d.contract.normalize rt d.ledger = d.contract.normalize rt written) :
    ReadBack rt d written ↔ d.contract.accepts rt written = true := by
  refine ⟨ReadBack.accepted, fun haccepts => ⟨haccepts, fun now token => ?_⟩⟩
  have hdisk : d.contract.accepts rt d.ledger = true := by
    rw [← accepts_normalize, h, accepts_normalize, haccepts]
  rw [readLedger_of_accepts rt now hdisk, h]

variable {d' : RunDir}

lemma writeLedger_readBack_iff {next : LoopLedger} (h : writeLedger rt token next d = (.ok (), d')) :
    ReadBack rt d' next ↔ d.contract.accepts rt next = true := by
  have hcontract : d'.contract = d.contract := by
    have hsame := sameRun_writeLedger rt token next d
    rw [h] at hsame
    exact hsame.contract
  obtain ⟨_, hledger, _⟩ := writeLedger_eq_ok rt h
  rw [readBack_iff (by rw [hledger, hcontract, normalize_normalize]), hcontract]

/-! ## From a stop -/

lemma isCoolingRecordShape_compatibilityStop (stop : LoopStopRecord) :
    isCoolingRecordShape rt (coolingRecordFromCompatibilityStop stop) = false := by
  simp [isCoolingRecordShape, coolingRecordFromCompatibilityStop]

variable {cooling : LoopCoolingRecord}

lemma compatibilityStop_readBack_iff {minted : String} {stop : LoopStopRecord} {after : LoopLedger}
    (haccepts : d.contract.accepts rt d.ledger = true)
    (h : persistCoolingFromCompatibilityStop rt token minted d.contract
      (d.contract.normalize rt d.ledger) stop d = (.ok (after, cooling), d')) :
    ReadBack rt d' after ↔ d.ledger.cooling.isSome = true := by
  have hcooling : (d.contract.normalize rt d.ledger).cooling = d.ledger.cooling := rfl
  unfold persistCoolingFromCompatibilityStop at h
  dsimp only at h
  split at h
  · next hkept =>
    -- nothing was written, and the ledger passed before
    simp only [Prod.mk.injEq, Except.ok.injEq] at h
    obtain ⟨⟨rfl, _⟩, rfl⟩ := h
    have hsome : d.ledger.cooling.isSome = true := (Bool.and_eq_true_iff.1 hkept).1
    rw [readBack_iff (by rw [normalize_normalize]), accepts_normalize]
    simp [haccepts, hsome]
  · split at h
    · simp at h
    · next written hwrite =>
      simp only [Prod.mk.injEq, Except.ok.injEq] at h
      obtain ⟨⟨rfl, _⟩, rfl⟩ := h
      rw [writeLedger_readBack_iff hwrite, hcooling]
      cases hsome : d.ledger.cooling with
      | some record =>
        -- the record is kept, and the check does not read the lifecycle
        simp only [getD_some, isSome_some, iff_true]
        rw [← accepts_normalize] at haccepts
        rw [← haccepts]
        exact accepts_congr rt rfl rfl (by simp [bindLifecycle, hcooling, hsome]) rfl
      | none =>
        -- the new record spoils the ledger it is part of
        simp only [getD_none, isSome_none, Bool.false_eq_true, iff_false]
        intro hpasses
        have hrecord := (accepts_iff.1 hpasses).2.2.1
        simp [bindLifecycle, isCoolingRecordShape_compatibilityStop] at hrecord

/-! ## Owned Cooling -/

variable {wakeAt : String}

lemma isIsoTimestamp_coolingDeadline {nowIso : String} {backoff : RecoveryBackoff}
    {generation : Nat} (h : coolingDeadline rt nowIso backoff generation = some wakeAt) :
    isIsoTimestamp rt wakeAt = true := by
  obtain ⟨wake, _, rfl⟩ := map_eq_some_iff.1 h
  exact isIsoTimestamp_toISOString rt wake

lemma normal_seenLedger (d : RunDir) :
    ∀ a ∈ (seenLedger rt d).recoveryAttempts, NormalRow rt d.contract.recoveryPolicy a := by
  intro a ha
  obtain ⟨b, hb, rfl⟩ := List.mem_map.1 ha
  obtain ⟨c, _, rfl⟩ := List.mem_map.1 hb
  have hnormal : NormalRow rt d.contract.recoveryPolicy
      (normalizeAttempt rt d.contract.recoveryPolicy c) := normalizeAttempt_idem rt _ c
  obtain ⟨attemptId, candidateIdentity, fallback, budgetRemaining, heq⟩ :=
    upgradeAttempt_of_normal rt hnormal
  rw [heq]
  exact (hnormal.fill rt _ _ _ _).1

lemma eligible_seenLedger (haccepts : d.contract.accepts rt d.ledger = true) :
    ∀ a ∈ (seenLedger rt d).recoveryAttempts, a.episodeId ≠ none → a.nextEligibleAt.any (isIsoTimestamp rt) = true := by
  intro a ha hid
  obtain ⟨b, hb, rfl⟩ := List.mem_map.1 ha
  have hrows := (accepts_iff.1 haccepts).2.1
  have hnormal : NormalRow rt d.contract.recoveryPolicy b := by
    obtain ⟨c, _, rfl⟩ := List.mem_map.1 hb
    exact normalizeAttempt_idem rt _ c
  obtain ⟨attemptId, candidateIdentity, fallback, budgetRemaining, heq⟩ :=
    upgradeAttempt_of_normal rt hnormal
  rw [heq] at hid ⊢
  exact (authoritative_of_shape rt _ (hrows.shape b hb) (carries_of_episodeId hid)).1

lemma refits_of_stampedRow {episodeId : String} {a : LoopRecoveryAttempt}
    (ha : a.episodeId ≠ none → a.nextEligibleAt.any (isIsoTimestamp rt) = true) :
    Refits rt (stampedRow episodeId wakeAt a) a := by
  unfold stampedRow
  split
  · next hid =>
    have hne : a.episodeId ≠ none := by simp [hid]
    exact { Refits.refl rt { a with nextEligibleAt := some wakeAt } with eligible := .inr ⟨hne, ha hne⟩ }
  · exact Refits.refl rt a

variable {policy : RecoveryPolicy}

lemma RowsAccepted.stamp_iff {rows : List LoopRecoveryAttempt}
    {episodeId : String} (hwake : isIsoTimestamp rt wakeAt = true)
    (hrows : ∀ a ∈ rows, a.episodeId ≠ none → a.nextEligibleAt.any (isIsoTimestamp rt) = true) :
    RowsAccepted rt policy (rows.map (stampedRow episodeId wakeAt)) ↔ RowsAccepted rt policy rows := by
  have hto : List.Forall₂ (Refits rt) rows (rows.map (stampedRow episodeId wakeAt)) :=
    List.forall₂_map_right_iff.2 (List.forall₂_same.2 fun a _ => (settles_stampedRow hwake a).1)
  have hfrom : List.Forall₂ (Refits rt) (rows.map (stampedRow episodeId wakeAt)) rows :=
    List.forall₂_map_left_iff.2
      (List.forall₂_same.2 fun a ha => refits_of_stampedRow (hrows a ha))
  have hcounts := derivedAttemptCounts_stamp hwake rows episodeId
  exact ⟨fun h => h.refit hfrom fun eid _ _ _ => (hcounts eid).symm, fun h => h.refit hto fun eid _ _ _ => hcounts eid⟩

lemma normal_cooledLedger {ledger : LoopLedger} (hshape : isCoolingRecordShape rt cooling = true)
    (h : ∀ a ∈ ledger.recoveryAttempts, NormalRow rt policy a) :
    ∀ a ∈ (cooledLedger cooling ledger).recoveryAttempts, NormalRow rt policy a := by
  rcases cooledLedger_rows hshape ledger with hsame | ⟨episodeId, wakeAt, _, hstamped⟩
  · rwa [hsame]
  · rw [hstamped]
    intro b hb
    obtain ⟨a, ha, rfl⟩ := List.mem_map.1 hb
    unfold stampedRow
    split
    · next hid =>
      exact (h a ha).congr rt (normalizeStarted_of_episodeId rt (by simp [hid])) rfl rfl rfl
    · exact h a ha

lemma cooledLedger_rows_iff {ledger : LoopLedger} (hshape : isCoolingRecordShape rt cooling = true)
    (hrows : ∀ a ∈ ledger.recoveryAttempts, a.episodeId ≠ none → a.nextEligibleAt.any (isIsoTimestamp rt) = true) :
    RowsAccepted rt policy (cooledLedger cooling ledger).recoveryAttempts ↔
      RowsAccepted rt policy ledger.recoveryAttempts := by
  rcases cooledLedger_rows hshape ledger with hsame | ⟨episodeId, wakeAt, hwake, hstamped⟩
  · rw [hsame]
  · rw [hstamped]
    exact RowsAccepted.stamp_iff hwake hrows

lemma ownedCooling_readBack_iff {now : Instant} {after : LoopLedger}
    (haccepts : d.contract.accepts rt d.ledger = true) (hshape : isCoolingRecordShape rt cooling = true)
    (h : persistOwnedCooling rt now token cooling d = (.ok after, d')) : ReadBack rt d' after ↔
      isLoopLedgerShape rt d.contract.validationPolicy (seenLedger rt d) = true := by
  obtain ⟨hrun, _, hcooling, hitems⟩ := accepts_iff.1 haccepts
  -- the decision refuses nothing: what is written is the cooled ledger
  have hseen : after = cooledLedger cooling (seenLedger rt d) ∧
      writeLedger rt token (cooledLedger cooling (seenLedger rt d)) d = (.ok (), d') := by
    unfold persistOwnedCooling transact at h
    rw [readLedger_of_accepts rt now haccepts] at h
    dsimp only at h
    split at h
    · simp at h
    · next hwrite =>
      simp only [Prod.mk.injEq, Except.ok.injEq] at h
      obtain ⟨rfl, rfl⟩ := h
      exact ⟨rfl, hwrite⟩
  obtain ⟨rfl, hwrite⟩ := hseen
  have hnormal : ((cooledLedger cooling (seenLedger rt d)).recoveryAttempts.map
      (normalizeAttempt rt d.contract.recoveryPolicy)) = (cooledLedger cooling (seenLedger rt d)).recoveryAttempts :=
    map_normalize_of_normal (normal_cooledLedger hshape (normal_seenLedger d))
  rw [writeLedger_readBack_iff hwrite, accepts_iff, hnormal,
    cooledLedger_rows_iff hshape (eligible_seenLedger haccepts), isLoopLedgerShape_iff]
  -- both Cooling tables stay in shape, so that only the rows are in question
  have hcooled : (cooledLedger cooling (seenLedger rt d)).cooling.all (isCoolingRecordShape rt) =
    true := by simpa [cooledLedger] using hshape
  have hitemCooled : (cooledLedger cooling (seenLedger rt d)).itemCooling.values.all
      (isCoolingRecordShape rt) = true := cooledLedger_itemCooling hshape hitems
  constructor
  · rintro ⟨_, hrows, _, _⟩
    exact ⟨hrun, hrows, hcooling, hitems⟩
  · rintro ⟨_, hrows, _, _⟩
    exact ⟨hrun, hrows, hcooled, hitemCooled⟩

lemma isCoolingRecordShape_buildCoolingRecord {t : Instant}
    (hwake : isIsoTimestamp rt wakeAt = true) (input : CoolingInput) : isCoolingRecordShape rt (buildCoolingRecord
      { input with time := rt.toISOString t, nextEligibleAt := wakeAt }) = true := by
  simp [isCoolingRecordShape, buildCoolingRecord, isIsoTimestamp_toISOString, hwake]

end Producers

/-! ## The wait under a rejected contract -/

namespace Documents

open Json

variable {rt : JsRuntime}

lemma normalize_printed_of_shape {value : Json} (h : isLoopLedgerShape rt none value = true) :
    normalizeRecoveryLedgerCompatibility rt none value.printed = value.printed := by
  unfold normalizeRecoveryLedgerCompatibility
  rw [get?_printed]
  cases hget : value.get? "recovery_attempts" with
  | none => rfl
  | some attempts =>
    cases attempts with
    | arr rows =>
      have hrows : ∀ row ∈ rows, isLoopRecoveryAttemptShape rt none row = true := by
        simp only [isLoopLedgerShape, Bool.and_eq_true, absentOr, hget, all_some,
          attemptsInShape, List.all_eq_true] at h
        exact h.1.1.2.1
      have hsame : (rows.map printed).any (attemptChanges rt none) = false := by
        refine List.any_eq_false.2 fun row hrow => ?_
        obtain ⟨source, hsource, rfl⟩ := List.mem_map.1 hrow
        have hidentity : derivedIdentity rt source.printed = none :=
          derivedIdentity_of_shape (isLoopRecoveryAttemptShape_printed (hrows source hsource))
        simp [attemptChanges, hidentity, rebasesLegacyCursor]
      simp [printed, printedElems_eq_map, hsame]
    | num n => cases n <;> rfl
    | _ => rfl

lemma isLoopLedgerShape_set_cooling {value cooling : Json}
    (h : isLoopLedgerShape rt none value = true) (hobject : cooling.isPlainObject = true)
    (hcooling : isCoolingRecordShape rt cooling = true) :
    isLoopLedgerShape rt none (value.set "cooling" cooling) = true := by
  have hother : ∀ key, key ≠ "cooling" → (value.set "cooling" cooling).get? key = value.get? key :=
    fun key hkey => get?_set_of_ne hkey value cooling
  have htext : ∀ key, key ≠ "cooling" → (value.set "cooling" cooling).textAt key = value.textAt key :=
    fun key hkey => by simp only [textAt, hother key hkey]
  unfold isLoopLedgerShape isNonEmptyStringAt absentOr at h ⊢
  simp only [htext "schema" (by decide), htext "run_id" (by decide), hother "items" (by decide),
    hother "consecutive_blocked" (by decide), hother "stop" (by decide),
    hother "merge_barrier" (by decide), hother "last_reconciliation" (by decide),
    hother "recovery_attempts" (by decide), hother "item_cooling" (by decide),
    isPlainObject_set, Bool.and_eq_true] at h ⊢
  have hself : (value.set "cooling" cooling).get? "cooling" = some cooling :=
    get?_set_self h.1.1.1.1.1.1.1.1.1.1 "cooling" cooling
  have hrecord : coolingInShape rt cooling = true := by
    cases cooling with
    | obj fields => exact hcooling
    | _ => simp [isPlainObject, fields?] at hobject
  obtain ⟨⟨hfront, _⟩, hitemCooling⟩ := h
  exact ⟨⟨hfront, by rw [hself, all_some, hrecord]⟩, hitemCooling⟩

lemma contractWait_settles_iff {now : Instant} {evidence : String} {parsed : Option Json}
    {files files' : RunFiles} {existing : Json}
    (hsafe : assertSafeRunId files.runId = .ok ()) (hcontract : files.validContract = none)
    (hledger : files.ledger = some (some existing)) (hexisting : isLoopLedgerShape rt none existing = true)
    (h : persistUnreconstructableOwnedWait rt now .contract evidence token parsed none files = (.ok none, files')) :
    ∃ written, files'.ledger = some (some written) ∧
      (Settled rt files' written ↔ (existing.rationalAt "consecutive_blocked").isSome = true) := by
  have hid : isSafeRunId files.runId = true := by
    by_contra hunsafe
    simp [assertSafeRunId, hunsafe] at hsafe
  obtain ⟨stop, hstop⟩ : ∃ stop, existing.get? "stop" = some stop := by
    simp only [isLoopLedgerShape, Bool.and_eq_true] at hexisting
    exact isSome_iff_exists.1 hexisting.1.1.1.1.1.2
  unfold persistUnreconstructableOwnedWait at h
  simp only [hid, if_true, hledger, join_some, Option.filter, hexisting] at h
  split at h
  · simp at h
  · split at h
    · simp at h
    · next wake _ =>
      generalize hrecord : waitCooling (rt.toISOString now) (rt.toISOString wake) evidence = cooling at h
      have hshape : isCoolingRecordShape rt cooling = true := hrecord ▸ isCoolingRecordShape_waitCooling
      have hwait : isLoopLedgerShape rt none (existing.set "cooling" cooling) = true :=
        isLoopLedgerShape_set_cooling hexisting (hrecord ▸ rfl) hshape
      -- the stop is there already, so assigning it changes nothing
      have hsame : (existing.set "cooling" cooling).set "stop" ((existing.get? "stop").getD .null) =
          existing.set "cooling" cooling := by
        refine set_of_get? ?_
        rw [get?_set_of_ne (by decide), hstop, getD_some]
      rw [hsame] at h
      simp only [Prod.mk.injEq, true_and] at h
      have hledger' : files'.ledger = some (some (existing.set "cooling" cooling).printed) := by rw [← h]
      have hrun' : files'.runId = files.runId := by rw [← h]
      have hcontract' : files'.contract = files.contract := by rw [← h]
      refine ⟨_, hledger', ?_⟩
      rw [settled_iff (hrun' ▸ hsafe) hledger']
      -- a rejected contract states no policy
      obtain ⟨hraw, hpolicy⟩ := policy_congr hcontract'
      have hnoRaw : files'.rawPolicy = none := by rw [hraw, RunFiles.rawPolicy, hcontract, bind_none]
      have hnoPolicy : files'.policy = none := by
        rw [hpolicy]
        simp only [RunFiles.policy, hcontract]
      have hnormal := normalize_printed_of_shape hwait
      have hcount : (existing.set "cooling" cooling).rationalAt "consecutive_blocked" =
          existing.rationalAt "consecutive_blocked" := by
        unfold rationalAt
        rw [get?_set_of_ne (by decide)]
      rw [hnoRaw, RunFiles.accepts, hnoPolicy, hnoRaw, hnormal, isLoopLedgerShape_printed hwait, hcount]
      exact and_iff_left rfl

end Documents

/-! ## All producers -/

/-- What a Cooling producer wrote is read back exactly when it had a wake time to write, and the rest
of the ledger was already readable: a projected stop when the ledger had its Cooling before, owned
Cooling when the upgraded rows still pass, and the wait under a rejected contract when the count of
blocks is finite. -/
theorem cooling_closure_iff (rt : JsRuntime) :
    (∀ (d d' : RunDir) (token minted : String) (stop : LoopStopRecord) (after : LoopLedger)
        (cooling : LoopCoolingRecord), d.contract.accepts rt d.ledger = true →
        isMechanicalCompatibilityStopReason stop.reason = true →
        persistCoolingFromCompatibilityStop rt token minted d.contract
          (d.contract.normalize rt d.ledger) stop d = (.ok (after, cooling), d') →
        (ReadBack rt d' after ↔ d.ledger.cooling.isSome = true)) ∧
      (∀ (d d' : RunDir) (t now : Instant) (token wakeAt : String) (backoff : RecoveryBackoff)
        (generation : Nat) (input : CoolingInput) (after : LoopLedger),
        d.contract.accepts rt d.ledger = true →
        coolingDeadline rt (rt.toISOString t) backoff generation = some wakeAt →
        persistOwnedCooling rt now token (buildCoolingRecord
          { input with time := rt.toISOString t, nextEligibleAt := wakeAt }) d = (.ok after, d') →
        (ReadBack rt d' after ↔ isLoopLedgerShape rt d.contract.validationPolicy (seenLedger rt d) = true)) ∧
      ∀ (files files' : Documents.RunFiles) (now : Instant) (evidence token : String)
        (parsed : Option Json) (existing : Json),
        Documents.assertSafeRunId files.runId = .ok () → files.validContract = none →
        files.ledger = some (some existing) →
        Documents.isLoopLedgerShape rt none existing = true →
        Documents.persistUnreconstructableOwnedWait rt now .contract evidence token parsed none
          files = (.ok none, files') →
        ∃ written, files'.ledger = some (some written) ∧ (Documents.Settled rt files' written ↔
            (existing.rationalAt "consecutive_blocked").isSome = true) := by
  refine ⟨?_, ?_, ?_⟩
  · intro d d' token minted stop after cooling haccepts _ h
    exact compatibilityStop_readBack_iff haccepts h
  · intro d d' t now token wakeAt backoff generation input after haccepts hwake h
    exact ownedCooling_readBack_iff haccepts
      (isCoolingRecordShape_buildCoolingRecord (isIsoTimestamp_coolingDeadline hwake) input) h
  · intro files files' now evidence token parsed existing hsafe hcontract hledger hexisting h
    exact Documents.contractWait_settles_iff hsafe hcontract hledger hexisting h

def loginStop : LoopStopRecord where
  reason := .recoveryExhausted
  time := "1970-01-01T00:00:00.000Z"
  itemId := some "12"
  theme := some "environment-auth"

/-- The run whose login recovery has stopped. -/
def stoppedRun : RunDir :=
  { loginRun with ledger := { loginRun.ledger with stop := some loginStop } }

/-- The wake time of the login, half a minute from the epoch. -/
def loginCooling : CoolingInput where
  reason := .mechanicalExhaustion
  time := "1970-01-01T00:00:00.000Z"
  nextEligibleAt := "1970-01-01T00:00:30.000Z"
  itemId := some "12"
  theme := some "environment-auth"

/-- The run after its login cooled. -/
def coolingRun : RunDir :=
  { stoppedRun with
    ledger := { stoppedRun.ledger with cooling := some (buildCoolingRecord loginCooling) } }

/-- The files of the run when its contract is cut short. -/
def cutContractFiles : Documents.RunFiles where
  runId := "r"
  path := "runs/r"
  contract := some none
  contractLastValid := none
  ledger := some (some (Documents.waitLedger "r" (.obj []) .null []))
  ledgerLastValid := none
  lock := some { engine := .claude, pid := 1, hostname := "host", token := "t" }
  quarantined := []

lemma exists_of_returns {α σ : Type} {result : Except LoopError α × σ} (P : α → Bool)
    (h : result.1.toOption.any P = true) : ∃ a s, result = (.ok a, s) ∧ P a = true := by
  obtain ⟨returned, s⟩ := result
  cases returned with
  | error e => simp [Except.toOption] at h
  | ok a => exact ⟨a, s, rfl, by simpa [Except.toOption] using h⟩

theorem login_cooling_read_back :
    (∃ after d', persistOwnedCooling (.onFirstDay []) .epoch "t" (buildCoolingRecord loginCooling)
        loginRun = (.ok after, d') ∧ ReadBack (.onFirstDay []) d' after) ∧
      (∃ after cooling d', persistCoolingFromCompatibilityStop (.onFirstDay []) "t" "op"
          coolingRun.contract (coolingRun.contract.normalize (.onFirstDay []) coolingRun.ledger)
          loginStop coolingRun = (.ok (after, cooling), d') ∧
        ReadBack (.onFirstDay []) d' after) ∧
      ∃ files' written, Documents.persistUnreconstructableOwnedWait (.onFirstDay []) .epoch
          .contract "runs/r/contract.json.quarantine" "t" none none cutContractFiles =
            (.ok none, files') ∧ files'.ledger = some (some written) ∧
        Documents.Settled (.onFirstDay []) files' written := by
  refine ⟨?_, ?_, ?_⟩
  · obtain ⟨after, d', hwrite, _⟩ := exists_of_returns (fun _ => true)
      (by decide +kernel : (persistOwnedCooling (.onFirstDay []) .epoch "t"
        (buildCoolingRecord loginCooling) loginRun).1.toOption.any (fun _ => true) = true)
    have hdeadline : coolingDeadline (.onFirstDay []) (JsRuntime.toISOString (.onFirstDay []) .epoch)
        { initialSeconds := 30, multiplier := 2, maxSeconds := 300 } 0 =
          some "1970-01-01T00:00:30.000Z" := by decide +kernel
    refine ⟨after, d', hwrite, ?_⟩
    exact ((cooling_closure_iff (.onFirstDay [])).2.1 loginRun d' .epoch .epoch "t" _ _ 0
      loginCooling after (by decide +kernel) hdeadline hwrite).2 (by decide +kernel)
  · obtain ⟨⟨after, cooling⟩, d', hwrite, _⟩ := exists_of_returns (fun _ => true)
      (by decide +kernel : (persistCoolingFromCompatibilityStop (.onFirstDay []) "t" "op"
        coolingRun.contract (coolingRun.contract.normalize (.onFirstDay []) coolingRun.ledger)
        loginStop coolingRun).1.toOption.any (fun _ => true) = true)
    refine ⟨after, cooling, d', hwrite, ?_⟩
    exact ((cooling_closure_iff (.onFirstDay [])).1 coolingRun d' "t" "op" loginStop after cooling
      (by decide +kernel) rfl hwrite).2 rfl
  · obtain ⟨returned, files', hwrite, hnone⟩ := exists_of_returns Option.isNone
      (by decide +kernel : (Documents.persistUnreconstructableOwnedWait (.onFirstDay []) .epoch
        .contract "runs/r/contract.json.quarantine" "t" none none
          cutContractFiles).1.toOption.any Option.isNone = true)
    obtain rfl := isNone_iff_eq_none.1 hnone
    obtain ⟨written, hledger, hsettled⟩ := (cooling_closure_iff (.onFirstDay [])).2.2
      cutContractFiles files' .epoch "runs/r/contract.json.quarantine" "t" none _
      (by decide) rfl rfl (by decide +kernel) hwrite
    exact ⟨files', written, hwrite, hledger, hsettled.2 (by decide +kernel)⟩

/-- The projection of a stop has no wake time: the next read rejects what it wrote. -/
theorem projected_stop_not_read_back :
    ¬∀ (rt : JsRuntime) (d d' : RunDir) (token minted : String) (stop : LoopStopRecord)
        (after : LoopLedger) (cooling : LoopCoolingRecord), d.contract.accepts rt d.ledger = true →
      isMechanicalCompatibilityStopReason stop.reason = true →
      persistCoolingFromCompatibilityStop rt token minted d.contract
        (d.contract.normalize rt d.ledger) stop d = (.ok (after, cooling), d') →
      ReadBack rt d' after := by
  intro h
  have haccepts : stoppedRun.contract.accepts (.onFirstDay []) stoppedRun.ledger = true := by decide +kernel
  obtain ⟨⟨after, cooling⟩, d', hwrite, _⟩ := exists_of_returns (fun _ => true)
    (by decide +kernel : (persistCoolingFromCompatibilityStop (.onFirstDay []) "t" "op"
      stoppedRun.contract (stoppedRun.contract.normalize (.onFirstDay []) stoppedRun.ledger)
      loginStop stoppedRun).1.toOption.any (fun _ => true) = true)
  have hback := h _ stoppedRun d' "t" "op" loginStop after cooling haccepts rfl hwrite
  have hcooling := (compatibilityStop_readBack_iff haccepts hwrite).1 hback
  simp [stoppedRun, loginRun, runOf] at hcooling

end AgentPipeline.Loop
