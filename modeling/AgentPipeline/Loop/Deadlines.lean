import AgentPipeline.Loop.CoolingClosure

/-!
# Deadlines: the backoff deadlines of claims and of Cooling

A policy entry passes `compileEntry` with any three numbers as its backoff, and two producers add the
backoff to a time:

* `coolingDeadline` writes `now + s`, whatever the sign of `s`;
* `startRecoveryAttempt` writes `now + s` for a positive `s` only, but computes it for every `s`.

`Due` is what a deadline has to be: a text that is read back as a time not before `now`. An
addition leaves the range of dates in both directions (`addSeconds_isSome_iff`), and a negative sum
is rounded up, so that one millisecond less may still be `now` (`addSeconds_le_iff`).
-/

namespace Instant

/-- The last millisecond of the dates, in both directions. -/
def limit : ℚ := 8640000000000000

lemma natAbs_truncate_le_iff (q : ℚ) (n : Nat) : (truncate q).natAbs ≤ n ↔ |q| < n + 1 := by
  unfold truncate
  split
  · next hpos =>
    have hfloor : 0 ≤ ⌊q⌋ := Int.floor_nonneg.2 hpos
    have hlt : ⌊q⌋ < (n : Int) + 1 ↔ q < n + 1 := by
      rw [Int.floor_lt]
      norm_num
    rw [abs_of_nonneg hpos, ← hlt]
    omega
  · next hneg =>
    have hneg : q < 0 := not_le.1 hneg
    have hceil : ⌈q⌉ ≤ 0 := Int.ceil_nonpos.2 hneg.le
    have hlt : -((n : Int) + 1) < ⌈q⌉ ↔ -((n : ℚ) + 1) < q := by
      rw [Int.lt_ceil]
      norm_num
    rw [abs_of_neg hneg, neg_lt, ← hlt]
    omega

lemma le_truncate_iff (n : Int) (q : ℚ) : n ≤ truncate q ↔ (n : ℚ) ≤ q ∨ (n ≤ 0 ∧ (n : ℚ) - 1 < q) := by
  unfold truncate
  split
  · next hpos =>
    rw [Int.le_floor]
    refine ⟨.inl, ?_⟩
    rintro (hle | ⟨hn, -⟩)
    · exact hle
    · have hcast : (n : ℚ) ≤ 0 := by exact_mod_cast hn
      exact hcast.trans hpos
  · next hneg =>
    have hneg : q < 0 := not_le.1 hneg
    have hceil : n ≤ ⌈q⌉ ↔ (n : ℚ) - 1 < q := by
      rw [← Int.sub_one_lt_iff, Int.lt_ceil]
      norm_num
    rw [hceil]
    constructor
    · intro hlt
      refine .inr ⟨?_, hlt⟩
      -- `n - 1 < q < 0`, and `n` is an integer
      have hone : (n : ℚ) < 1 := by linarith
      have hone : n < 1 := by exact_mod_cast hone
      omega
    · rintro (hle | ⟨-, hlt⟩)
      · linarith
      · exact hlt

variable (now : Instant) (seconds : ℚ)

lemma addSeconds_isSome_iff :
    (now.addSeconds seconds).isSome = true ↔ |now.ms + seconds * 1000| < limit + 1 := by
  have hbound := natAbs_truncate_le_iff (now.ms + seconds * 1000) 8640000000000000
  unfold addSeconds limit
  dsimp only
  split
  · next h => simpa using hbound.1 h
  · next h => simpa using mt hbound.2 h

variable {now seconds}

lemma ms_of_addSeconds {t : Instant} (h : now.addSeconds seconds = some t) :
    t.ms = truncate (now.ms + seconds * 1000) := by
  unfold addSeconds at h
  dsimp only at h
  split at h
  · cases h
    rfl
  · cases h

lemma addSeconds_le_iff {t : Instant} (h : now.addSeconds seconds = some t) :
    now.ms ≤ t.ms ↔ 0 ≤ seconds ∨ (now.ms ≤ 0 ∧ -1 < seconds * 1000) := by
  rw [ms_of_addSeconds h, le_truncate_iff]
  have hforward : (now.ms : ℚ) ≤ now.ms + seconds * 1000 ↔ 0 ≤ seconds := by
    constructor
    · intro hle
      linarith
    · intro hle
      linarith
  have hback : (now.ms : ℚ) - 1 < now.ms + seconds * 1000 ↔ -1 < seconds * 1000 := by
    constructor
    · intro hlt
      linarith
    · intro hlt
      linarith
  rw [hforward, hback]

end Instant

namespace AgentPipeline.Loop

section Deadlines

variable (rt : JsRuntime)

/-- A deadline as the claim wants it: a text that reads as a time, not before `now`. -/
def Due (now : Instant) (text : String) : Prop :=
  ∃ t, rt.dateParse text = some t ∧ now.ms ≤ t.ms

/-- What is printed of a date that exists is read back. -/
def ReadsBack (date : Option Instant) : Prop :=
  ∀ t, date = some t → rt.dateParse (rt.toISOString t) = some t

/-- The seconds that `coolingDeadline` adds. -/
def coolingSeconds (backoff : RecoveryBackoff) (generation : Nat) : ℚ :=
  min backoff.maxSeconds (backoff.initialSeconds * backoff.multiplier ^ generation)

variable {rt} {now : Instant}

lemma due_now (hnow : ReadsBack rt (some now)) : Due rt now (rt.toISOString now) := ⟨now, hnow now rfl, le_rfl⟩

lemma due_toISOString_iff {t : Instant} {date : Option Instant} (hdate : ReadsBack rt date)
    (h : date = some t) : Due rt now (rt.toISOString t) ↔ now.ms ≤ t.ms := by
  have hparse := hdate t h
  constructor
  · rintro ⟨t', ht', hle⟩
    rw [hparse, Option.some.injEq] at ht'
    rwa [ht']
  · exact fun hle => ⟨t, hparse, hle⟩

/-! ## Cooling -/

lemma coolingDeadline_due_iff {nowIso : String} (backoff : RecoveryBackoff)
    (generation : Nat) (hnow : rt.dateParse nowIso = some now)
    (hdate : ReadsBack rt (now.addSeconds (coolingSeconds backoff generation))) :
    (∃ text, coolingDeadline rt nowIso backoff generation = some text ∧ Due rt now text) ↔
      |now.ms + coolingSeconds backoff generation * 1000| < Instant.limit + 1 ∧
        (0 ≤ coolingSeconds backoff generation ∨ (now.ms ≤ 0 ∧ -1 < coolingSeconds backoff generation * 1000)) := by
  have hdeadline : coolingDeadline rt nowIso backoff generation =
      (now.addSeconds (coolingSeconds backoff generation)).map rt.toISOString := by
    unfold coolingDeadline coolingSeconds
    simp [hnow]
  rw [hdeadline, ← Instant.addSeconds_isSome_iff]
  cases hadd : now.addSeconds (coolingSeconds backoff generation) with
  | none => simp
  | some t =>
    have hdue := @due_toISOString_iff _ now _ _ hdate hadd
    rw [Instant.addSeconds_le_iff hadd] at hdue
    simp [hdue]

/-! ## Claims -/

/-- The claim is recorded, and the times on its row are deadlines. -/
def ClaimsInTime (rt : JsRuntime) (now : Instant) (contract : LoopContract)
    (input : StartRecoveryAttemptInput) (ledger : LoopLedger) : Prop :=
  ∃ next row, decideStart rt now contract input ledger = .ok ((next, row), some next) ∧
    (∀ text, row.notBefore = some text → Due rt now text) ∧
    ∃ text, row.nextEligibleAt = some text ∧ Due rt now text

lemma row_notBefore {ctx : ClaimContext} {time notBefore text : String}
    (h : (ctx.row rt time notBefore).notBefore = some text) : 0 < ctx.backoff ∧ text = notBefore := by
  have hrow : (ctx.row rt time notBefore).notBefore =
      if ctx.outcome rt time = .started ∧ 0 < ctx.backoff then some notBefore else none := rfl
  rw [hrow] at h
  split at h
  · next hstarted =>
    cases h
    exact ⟨hstarted.2, rfl⟩
  · cases h

lemma row_nextEligibleAt (ctx : ClaimContext) (time notBefore : String) :
    (ctx.row rt time notBefore).nextEligibleAt =
      some (if ctx.outcome rt time = .started ∧ 0 < ctx.backoff then notBefore else time) := by
  have hrow : (ctx.row rt time notBefore).nextEligibleAt = some (ctx.claimed rt time notBefore).nextEligibleAt := rfl
  rw [hrow, Option.some.injEq]
  unfold ClaimContext.claimed settleEpisode applyClaimToEpisode
  -- only a started claim looks at the backoff
  cases hout : ctx.outcome rt time with
  | started => by_cases hback : 0 < ctx.backoff <;> simp [hback]
  | _ => simp

lemma claimsInTime_iff {contract : LoopContract}
    {input : StartRecoveryAttemptInput} {ledger : LoopLedger} {ctx : ClaimContext}
    (hctx : claimContext contract input ledger = .ok ctx)
    (hnew : ledger.recoveryAttempts.find? (fun a => a.attemptId = some (ctx.attemptId rt)) = none)
    (hnow : ReadsBack rt (some now)) (hdate : ReadsBack rt (now.addSeconds ctx.backoff)) :
    ClaimsInTime rt now contract input ledger ↔
      |now.ms + ctx.backoff * 1000| < Instant.limit + 1 := by
  rw [← Instant.addSeconds_isSome_iff]
  have hparse := hnow now rfl
  unfold ClaimsInTime decideStart
  simp only [hctx, hnew, hparse, Option.bind_some]
  cases hadd : now.addSeconds ctx.backoff with
  | none => simp
  | some t =>
    simp only [Option.isSome_some, iff_true]
    -- a positive backoff moves the time forward, any other one is not written
    have hdue (hpos : 0 < ctx.backoff) : Due rt now (rt.toISOString t) :=
      (due_toISOString_iff hdate hadd).2 ((Instant.addSeconds_le_iff hadd).2 (.inl hpos.le))
    refine ⟨_, _, rfl, ?_, _, row_nextEligibleAt .., ?_⟩
    · intro text htext
      obtain ⟨hpos, rfl⟩ := row_notBefore htext
      exact hdue hpos
    · split
      · next hstarted => exact hdue hstarted.2
      · exact due_now hnow

/-! ## Both producers -/

/-- A Cooling deadline is due exactly when the sum is a date and its backoff does not move the time
back by a whole millisecond; a new claim is recorded, with times that are due, exactly when the sum
is a date. -/
theorem deadlines_due_iff :
    (∀ (nowIso : String) (now : Instant) (backoff : RecoveryBackoff) (generation : Int),
      rt.dateParse nowIso = some now →
      ReadsBack rt (now.addSeconds (coolingSeconds backoff generation.toNat)) →
      ((∃ text, coolingDeadline rt nowIso backoff generation.toNat = some text ∧ Due rt now text) ↔
        |now.ms + coolingSeconds backoff generation.toNat * 1000| < Instant.limit + 1 ∧
          (0 ≤ coolingSeconds backoff generation.toNat ∨
            (now.ms ≤ 0 ∧ -1 < coolingSeconds backoff generation.toNat * 1000)))) ∧
    ∀ (now : Instant) (contract : LoopContract) (input : StartRecoveryAttemptInput)
      (ledger : LoopLedger) (ctx : ClaimContext),
      claimContext contract input ledger = .ok ctx →
      ledger.recoveryAttempts.find? (fun a => a.attemptId = some (ctx.attemptId rt)) = none →
      ReadsBack rt (some now) → ReadsBack rt (now.addSeconds ctx.backoff) →
      (ClaimsInTime rt now contract input ledger ↔
        |now.ms + ctx.backoff * 1000| < Instant.limit + 1) := by
  constructor
  · intro nowIso now backoff generation hnow hdate
    exact coolingDeadline_due_iff backoff generation.toNat hnow hdate
  · intro now contract input ledger ctx hctx hnew hnow hdate
    exact claimsInTime_iff hctx hnew hnow hdate

end Deadlines

/-! ## The login -/

def tenSecondsIn : Instant := ⟨10000, by decide⟩

lemma readsBack_of {rt : JsRuntime} {date : Option Instant} {t : Instant} (h : date = some t)
    (hparse : rt.dateParse (rt.toISOString t) = some t) : ReadsBack rt date := by
  intro t' ht'
  rw [h, Option.some.injEq] at ht'
  subst ht'
  exact hparse

def loginClaimInput : StartRecoveryAttemptInput where
  token := "t"
  itemId := "12"
  engine := .claude
  action := .verifyAuthentication
  candidateIdentity := some "a1b2c3|attempt=1"
  minted := "op"

/-- Under the default policy the login waits ten seconds, on either way. -/
theorem login_deadlines_due :
    (∃ text, coolingDeadline (.onFirstDay loginDigests) "1970-01-01T00:00:00.000Z"
        (defaultRecoveryPolicy .environmentAuth).backoff (0 : Int).toNat = some text ∧
      Due (.onFirstDay loginDigests) .epoch text) ∧
      ClaimsInTime (.onFirstDay loginDigests) .epoch loginRun.contract loginClaimInput
        loginRun.ledger := by
  obtain ⟨hcooling, hclaims⟩ := @deadlines_due_iff (.onFirstDay loginDigests)
  have hepoch : ReadsBack (.onFirstDay loginDigests) (some .epoch) :=
    readsBack_of rfl (by decide +kernel)
  obtain ⟨ctx, hctx, hbackoff, hnew⟩ : ∃ ctx,
      claimContext loginRun.contract loginClaimInput loginRun.ledger = .ok ctx ∧ ctx.backoff = 10 ∧
      loginRun.ledger.recoveryAttempts.find?
        (fun a => a.attemptId = some (ctx.attemptId (.onFirstDay loginDigests))) = none :=
    ⟨_, rfl, by decide +kernel, rfl⟩
  have hten : Instant.epoch.addSeconds 10 = some tenSecondsIn := by decide +kernel
  have hback : ReadsBack (.onFirstDay loginDigests) (Instant.epoch.addSeconds 10) :=
    readsBack_of hten (by decide +kernel)
  have hseconds : coolingSeconds (defaultRecoveryPolicy .environmentAuth).backoff (0 : Int).toNat =
      10 := by decide +kernel
  constructor
  · refine (hcooling _ .epoch _ 0 (by decide +kernel) (hseconds ▸ hback)).2 ?_
    rw [hseconds]
    exact ⟨by decide +kernel, by decide +kernel⟩
  · refine (hclaims _ _ _ _ ctx hctx hnew hepoch (hbackoff ▸ hback)).2 ?_
    rw [hbackoff]
    decide +kernel

/-- A policy whose login backs off by a negative second. -/
def hastyPolicy : RecoveryPolicy := fun cls =>
  if cls = .environmentAuth then retryEntry [.verifyAuthentication] 2 (-1) 2 120 true 2
  else defaultRecoveryPolicy cls

/-- The policy compiles, and its login is due a second before it cooled. -/
theorem hasty_cooling_not_due :
    ¬∀ (rt : JsRuntime) (policy compiled : RecoveryPolicy) (cls : DurableBlockerClass)
        (nowIso : String) (now : Instant) (generation : Int),
      compileRecoveryPolicy policy = .ok compiled → rt.dateParse nowIso = some now →
      ReadsBack rt
        (now.addSeconds (coolingSeconds (compiled cls).backoff generation.toNat)) →
      ∃ text, coolingDeadline rt nowIso (compiled cls).backoff generation.toNat = some text ∧ Due rt now text := by
  intro h
  have hcompiled : compileRecoveryPolicy hastyPolicy = .ok hastyPolicy := by
    refine compileRecoveryPolicy_eq_ok.2 ⟨rfl, fun cls => ?_⟩
    cases cls <;> decide +kernel
  have hnine : tenSecondsIn.addSeconds
      (coolingSeconds (hastyPolicy .environmentAuth).backoff (0 : Int).toNat) =
        some ⟨9000, by decide⟩ := by decide +kernel
  obtain ⟨text, hdeadline, t, hparse, hle⟩ := h (.onFirstDay []) _ _ .environmentAuth
    "1970-01-01T00:00:10.000Z" tenSecondsIn 0 hcompiled (by decide +kernel)
    (readsBack_of hnine (by decide +kernel))
  have htext : coolingDeadline (.onFirstDay []) "1970-01-01T00:00:10.000Z"
      (hastyPolicy .environmentAuth).backoff (0 : Int).toNat = some "1970-01-01T00:00:09.000Z" := by
    decide +kernel
  rw [htext, Option.some.injEq] at hdeadline
  subst hdeadline
  have hread : JsRuntime.dateParse (.onFirstDay []) "1970-01-01T00:00:09.000Z" =
      some ⟨9000, by decide⟩ := by decide +kernel
  rw [hread, Option.some.injEq] at hparse
  subst hparse
  exact absurd hle (by decide)

end AgentPipeline.Loop
