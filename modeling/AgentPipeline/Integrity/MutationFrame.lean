import AgentPipeline.Integrity.Mutation

/-!
# MutationFrame: what a call leaves alone

A call writes one record file, adds rows under one id and charges one budget. What these writes keep, the
call keeps, whether it returns, throws or is cut off by a crash.

* `meets_perform`, `meets_answer`, `meets_guarded`: the rules of one await;
* `meets_persist`, `meets_appendRow`: one write of the store, done or not done;
* `Keeps`: a property of worlds that the writes of a call keep;
* `Phases`: what a mutation establishes from phase to phase;
* `meets_hydrate`: what a hydration finds and does.
-/

namespace AgentPipeline.Integrity

open Effect (Meets)

/-! ## One await -/

section Await

variable {env : Env} {site : Site} {P : World → Prop} {T : Stop → World → Prop}

lemma meets_perform {change : World → World} {Q : Unit → World → Prop}
    (hok : env.fault site = .none → ∀ w, P w → Q () (change w))
    (hthrows : ∀ message, env.fault site = .throws message → ∀ w, P w → T (.thrown message) w)
    (hcrash : ∀ done, env.fault site = .crash done → ∀ w, P w → T .crashed (if done then change w else w)) :
    Meets P (perform env site change) Q T := by
  intro w hw w'
  simp only [perform, Effect.call]
  cases hfault : env.fault site with
  | none =>
    refine ⟨fun a ha => ?_, fun e he => (by cases he)⟩
    cases ha
    exact hok hfault w hw
  | throws message =>
    refine ⟨fun a ha => (by cases ha), fun e he => ?_⟩
    cases he
    exact hthrows message hfault w hw
  | crash done =>
    refine ⟨fun a ha => (by cases ha), fun e he => ?_⟩
    cases he
    exact hcrash done hfault w hw

variable {α : Type}

lemma meets_answer {value : World → α} {Q : α → World → Prop} (hok : env.fault site = .none → ∀ w, P w → Q (value w) w)
    (hthrows : ∀ message, env.fault site = .throws message → ∀ w, P w → T (.thrown message) w)
    (hcrash : ∀ done, env.fault site = .crash done → ∀ w, P w → T .crashed w) :
    Meets P (answer env site value) Q T := by
  intro w hw w'
  simp only [answer, Effect.call]
  cases hfault : env.fault site with
  | none =>
    refine ⟨fun a ha => ?_, fun e he => (by cases he)⟩
    cases ha
    exact hok hfault w hw
  | throws message =>
    refine ⟨fun a ha => (by cases ha), fun e he => ?_⟩
    cases he
    exact hthrows message hfault w hw
  | crash done =>
    refine ⟨fun a ha => (by cases ha), fun e he => ?_⟩
    cases he
    exact hcrash done hfault w hw

lemma meets_answer_keeps {value : World → α} :
    Meets P (answer env site value) (fun _ => P) (fun _ => P) :=
  meets_answer (fun _ _ hw => hw) (fun _ _ _ hw => hw) fun _ _ _ hw => hw

lemma meets_guarded {m : Act α} {Q : Except String α → World → Prop}
    (h : Meets P m (fun a => Q (.ok a)) fun e w =>
      match e with
      | .thrown message => Q (.error message) w
      | .crashed => T .crashed w) :
    Meets P (guarded m) Q T := by
  refine Meets.attempt (h.mono (fun _ hw => hw) (fun _ _ hw => hw) fun e w hw => ?_)
  cases e with
  | thrown message => exact hw
  | crashed => exact hw

lemma meets_guarded_keeps {m : Act α} {Q : World → Prop}
    (h : Meets P m (fun _ => Q) fun _ => Q) : Meets P (guarded m) (fun _ => Q) (fun _ => Q) := by
  refine meets_guarded (h.mono (fun _ hw => hw) (fun _ _ hw => hw) fun e w hw => ?_)
  cases e with
  | thrown message => exact hw
  | crashed => exact hw

lemma meets_guarded_answer {value : α} :
    Meets P (guarded (answer env site fun _ => value))
      (fun answered w => P w ∧ ∀ a, answered = .ok a → a = value) (fun _ => P) := by
  refine meets_guarded (meets_answer (fun _ w hw => ⟨hw, fun a ha => ?_⟩)
    (fun message _ w hw => ⟨hw, fun a ha => (by cases ha)⟩) fun _ _ w hw => hw)
  cases ha
  rfl

end Await

/-! ## One write -/

variable {row : IntegrityInvalidationRecord}

section Write

variable {env : Env} {P Q : World → Prop}

lemma meets_perform_id {site : Site} :
    Meets P (perform env site id) (fun _ => P) (fun _ => P) := by
  refine meets_perform (fun _ w hw => hw) (fun _ _ w hw => hw) fun done _ w hw => ?_
  split <;> exact hw

lemma meets_persist {phase : PersistPhase} {record : MutationRecord}
    (hwrite : ∀ w, P w → Q (w.writeRecord record))
    (hpoint : ∀ w, Q w → Q (w.pointTo record.mutationId)) :
    Meets P (persistMutationRecord env phase record) (fun _ => Q) (fun _ w => P w ∨ Q w) := by
  refine Meets.bind (meets_perform_id.mono (fun _ hw => hw) (fun _ _ hw => hw) fun _ _ hw => .inl hw)
    fun _ => ?_
  refine Meets.bind (q := fun _ => Q)
    (meets_perform (fun _ w hw => hwrite w hw) (fun _ _ w hw => .inl hw) fun done _ w hw => ?_)
    fun _ => ?_
  · split
    · exact .inr (hwrite w hw)
    · exact .inl hw
  · split
    · refine meets_perform (fun _ w hw => hpoint w hw) (fun _ _ w hw => .inr hw) fun done _ w hw => ?_
      split
      · exact .inr (hpoint w hw)
      · exact .inr hw
    · exact .ret fun _ hw => hw

lemma meets_appendRow {escalated : Bool}
    (hrow : ∀ w, P w → Q (w.appendRow row)) :
    Meets P (appendInvalidationRecord env escalated row) (fun _ => Q)
      (fun e w => P w ∨ e = .crashed ∧ Q w) := by
  have hbefore : ∀ (e : Stop) w, P w → P w ∨ e = .crashed ∧ Q w := fun _ _ hw => .inl hw
  refine Meets.bind (meets_perform_id.mono (fun _ hw => hw) (fun _ _ hw => hw) hbefore) fun _ => ?_
  refine Meets.bind (meets_perform_id.mono (fun _ hw => hw) (fun _ _ hw => hw) hbefore) fun _ => ?_
  refine meets_perform (fun _ w hw => hrow w hw) (fun _ _ w hw => .inl hw) fun done _ w hw => ?_
  split
  · exact .inr ⟨rfl, hrow w hw⟩
  · exact .inl hw

end Write

/-! ## The ids of a record -/

namespace MutationRecord

variable (record : MutationRecord)

@[simp] lemma classify_mutationId (result : ClassificationResult) (lifecycle : Lifecycle)
    (changed : Bool) : (record.classify result lifecycle changed).mutationId = record.mutationId := rfl

@[simp] lemma classify_beforeSha (result : ClassificationResult) (lifecycle : Lifecycle)
    (changed : Bool) : (record.classify result lifecycle changed).beforeSha = record.beforeSha := rfl

@[simp] lemma readBack_mutationId (postRefs : Option AuthoritativeRefs) :
    (record.readBack postRefs).mutationId = record.mutationId := by cases postRefs <;> rfl

@[simp] lemma readBack_beforeSha (postRefs : Option AuthoritativeRefs) :
    (record.readBack postRefs).beforeSha = record.beforeSha := by cases postRefs <;> rfl

@[simp] lemma transition_mutationId (manifest : Except String CandidateIntegrityManifest)
    (failure : String) : (record.transition manifest failure).2.mutationId = record.mutationId := by
  cases manifest <;> rfl

@[simp] lemma transition_beforeSha (manifest : Except String CandidateIntegrityManifest)
    (failure : String) : (record.transition manifest failure).2.beforeSha = record.beforeSha := by
  cases manifest <;> rfl

end MutationRecord

/-- A row of a record, under an id. -/
structure RowFor (rowId : String) (beforeSha : Option CommitSha) (row : IntegrityInvalidationRecord) :
    Prop where
  mutationId : row.mutationId = rowId
  fromSha : row.fromSha = (shaText beforeSha).getD ""
  noBar : row.toSha.toList.contains '|' = false

lemma noBar_shaText (a b : Option CommitSha) :
    ((((shaText a).orElse fun _ => shaText b).getD "").toList.contains '|') = false := by
  cases a with
  | some sha => exact sha.noBar
  | none =>
    cases b with
    | some sha => exact sha.noBar
    | none => rfl

lemma invalidationOf_rowFor {beforeSha afterSha : Option CommitSha} {mutationId : String}
    {result : ClassificationResult} {disposition : IntegrityDisposition} {method : MutationMethod} {recordedAt : String}
    (h : invalidationOf (shaText beforeSha) (shaText afterSha) mutationId result disposition method
      recordedAt = some row) : RowFor mutationId beforeSha row ∧ row.classification = result.classification ∧
      row.invalidatedReview = disposition.invalidatedReview ∧
      row.requiresFreshReview = disposition.requiresFreshReview := by
  unfold invalidationOf at h
  split at h
  · cases h
    exact ⟨⟨rfl, rfl, noBar_shaText afterSha beforeSha⟩, rfl, rfl, rfl⟩
  · cases h

/-! ## What the writes of a call keep -/

/-- Kept by writes of records of a kind. -/
structure KeepsRecords (P : World → Prop) (good : MutationRecord → Prop) : Prop where
  record : ∀ w record, good record → P w → P (w.writeRecord record)
  pointer : ∀ w id, P w → P (w.pointTo id)

/-- Kept by writes of one record file. -/
abbrev KeepsFile (P : World → Prop) (recordId : MutationId) : Prop :=
  KeepsRecords P fun record => record.mutationId = recordId

/-- Kept by writes of one record file and by rows under one id. -/
structure Keeps (P : World → Prop) (recordId : MutationId) (rowId : String)
    (beforeSha : Option CommitSha) : Prop
    extends toKeepsFile : KeepsRecords P fun record => record.mutationId = recordId where
  row : ∀ w row, RowFor rowId beforeSha row → P w → P (w.appendRow row)

section Keeping

variable {env : Env} {P : World → Prop} {recordId : MutationId} {rowId : String}
  {beforeSha : Option CommitSha} {record : MutationRecord} {good : MutationRecord → Prop}

lemma meets_persist_keeps (hP : KeepsRecords P good) (phase : PersistPhase) (hgood : good record) :
    Meets P (persistMutationRecord env phase record) (fun _ => P) (fun _ => P) :=
  (meets_persist (fun w hw => hP.record w record hgood hw) fun w hw => hP.pointer w _ hw).mono
    (fun _ hw => hw) (fun _ _ hw => hw) fun _ _ hw => hw.elim (fun h => h) fun h => h

lemma meets_appendRow_keeps (hP : Keeps P recordId rowId beforeSha) (escalated : Bool)
    (hrow : RowFor rowId beforeSha row) :
    Meets P (appendInvalidationRecord env escalated row) (fun _ => P) (fun _ => P) :=
  (meets_appendRow fun w hw => hP.row w row hrow hw).mono (fun _ hw => hw) (fun _ _ hw => hw)
    fun _ _ hw => hw.elim (fun h => h) fun h => h.2

lemma meets_readPostRefs_keeps (hP : KeepsRecords P good) (hgood : good record) :
    Meets P (readPostRefs env record) (fun _ => P) (fun _ => P) := by
  refine Meets.bind (meets_guarded_keeps meets_answer_keeps) fun answered => ?_
  cases answered with
  | error message => exact .ret fun _ hw => hw
  | ok refs =>
    refine Meets.bind (meets_guarded_keeps (meets_persist_keeps hP _ hgood)) fun _ => ?_
    exact .ret fun _ hw => hw

lemma meets_classifyPost_keeps (postRefs : Option AuthoritativeRefs) (unreadable failure : String) :
    Meets P (classifyPost env record postRefs unreadable failure)
      (fun classified w => P w ∧ classified.2.mutationId = record.mutationId ∧
        classified.2.beforeSha = record.beforeSha)
      (fun _ => P) := by
  cases postRefs with
  | none => exact .ret fun _ hw => ⟨hw, rfl, rfl⟩
  | some refs =>
    refine Meets.bind (meets_guarded_keeps meets_answer_keeps) fun manifest => ?_
    exact .ret fun _ hw => ⟨hw, by simp, by simp⟩

lemma meets_classifiedRow_keeps (mutationId : MutationId) (result : ClassificationResult)
    (changed : Bool) :
    Meets P (classifiedRow env record mutationId result changed)
      (fun row w => P w ∧ ∀ r, row = some r → RowFor mutationId.text record.beforeSha r)
      (fun _ => P) := by
  unfold classifiedRow
  dsimp only
  split
  · refine Meets.bind meets_answer_keeps fun recordedAt => ?_
    exact .ret fun _ hw => ⟨hw, fun r hr => (invalidationOf_rowFor hr).1⟩
  · refine .ret fun _ hw => ⟨hw, ?_⟩
    intro r hr
    cases hr

lemma meets_persistClassified_keeps (hP : Keeps P recordId rowId beforeSha)
    (hid : record.mutationId = recordId) {row : Option IntegrityInvalidationRecord}
    (hrow : ∀ r, row = some r → RowFor rowId beforeSha r) :
    Meets P (persistClassifiedDisposition env record row) (fun _ => P) (fun _ => P) := by
  refine Meets.bind (meets_persist_keeps hP.toKeepsFile _ hid) fun _ => ?_
  cases row with
  | none => exact .ret fun _ hw => hw
  | some r => exact meets_appendRow_keeps hP false (hrow r rfl)

lemma meets_escalate_keeps (hP : KeepsFile P recordId)
    (hid : record.mutationId = recordId) (changed : Bool) (persistErr : String) :
    Meets P (escalate env record changed persistErr)
      (fun escalated w => P w ∧ escalated.mutationId = record.mutationId ∧ escalated.beforeSha = record.beforeSha)
      (fun _ => P) := by
  refine Meets.bind (meets_guarded_keeps (meets_persist_keeps hP _ hid)) fun _ => ?_
  exact .ret fun _ hw => ⟨hw, rfl, rfl⟩

lemma meets_escalateRow_keeps (hP : Keeps P recordId rowId beforeSha)
    (hrowId : record.mutationId.text = rowId) (hbefore : record.beforeSha = beforeSha) (changed : Bool)
    (persistErr : String) :
    Meets P (escalateRow env record changed persistErr) (fun _ => P) (fun _ => P) := by
  refine Meets.bind meets_answer_keeps fun recordedAt => ?_
  split
  · next row hrow =>
    have hfor := (invalidationOf_rowFor hrow).1
    rw [hrowId, hbefore] at hfor
    refine Meets.bind (meets_guarded_keeps (meets_appendRow_keeps hP true hfor)) fun _ => ?_
    exact .ret fun _ hw => hw
  · exact .ret fun _ hw => hw

lemma meets_dispose_keeps (hP : KeepsRecords P good)
    (hgood : ∀ updatedAt, good { record with lifecycle := .disposed, updatedAt := updatedAt })
    (emitsEvent : Bool) :
    Meets P (dispose env emitsEvent record) (fun _ => P) (fun _ => P) := by
  refine Meets.bind meets_answer_keeps fun _ => ?_
  have hrest : Meets P
      (do
        let updatedAt ← nowIso env .disposeClock
        let record := { record with lifecycle := .disposed, updatedAt := updatedAt }
        let _ ← guarded (persistMutationRecord env .disposed record)
        pure record : Act MutationRecord)
      (fun _ => P) (fun _ => P) := by
    refine Meets.bind meets_answer_keeps fun updatedAt => ?_
    refine Meets.bind (meets_guarded_keeps (meets_persist_keeps hP _ (hgood updatedAt))) fun _ => ?_
    exact .ret fun _ hw => hw
  dsimp only
  split
  · exact Meets.bind (meets_guarded_keeps meets_answer_keeps) fun _ => hrest
  · exact hrest

end Keeping

/-! ## The retry budget -/

/-- The failures that the budget of a subject counts. -/
def IntegrityStore.failures (store : IntegrityStore) (subject : BudgetKey) : Nat :=
  match store.budgets.lookup subject with
  | some (.state state) => state.failureCount
  | _ => 0

variable {mutationId : MutationId}

section Budget

variable {env : Env} {P Q : World → Prop}

lemma meets_loadBudgetState (readSite clockSite : Site) (subject : BudgetKey) :
    Meets P (loadBudgetState env readSite clockSite subject)
      (fun state w => P w ∧ state.failureCount = w.store.failures subject) (fun _ => P) := by
  refine Meets.bind (q := fun file w => P w ∧ file = w.store.budgets.lookup subject)
    (meets_answer (fun _ w hw => ⟨hw, rfl⟩) (fun _ _ _ hw => hw) fun _ _ _ hw => hw) fun file => ?_
  split
  · next state =>
    refine .ret fun w hw => ⟨hw.1, ?_⟩
    simp [IntegrityStore.failures, ← hw.2]
  · next hunread =>
    refine Meets.bind (q := fun _ w => P w ∧ file = w.store.budgets.lookup subject)
      (meets_answer (fun _ w hw => hw) (fun _ _ _ hw => hw.1) fun _ _ _ hw => hw.1) fun updatedAt => ?_
    refine .ret fun w hw => ⟨hw.1, ?_⟩
    simp only [IntegrityStore.failures, ← hw.2]

lemma meets_recordBudgetFailure {subject : BudgetKey}
    {classification : IntegrityClassification} {maxExtra : Nat}
    (hcharge : ∀ w state, P w → state.failureCount = w.store.failures subject + 1 →
      Q (w.writeBudget mutationId subject state)) :
    Meets P (recordBudgetFailure env mutationId subject classification maxExtra) (fun _ => Q)
      (fun _ w => P w ∨ Q w) := by
  refine Meets.bind ((meets_loadBudgetState _ _ subject).mono (fun _ hw => hw) (fun _ _ hw => hw)
    fun _ _ hw => .inl hw) fun state => ?_
  refine Meets.bind (q := fun _ w => P w ∧ state.failureCount = w.store.failures subject)
    (meets_answer (fun _ w hw => hw) (fun _ _ _ hw => .inl hw.1) fun _ _ _ hw => .inl hw.1)
    fun updatedAt => ?_
  refine Meets.bind (q := fun _ w => P w ∧ state.failureCount = w.store.failures subject)
    (meets_perform (fun _ w hw => hw) (fun _ _ w hw => .inl hw.1) fun done _ w hw => ?_) fun _ => ?_
  · split <;> exact .inl hw.1
  · refine Meets.bind (q := fun _ => Q) (meets_perform (fun _ w hw => ?_) (fun _ _ w hw => .inl hw.1)
      fun done _ w hw => ?_) fun _ => .ret fun _ hw => hw
    · exact hcharge w _ hw.1 (by rw [← hw.2])
    · split
      · exact .inr (hcharge w _ hw.1 (by rw [← hw.2]))
      · exact .inl hw.1

end Budget

/-! ## After the mutation -/

section Settling

variable {env : Env} {opts : MutationOpts} {record : MutationRecord} {P Q : World → Prop}

lemma meets_chargeFailure (classification : IntegrityClassification) (hPQ : ∀ w, P w → Q w)
    (hcharge : ∀ w state, P w → state.failureCount = w.store.failures opts.subject + 1 →
      Q (w.writeBudget opts.mutationId opts.subject state)) :
    Meets P (chargeFailure env opts classification) (fun _ => Q) (fun _ => Q) := by
  unfold chargeFailure
  split
  · exact (meets_recordBudgetFailure hcharge).mono (fun _ hw => hw) (fun _ _ hw => hw)
      fun _ w hw => hw.elim (hPQ w) fun h => h
  · exact .ret hPQ

variable (hP : ∀ b, Keeps P opts.mutationId opts.mutationId.text b)
include hP

lemma meets_recordTransition_keeps
    (hid : record.mutationId = opts.mutationId) (result : ClassificationResult)
    (changed exhausted : Bool) :
    Meets P (recordTransition env opts record result changed exhausted)
      (fun result w => P w ∧ result.mutationId = opts.mutationId) (fun _ => P) := by
  refine Meets.bind (meets_classifiedRow_keeps _ _ _) fun row => ?_
  intro w hw
  obtain ⟨hw, hrow⟩ := hw
  refine Meets.bind (q := fun _ => P)
    (meets_guarded_keeps (meets_persistClassified_keeps (hP _) hid hrow)) (fun persisted => ?_) w hw
  cases persisted with
  | error message =>
    refine Meets.bind (meets_escalate_keeps (hP none).toKeepsFile (by exact hid) _ _) fun escalated => ?_
    intro w hw
    obtain ⟨hw, hescalatedId, -⟩ := hw
    have hescalatedId : escalated.mutationId = opts.mutationId := hescalatedId.trans hid
    refine Meets.bind (q := fun _ => P)
      (meets_escalateRow_keeps (hP escalated.beforeSha) (by rw [hescalatedId]) rfl _ _)
      (fun _ => ?_) w hw
    exact .ret fun _ hw => ⟨hw, rfl⟩
  | ok _ =>
    exact Meets.bind (meets_dispose_keeps (hP none).toKeepsFile (fun _ => hid) _) fun disposed =>
      .ret fun _ hw => ⟨hw, rfl⟩

lemma meets_settle_keeps
    (hQ : ∀ b, Keeps Q opts.mutationId opts.mutationId.text b) (hPQ : ∀ w, P w → Q w)
    (hcharge : ∀ w state, P w → state.failureCount = w.store.failures opts.subject + 1 →
      Q (w.writeBudget opts.mutationId opts.subject state))
    (hid : record.mutationId = opts.mutationId) (mutationError : Option String) :
    Meets P (settle env opts record mutationError)
      (fun result w => Q w ∧ result.mutationId = opts.mutationId) (fun _ => Q) := by
  have hthrown : ∀ (_ : Stop) w, P w → Q w := fun _ w hw => hPQ w hw
  refine Meets.bind (meets_answer_keeps.mono (fun _ hw => hw) (fun _ _ hw => hw) hthrown)
    fun postAt => ?_
  refine Meets.bind ((meets_readPostRefs_keeps (hP none).toKeepsFile (by exact hid)).mono (fun _ hw => hw)
    (fun _ _ hw => hw) hthrown) fun postRefs => ?_
  refine Meets.bind ((meets_classifyPost_keeps postRefs _ _).mono (fun _ hw => hw) (fun _ _ hw => hw)
    hthrown) fun classified => ?_
  obtain ⟨result, post⟩ := classified
  intro w hw
  obtain ⟨hw, hpostId, -⟩ := hw
  have hpostId : post.mutationId = opts.mutationId := hpostId.trans hid
  refine Meets.bind (q := fun _ => P) (meets_answer_keeps.mono (fun _ hw => hw) (fun _ _ hw => hw) hthrown)
    (fun classifiedAt => ?_) w hw
  refine Meets.bind (meets_chargeFailure _ hPQ hcharge) fun exhausted => ?_
  exact meets_recordTransition_keeps hQ (by exact hpostId) _ _ _

end Settling

/-! ## A whole mutation -/

/-- The record with which a mutation of a call begins. -/
structure MutationRecord.Began (env : Env) (opts : MutationOpts) (record : MutationRecord) : Prop where
  mutationId : record.mutationId = opts.mutationId
  subject : record.subject = opts.subject
  mutationMethod : record.mutationMethod = opts.mutationMethod
  preManifest : record.preManifest = some { env.preManifest with declaredScope := some record.declaredScope }
  beforeSha : ∃ refs, opts.preRefs.or env.preRefs = some refs ∧ record.beforeSha = some refs.candidateSha
  afterSha : record.afterSha = none

/-- The error of the callback. -/
def Env.mutationError (env : Env) : Option String :=
  match env.fault .mutate with
  | .throws message => some message
  | _ => none

/-- What the phases of a mutation establish: at the start, with the record persisted, with the claim
durable, without a run of the callback, and at the end. -/
structure Phases (env : Env) (opts : MutationOpts) (start persisted : World → Prop)
    (claimed : MutationRecord → World → Prop) (unrun ended : World → Prop)
    (returned : MutationResult → World → Prop) : Prop where
  keeps : KeepsFile unrun opts.mutationId
  startUnrun : ∀ w, start w → unrun w
  persistedUnrun : ∀ w, persisted w → unrun w
  claimedUnrun : ∀ record w, claimed record w → unrun w
  unrunEnded : ∀ w, unrun w → ended w
  aborted : ∀ result w, result.aborted = true → unrun w → returned result w
  persist : ∀ record w, record.mutationId = opts.mutationId → record.lifecycle = .prePersisted →
    start w → persisted (w.writeRecord record)
  persistPointer : ∀ id w, persisted w → persisted (w.pointTo id)
  claim : ∀ record w, record.mutationId = opts.mutationId → record.lifecycle = .mutationClaimed →
    w.store.failures opts.subject < 1 + opts.retryBudget.getD defaultRetryBudget → persisted w →
    claimed record (w.writeRecord record)
  claimPointer : ∀ record id w, claimed record w → claimed record (w.pointTo id)
  cut : env.fault .mutate = .crash true → ∀ record w, record.Began env opts → claimed record w →
    ended (w.noteMutated record)
  settle : ∀ record, record.Began env opts → record.lifecycle = .mutationClaimed →
    Meets (fun w => ∃ w', claimed record w' ∧ w = w'.noteMutated record)
      (settle env opts record env.mutationError) returned (fun _ => ended)

variable {P : World → Prop}

namespace Phases

variable {env : Env} {opts : MutationOpts} {start persisted unrun ended : World → Prop}
  {claimed : MutationRecord → World → Prop} {returned : MutationResult → World → Prop}

variable {record : MutationRecord}

section

variable (h : Phases env opts start persisted claimed unrun ended returned)
include h

lemma meets_abortResult
    (hid : record.mutationId = opts.mutationId) (reason : String) :
    Meets unrun (abortResult env record reason) returned (fun _ => ended) := by
  have hended : ∀ (_ : Stop) w, unrun w → ended w := fun _ w hw => h.unrunEnded w hw
  refine Meets.bind (meets_answer_keeps.mono (fun _ hw => hw) (fun _ _ hw => hw) hended) fun updatedAt => ?_
  refine Meets.bind ((meets_guarded_keeps (meets_persist_keeps h.keeps _ (by exact hid))).mono
    (fun _ hw => hw) (fun _ _ hw => hw) hended) fun _ => ?_
  exact .ret fun w hw => h.aborted _ w rfl hw

lemma meets_stopExhausted
    (hid : record.mutationId = opts.mutationId) :
    Meets unrun (stopExhausted env record) returned (fun _ => ended) := by
  have hended : ∀ (_ : Stop) w, unrun w → ended w := fun _ w hw => h.unrunEnded w hw
  refine Meets.bind (meets_answer_keeps.mono (fun _ hw => hw) (fun _ _ hw => hw) hended) fun updatedAt => ?_
  refine Meets.bind ((meets_guarded_keeps (meets_persist_keeps h.keeps _ (by exact hid))).mono
    (fun _ hw => hw) (fun _ _ hw => hw) hended) fun _ => ?_
  exact .ret fun w hw => h.aborted _ w rfl hw

end

lemma meets_readPreRefs :
    Meets P (readPreRefs env opts)
      (fun refs w => P w ∧ ∀ r, refs = some r → opts.preRefs.or env.preRefs = some r) (fun _ => P) := by
  unfold readPreRefs
  split
  · next refs hrefs => exact .ret fun _ hw => ⟨hw, fun r hr => by simpa [hrefs] using hr⟩
  · next hrefs =>
    refine meets_answer (fun _ w hw => ⟨hw, fun r hr => ?_⟩) (fun _ _ _ hw => hw) fun _ _ _ hw => hw
    simpa [hrefs] using hr

variable (h : Phases env opts start persisted claimed unrun ended returned)
include h

lemma meets_prePersist
    (hid : record.mutationId = opts.mutationId)
    (hsubject : record.subject = opts.subject) (hmethod : record.mutationMethod = opts.mutationMethod)
    (hafter : record.afterSha = none) :
    Meets start (prePersist env opts record)
      (fun outcome w =>
        match outcome with
        | .ok record => persisted w ∧ record.Began env opts
        | .error (record, _) => unrun w ∧ record.mutationId = opts.mutationId)
      (fun _ => ended) := by
  have hended : ∀ (_ : Stop) w, start w → ended w := fun _ w hw => h.unrunEnded w (h.startUnrun w hw)
  refine Meets.bind (meets_guarded (T := fun _ => ended) (Q := fun answered w => start w ∧
      ∀ refs, answered = .ok (some refs) → opts.preRefs.or env.preRefs = some refs) ?_) fun answered => ?_
  · refine meets_readPreRefs.mono (fun _ hw => hw) (fun refs w hw => ⟨hw.1, ?_⟩) fun e w hw => ?_
    · intro r hr
      exact hw.2 r (by cases hr; rfl)
    · cases e with
      | thrown message => exact ⟨hw, fun refs heq => by cases heq⟩
      | crashed => exact hended .crashed w hw
  · match answered with
    | .error message => exact .ret fun w hw => ⟨h.startUnrun w hw.1, hid⟩
    | .ok none => exact .ret fun w hw => ⟨h.startUnrun w hw.1, hid⟩
    | .ok (some refs) =>
      intro w hw
      obtain ⟨hw, hrefs⟩ := hw
      have hrefs := hrefs refs rfl
      refine Meets.bind ((meets_guarded_answer (P := start)).mono (fun _ hw => hw)
        (fun _ _ hw => hw) hended) (fun captured => ?_) w hw
      cases captured with
      | error message => exact .ret fun w hw => ⟨h.startUnrun w hw.1, hid⟩
      | ok manifest =>
        intro w hw
        obtain ⟨hw, hmanifest⟩ := hw
        have hmanifest : manifest = env.preManifest := hmanifest manifest rfl
        refine Meets.bind ((meets_guarded_keeps (P := start) meets_answer_keeps).mono (fun _ hw => hw)
          (fun _ _ hw => hw) hended) (fun clocked => ?_) w hw
        cases clocked with
        | error message => exact .ret fun w hw => ⟨h.startUnrun w hw, hid⟩
        | ok updatedAt =>
          have hbegan : ({ record.prePersisted refs manifest with updatedAt } : MutationRecord).Began env opts := by
            refine ⟨hid, hsubject, hmethod, ?_, ⟨refs, hrefs, rfl⟩, hafter⟩
            rw [hmanifest]
            rfl
          refine Meets.bind (q := fun wrote w => match wrote with
            | .ok _ => persisted w
            | .error _ => unrun w) (meets_guarded ?_) fun wrote => ?_
          · refine (meets_persist (fun w hw => h.persist _ w hbegan.mutationId rfl hw)
              fun w hw => h.persistPointer _ w hw).mono (fun _ hw => hw) (fun _ _ hw => hw)
              fun e w hw => ?_
            have hw : unrun w := hw.elim (h.startUnrun w) (h.persistedUnrun w)
            cases e with
            | thrown message => exact hw
            | crashed => exact h.unrunEnded w hw
          · cases wrote with
            | error message => exact .ret fun w hw => ⟨hw, hbegan.mutationId⟩
            | ok _ => exact .ret fun w hw => ⟨hw, hbegan⟩

lemma meets_claimAndMutate
    (hbegan : record.Began env opts) :
    Meets
      (fun w => persisted w ∧ w.store.failures opts.subject < 1 + opts.retryBudget.getD defaultRetryBudget)
      (claimAndMutate env opts record) returned (fun _ => ended) := by
  refine Meets.bind (meets_answer_keeps.mono (fun _ hw => hw) (fun _ _ hw => hw)
    fun _ w hw => h.unrunEnded w (h.persistedUnrun w hw.1)) fun updatedAt => ?_
  have hclaimed : ({ record with lifecycle := .mutationClaimed, updatedAt } : MutationRecord).Began env opts :=
    ⟨hbegan.mutationId, hbegan.subject, hbegan.mutationMethod, hbegan.preManifest, hbegan.beforeSha, hbegan.afterSha⟩
  generalize hrecord : ({ record with lifecycle := .mutationClaimed, updatedAt } : MutationRecord) = claim
    at hclaimed
  have hlifecycle : claim.lifecycle = .mutationClaimed := by rw [← hrecord]
  simp only
  refine Meets.bind (q := fun wrote w => match wrote with
    | .ok _ => claimed claim w
    | .error _ => unrun w) (meets_guarded ?_) fun wrote => ?_
  · refine (meets_persist (fun w hw => h.claim _ w hclaimed.mutationId hlifecycle hw.2 hw.1)
      fun w hw => h.claimPointer _ _ w hw).mono (fun _ hw => hw) (fun _ _ hw => hw) fun e w hw => ?_
    have hw : unrun w := hw.elim (fun hw => h.persistedUnrun w hw.1) (h.claimedUnrun claim w)
    cases e with
    | thrown message => exact hw
    | crashed => exact h.unrunEnded w hw
  · cases wrote with
    | error message => exact h.meets_abortResult hclaimed.mutationId _
    | ok _ =>
      refine Meets.bind (q := fun ran w => (∃ w', claimed claim w' ∧ w = w'.noteMutated claim) ∧
        env.mutationError = match ran with
          | .ok _ => none
          | .error message => some message) ?_ fun ran => ?_
      · intro w hw w'
        simp only [mutate, Effect.call]
        cases hfault : env.fault .mutate with
        | none =>
          refine ⟨fun a ha => ?_, fun e he => (by cases he)⟩
          cases ha
          exact ⟨⟨w, hw, rfl⟩, by simp [Env.mutationError, hfault]⟩
        | throws message =>
          refine ⟨fun a ha => ?_, fun e he => (by cases he)⟩
          cases ha
          exact ⟨⟨w, hw, rfl⟩, by simp [Env.mutationError, hfault]⟩
        | crash done =>
          refine ⟨fun a ha => (by cases ha), fun e he => ?_⟩
          cases he
          cases done with
          | true => exact h.cut hfault claim w hclaimed hw
          | false => exact h.unrunEnded w (h.claimedUnrun claim w hw)
      · have hsettle := h.settle claim hclaimed hlifecycle
        intro w hw
        obtain ⟨hw, herror⟩ := hw
        rw [herror] at hsettle
        cases ran with
        | ok _ => exact hsettle w hw
        | error message => exact hsettle w hw

lemma meets_runCandidateMovingMutation :
    Meets start (runCandidateMovingMutation env opts) returned (fun _ => ended) := by
  refine Meets.bind (q := fun record w => start w ∧ record.mutationId = opts.mutationId ∧
      record.subject = opts.subject ∧ record.mutationMethod = opts.mutationMethod ∧ record.afterSha = none)
    ?_ fun record => ?_
  · refine Meets.bind (meets_answer_keeps.mono (fun _ hw => hw) (fun _ _ hw => hw)
      fun _ w hw => h.unrunEnded w (h.startUnrun w hw)) fun createdAt => ?_
    refine Meets.bind (meets_answer_keeps.mono (fun _ hw => hw) (fun _ _ hw => hw)
      fun _ w hw => h.unrunEnded w (h.startUnrun w hw)) fun updatedAt => ?_
    exact .ret fun _ hw => ⟨hw, rfl, rfl, rfl, rfl⟩
  · intro w hw
    obtain ⟨hw, hid, hsubject, hmethod, hafter⟩ := hw
    refine Meets.bind (h.meets_prePersist hid hsubject hmethod hafter) (fun outcome => ?_) w hw
    cases outcome with
    | error stopped =>
      intro w hw
      exact h.meets_abortResult hw.2 _ w hw.1
    | ok record =>
      intro w hw
      obtain ⟨hw, hbegan⟩ := hw
      refine Meets.bind ((meets_loadBudgetState _ _ opts.subject).mono (fun _ hw => hw)
        (fun _ _ hw => hw) fun _ w hw => h.unrunEnded w (h.persistedUnrun w hw)) (fun budget => ?_) w hw
      split
      · intro w hw
        exact h.meets_stopExhausted hbegan.mutationId w (h.persistedUnrun w hw.1)
      · next hleft =>
        intro w hw
        refine h.meets_claimAndMutate hbegan w ⟨hw.1, ?_⟩
        have hcount : ¬(1 + opts.retryBudget.getD defaultRetryBudget ≤ budget.failureCount) := by
          simpa [isBudgetExhausted] using hleft
        rw [← hw.2]
        omega

end Phases

/-! ## A hydration -/

variable {env : Env} {opts : HydrateOpts} {w₀ : World} {ended : World → Prop}
  {returned : Option MutationResult → World → Prop}

lemma meets_completeMutation_keeps
    {existing : MutationRecord} (hP : ∀ b, Keeps P existing.mutationId mutationId.text b)
    (emitsEvent : Bool) :
    Meets P (completeMutation env emitsEvent mutationId existing)
      (fun result w => P w ∧ result.mutationId = mutationId) (fun _ => P) := by
  refine Meets.bind meets_answer_keeps fun postRefs => ?_
  refine Meets.bind meets_answer_keeps fun postAt => ?_
  refine Meets.bind (meets_classifyPost_keeps postRefs _ _) fun classified => ?_
  obtain ⟨result, post⟩ := classified
  intro w hw
  obtain ⟨hw, hpostId, -⟩ := hw
  have hpostId : post.mutationId = existing.mutationId := hpostId
  refine Meets.bind (q := fun _ => P) meets_answer_keeps (fun classifiedAt => ?_) w hw
  refine Meets.bind (meets_classifiedRow_keeps _ _ _) fun row => ?_
  intro w hw
  obtain ⟨hw, hrow⟩ := hw
  refine Meets.bind (q := fun _ => P)
    (meets_guarded_keeps (meets_persistClassified_keeps (hP _) (by exact hpostId) hrow))
    (fun persisted => ?_) w hw
  cases persisted with
  | error message =>
    refine Meets.bind (meets_escalate_keeps (hP none).toKeepsFile (by exact hpostId) _ _)
      fun escalated => ?_
    exact .ret fun _ hw => ⟨hw.1, rfl⟩
  | ok _ =>
    exact Meets.bind (meets_dispose_keeps (hP none).toKeepsFile (fun _ => by exact hpostId) _)
      fun disposed => .ret fun _ hw => ⟨hw, rfl⟩

lemma meets_disposeMissingPre_keeps
    {existing : MutationRecord} (hP : KeepsFile P existing.mutationId) :
    Meets P (disposeMissingPre env mutationId existing)
      (fun result w => P w ∧ result.mutationId = mutationId) (fun _ => P) := by
  refine Meets.bind meets_answer_keeps fun updatedAt => ?_
  exact Meets.bind (meets_persist_keeps hP _ rfl) fun _ => .ret fun _ hw => ⟨hw, rfl⟩

lemma meets_hydrate (hended : ended w₀) (hnone : returned none w₀)
    (hterminal : ∀ mutationId existing, opts.mutationId.or w₀.store.active = some mutationId →
      w₀.store.records.lookup mutationId.file = some existing → existing.lifecycle.isTerminal = true →
      returned (some (hydratedResult mutationId existing)) w₀)
    (hmissing : ∀ mutationId existing, opts.mutationId.or w₀.store.active = some mutationId →
      w₀.store.records.lookup mutationId.file = some existing → existing.lifecycle.isTerminal = false →
      existing.preManifest = none →
      Meets (· = w₀) (disposeMissingPre env mutationId existing)
        (fun result => returned (some result)) (fun _ => ended))
    (hcomplete : ∀ mutationId existing, opts.mutationId.or w₀.store.active = some mutationId →
      w₀.store.records.lookup mutationId.file = some existing → existing.lifecycle.isTerminal = false →
      existing.preManifest ≠ none →
      Meets (· = w₀) (completeMutation env opts.emitsEvent mutationId existing)
        (fun result => returned (some result)) (fun _ => ended)) :
    Meets (· = w₀) (hydrateAndCompleteIncompleteMutation env opts) returned (fun _ => ended) := by
  have hthrown : ∀ (_ : Stop) w, w = w₀ → ended w := fun _ w hw => by rw [hw]; exact hended
  refine Meets.bind (q := fun named w => w = w₀ ∧ named = opts.mutationId.or w₀.store.active) ?_
    fun named => ?_
  · unfold hydratedId
    split
    · next mutationId hnamed => exact .ret fun _ hw => ⟨hw, by rw [hnamed]; rfl⟩
    · next hunnamed =>
      refine meets_answer (fun _ w hw => ⟨hw, ?_⟩) (fun message _ w hw => hthrown (.thrown message) w hw)
        fun _ _ w hw => hthrown .crashed w hw
      rw [hunnamed, hw]
      rfl
  · intro w hw
    obtain ⟨hw, hnamed⟩ := hw
    revert w
    cases named with
    | none => exact Meets.ret fun w hw => by rw [hw]; exact hnone
    | some mutationId =>
      have hnamed := hnamed.symm
      refine Meets.bind (q := fun found w => w = w₀ ∧ found = w₀.store.records.lookup mutationId.file)
        (meets_answer (fun _ w hw => ⟨hw, by rw [hw]⟩) (fun _ _ w hw => by rw [hw]; exact hended)
          fun _ _ w hw => by rw [hw]; exact hended) fun found => ?_
      cases found with
      | none => exact .ret fun w hw => by rw [hw.1]; exact hnone
      | some existing =>
        intro w hw
        obtain ⟨hw, hfound⟩ := hw
        simp only
        split
        · next hlifecycle =>
          refine Meets.ret (fun w' (hw' : w' = w₀) => ?_) w hw
          rw [hw']
          exact hterminal mutationId existing hnamed hfound.symm hlifecycle
        · next hlifecycle =>
          have hlifecycle : existing.lifecycle.isTerminal = false := by simpa using hlifecycle
          cases hpre : existing.preManifest with
          | none =>
            exact Meets.bind (hmissing mutationId existing hnamed hfound.symm hlifecycle hpre)
              (fun result => .ret fun _ hw => hw) w hw
          | some manifest =>
            refine Meets.bind (hcomplete mutationId existing hnamed hfound.symm hlifecycle ?_)
              (fun result => .ret fun _ hw => hw) w hw
            rw [hpre]
            simp

end AgentPipeline.Integrity
