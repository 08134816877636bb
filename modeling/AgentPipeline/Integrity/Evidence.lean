import AgentPipeline.Integrity.MutationFrame

/-!
# Evidence: a transition that is not equivalent stays blocked

* `BlocksFrom`, `Evidence`: the rows and records that block the review of an old head;
* `Evidence.blocks`: with evidence in the store the gate blocks, at every other head;
* `Env.Durable`: no crash and no uncaught exception between the callback and the first durable write;
* `meets_settle_evidence`: what follows the callback leaves its evidence under durable faults.
-/

namespace AgentPipeline.Integrity

open List
open Effect (Meets)

/-! ## Evidence -/

/-- The row blocks the review of a head that the candidate moved away from. -/
structure BlocksFrom (sha : CommitSha) (row : IntegrityInvalidationRecord) : Prop where
  fromSha : row.fromSha = sha.text
  review : (row.invalidatedReview || row.requiresFreshReview) = true
  classification : row.classification ≠ .semanticallyEquivalent

variable {row : IntegrityInvalidationRecord} {toLowerCase : String → String} {head : String}

lemma BlocksFrom.blocks {sha : CommitSha} (h : BlocksFrom sha row) (hmoved : toLowerCase head ≠ toLowerCase sha.text)
    (hnonempty : toLowerCase sha.text ≠ "") : row.blocks toLowerCase head (some sha.text) = true := by
  have hreview : (!row.invalidatedReview && !row.requiresFreshReview) = false := by
    rw [← Bool.not_or, h.review]
    rfl
  have hother : toLowerCase sha.text ≠ toLowerCase head := fun heq => hmoved heq.symm
  have hclass : row.classification = .scopeExpansion ∨ row.classification = .unverified ∨
      row.classification = .expectedScopedChange := by
    have hne := h.classification
    cases hrow : row.classification with
    | semanticallyEquivalent => exact absurd hrow hne
    | expectedScopedChange => exact .inr (.inr rfl)
    | scopeExpansion => exact .inl rfl
    | unverified => exact .inr (.inl rfl)
  have hreviewed : ((some sha.text).map toLowerCase).filter (· ≠ "") = some (toLowerCase sha.text) := by
    simp [hnonempty]
  simp only [IntegrityInvalidationRecord.blocks, hreview, Bool.false_eq_true, if_false, hreviewed,
    Option.some.injEq, hother, false_and, h.fromSha]
  split
  · rfl
  · rcases hclass with hclass | hclass | hclass <;> simp [hclass, hother]

/-- The record of a mutation is terminal, and equivalent or blocking, with no other row under its id. -/
def RecordEvidence (id : MutationId) (sha : CommitSha) (store : IntegrityStore) : Prop :=
  ∃ rec, store.records.lookup id.file = some rec ∧ rec.mutationId = id ∧ rec.lifecycle.isTerminal = true ∧
    (rec.classification = some .semanticallyEquivalent ∨ (∃ row, rec.invalidation = some row ∧ BlocksFrom sha row) ∧
        ∀ row ∈ store.index, row.mutationId = id.text → BlocksFrom sha row)

/-- What the store holds against the head before a mutation. -/
def Evidence (id : MutationId) (sha : CommitSha) (store : IntegrityStore) : Prop :=
  (∃ row ∈ store.index, BlocksFrom sha row) ∨ RecordEvidence id sha store

/-- The transition of a mutation is durably classified as equivalent. -/
def DurablyEquivalent (id : MutationId) (store : IntegrityStore) : Prop :=
  ∃ rec, store.records.lookup id.file = some rec ∧ rec.lifecycle.isTerminal = true ∧
    rec.classification = some .semanticallyEquivalent

/-- Records lie under their own names, and the keys of the rows can be read. -/
structure IntegrityStore.WellFormed (store : IntegrityStore) : Prop where
  named : ∀ file rec, store.records.lookup file = some rec → file = rec.mutationId.file
  noBar : ∀ row ∈ store.index, row.toSha.toList.contains '|' = false

/-! ## The union of index and records -/

variable {r : IntegrityInvalidationRecord} {store : IntegrityStore}

namespace IntegrityStore

lemma addUnseen_key {rs : List IntegrityInvalidationRecord} {seen : List String} (hr : r ∈ rs) :
    rowKey r ∈ seen ∨ ∃ r' ∈ addUnseen rs seen, r' ∈ rs ∧ rowKey r' = rowKey r := by
  induction rs generalizing seen with
  | nil => cases hr
  | cons first rs ih =>
    simp only [addUnseen]
    split
    · next hseen =>
      rcases mem_cons.1 hr with rfl | hr
      · exact .inl (by simpa using hseen)
      · rcases ih hr with hkey | ⟨r', hr', hmem, hkey⟩
        · exact .inl hkey
        · exact .inr ⟨r', hr', mem_cons_of_mem _ hmem, hkey⟩
    · rcases mem_cons.1 hr with rfl | hr
      · exact .inr ⟨r, mem_cons_self, mem_cons_self, rfl⟩
      · rcases ih hr with hkey | ⟨r', hr', hmem, hkey⟩
        · rcases mem_cons.1 hkey with hkey | hkey
          · exact .inr ⟨first, mem_cons_self, mem_cons_self, hkey.symm⟩
          · exact .inl hkey
        · exact .inr ⟨r', mem_cons_of_mem _ hr', mem_cons_of_mem _ hmem, hkey⟩

lemma exists_authoritative (hr : r ∈ store.invalidationsFromMutationRecords) :
    ∃ r' ∈ store.authoritativeInvalidations, rowKey r' = rowKey r ∧
      (r' ∈ store.index ∨ r' ∈ store.invalidationsFromMutationRecords) := by
  have hunion : rowKey r ∈ store.index.map rowKey ∨
      ∃ r' ∈ addUnseen store.invalidationsFromMutationRecords (store.index.map rowKey),
        r' ∈ store.invalidationsFromMutationRecords ∧ rowKey r' = rowKey r := addUnseen_key hr
  rcases hunion with hkey | ⟨r', hr', hmem, hkey⟩
  · obtain ⟨r', hr', hkey⟩ := mem_map.1 hkey
    exact ⟨r', mem_append_left _ hr', hkey, .inl hr'⟩
  · exact ⟨r', mem_append_right _ hr', hkey, .inr hmem⟩

end IntegrityStore

lemma mutationId_eq_of_rowKey {r' : IntegrityInvalidationRecord}
    (hr : r.toSha.toList.contains '|' = false) (hr' : r'.toSha.toList.contains '|' = false)
    (h : IntegrityStore.rowKey r = IntegrityStore.rowKey r') : r.mutationId = r'.mutationId := by
  have hchars := congrArg String.toList h
  simp only [IntegrityStore.rowKey, String.toList_append] at hchars
  have hbar : "|".toList = ['|'] := rfl
  rw [hbar, append_assoc, append_assoc, singleton_append, singleton_append] at hchars
  refine String.toList_inj.1 (Lists.append_cons_inj_right ?_ ?_ hchars).1
  · simpa using hr
  · simpa using hr'

variable {rec : MutationRecord}

lemma noBar_of_invalidation
    (h : rec.invalidation = some row) :
    row.mutationId = rec.mutationId.text ∧ row.toSha.toList.contains '|' = false := by
  unfold MutationRecord.invalidation at h
  split at h
  · cases h
  · split at h
    · cases h
    · split at h
      · cases h
      · cases h
        refine ⟨rfl, ?_⟩
        cases rec.afterSha with
        | some sha => exact sha.noBar
        | none =>
          cases rec.beforeSha with
          | some sha => exact sha.noBar
          | none => rfl

lemma Evidence.blocks {id : MutationId} {sha : CommitSha}
    (h : Evidence id sha store) (hwf : store.WellFormed) (hnot : ¬DurablyEquivalent id store) (hmoved : toLowerCase head ≠ toLowerCase sha.text)
    (hnonempty : toLowerCase sha.text ≠ "") :
    (integrityBlocksReviewReuse toLowerCase store head (some sha.text)).isSome = true := by
  refine (reviewBlocked_isSome_iff toLowerCase).2 ?_
  suffices hrow : ∃ r ∈ store.authoritativeInvalidations, BlocksFrom sha r by
    obtain ⟨r, hr, hblocks⟩ := hrow
    exact ⟨r, hr, hblocks.blocks hmoved hnonempty⟩
  rcases h with ⟨row, hrow, hblocks⟩ | ⟨rec, hlookup, hid, hterminal, hequivalent | ⟨⟨row, hrow, hblocks⟩, hindex⟩⟩
  · exact ⟨row, mem_append_left _ hrow, hblocks⟩
  · exact absurd ⟨rec, hlookup, hterminal, hequivalent⟩ hnot
  · have hentry : (⟨id.file, rec⟩ : Σ _ : String, MutationRecord) ∈ store.records.entries :=
      AList.mem_lookup_iff.1 hlookup
    have hmem : row ∈ store.invalidationsFromMutationRecords := mem_filterMap.2 ⟨_, hentry, hrow⟩
    obtain ⟨hrowId, hrowBar⟩ := noBar_of_invalidation hrow
    obtain ⟨r, hr, hkey, hfrom | hfrom⟩ := IntegrityStore.exists_authoritative hmem
    · -- the key is taken by a row of the index, which is under the same id
      have hsame := mutationId_eq_of_rowKey (hwf.noBar r hfrom) hrowBar hkey
      exact ⟨r, hr, hindex r hfrom (by rw [hsame, hrowId, hid])⟩
    · -- the key is taken by a record, which is the same one
      obtain ⟨⟨file, rec'⟩, hentry', hrow'⟩ := mem_filterMap.1 hfrom
      obtain ⟨hrowId', hrowBar'⟩ := noBar_of_invalidation hrow'
      have hsame := mutationId_eq_of_rowKey hrowBar' hrowBar hkey
      have hlookup' : store.records.lookup file = some rec' := AList.mem_lookup_iff.2 hentry'
      have hfile : file = id.file := by
        rw [hwf.named file rec' hlookup', MutationId.file, ← hrowId', hsame, hrowId, hid, MutationId.file]
      rw [hfile, hlookup] at hlookup'
      cases hlookup'
      have hsame : row = r := Option.some.inj (hrow.symm.trans hrow')
      exact ⟨r, hr, hsame ▸ hblocks⟩

/-! ## Durable faults -/

/-- The operation takes place. -/
def Fault.lands : Fault → Bool
  | .none => true
  | .crash done => done
  | .throws _ => false

def Fault.isCrash : Fault → Bool
  | .crash _ => true
  | _ => false

def Fault.isThrow : Fault → Bool
  | .throws _ => true
  | _ => false

namespace Env

variable (env : Env)

/-- The record of a phase that is not in flight becomes durable. -/
def persists (phase : PersistPhase) : Bool :=
  env.fault (.persist phase .mkdir) = .none && (env.fault (.persist phase .record)).lands

/-- Persisting throws before the record is written. -/
def persistThrows (phase : PersistPhase) : Bool :=
  (env.fault (.persist phase .mkdir)).isThrow ||
    (env.fault (.persist phase .mkdir) = .none && (env.fault (.persist phase .record)).isThrow)

/-- The row of an escalated transition becomes durable. -/
def appendsEscalated : Bool :=
  env.fault .escalatedClock = .none && env.fault (.index true .mkdir) = .none &&
    env.fault (.index true .read) = .none && (env.fault (.index true .write)).lands

/-- What the post-read gives. -/
def readRefs : Option AuthoritativeRefs :=
  match env.fault .postRead with
  | .none => env.postRefs
  | _ => none

/-- What the capture of the post-manifest gives. -/
def readManifest : Except String CandidateIntegrityManifest :=
  match env.fault .postCapture with
  | .none => .ok env.postManifest
  | .throws message => .error message
  | .crash _ => .error ""

/-- The transition of a record, as it is read back. -/
def outcome (read : MutationRecord) (unreadable failure : String) :
    ClassificationResult × MutationRecord :=
  match env.readRefs with
  | none => ({ classification := .unverified, reason := unreadable }, read)
  | some refs => (read.readBack (some refs)).transition env.readManifest failure

/-- How the mutation of a record is classified. -/
def classification (record : MutationRecord) : IntegrityClassification :=
  let (result, post) :=
    env.outcome record (unreadableReason env.mutationError) "post-manifest capture failed: "
  (post.withoutExpansion env.mutationError result).classification

def readBackSites : List Site :=
  [.postRead, .persist .postRead .mkdir, .persist .postRead .record, .persist .postRead .pointer, .postCapture]

def chargeSites : List Site :=
  [.chargeRead, .chargeLoadClock, .chargeClock, .chargeMkdir, .chargeWrite]

/-- From the callback to the first durable write of the disposition there is no crash, and no exception
that is not caught. -/
structure Durable (opts : MutationOpts) : Prop where
  mutate : env.fault .mutate ≠ .crash true
  postClock : env.fault .postClock = .none
  readBack : ∀ site ∈ readBackSites, (env.fault site).isCrash = false
  classifiedClock : env.fault .classifiedClock = .none
  charge : (∃ record : MutationRecord, record.Began env opts ∧ (env.classification record).isFailing = true) →
    ∀ site ∈ chargeSites, env.fault site = .none
  rowClock : env.fault .rowClock = .none
  write : env.persists .classified = true ∨ env.persistThrows .classified = true ∧ (env.persists .escalated = true ∨
      env.persistThrows .escalated = true ∧ env.appendsEscalated = true)

end Env

/-! ## Without faults -/

/-- Nothing is thrown. -/
abbrev NeverStops (_ : Stop) (_ : World) : Prop := False

section Faultless

variable {env : Env} {P Q : World → Prop} {site : Site} {α : Type}

lemma meets_answer_of_none {value : World → α}
    (hfault : env.fault site = .none) :
    Meets P (answer env site value) (fun a w => P w ∧ a = value w) NeverStops :=
  meets_answer (fun _ w hw => ⟨hw, rfl⟩) (fun message h => (by rw [hfault] at h; cases h))
    fun done h => (by rw [hfault] at h; cases h)

variable {change : World → World}

lemma meets_perform_of_none (hfault : env.fault site = .none)
    (hchange : ∀ w, P w → Q (change w)) :
    Meets P (perform env site change) (fun _ => Q) NeverStops :=
  meets_perform (fun _ w hw => hchange w hw) (fun message h => (by rw [hfault] at h; cases h))
    fun done h => (by rw [hfault] at h; cases h)

lemma meets_perform_of_lands
    (hfault : (env.fault site).lands = true) (hchange : ∀ w, P w → Q (change w)) :
    Meets P (perform env site change) (fun _ => Q) (fun _ => Q) := by
  refine meets_perform (fun _ w hw => hchange w hw) (fun message h => ?_) fun done h w hw => ?_
  · rw [h] at hfault
    cases hfault
  · rw [h] at hfault
    have hdone : done = true := hfault
    rw [hdone]
    exact hchange w hw

lemma meets_guarded_of_uncrashed {m : Act α} {R : α → World → Prop}
    (h : Meets P m R fun e w => e ≠ .crashed ∧ P w) :
    Meets P (guarded m)
      (fun answered w => match answered with
        | .ok a => R a w
        | .error _ => P w)
      NeverStops := by
  refine meets_guarded (h.mono (fun _ hw => hw) (fun _ _ hw => hw) fun e w hw => ?_)
  cases e with
  | thrown message => exact hw.2
  | crashed => exact absurd rfl hw.1

variable {phase : PersistPhase} {good : MutationRecord → Prop} {record : MutationRecord}

lemma meets_persist_crash (hP : KeepsRecords P good) (hgood : good record) :
    Meets P (persistMutationRecord env phase record) (fun _ => P)
      (fun e w => P w ∧ (e = .crashed → ∃ op, (env.fault (.persist phase op)).isCrash = true)) := by
  have hthrown : ∀ (message : String) w, P w → P w ∧ (Stop.thrown message = .crashed →
      ∃ op, (env.fault (.persist phase op)).isCrash = true) := fun _ w hw => ⟨hw, fun h => by cases h⟩
  have hcrash : ∀ op done, env.fault (.persist phase op) = .crash done →
      ∃ op, (env.fault (.persist phase op)).isCrash = true := fun op done h => ⟨op, by rw [h]; rfl⟩
  refine Meets.bind (q := fun _ => P) (meets_perform (fun _ w hw => hw) (fun message _ w hw => hthrown _ w hw)
    fun done h w hw => ⟨?_, fun _ => hcrash _ _ h⟩) fun _ => ?_
  · split <;> exact hw
  · refine Meets.bind (q := fun _ => P) (meets_perform (fun _ w hw => hP.record w record hgood hw)
      (fun message _ w hw => hthrown _ w hw) fun done h w hw => ⟨?_, fun _ => hcrash _ _ h⟩) fun _ => ?_
    · split
      · exact hP.record w record hgood hw
      · exact hw
    · split
      · refine meets_perform (fun _ w hw => hP.pointer w _ hw) (fun message _ w hw => hthrown _ w hw)
          fun done h w hw => ⟨?_, fun _ => hcrash _ _ h⟩
        split
        · exact hP.pointer w _ hw
        · exact hw
      · exact .ret fun _ hw => hw

/-- The process dies while the transition is read back. -/
def Env.CrashesReading (env : Env) : Prop := ∃ site ∈ Env.readBackSites, (env.fault site).isCrash = true

lemma meets_readPostRefs
    (hP : KeepsRecords P good) (hgood : good record) :
    Meets P (readPostRefs env record) (fun refs w => P w ∧ refs = env.readRefs)
      (fun _ w => P w ∧ env.CrashesReading) := by
  refine Meets.bind (q := fun answered w => P w ∧ env.readRefs = match answered with
      | .ok refs => refs
      | .error _ => none) ?_ fun answered => ?_
  · refine meets_guarded (meets_answer (fun h w hw => ⟨hw, by simp [Env.readRefs, h]⟩)
      (fun message h w hw => ⟨hw, by simp [Env.readRefs, h]⟩) fun done h w hw => ⟨hw, ?_⟩)
    exact ⟨.postRead, by simp [Env.readBackSites], by rw [h]; rfl⟩
  · cases answered with
    | error message => exact .ret fun w hw => ⟨hw.1, hw.2.symm⟩
    | ok refs =>
      intro w hw
      obtain ⟨hw, hrefs⟩ := hw
      refine Meets.bind (q := fun _ => P) (meets_guarded ((meets_persist_crash hP hgood).mono
        (fun _ hw => hw) (fun _ _ hw => hw) fun e w hw => ?_)) (fun _ => .ret fun w hw =>
          ⟨hw, hrefs.symm⟩) w hw
      cases e with
      | thrown message => exact hw.1
      | crashed =>
        obtain ⟨op, hop⟩ := hw.2 rfl
        exact ⟨hw.1, _, by cases op <;> simp [Env.readBackSites], hop⟩

lemma meets_classifyPost (unreadable failure : String) :
    Meets P (classifyPost env record env.readRefs unreadable failure)
      (fun classified w => P w ∧ classified = env.outcome record unreadable failure)
      (fun _ w => P w ∧ env.CrashesReading) := by
  unfold classifyPost Env.outcome
  cases env.readRefs with
  | none => exact .ret fun w hw => ⟨hw, rfl⟩
  | some refs =>
    refine Meets.bind (q := fun manifest w => P w ∧ manifest = env.readManifest) ?_
      fun manifest => .ret fun w hw => ⟨hw.1, by rw [hw.2]⟩
    refine meets_guarded (meets_answer (fun h w hw => ⟨hw, by simp [Env.readManifest, h]⟩)
      (fun message h w hw => ⟨hw, by simp [Env.readManifest, h]⟩) fun done h w hw => ⟨hw, ?_⟩)
    exact ⟨.postCapture, by simp [Env.readBackSites], by rw [h]; rfl⟩

lemma meets_persist_of_persists
    (hphase : env.persists phase = true) (hterminal : record.lifecycle.inFlight = false)
    (hwrite : ∀ w, P w → Q (w.writeRecord record)) :
    Meets P (persistMutationRecord env phase record) (fun _ => Q) (fun _ => Q) := by
  obtain ⟨hmkdir, hrecord⟩ : env.fault (.persist phase .mkdir) = .none ∧
      (env.fault (.persist phase .record)).lands = true := by
    simpa [Env.persists] using hphase
  refine Meets.bind (q := fun _ => P)
    ((meets_perform_of_none hmkdir fun w hw => hw).mono (fun _ hw => hw) (fun _ _ hw => hw)
      fun _ _ hw => hw.elim) fun _ => ?_
  refine Meets.bind (q := fun _ => Q) (meets_perform_of_lands hrecord hwrite) fun _ => ?_
  rw [hterminal]
  exact .ret fun _ hw => hw

lemma meets_persist_of_throws
    (hphase : env.persistThrows phase = true) :
    Meets P (persistMutationRecord env phase record) (fun _ _ => False)
      (fun e w => e ≠ .crashed ∧ P w) := by
  have hcases : (∃ message, env.fault (.persist phase .mkdir) = .throws message) ∨
      env.fault (.persist phase .mkdir) = .none ∧ ∃ message, env.fault (.persist phase .record) = .throws message := by
    have hthrow : ∀ fault : Fault, fault.isThrow = true → ∃ message, fault = .throws message := by
      intro fault hfault
      cases fault with
      | throws message => exact ⟨message, rfl⟩
      | none => cases hfault
      | crash done => cases hfault
    simp only [Env.persistThrows, Bool.or_eq_true, Bool.and_eq_true, decide_eq_true_eq] at hphase
    rcases hphase with hmkdir | ⟨hmkdir, hrecord⟩
    · exact .inl (hthrow _ hmkdir)
    · exact .inr ⟨hmkdir, hthrow _ hrecord⟩
  rcases hcases with ⟨message, hmkdir⟩ | ⟨hmkdir, message, hrecord⟩
  · refine Meets.bind (q := fun _ _ => False) (meets_perform (fun h => ?_)
      (fun _ _ w hw => ⟨by simp, hw⟩) fun done h => ?_) fun _ w hw => hw.elim
    · rw [hmkdir] at h
      cases h
    · rw [hmkdir] at h
      cases h
  · refine Meets.bind (q := fun _ => P) ((meets_perform_of_none hmkdir fun w hw => hw).mono
      (fun _ hw => hw) (fun _ _ hw => hw) fun _ _ hw => hw.elim) fun _ => ?_
    refine Meets.bind (q := fun _ _ => False) (meets_perform (fun h => ?_)
      (fun _ _ w hw => ⟨by simp, hw⟩) fun done h => ?_) fun _ w hw => hw.elim
    · rw [hrecord] at h
      cases h
    · rw [hrecord] at h
      cases h

end Faultless

/-! ## A mutation leaves its evidence -/

/-- No row lies under the id yet. -/
def NoRows (id : MutationId) (store : IntegrityStore) : Prop :=
  ∀ row ∈ store.index, row.mutationId ≠ id.text

/-- A terminal record of the transition. -/
structure MutationRecord.Ends (id : MutationId) (sha : CommitSha) (rec : MutationRecord) : Prop where
  mutationId : rec.mutationId = id
  beforeSha : rec.beforeSha = some sha
  terminal : rec.lifecycle.isTerminal = true
  classified : ∃ (result : ClassificationResult) (changed : Bool), rec.classification = some result.classification ∧
    rec.disposition = some (dispositionForClassification result.classification changed result.reason)

lemma MutationRecord.Ends.notInFlight {id : MutationId} {sha : CommitSha}
    (h : rec.Ends id sha) : rec.lifecycle.inFlight = false := by
  have hterminal := h.terminal
  cases hlifecycle : rec.lifecycle <;> rw [hlifecycle] at hterminal <;> first | rfl | cases hterminal

lemma MutationRecord.invalidation_of_review {disposition : IntegrityDisposition}
    (hdisposition : rec.disposition = some disposition) (hterminal : rec.lifecycle.isTerminal = true)
    (hreview : disposition.invalidatedReview = true) :
    ∃ row, rec.invalidation = some row ∧ row.fromSha = (shaText rec.beforeSha).getD "" ∧
      row.invalidatedReview = true ∧ row.classification = rec.classification.getD .unverified := by
  simp [invalidation, hdisposition, hterminal, hreview]

lemma MutationRecord.Ends.equivalent_or_blocks {id : MutationId} {sha : CommitSha}
    (h : rec.Ends id sha) : rec.classification = some .semanticallyEquivalent ∨
      ∃ row, rec.invalidation = some row ∧ BlocksFrom sha row := by
  obtain ⟨result, changed, hclassification, hdisposition⟩ := h.classified
  by_cases hequivalent : result.classification = .semanticallyEquivalent
  · rw [hequivalent] at hclassification
    exact .inl hclassification
  · have hreview : (dispositionForClassification result.classification changed
        result.reason).invalidatedReview = true := by
      cases hclass : result.classification with
      | semanticallyEquivalent => exact absurd hclass hequivalent
      | expectedScopedChange | scopeExpansion | unverified => rfl
    obtain ⟨row, hrow, hfrom, hflag, hclass⟩ :=
      invalidation_of_review hdisposition h.terminal hreview
    refine .inr ⟨row, hrow, by simp [hfrom, h.beforeSha, shaText], by simp [hflag], ?_⟩
    rw [hclass, hclassification]
    exact hequivalent

/-- The record at the file of the mutation ends its transition, and every row under its id blocks unless it
is equivalent. -/
structure Stored (id : MutationId) (sha : CommitSha) (rec : MutationRecord) (w : World) : Prop where
  lookup : w.store.records.lookup id.file = some rec
  ends : rec.Ends id sha
  rows : rec.classification = some .semanticallyEquivalent ∨
    ∀ row ∈ w.store.index, row.mutationId = id.text → BlocksFrom sha row

def Ended (id : MutationId) (sha : CommitSha) (w : World) : Prop := ∃ rec, Stored id sha rec w

variable {w : World}

lemma Ended.evidence {id : MutationId} {sha : CommitSha} (h : Ended id sha w) : Evidence id sha w.store := by
  obtain ⟨rec, hstored⟩ := h
  refine .inr ⟨rec, hstored.lookup, hstored.ends.mutationId, hstored.ends.terminal, ?_⟩
  rcases hstored.rows with hequivalent | hrows
  · exact .inl hequivalent
  · exact hstored.ends.equivalent_or_blocks.imp_right fun hblocks => ⟨hblocks, hrows⟩

lemma Ended.pointTo {id : MutationId} {sha : CommitSha} (h : Ended id sha w)
    (target : MutationId) : Ended id sha (w.pointTo target) := by
  obtain ⟨rec, hstored⟩ := h
  exact ⟨rec, hstored.lookup, hstored.ends, hstored.rows⟩

lemma lookup_writeRecord (w : World) (record : MutationRecord) :
    (w.writeRecord record).store.records.lookup record.mutationId.file = some record := AList.lookup_insert _

lemma lookup_writeRecord_of_ne {record : MutationRecord} {file : String} (h : file ≠ record.mutationId.file) :
    (w.writeRecord record).store.records.lookup file = w.store.records.lookup file := AList.lookup_insert_ne h

lemma stored_writeRecord {id : MutationId} {sha : CommitSha} (hends : rec.Ends id sha)
    (hrows : rec.classification = some .semanticallyEquivalent ∨
      ∀ row ∈ w.store.index, row.mutationId = id.text → BlocksFrom sha row) :
    Stored id sha rec (w.writeRecord rec) := by
  refine ⟨?_, hends, hrows⟩
  rw [← hends.mutationId]
  exact lookup_writeRecord w rec

lemma NoRows.blocks {id : MutationId} (h : NoRows id store) (sha : CommitSha) :
    ∀ row ∈ store.index, row.mutationId = id.text → BlocksFrom sha row := fun row hrow hid => absurd hid (h row hrow)

lemma noRows_keepsFile (id recordId : MutationId) :
    KeepsFile (fun w => NoRows id w.store) recordId := ⟨fun _ _ _ hw => hw, fun _ _ hw => hw⟩

lemma Stored.appendRow {id : MutationId} {sha : CommitSha} (h : Stored id sha rec w)
    (hrow : rec.classification = some .semanticallyEquivalent ∨ BlocksFrom sha row) :
    Stored id sha rec (w.appendRow row) := by
  refine ⟨h.lookup, h.ends, ?_⟩
  rcases h.rows with hequivalent | hrows
  · exact .inl hequivalent
  · refine hrow.imp_right fun hblocks r hr hid => ?_
    rcases mem_append.1 hr with hr | hr
    · exact hrows r hr hid
    · rw [mem_singleton.1 hr]
      exact hblocks

variable {env : Env} {opts : MutationOpts} {record : MutationRecord} {id : MutationId} {sha : CommitSha}

lemma escalatedRow (record : MutationRecord) (changed : Bool) (persistErr recordedAt : String)
    (hbefore : record.beforeSha = some sha) :
    ∃ row, invalidationOf (shaText record.beforeSha) (shaText record.afterSha) record.mutationId.text
        { classification := .unverified, reason := persistErr }
        (dispositionForClassification .unverified changed persistErr) record.mutationMethod recordedAt =
      some row ∧ BlocksFrom sha row := ⟨_, rfl, by simp [hbefore, shaText], rfl, by simp⟩

lemma meets_escalateRow_of_ended (changed : Bool) (persistErr : String)
    (hbefore : record.beforeSha = some sha) :
    Meets (Ended id sha) (escalateRow env record changed persistErr) (fun _ => Ended id sha)
      (fun _ => Ended id sha) := by
  refine Meets.bind meets_answer_keeps fun recordedAt => ?_
  obtain ⟨row, hrow, hblocks⟩ := escalatedRow record changed persistErr recordedAt hbefore
  simp only [hrow]
  refine Meets.bind (meets_guarded_keeps ?_) fun _ => .ret fun _ hw => hw
  refine (meets_appendRow fun w hw => ?_).mono (fun _ hw => hw) (fun _ _ hw => hw)
    fun _ _ hw => hw.elim (fun h => h) fun h => h.2
  obtain ⟨rec, hstored⟩ := hw
  exact ⟨rec, hstored.appendRow (.inr hblocks)⟩

variable {P : World → Prop}

lemma meets_escalateRow_of_appends (changed : Bool) (persistErr : String)
    (hbefore : record.beforeSha = some sha) (happends : env.appendsEscalated = true) :
    Meets P (escalateRow env record changed persistErr) (fun _ w => Evidence id sha w.store)
      (fun _ w => Evidence id sha w.store) := by
  obtain ⟨⟨⟨hclock, hmkdir⟩, hread⟩, hwrite⟩ : ((env.fault .escalatedClock = .none ∧
      env.fault (.index true .mkdir) = .none) ∧ env.fault (.index true .read) = .none) ∧
      (env.fault (.index true .write)).lands = true := by
    simpa [Env.appendsEscalated] using happends
  refine Meets.bind (q := fun _ => P) ((meets_answer_of_none hclock).mono (fun _ hw => hw)
    (fun _ _ hw => hw.1) fun _ _ hw => hw.elim) fun recordedAt => ?_
  obtain ⟨row, hrow, hblocks⟩ := escalatedRow record changed persistErr recordedAt hbefore
  simp only [hrow]
  refine Meets.bind (q := fun _ w => Evidence id sha w.store) (meets_guarded_keeps ?_)
    fun _ => .ret fun _ hw => hw
  refine Meets.bind (q := fun _ => P) ((meets_perform_of_none hmkdir fun _ hw => hw).mono
    (fun _ hw => hw) (fun _ _ hw => hw) fun _ _ hw => hw.elim) fun _ => ?_
  refine Meets.bind (q := fun _ => P) ((meets_perform_of_none hread fun _ hw => hw).mono
    (fun _ hw => hw) (fun _ _ hw => hw) fun _ _ hw => hw.elim) fun _ => ?_
  exact meets_perform_of_lands hwrite fun w _ =>
    .inl ⟨row, mem_append_right _ mem_cons_self, hblocks⟩

lemma escalated_ends (hends : record.Ends id sha) (changed : Bool) (persistErr : String) :
    (record.classify { classification := .unverified, reason := persistErr } record.lifecycle
      changed).Ends id sha := ⟨hends.mutationId, hends.beforeSha, hends.terminal, ⟨_, changed, rfl, rfl⟩⟩

lemma meets_escalate_of_ended (changed : Bool) (persistErr : String) (hends : record.Ends id sha) :
    Meets (fun w => Ended id sha w ∧ NoRows id w.store) (escalate env record changed persistErr)
      (fun escalated w => Ended id sha w ∧ escalated.beforeSha = some sha)
      (fun _ w => Ended id sha w) := by
  refine Meets.bind (q := fun _ w => Ended id sha w) (meets_guarded_keeps ?_)
    fun _ => .ret fun _ hw => ⟨hw, hends.beforeSha⟩
  refine (meets_persist (fun w hw => ?_) fun w hw => hw.pointTo _).mono (fun _ hw => hw)
    (fun _ _ hw => hw) fun _ _ hw => hw.elim (fun hw => hw.1) fun hw => hw
  exact ⟨_, stored_writeRecord (escalated_ends hends changed persistErr) (.inr (hw.2.blocks sha))⟩

lemma meets_escalate_of_persists (changed : Bool) (persistErr : String) (hends : record.Ends id sha)
    (hpersists : env.persists .escalated = true) :
    Meets (fun w => NoRows id w.store) (escalate env record changed persistErr)
      (fun escalated w => Ended id sha w ∧ escalated.beforeSha = some sha)
      (fun _ w => Ended id sha w) := by
  refine Meets.bind (q := fun _ w => Ended id sha w) (meets_guarded_keeps ?_)
    fun _ => .ret fun _ hw => ⟨hw, hends.beforeSha⟩
  refine meets_persist_of_persists hpersists hends.notInFlight fun w hw => ?_
  exact ⟨_, stored_writeRecord (escalated_ends hends changed persistErr) (.inr (hw.blocks sha))⟩

lemma meets_escalate_of_throws (changed : Bool) (persistErr : String) (hends : record.Ends id sha)
    (hthrows : env.persistThrows .escalated = true) :
    Meets P (escalate env record changed persistErr)
      (fun escalated w => P w ∧ escalated.beforeSha = some sha) NeverStops := by
  refine Meets.bind (q := fun _ w => P w) ((meets_guarded_of_uncrashed
    (meets_persist_of_throws hthrows)).mono (fun _ hw => hw) (fun answered w hw => ?_)
    fun _ _ hw => hw) fun _ => .ret fun _ hw => ⟨hw, hends.beforeSha⟩
  cases answered with
  | ok _ => exact hw.elim
  | error message => exact hw

lemma meets_classifiedRow (mutationId : MutationId) (result : ClassificationResult) (changed : Bool)
    (hclock : env.fault .rowClock = .none) (hbefore : record.beforeSha = some sha) :
    Meets P (classifiedRow env record mutationId result changed)
      (fun row w => P w ∧ ∀ r, row = some r → result.classification = .semanticallyEquivalent ∨ BlocksFrom sha r)
      NeverStops := by
  unfold classifiedRow
  dsimp only
  split
  · refine Meets.bind (meets_answer_of_none hclock) fun recordedAt => ?_
    refine .ret fun _ hw => ⟨hw.1, fun r hr => ?_⟩
    by_cases hequivalent : result.classification = .semanticallyEquivalent
    · exact .inl hequivalent
    · obtain ⟨hfor, hclass, hreview, -⟩ := invalidationOf_rowFor hr
      refine .inr ⟨by simp [hfor.fromSha, hbefore, shaText], ?_, by rw [hclass]; exact hequivalent⟩
      rw [hreview]
      cases hresult : result.classification with
      | semanticallyEquivalent => exact absurd hresult hequivalent
      | expectedScopedChange | scopeExpansion | unverified => rfl
  · refine .ret fun _ hw => ⟨hw, fun r hr => ?_⟩
    cases hr

variable {result : ClassificationResult}

lemma meets_persistClassified_of_persists
    {row : Option IntegrityInvalidationRecord} (hends : record.Ends id sha)
    (hclass : record.classification = some result.classification)
    (hrow : ∀ r, row = some r → result.classification = .semanticallyEquivalent ∨ BlocksFrom sha r)
    (hpersists : env.persists .classified = true) :
    Meets (fun w => NoRows id w.store) (guarded (persistClassifiedDisposition env record row))
      (fun answered w => match answered with
        | .ok _ => Stored id sha record w
        | .error _ => Ended id sha w ∧ NoRows id w.store)
      (fun _ w => Ended id sha w) := by
  refine meets_guarded ?_
  refine Meets.bind ((meets_persist_of_persists
    (Q := fun w => Stored id sha record w ∧ NoRows id w.store) hpersists hends.notInFlight
    fun w hw => ⟨stored_writeRecord hends (.inr (hw.blocks sha)), hw⟩).mono (fun _ hw => hw)
    (fun _ _ hw => hw) fun e w hw => by
      cases e with
      | thrown message => exact ⟨⟨record, hw.1⟩, hw.2⟩
      | crashed => exact ⟨record, hw.1⟩) fun _ => ?_
  cases row with
  | none => exact .ret fun w hw => hw.1
  | some r =>
    have hstored : ∀ w, Stored id sha record w → Stored id sha record (w.appendRow r) := fun w hw =>
      hw.appendRow ((hrow r rfl).imp_left fun hequivalent => by rw [hclass, hequivalent])
    refine (meets_appendRow (Q := Stored id sha record) fun w hw => hstored w hw.1).mono
      (fun _ hw => hw) (fun _ _ hw => hw) fun e w hw => ?_
    rcases hw with hw | ⟨rfl, hw⟩
    · cases e with
      | thrown message => exact ⟨⟨record, hw.1⟩, hw.2⟩
      | crashed => exact ⟨record, hw.1⟩
    · exact ⟨record, hw⟩

lemma meets_dispose_of_stored (emitsEvent : Bool) :
    Meets (Stored id sha record) (dispose env emitsEvent record) (fun _ => Ended id sha)
      (fun _ => Ended id sha) := by
  have hended : ∀ (_ : Stop) w, Stored id sha record w → Ended id sha w := fun _ _ hw => ⟨record, hw⟩
  refine Meets.bind (meets_answer_keeps.mono (fun _ hw => hw) (fun _ _ hw => hw) hended) fun _ => ?_
  have hrest : Meets (Stored id sha record)
      (do
        let updatedAt ← nowIso env .disposeClock
        let record := { record with lifecycle := .disposed, updatedAt := updatedAt }
        let _ ← guarded (persistMutationRecord env .disposed record)
        pure record : Act MutationRecord)
      (fun _ => Ended id sha) (fun _ => Ended id sha) := by
    refine Meets.bind (meets_answer_keeps.mono (fun _ hw => hw) (fun _ _ hw => hw) hended)
      fun updatedAt => ?_
    refine Meets.bind (q := fun _ => Ended id sha) (meets_guarded_keeps ?_) fun _ => .ret fun _ hw => hw
    refine (meets_persist (fun w hw => ?_) fun w hw => hw.pointTo _).mono (fun _ hw => hw)
      (fun _ _ hw => hw) fun e w hw => hw.elim (hended e w) fun hw => hw
    have hdisposed : ({ record with lifecycle := .disposed, updatedAt } : MutationRecord).Ends id sha :=
      ⟨hw.ends.mutationId, hw.ends.beforeSha, rfl, hw.ends.classified⟩
    exact ⟨_, stored_writeRecord hdisposed hw.rows⟩
  dsimp only
  split
  · refine Meets.bind (q := fun _ => Stored id sha record) ((meets_guarded_keeps meets_answer_keeps).mono
      (fun _ hw => hw) (fun _ _ hw => hw) hended) fun _ => hrest
  · exact hrest

lemma meets_recordTransition_evidence {changed exhausted : Bool}
    (hends : record.Ends id sha) (hclass : record.classification = some result.classification)
    (hdurable : env.Durable opts) :
    Meets (fun w => NoRows id w.store) (recordTransition env opts record result changed exhausted)
      (fun _ w => Evidence id sha w.store) (fun _ w => Evidence id sha w.store) := by
  have hended : ∀ w, Ended id sha w → Evidence id sha w.store := fun _ hw => hw.evidence
  refine Meets.bind ((meets_classifiedRow _ _ _ hdurable.rowClock hends.beforeSha).mono (fun _ hw => hw)
    (fun _ _ hw => hw) fun _ _ hw => hw.elim) fun row => ?_
  intro w hw
  obtain ⟨hw, hrow⟩ := hw
  have hfailed : ∀ error, ({ record with mutationError := some error } : MutationRecord).Ends id sha :=
    fun _ => ⟨hends.mutationId, hends.beforeSha, hends.terminal, hends.classified⟩
  rcases hdurable.write with hpersists | ⟨hthrows, hescalation⟩
  · refine Meets.bind ((meets_persistClassified_of_persists hends hclass hrow hpersists).mono
      (fun _ hw => hw) (fun _ _ hw => hw) fun _ w hw => hended w hw) (fun answered => ?_) w hw
    cases answered with
    | ok _ =>
      exact Meets.bind ((meets_dispose_of_stored _).mono (fun _ hw => hw) (fun _ _ hw => hw)
        fun _ w hw => hended w hw) fun _ => .ret fun w hw => hended w hw
    | error message =>
      refine Meets.bind ((meets_escalate_of_ended _ _ (hfailed _)).mono (fun _ hw => hw)
        (fun _ _ hw => hw) fun _ w hw => hended w hw) fun escalated => ?_
      intro w hw
      refine Meets.bind ((meets_escalateRow_of_ended _ _ hw.2).mono (fun _ hw => hw) (fun _ _ hw => hw)
        fun _ w hw => hended w hw) (fun _ => .ret fun w hw => hended w hw) w hw.1
  · have hpersist : Meets (fun w => NoRows id w.store)
        (guarded (persistClassifiedDisposition env record row))
        (fun answered w => match answered with
          | .ok _ => False
          | .error _ => NoRows id w.store)
        NeverStops := by
      have hnever : Meets (fun w => NoRows id w.store) (persistClassifiedDisposition env record row)
          (fun _ _ => False) (fun e w => e ≠ .crashed ∧ NoRows id w.store) :=
        Meets.bind (meets_persist_of_throws hthrows) fun _ w hw => hw.elim
      refine (meets_guarded_of_uncrashed hnever).mono (fun _ hw => hw) (fun answered w hw => ?_)
        fun _ _ hw => hw
      cases answered <;> exact hw
    refine Meets.bind (hpersist.mono (fun _ hw => hw) (fun _ _ hw => hw) fun _ _ hw => hw.elim)
      (fun answered => ?_) w hw
    cases answered with
    | ok _ => exact fun w hw => hw.elim
    | error message =>
      rcases hescalation with hpersists | ⟨hthrows, happends⟩
      · refine Meets.bind ((meets_escalate_of_persists _ _ (hfailed _) hpersists).mono (fun _ hw => hw)
          (fun _ _ hw => hw) fun _ w hw => hended w hw) fun escalated => ?_
        intro w hw
        refine Meets.bind ((meets_escalateRow_of_ended _ _ hw.2).mono (fun _ hw => hw) (fun _ _ hw => hw)
          fun _ w hw => hended w hw) (fun _ => .ret fun w hw => hended w hw) w hw.1
      · refine Meets.bind ((meets_escalate_of_throws _ _ (hfailed _) hthrows).mono (fun _ hw => hw)
          (fun _ _ hw => hw) fun _ _ hw => hw.elim) fun escalated => ?_
        intro w hw
        obtain ⟨hw, hbefore⟩ : NoRows id w.store ∧ escalated.beforeSha = some sha := hw
        exact Meets.bind
          (meets_escalateRow_of_appends (P := fun w => NoRows id w.store) _ _ hbefore happends)
          (fun _ => .ret fun _ hw => hw) w hw

lemma classification_eq (env : Env) (record : MutationRecord) (mutationError : Option String)
    (lifecycle : Lifecycle) (updatedAt : String) :
    let read := { record with lifecycle, updatedAt, mutationError }
    let outcome := env.outcome read (unreadableReason env.mutationError) "post-manifest capture failed: "
    (outcome.2.withoutExpansion env.mutationError outcome.1).classification = env.classification record := by
  unfold Env.classification Env.outcome MutationRecord.transition
  cases env.readRefs with
  | none => rfl
  | some refs => cases env.readManifest <;> rfl

lemma outcome_mutationId (unreadable failure : String) :
    (env.outcome record unreadable failure).2.mutationId = record.mutationId := by
  unfold Env.outcome
  cases env.readRefs with
  | none => rfl
  | some refs => simp

lemma outcome_beforeSha (unreadable failure : String) :
    (env.outcome record unreadable failure).2.beforeSha = record.beforeSha := by
  unfold Env.outcome
  cases env.readRefs with
  | none => rfl
  | some refs => simp

lemma meets_chargeFailure_of_none {classification : IntegrityClassification}
    (hcharge : ∀ w id subject state, P w → P (w.writeBudget id subject state))
    (hfaults : classification.isFailing = true → ∀ site ∈ Env.chargeSites, env.fault site = .none) :
    Meets P (chargeFailure env opts classification) (fun _ => P) NeverStops := by
  unfold chargeFailure
  split
  · next hfailing =>
    have hfaults := hfaults hfailing
    simp only [Env.chargeSites, forall_mem_cons] at hfaults
    obtain ⟨hread, hloadClock, hclock, hmkdir, hwrite, -⟩ := hfaults
    refine Meets.bind (q := fun _ => P) ?_ fun state => ?_
    · refine Meets.bind (q := fun _ => P) ((meets_answer_of_none hread).mono (fun _ hw => hw)
        (fun _ _ hw => hw.1) fun _ _ hw => hw) fun file => ?_
      split
      · exact .ret fun _ hw => hw
      · exact Meets.bind (q := fun _ => P) ((meets_answer_of_none hloadClock).mono (fun _ hw => hw)
          (fun _ _ hw => hw.1) fun _ _ hw => hw) fun updatedAt => .ret fun _ hw => hw
    · refine Meets.bind (q := fun _ => P) ((meets_answer_of_none hclock).mono (fun _ hw => hw)
        (fun _ _ hw => hw.1) fun _ _ hw => hw) fun updatedAt => ?_
      refine Meets.bind (q := fun _ => P) (meets_perform_of_none hmkdir fun _ hw => hw) fun _ => ?_
      exact Meets.bind (q := fun _ => P) (meets_perform_of_none hwrite fun w hw => hcharge w _ _ _ hw)
        fun _ => .ret fun _ hw => hw
  · exact .ret fun _ hw => hw

lemma meets_settle_evidence (hbegan : record.Began env opts) (hbefore : record.beforeSha = some sha)
    (hid : opts.mutationId = id) (hdurable : env.Durable opts) :
    Meets (fun w => NoRows id w.store) (settle env opts record env.mutationError)
      (fun _ w => Evidence id sha w.store) (fun _ w => Evidence id sha w.store) := by
  have hreads : ¬env.CrashesReading := by
    rintro ⟨site, hsite, hcrash⟩
    rw [hdurable.readBack site hsite] at hcrash
    cases hcrash
  have hcut : ∀ (_ : Stop) (w : World), NoRows id w.store ∧ env.CrashesReading → Evidence id sha w.store :=
    fun _ w hw => absurd hw.2 hreads
  refine Meets.bind ((meets_answer_of_none hdurable.postClock).mono (fun _ hw => hw)
    (fun _ _ hw => hw.1) fun _ _ hw => hw.elim) fun postAt => ?_
  refine Meets.bind ((meets_readPostRefs (noRows_keepsFile id _) rfl).mono (fun _ hw => hw)
    (fun _ _ hw => hw) hcut) fun postRefs => ?_
  intro w hw
  obtain ⟨hw, rfl⟩ := hw
  refine Meets.bind ((meets_classifyPost _ _).mono (fun _ hw => hw) (fun _ _ hw => hw) hcut)
    (fun classified => ?_) w hw
  intro w hw
  obtain ⟨hw, rfl⟩ := hw
  have hclassification := classification_eq env record env.mutationError .authoritativePostRead postAt
  refine Meets.bind ((meets_answer_of_none (P := fun w => NoRows id w.store)
    hdurable.classifiedClock).mono (fun _ hw => hw) (fun _ _ hw => hw.1) fun _ _ hw => hw.elim)
    (fun classifiedAt => ?_) w hw
  refine Meets.bind ((meets_chargeFailure_of_none (P := fun w => NoRows id w.store)
    (fun w _ _ _ hw => hw) fun hfailing => hdurable.charge ⟨record, hbegan, ?_⟩).mono (fun _ hw => hw)
    (fun _ _ hw => hw) fun _ _ hw => hw.elim) fun exhausted => ?_
  · rw [← hclassification]
    exact hfailing
  · refine meets_recordTransition_evidence ⟨?_, ?_, rfl, ⟨_, _, rfl, rfl⟩⟩ rfl hdurable
    · exact (outcome_mutationId _ _).trans (hbegan.mutationId.trans hid)
    · exact (outcome_beforeSha _ _).trans hbefore

end AgentPipeline.Integrity
