import AgentPipeline.Foundation.Transition
import AgentPipeline.Integrity.Evidence

/-!
# Reuse: runs of mutations and hydrations

* `claimed_before_mutated`: the callback runs after both records are durable and within the budget;
* `Sound`: every mutation that ran has left evidence against the head before it;
* `Call.Allowed`: a new mutation whose faults are durable, or any other call;
* `never_reusable`: in every run of allowed calls the old review is blocked at every other head.
-/

namespace AgentPipeline.Integrity

open List
open Effect (Meets)
open Transition (Run)

/-! ## The claim before the callback -/

/-- The event of a callback that ran. -/
def MutationEvent.IsMutated : MutationEvent → Prop
  | .mutated _ _ _ => True
  | _ => False

/-- Nothing ran. -/
def Quiet (events : List MutationEvent) : Prop := ∀ e ∈ events, ¬e.IsMutated

variable {e : MutationEvent}

lemma Quiet.append {events : List MutationEvent} (h : Quiet events) (he : ¬e.IsMutated) : Quiet (events ++ [e]) := by
  intro e' he'
  rcases mem_append.1 he' with he' | he'
  · exact h e' he'
  · rw [mem_singleton.1 he']
    exact he

/-- The callback ran at most once, after both records were durable. -/
def ClaimedFirst (id : MutationId) (events : List MutationEvent) : Prop :=
  Quiet events ∨ ∃ before subject sha after,
    events = before ++ .mutated id subject sha :: after ∧ Quiet before ∧ Quiet after ∧
      .wrote id .prePersisted ∈ before ∧ .wrote id .mutationClaimed ∈ before

lemma ClaimedFirst.append {id : MutationId} {events : List MutationEvent} (h : ClaimedFirst id events)
    (he : ¬e.IsMutated) : ClaimedFirst id (events ++ [e]) := by
  rcases h with hquiet | ⟨before, subject, sha, after, rfl, hbefore, hafter, hpersisted, hclaimed⟩
  · exact .inl (hquiet.append he)
  · exact .inr ⟨before, subject, sha, after ++ [e], by simp, hbefore, hafter.append he, hpersisted, hclaimed⟩

variable {w w' : World} {record : MutationRecord}

section Claimed

variable (w₀ : World) (opts : MutationOpts)

/-- The limit of the retry budget of a call. -/
def MutationOpts.limit (opts : MutationOpts) : Nat := 1 + opts.retryBudget.getD defaultRetryBudget

/-- Since the start of the call nothing ran, and these records were written. -/
def Since (written : List Lifecycle) (w : World) : Prop :=
  ∃ events, w.trace = w₀.trace ++ events ∧ Quiet events ∧
    (∀ lifecycle ∈ written, .wrote opts.mutationId lifecycle ∈ events) ∧
    w.store.failures opts.subject = w₀.store.failures opts.subject

/-- What the call has added to the trace. -/
def Added (w : World) : Prop :=
  ∃ events, w.trace = w₀.trace ++ events ∧ ClaimedFirst opts.mutationId events ∧
    (¬Quiet events → w₀.store.failures opts.subject < opts.limit)

variable {w₀ opts} {written : List Lifecycle}

section

variable (h : Since w₀ opts written w)
include h

lemma Since.weaken : Since w₀ opts [] w := by
  obtain ⟨events, htrace, hquiet, -, hfailures⟩ := h
  exact ⟨events, htrace, hquiet, by simp, hfailures⟩

lemma Since.added : Added w₀ opts w := by
  obtain ⟨events, htrace, hquiet, -, -⟩ := h
  exact ⟨events, htrace, .inl hquiet, fun hran => absurd hquiet hran⟩

lemma Since.writeRecord (record : MutationRecord) (hid : record.mutationId = opts.mutationId) :
    Since w₀ opts (record.lifecycle :: written) (w.writeRecord record) := by
  obtain ⟨events, htrace, hquiet, hwritten, hfailures⟩ := h
  refine ⟨events ++ [.wrote record.mutationId record.lifecycle], by simp [World.writeRecord, htrace],
    hquiet.append (e := .wrote record.mutationId record.lifecycle) (fun h => h), ?_, hfailures⟩
  intro lifecycle hlifecycle
  rcases mem_cons.1 hlifecycle with rfl | hlifecycle
  · simp [hid]
  · exact mem_append_left _ (hwritten lifecycle hlifecycle)

end

lemma Added.append (h : Added w₀ opts w) (he : ¬e.IsMutated)
    (htrace : w'.trace = w.trace ++ [e]) : Added w₀ opts w' := by
  obtain ⟨events, hevents, hclaimed, hlimit⟩ := h
  refine ⟨events ++ [e], by rw [htrace, hevents, append_assoc], hclaimed.append he, fun hran => ?_⟩
  exact hlimit fun hquiet => hran (hquiet.append he)

lemma added_keeps (beforeSha : Option CommitSha) :
    Keeps (Added w₀ opts) opts.mutationId opts.mutationId.text beforeSha where
  record _ record _ hw := hw.append (e := .wrote record.mutationId record.lifecycle) (fun h => h) rfl
  pointer _ _ hw := hw
  row _ _ _ hw := hw

lemma added_noteMutated (hid : record.mutationId = opts.mutationId)
    (h : Since w₀ opts [.mutationClaimed, .prePersisted] w)
    (hlimit : w.store.failures opts.subject < opts.limit) : Added w₀ opts (w.noteMutated record) := by
  obtain ⟨events, htrace, hquiet, hwritten, hfailures⟩ := h
  refine ⟨events ++ [.mutated record.mutationId record.subject record.beforeSha],
    by simp [World.noteMutated, htrace], ?_, fun _ => by rw [← hfailures]; exact hlimit⟩
  refine .inr ⟨events, record.subject, record.beforeSha, [], by rw [hid], hquiet, by simp [Quiet], ?_, ?_⟩
  · exact hwritten _ (by simp)
  · exact hwritten _ (by simp)

lemma claimed_phases (env : Env) (opts : MutationOpts) (w₀ : World) :
    Phases env opts (Since w₀ opts []) (Since w₀ opts [.prePersisted])
    (fun _ w => Since w₀ opts [.mutationClaimed, .prePersisted] w ∧ w.store.failures opts.subject < opts.limit)
    (Since w₀ opts []) (Added w₀ opts) (fun _ => Added w₀ opts) where
  keeps :=
    { record := fun w record hid hw => (hw.writeRecord record hid).weaken
      pointer := fun _ _ hw => hw }
  startUnrun _ hw := hw
  persistedUnrun _ hw := hw.weaken
  claimedUnrun _ _ hw := hw.1.weaken
  unrunEnded _ hw := hw.added
  aborted _ _ _ hw := hw.added
  persist record w hid hlifecycle hw := by
    have hwrite := hw.writeRecord record hid
    rwa [hlifecycle] at hwrite
  persistPointer _ _ hw := hw
  claim record w hid hlifecycle hlimit hw := by
    have hwrite := hw.writeRecord record hid
    rw [hlifecycle] at hwrite
    exact ⟨hwrite, hlimit⟩
  claimPointer _ _ _ hw := hw
  cut _ record w hbegan hw := added_noteMutated hbegan.mutationId hw.1 hw.2
  settle record hbegan _ := by
    refine (meets_settle_keeps added_keeps added_keeps (fun _ hw => hw) (fun w state hw _ => ?_)
      hbegan.mutationId _).mono (fun w hw => ?_) (fun _ _ hw => hw.1) fun _ _ hw => hw
    · exact hw.append (e := .charged opts.mutationId opts.subject) (fun h => h) rfl
    · obtain ⟨w', hw', rfl⟩ := hw
      exact added_noteMutated hbegan.mutationId hw'.1 hw'.2

end Claimed

lemma claimed_before_mutated (env : Env) (opts : MutationOpts) (w : World) :
    Added w opts (Call.run w (.mutation env opts)) := by
  have hmeets := (claimed_phases env opts w).meets_runCandidateMovingMutation w
    ⟨[], by simp, by simp [Quiet], by simp, rfl⟩
  simp only [Call.run]
  cases hrun : runCandidateMovingMutation env opts w with
  | mk result w' =>
    cases result with
    | ok result =>
      have hadded := (hmeets w').1 result hrun
      simp only [World.noteReturned]
      split
      · exact hadded
      · exact hadded.append (e := .returned result.mutationId result.classification) (fun h => h) rfl
    | error e => exact (hmeets w').2 e hrun

/-! ## Sound worlds -/

/-- The evidence of a mutation that does not lie in a file. -/
def EvidenceBeside (file : String) (id : MutationId) (sha : CommitSha) (store : IntegrityStore) : Prop :=
  (∃ row ∈ store.index, BlocksFrom sha row) ∨ id.file ≠ file ∧ RecordEvidence id sha store

/-- Every mutation that ran, the one of the call itself apart, has left evidence, and not in the file that
the call writes. -/
structure SoundBeside (file : String) (own : Option MutationId) (w : World) : Prop where
  wellFormed : w.store.WellFormed
  evidence : ∀ id subject before, .mutated id subject before ∈ w.trace → some id ≠ own →
    (w.store.records.lookup id.file).isSome = true ∧ ∃ sha, before = some sha ∧ EvidenceBeside file id sha w.store

/-- Every mutation that ran has left evidence against the head before it. -/
structure Sound (w : World) : Prop where
  wellFormed : w.store.WellFormed
  evidence : ∀ id subject before, .mutated id subject before ∈ w.trace →
    (w.store.records.lookup id.file).isSome = true ∧ ∃ sha, before = some sha ∧ Evidence id sha w.store

variable {file : String}

lemma SoundBeside.sound (h : SoundBeside file none w) : Sound w := by
  refine ⟨h.wellFormed, fun id subject before hran => ?_⟩
  obtain ⟨hpresent, sha, hbefore, hevidence⟩ := h.evidence id subject before hran (by simp)
  exact ⟨hpresent, sha, hbefore, hevidence.imp_right fun hrecord => hrecord.2⟩

lemma IntegrityStore.WellFormed.writeRecord (h : w.store.WellFormed) (record : MutationRecord) :
    (w.writeRecord record).store.WellFormed := by
  refine ⟨fun file rec hlookup => ?_, h.noBar⟩
  by_cases hfile : file = record.mutationId.file
  · rw [hfile, lookup_writeRecord] at hlookup
    cases hlookup
    exact hfile
  · rw [lookup_writeRecord_of_ne hfile] at hlookup
    exact h.named file rec hlookup

variable {sha : CommitSha}

lemma EvidenceBeside.writeRecord {id : MutationId} (h : EvidenceBeside file id sha w.store)
    (hfile : record.mutationId.file = file) : EvidenceBeside file id sha (w.writeRecord record).store := by
  refine h.imp_right fun hrecord => ⟨hrecord.1, ?_⟩
  obtain ⟨hne, rec, hlookup, hrest⟩ := hrecord
  refine ⟨rec, ?_, hrest⟩
  rw [lookup_writeRecord_of_ne (by rw [hfile]; exact hne)]
  exact hlookup

lemma EvidenceBeside.appendRow {id : MutationId}
    (h : EvidenceBeside file id sha w.store) {row : IntegrityInvalidationRecord}
    (hrow : recordFile row.mutationId = file) : EvidenceBeside file id sha (w.appendRow row).store := by
  rcases h with ⟨r, hr, hblocks⟩ | ⟨hne, rec, hlookup, hid, hterminal, hevidence⟩
  · exact .inl ⟨r, mem_append_left _ hr, hblocks⟩
  · refine .inr ⟨hne, rec, hlookup, hid, hterminal, hevidence.imp_right fun hrows => ⟨hrows.1, ?_⟩⟩
    intro r hr hrId
    rcases mem_append.1 hr with hr | hr
    · exact hrows.2 r hr hrId
    · -- the new row is under another id
      rw [mem_singleton.1 hr] at hrId
      rw [hrId] at hrow
      exact absurd hrow hne

lemma soundBeside_keeps (own : Option MutationId) (recordId rowId : MutationId)
    (hfile : recordId.file = rowId.file) (beforeSha : Option CommitSha) :
    Keeps (SoundBeside rowId.file own) recordId rowId.text beforeSha where
  record w record hid hw := by
    refine ⟨hw.wellFormed.writeRecord record, fun id subject before hran hother => ?_⟩
    have hran : MutationEvent.mutated id subject before ∈ w.trace := by simpa [World.writeRecord] using hran
    obtain ⟨hpresent, sha, hbefore, hevidence⟩ := hw.evidence id subject before hran hother
    refine ⟨?_, sha, hbefore, hevidence.writeRecord (by rw [hid, hfile])⟩
    by_cases hsame : id.file = record.mutationId.file
    · rw [hsame, lookup_writeRecord]
      rfl
    · rw [lookup_writeRecord_of_ne hsame]
      exact hpresent
  pointer _ _ hw := ⟨⟨hw.wellFormed.named, hw.wellFormed.noBar⟩, hw.evidence⟩
  row w row hrow hw := by
    refine ⟨⟨hw.wellFormed.named, fun r hr => ?_⟩, fun id subject before hran hother => ?_⟩
    · rcases mem_append.1 hr with hr | hr
      · exact hw.wellFormed.noBar r hr
      · rw [mem_singleton.1 hr]
        exact hrow.noBar
    · obtain ⟨hpresent, sha, hbefore, hevidence⟩ := hw.evidence id subject before hran hother
      exact ⟨hpresent, sha, hbefore, hevidence.appendRow (by rw [hrow.mutationId]; rfl)⟩

lemma SoundBeside.congr {own : Option MutationId}
    (h : SoundBeside file own w) (hrecords : w'.store.records = w.store.records)
    (hindex : w'.store.index = w.store.index)
    (htrace : ∀ id subject before, .mutated id subject before ∈ w'.trace → some id ≠ own →
      .mutated id subject before ∈ w.trace) : SoundBeside file own w' := by
  refine ⟨⟨by rw [hrecords]; exact h.wellFormed.named, by rw [hindex]; exact h.wellFormed.noBar⟩, ?_⟩
  intro id subject before hran hother
  obtain ⟨hpresent, sha, hbefore, hevidence⟩ := h.evidence id subject before
    (htrace id subject before hran hother) hother
  refine ⟨by rw [hrecords]; exact hpresent, sha, hbefore, ?_⟩
  unfold EvidenceBeside RecordEvidence
  rw [hrecords, hindex]
  exact hevidence

lemma Sound.congr (h : Sound w) (hrecords : w'.store.records = w.store.records)
    (hindex : w'.store.index = w.store.index) (htrace : ∀ id subject before, .mutated id subject before ∈ w'.trace →
      .mutated id subject before ∈ w.trace) : Sound w' := by
  refine ⟨⟨by rw [hrecords]; exact h.wellFormed.named, by rw [hindex]; exact h.wellFormed.noBar⟩, ?_⟩
  intro id subject before hran
  obtain ⟨hpresent, sha, hbefore, hevidence⟩ := h.evidence id subject before (htrace id subject before hran)
  refine ⟨by rw [hrecords]; exact hpresent, sha, hbefore, ?_⟩
  unfold Evidence RecordEvidence
  rw [hrecords, hindex]
  exact hevidence

lemma Sound.noteReturned (h : Sound w) (result : MutationResult) : Sound (w.noteReturned result) := by
  unfold World.noteReturned
  split
  · exact h
  · exact h.congr rfl rfl fun id subject before hran => by simpa using hran

/-! ## Allowed calls -/

/-- The id is new to the store. -/
structure Fresh (id : MutationId) (store : IntegrityStore) : Prop where
  file : store.records.lookup id.file = none
  rows : NoRows id store

/-- A mutation has a new id, and nothing goes wrong between its callback and its first durable write. -/
def Call.Allowed (w : World) : Call → Prop
  | .mutation env opts => Fresh opts.mutationId w.store ∧ env.Durable opts
  | .hydration _ _ => True
  | .budgetLost _ => True

section Mutations

variable {env : Env} {opts : MutationOpts} {id : MutationId}

/-- The mutation has not run yet. -/
def Unrun (id : MutationId) (w : World) : Prop := ∀ subject before, .mutated id subject before ∉ w.trace

/-- The mutation ran at this head, and its record is there. -/
def RanAt (id : MutationId) (sha : CommitSha) (w : World) : Prop :=
  (∀ subject before, .mutated id subject before ∈ w.trace → before = some sha) ∧
    (w.store.records.lookup id.file).isSome = true

lemma unrun_keeps (id recordId : MutationId) (rowId : String) (beforeSha : Option CommitSha) :
    Keeps (Unrun id) recordId rowId beforeSha where
  record w record _ hw subject before hran := hw subject before (by simpa [World.writeRecord] using hran)
  pointer _ _ hw := hw
  row _ _ _ hw := hw

lemma ranAt_keeps (id : MutationId) (sha : CommitSha) (rowId : String) (beforeSha : Option CommitSha) :
    Keeps (RanAt id sha) id rowId beforeSha where
  record w record hid hw := by
    refine ⟨fun subject before hran => hw.1 subject before (by simpa [World.writeRecord] using hran), ?_⟩
    rw [← hid, lookup_writeRecord]
    rfl
  pointer _ _ hw := hw
  row _ _ _ hw := hw

/-- The worlds before the callback of a mutation. -/
def Before (id : MutationId) (w : World) : Prop := SoundBeside id.file (some id) w ∧ Unrun id w

/-- The worlds after a mutation. -/
def After (id : MutationId) (w : World) : Prop :=
  SoundBeside id.file (some id) w ∧ ∀ subject before, .mutated id subject before ∈ w.trace →
    (w.store.records.lookup id.file).isSome = true ∧ ∃ sha, before = some sha ∧ Evidence id sha w.store

lemma Before.after (h : Before id w) : After id w := ⟨h.1, fun subject before hran => absurd hran (h.2 subject before)⟩

lemma After.sound (h : After id w) : Sound w := by
  refine ⟨h.1.wellFormed, fun id' subject before hran => ?_⟩
  by_cases hsame : id' = id
  · rw [hsame] at hran ⊢
    exact h.2 subject before hran
  · obtain ⟨hpresent, sha, hbefore, hevidence⟩ := h.1.evidence id' subject before hran (by simpa using hsame)
    exact ⟨hpresent, sha, hbefore, hevidence.imp_right fun hrecord => hrecord.2⟩

lemma before_keeps (id : MutationId) : KeepsFile (Before id) id where
  record w record hid hw :=
    ⟨(soundBeside_keeps (some id) id id rfl none).record w record hid hw.1,
      (unrun_keeps id id id.text none).record w record hid hw.2⟩
  pointer w target hw := ⟨(soundBeside_keeps (some id) id id rfl none).pointer w target hw.1, hw.2⟩

lemma Before.noteMutated (h : Before id w) (hid : record.mutationId = id) (hbefore : record.beforeSha = some sha)
    (hpresent : (w.store.records.lookup id.file).isSome = true) :
    SoundBeside id.file (some id) (w.noteMutated record) ∧ RanAt id sha (w.noteMutated record) := by
  refine ⟨h.1.congr rfl rfl fun id' subject before hran hother => ?_, fun subject before hran => ?_, hpresent⟩
  · rcases mem_append.1 hran with hran | hran
    · exact hran
    · -- the new event is the one of the call
      have hsame := (MutationEvent.mutated.inj (mem_singleton.1 hran)).1
      exact absurd (by rw [hsame, hid]) hother
  · rcases mem_append.1 hran with hran | hran
    · exact absurd hran (h.2 subject before)
    · exact (MutationEvent.mutated.inj (mem_singleton.1 hran)).2.2.trans hbefore

lemma meets_settle_after (hbegan : record.Began env opts)
    (hbefore : record.beforeSha = some sha) (hdurable : env.Durable opts) :
    Meets (fun w => (SoundBeside opts.mutationId.file (some opts.mutationId) w ∧
        RanAt opts.mutationId sha w) ∧ NoRows opts.mutationId w.store)
      (settle env opts record env.mutationError) (fun _ => After opts.mutationId)
      (fun _ => After opts.mutationId) := by
  have hkeeps : ∀ b, Keeps (fun w => SoundBeside opts.mutationId.file (some opts.mutationId) w ∧
      RanAt opts.mutationId sha w) opts.mutationId opts.mutationId.text b := by
    intro b
    have hbeside := soundBeside_keeps (some opts.mutationId) _ opts.mutationId rfl b
    have hran := ranAt_keeps opts.mutationId sha opts.mutationId.text b
    exact
      { record := fun w record hid hw => ⟨hbeside.record w record hid hw.1, hran.record w record hid hw.2⟩
        pointer := fun w target hw => ⟨hbeside.pointer w target hw.1, hw.2⟩
        row := fun w row hrow hw => ⟨hbeside.row w row hrow hw.1, hw.2⟩ }
  have hcharge : ∀ (w : World) (state : IntegrityBudgetState),
      SoundBeside opts.mutationId.file (some opts.mutationId) w ∧ RanAt opts.mutationId sha w →
      SoundBeside opts.mutationId.file (some opts.mutationId) (w.writeBudget opts.mutationId opts.subject state) ∧
        RanAt opts.mutationId sha (w.writeBudget opts.mutationId opts.subject state) := by
    intro w state hw
    refine ⟨hw.1.congr rfl rfl fun id subject before hran _ => ?_, fun subject before hran => ?_, hw.2.2⟩
    · simpa [World.writeBudget] using hran
    · exact hw.2.1 subject before (by simpa [World.writeBudget] using hran)
  have hafter : ∀ w : World, (SoundBeside opts.mutationId.file (some opts.mutationId) w ∧
      RanAt opts.mutationId sha w) ∧ Evidence opts.mutationId sha w.store → After opts.mutationId w :=
    fun w hw => ⟨hw.1.1, fun subject before hran =>
      ⟨hw.1.2.2, sha, hw.1.2.1 subject before hran, hw.2⟩⟩
  have hstays : Meets _ (settle env opts record env.mutationError) _ _ :=
    meets_settle_keeps hkeeps hkeeps (fun _ hw => hw) (fun w state hw _ => hcharge w state hw)
      hbegan.mutationId env.mutationError
  exact (Meets.and hstays (meets_settle_evidence hbegan hbefore rfl hdurable)).mono (fun _ hw => hw)
    (fun _ w hw => hafter w ⟨hw.1.1, hw.2⟩) fun _ w hw => hafter w hw

lemma evidence_phases (hdurable : env.Durable opts) :
    Phases env opts (fun w => Before opts.mutationId w ∧ NoRows opts.mutationId w.store)
      (fun w => Before opts.mutationId w ∧ NoRows opts.mutationId w.store)
      (fun _ w => (Before opts.mutationId w ∧ NoRows opts.mutationId w.store) ∧
        (w.store.records.lookup opts.mutationId.file).isSome = true)
      (Before opts.mutationId) (After opts.mutationId) (fun _ => After opts.mutationId) where
  keeps := before_keeps opts.mutationId
  startUnrun _ hw := hw.1
  persistedUnrun _ hw := hw.1
  claimedUnrun _ _ hw := hw.1.1
  unrunEnded _ hw := hw.after
  aborted _ _ _ hw := hw.after
  persist record w hid _ hw := ⟨(before_keeps _).record w record hid hw.1, hw.2⟩
  persistPointer target w hw := ⟨(before_keeps _).pointer w target hw.1, hw.2⟩
  claim record w hid _ _ hw := by
    refine ⟨⟨(before_keeps _).record w record hid hw.1, hw.2⟩, ?_⟩
    rw [← hid, lookup_writeRecord]
    rfl
  claimPointer _ target w hw := ⟨⟨(before_keeps _).pointer w target hw.1.1, hw.1.2⟩, hw.2⟩
  cut hfault := absurd hfault hdurable.mutate
  settle record hbegan _ := by
    obtain ⟨refs, -, hbefore⟩ := hbegan.beforeSha
    refine (meets_settle_after hbegan hbefore hdurable).mono (fun w hw => ?_) (fun _ _ hw => hw)
      fun _ _ hw => hw
    obtain ⟨w', ⟨⟨hw', hrows⟩, hpresent⟩, rfl⟩ := hw
    exact ⟨hw'.noteMutated hbegan.mutationId hbefore hpresent, hrows⟩

end Mutations

/-! ## Runs -/

lemma Sound.mutation (h : Sound w) {env : Env} {opts : MutationOpts}
    (hfresh : Fresh opts.mutationId w.store) (hdurable : env.Durable opts) :
    Sound (Call.run w (.mutation env opts)) := by
  have hother : ∀ id subject before, .mutated id subject before ∈ w.trace → id.file ≠ opts.mutationId.file := by
    intro id subject before hran hsame
    have hpresent := (h.evidence id subject before hran).1
    rw [hsame, hfresh.file] at hpresent
    cases hpresent
  have hbefore : Before opts.mutationId w := by
    refine ⟨⟨h.wellFormed, fun id subject before hran _ => ?_⟩, fun subject before hran => ?_⟩
    · obtain ⟨hpresent, sha, hbefore, hevidence⟩ := h.evidence id subject before hran
      exact ⟨hpresent, sha, hbefore, hevidence.imp_right fun hrecord =>
        ⟨hother id subject before hran, hrecord⟩⟩
    · exact hother _ subject before hran rfl
  have hmeets := (evidence_phases hdurable).meets_runCandidateMovingMutation w ⟨hbefore, hfresh.rows⟩
  simp only [Call.run]
  cases hrun : runCandidateMovingMutation env opts w with
  | mk result w' =>
    cases result with
    | ok result => exact ((hmeets w').1 result hrun).sound.noteReturned result
    | error e => exact ((hmeets w').2 e hrun).sound

lemma Sound.hydration (h : Sound w) (env : Env) (opts : HydrateOpts) : Sound (Call.run w (.hydration env opts)) := by
  have hbeside : ∀ (mutationId : MutationId) existing, w.store.records.lookup mutationId.file = some existing →
      existing.lifecycle.isTerminal = false → existing.mutationId.file = mutationId.file ∧
        SoundBeside mutationId.file none w := by
    intro mutationId existing hlookup hopen
    refine ⟨(h.wellFormed.named _ existing hlookup).symm, h.wellFormed, fun id subject before hran _ => ?_⟩
    obtain ⟨hpresent, sha, hbefore, hevidence⟩ := h.evidence id subject before hran
    refine ⟨hpresent, sha, hbefore, hevidence.imp_right fun hrecord => ⟨fun hsame => ?_, hrecord⟩⟩
    obtain ⟨rec, hrec, -, hterminal, -⟩ := hrecord
    rw [hsame, hlookup] at hrec
    cases hrec
    rw [hopen] at hterminal
    cases hterminal
  have hmeets : Meets (· = w) (hydrateAndCompleteIncompleteMutation env opts) (fun _ => Sound)
      (fun _ => Sound) := by
    refine meets_hydrate h h (fun _ _ _ _ _ => h) (fun mutationId existing _ hlookup hopen _ => ?_)
      fun mutationId existing _ hlookup hopen _ => ?_
    · obtain ⟨hfile, hsound⟩ := hbeside mutationId existing hlookup hopen
      exact (meets_disposeMissingPre_keeps (soundBeside_keeps none _ _ hfile none).toKeepsFile).mono
        (fun w' hw => by rw [hw]; exact hsound) (fun _ _ hw => hw.1.sound) fun _ _ hw => hw.sound
    · obtain ⟨hfile, hsound⟩ := hbeside mutationId existing hlookup hopen
      exact (meets_completeMutation_keeps (soundBeside_keeps none _ _ hfile) opts.emitsEvent).mono
        (fun w' hw => by rw [hw]; exact hsound) (fun _ _ hw => hw.1.sound) fun _ _ hw => hw.sound
  have hmeets := hmeets w rfl
  simp only [Call.run]
  cases hrun : hydrateAndCompleteIncompleteMutation env opts w with
  | mk result w' =>
    cases result with
    | ok result =>
      cases result with
      | none => exact (hmeets w').1 none hrun
      | some result => exact ((hmeets w').1 (some result) hrun).noteReturned result
    | error e => exact (hmeets w').2 e hrun

lemma Sound.run (h : Sound w) {call : Call} (hallowed : call.Allowed w) : Sound (call.run w) := by
  cases call with
  | mutation env opts => exact h.mutation hallowed.1 hallowed.2
  | hydration env opts => exact h.hydration env opts
  | budgetLost subject => exact h.congr rfl rfl fun _ _ _ hran => hran

lemma sound_empty : Sound {} := ⟨⟨fun file rec hlookup => by simp at hlookup, by simp⟩, by simp⟩

/-- Calls one after the other; each state in between is observed. -/
def callStep (w : World) (call : Call) : Option World := some (call.run w)

lemma Sound.of_run {calls : List Call}
    (h : Run callStep (fun w call => call.Allowed w) {} calls w) : Sound w := by
  refine h.invariant (I := Sound) (fun w call w' hallowed hsound hstep => ?_) sound_empty
  cases hstep
  exact hsound.run hallowed

/-- The callback of a mutation runs only after both records are durable and within the budget; and in every
run of allowed calls the review of the head before a mutation is blocked at every other head, unless its
transition is durably equivalent. -/
theorem never_reusable (env : Env) (opts : MutationOpts) (w : World) :
    Added w opts (Call.run w (.mutation env opts)) ∧
      ∀ calls : List Call, Run callStep (fun w call => call.Allowed w) {} calls w →
        ∀ id subject before, .mutated id subject before ∈ w.trace → ∃ sha, before = some sha ∧
          (¬DurablyEquivalent id w.store → ∀ (toLowerCase : String → String) (head : String),
            toLowerCase head ≠ toLowerCase sha.text → toLowerCase sha.text ≠ "" →
            (integrityBlocksReviewReuse toLowerCase w.store head (some sha.text)).isSome = true) := by
  refine ⟨claimed_before_mutated env opts w, fun calls hrun id subject before hran => ?_⟩
  have hsound := Sound.of_run hrun
  obtain ⟨-, sha, hbefore, hevidence⟩ := hsound.evidence id subject before hran
  exact ⟨sha, hbefore, fun hnot toLowerCase head hmoved hnonempty =>
    hevidence.blocks hsound.wellFormed hnot hmoved hnonempty⟩
/-! ## One repair -/

def oldHead : CommitSha := { text := "aaa1", noBar := by decide }
def newHead : CommitSha := { text := "bbb2", noBar := by decide }
def baseHead : CommitSha := { text := "ccc3", noBar := by decide }

def firstId : MutationId :=
  { text := "m1", nonempty := by decide, notActive := by decide +kernel, notBudget := by decide +kernel }

/-- A repair that moves the head and touches a file outside its scope. -/
def repairOpts : MutationOpts where
  mutationId := firstId
  subject := ⟨7, some 8⟩
  mutationMethod := .recoveryRepair
  preRefs := some ⟨oldHead, baseHead⟩

def repairEnv (fault : Site → Fault) : Env where
  fault := fault
  preManifest := { entries := [] }
  postRefs := some ⟨newHead, baseHead⟩
  postManifest :=
    { entries := [{ path := "b.ts", status := .added, candidateBlob := some "b1" }] }

def crashAfterMutate : Site → Fault
  | .mutate => .crash true
  | _ => .none

lemma durable_repairEnv : (repairEnv fun _ => .none).Durable repairOpts where
  mutate := by decide
  postClock := rfl
  readBack _ _ := rfl
  classifiedClock := rfl
  charge _ _ _ := rfl
  rowClock := rfl
  write := .inl (by decide +kernel)

lemma fresh_repair : Fresh repairOpts.mutationId ({} : World).store := ⟨rfl, by simp [NoRows]⟩

theorem repair_blocked :
    (integrityBlocksReviewReuse id (Call.run {} (.mutation (repairEnv fun _ => .none) repairOpts)).store
      newHead.text (some oldHead.text)).isSome = true := by
  have hran : MutationEvent.mutated firstId ⟨7, some 8⟩ (some oldHead) ∈
      (Call.run {} (.mutation (repairEnv fun _ => .none) repairOpts)).trace := by
    decide +kernel
  obtain ⟨sha, hsha, hblocked⟩ := (never_reusable (repairEnv fun _ => .none) repairOpts _).2
    [.mutation (repairEnv fun _ => .none) repairOpts]
    (.cons ⟨fresh_repair, durable_repairEnv⟩ rfl (.nil _)) _ _ _ hran
  cases hsha
  refine hblocked ?_ id newHead.text (by decide) (by decide)
  rintro ⟨rec, hrec, -, hclass⟩
  have hunverified : ((Call.run {} (.mutation (repairEnv fun _ => .none) repairOpts)).store.records.lookup
      firstId.file).map (·.classification) = some (some .scopeExpansion) := by
    decide +kernel
  rw [hrec, Option.map_some, hclass] at hunverified
  cases hunverified

/-- The process dies right after the callback: the record says `mutation_claimed`, which blocks nothing. -/
theorem crash_leaves_review_reusable :
    ∃ calls w, Run callStep (fun w call => match call with
        | .mutation _ opts => Fresh opts.mutationId w.store
        | _ => True) {} calls w ∧
      .mutated firstId ⟨7, some 8⟩ (some oldHead) ∈ w.trace ∧ ¬DurablyEquivalent firstId w.store ∧
      integrityBlocksReviewReuse id w.store newHead.text (some oldHead.text) = none := by
  refine ⟨[.mutation (repairEnv crashAfterMutate) repairOpts], _, .cons fresh_repair rfl (.nil _), ?_, ?_, ?_⟩
  · decide +kernel
  · rintro ⟨rec, hrec, hterminal, -⟩
    have hclaimed : ((Call.run {} (.mutation (repairEnv crashAfterMutate) repairOpts)).store.records.lookup
        firstId.file).map (·.lifecycle) = some .mutationClaimed := by
      decide +kernel
    rw [hrec, Option.map_some, Option.some.injEq] at hclaimed
    rw [hclaimed] at hterminal
    cases hterminal
  · decide +kernel

end AgentPipeline.Integrity
