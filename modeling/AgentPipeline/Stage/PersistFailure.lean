import AgentPipeline.Stage.AttemptsOnce

/-!
# PersistFailure: attempts that could not be persisted

`claimAndPersistStageAttempt` and `completeAndPersistStageAttempt`, with the step of
`persistStageAttemptLedger` that throws.

* `persistLedger`: the directory, the temporary file, the rename and the read-back;
* `Storable`: a ledger that is read back from its file as it was (`storable_iff`);
* `failsClean_iff`: when a call that fails leaves the ledger at hand as it was, and the file with
  the ledger from before or the one that was to be written.

A claim is taken back when it is not persisted. A completion is not: the ledger at hand says
that the attempt is over, and the file says that it is running.
-/

namespace AgentPipeline.Stage

open List
open StageAttemptLedger (updateFirst)

/-! ## Persisting -/

/-- The steps of `persistStageAttemptLedger`, in order. -/
inductive PersistStep where
  | mkdirp | writeText | rename | readBack
deriving DecidableEq, Repr

/-- The step that throws, with its message. -/
structure StepFailure where
  step : PersistStep
  message : String
deriving DecidableEq, Repr

/-- The files of a run directory that a hydration reads. -/
structure LedgerFiles where
  primary : LedgerText := .absent
  legacy : LedgerText := .absent

/-- `persistStageAttemptLedger(runDir, ledger)`; nobody reads the temporary file. -/
def persistLedger (runDir : Bool) (failure : Option StepFailure) (files : LedgerFiles)
    (ledger : StageAttemptLedger) : Except String Unit × LedgerFiles :=
  if runDir = false then
    (.error "runDir unavailable; cannot persist stage-attempt ledger", files)
  else
    let replaced := { files with primary := persistStageAttemptLedger ledger }
    match failure with
    | some failure =>
      (.error ("failed to persist stage-attempt ledger: " ++ failure.message),
        -- the read-back comes after the rename
        if failure.step = .readBack then replaced else files)
    | none =>
      match parseLedgerJson replaced.primary with
      | some _ => (.ok (), replaced)
      | none => (.error "stage-attempt ledger read-back was not a valid ledger", replaced)

/-! ## The calls -/

inductive PersistResult where
  | failed (reason : String) (attempt : Option AttemptRow)
  | ok (attempt : AttemptRow) (created : Bool)

/-- What a call returns, and the ledger at hand and the files after it. -/
structure PersistOutcome where
  result : PersistResult
  ledger : StageAttemptLedger
  files : LedgerFiles

section Calls

variable (host : NodeHost) (runDir : Bool) (failure : Option StepFailure) (files : LedgerFiles)

def claimAndPersistStageAttempt (ledger : StageAttemptLedger) (input : ClaimStageAttemptInput)
    (nowIso : String) : PersistOutcome :=
  match claimStageAttempt host ledger input nowIso with
  | (.failed reason, ledger) => ⟨.failed reason none, ledger, files⟩
  | (.ok attempt false, ledger) => ⟨.ok attempt false, ledger, files⟩
  | (.ok attempt true, claimed) =>
    match persistLedger runDir failure files claimed with
    | (.ok (), files) => ⟨.ok attempt true, claimed, files⟩
    | (.error reason, files) =>
      -- the new row is taken back
      ⟨.failed reason none,
        { claimed with
          attempts := claimed.attempts.filter fun a => a.attemptId ≠ attempt.attemptId }, files⟩

def completeAndPersistStageAttempt (ledger : StageAttemptLedger)
    (input : CompleteStageAttemptInput) (nowIso : String) : PersistOutcome :=
  match completeStageAttempt ledger input nowIso with
  | (.failed reason, ledger) => ⟨.failed reason none, ledger, files⟩
  | (.ok attempt created, completed) =>
    match persistLedger runDir failure files completed with
    | (.ok (), files) => ⟨.ok attempt created, completed, files⟩
    | (.error reason, files) => ⟨.failed reason (some attempt), completed, files⟩

/-- The two calls. -/
inductive PersistCall where
  | claim (input : ClaimStageAttemptInput)
  | complete (input : CompleteStageAttemptInput)

def PersistCall.perform (ledger : StageAttemptLedger) (nowIso : String) : PersistCall → PersistOutcome
  | .claim input => claimAndPersistStageAttempt host runDir failure files ledger input nowIso
  | .complete input => completeAndPersistStageAttempt runDir failure files ledger input nowIso

/-- The ledger that a call tries to write. -/
def PersistCall.tried (ledger : StageAttemptLedger) (nowIso : String) :
    PersistCall → StageAttemptLedger
  | .claim input => (claimStageAttempt host ledger input nowIso).2
  | .complete input => (completeStageAttempt ledger input nowIso).2

/-- The ledger that a hydration at some time finds in the files. -/
def hydrated (readAt : String) (files : LedgerFiles) : Option StageAttemptLedger :=
  (loadLedger host runDir files.primary files.legacy readAt).toOption.map Prod.fst

/-- A call that fails leaves the ledger at hand as it was, and in the files the one from before or
the one that it tried to write. -/
def FailsClean (ledger : StageAttemptLedger) (nowIso readAt : String) (call : PersistCall) : Prop :=
  let outcome := call.perform host runDir failure files ledger nowIso
  ∀ reason attempt, outcome.result = .failed reason attempt → outcome.ledger = ledger ∧
      (hydrated host runDir readAt outcome.files = hydrated host runDir readAt files ∨
        hydrated host runDir readAt outcome.files = some (call.tried host ledger nowIso))

end Calls

/-! ## Ledgers that their file keeps -/

/-- The ledger that is read from the file of one. -/
def reread (ledger : StageAttemptLedger) : StageAttemptLedger where
  attempts := (ledger.attempts.map Json.printed).filter isValidAttemptRecord
  preArchiveSha := ledger.preArchiveSha.filter (· ≠ "")
  ciTerminalFailRecordedShas :=
    (ledger.ciTerminalFailRecordedShas.filter (· ≠ [])).map fun shas => shas.filter (· ≠ "")

def Storable (ledger : StageAttemptLedger) : Prop := reread ledger = ledger

lemma storable_iff (ledger : StageAttemptLedger) : Storable ledger ↔
    (∀ row ∈ ledger.attempts, isValidAttemptRecord row = true ∧ row.isFinite = true) ∧
      ledger.preArchiveSha ≠ some "" ∧ ledger.ciTerminalFailRecordedShas ≠ some [] ∧
      ∀ shas ∈ ledger.ciTerminalFailRecordedShas, "" ∉ shas := by
  obtain ⟨attempts, preArchiveSha, terminal⟩ := ledger
  have hattempts : (attempts.map Json.printed).filter isValidAttemptRecord = attempts ↔
      ∀ row ∈ attempts, isValidAttemptRecord row = true ∧ row.isFinite = true := by
    simp only [← Json.printed_eq_self_iff]
    constructor
    · intro heq
      have hvalid : ∀ row ∈ attempts.map Json.printed, isValidAttemptRecord row = true :=
        length_filter_eq_length_iff.1 (by rw [heq, length_map])
      rw [filter_eq_self.2 hvalid] at heq
      have hprinted := map_inj_left.1 (heq.trans (map_id _).symm)
      exact fun row hrow => ⟨hvalid row (by rwa [heq]), hprinted row hrow⟩
    · intro h
      rw [map_congr_left fun row hrow => (h row hrow).2, map_id']
      exact filter_eq_self.2 fun row hrow => (h row hrow).1
  have hterminal : (terminal.filter (· ≠ [])).map (fun shas => shas.filter (· ≠ "")) = terminal ↔
      terminal ≠ some [] ∧ ∀ shas ∈ terminal, "" ∉ shas := by
    cases terminal with
    | none => simp
    | some shas =>
      have hfilter : shas.filter (· ≠ "") = shas ↔ "" ∉ shas := by
        rw [filter_eq_self]
        exact ⟨fun h hmem => by simpa using h "" hmem, fun h sha hsha => by simpa using ne_of_mem_of_not_mem hsha h⟩
      by_cases hnil : shas = [] <;> simp_all [Option.filter]
  rw [Storable, reread, StageAttemptLedger.mk.injEq, hattempts, hterminal]
  cases preArchiveSha <;> simp [Option.filter]

lemma nonEmptyTexts_map_str (texts : List String) : nonEmptyTexts (texts.map .str) = texts.filter (· ≠ "") := by
  unfold nonEmptyTexts
  congr 1
  induction texts with
  | nil => rfl
  | cons text texts ih => simpa [Json.text?] using ih

lemma parseLedgerJson_persist (ledger : StageAttemptLedger) :
    parseLedgerJson (persistStageAttemptLedger ledger) = some (reread ledger) := by
  have hattempts : (ledgerObject ledger).printed.get? "attempts" = some (.arr (ledger.attempts.map Json.printed)) := by
    rw [Json.get?_printed]
    simp [ledgerObject, Json.get?, lookup_cons, Json.printed, Json.printedElems_eq_map]
  have hversion : (ledgerObject ledger).printed.rationalAt "schema_version" = some 1 := by
    rw [Json.rationalAt_printed]
    simp [ledgerObject, Json.rationalAt, Json.get?, Json.rational?]
  have harchive : ((ledgerObject ledger).printed.textAt "preArchiveSha").filter (· ≠ "") =
      ledger.preArchiveSha.filter (· ≠ "") := by
    rw [Json.textAt_printed]
    unfold ledgerObject textField presentField
    cases hsha : ledger.preArchiveSha.filter (· ≠ "") with
    | none =>
      cases ledger.ciTerminalFailRecordedShas.filter (· ≠ []) <;>
        simp [Json.textAt, Json.get?, lookup_cons]
    | some sha =>
      have hne : sha ≠ "" := by simpa using (Option.filter_eq_some_iff.1 hsha).2
      simp [Json.textAt, Json.get?, lookup_cons, Json.text?, hne]
  have hterminal : (((ledgerObject ledger).printed.get? "ciTerminalFailRecordedShas").bind
      Json.elems?).map nonEmptyTexts =
        (ledger.ciTerminalFailRecordedShas.filter (· ≠ [])).map fun shas => shas.filter (· ≠ "") := by
    rw [Json.get?_printed]
    unfold ledgerObject textField presentField
    cases hshas : ledger.ciTerminalFailRecordedShas.filter (· ≠ []) with
    | none =>
      cases ledger.preArchiveSha.filter (· ≠ "") <;> simp [Json.get?, lookup_cons]
    | some shas =>
      have helems : ((Json.arr (shas.map .str)).printed).elems? = some (shas.map .str) := by
        rw [Json.printed, Json.printedElems_eq_map, map_map]
        rfl
      cases ledger.preArchiveSha.filter (· ≠ "") <;>
        simp [Json.get?, lookup_cons, helems, nonEmptyTexts_map_str]
  simp only [persistStageAttemptLedger, parseLedgerJson, hattempts, hversion, harchive, hterminal]
  rfl

/-! ## What a failure leaves -/

section Failures

variable (host : NodeHost) {runDir : Bool} {failure : Option StepFailure} {files : LedgerFiles}

lemma persistLedger_eq (ledger : StageAttemptLedger) :
    persistLedger runDir failure files ledger = if runDir = false then
        (.error "runDir unavailable; cannot persist stage-attempt ledger", files)
      else
        match failure with
        | some failure =>
          (.error ("failed to persist stage-attempt ledger: " ++ failure.message), if failure.step = .readBack then
              { files with primary := persistStageAttemptLedger ledger }
            else files)
        | none => (.ok (), { files with primary := persistStageAttemptLedger ledger }) := by
  simp only [persistLedger, parseLedgerJson_persist]

variable (files) in
lemma hydrated_persisted (readAt : String) (ledger : StageAttemptLedger) :
    hydrated host true readAt { files with primary := persistStageAttemptLedger ledger } = some (reread ledger) := by
  unfold hydrated loadLedger
  rw [if_neg (by decide)]
  have hparse := parseLedgerJson_persist ledger
  unfold persistStageAttemptLedger at hparse ⊢
  simp only [hparse]
  rfl

/-- The attempt is running: a completion settles it. -/
def IsRunning (row : AttemptRow) : Prop := row.status = some "started" ∨ row.outcomeIs "started" = true

/-- The claim adds a row. -/
def AddsRow (ledger : StageAttemptLedger) (input : ClaimStageAttemptInput) : Prop :=
  JsText.trim input.headSha ≠ "" ∧ stageActions.contains input.action = true ∧
    ledger.find (stageAttemptId host input.toAttemptKey) = none

/-- The ledger with the row of a claim. -/
def withClaim (ledger : StageAttemptLedger) (input : ClaimStageAttemptInput) (nowIso : String) :
    StageAttemptLedger :=
  { ledger with attempts := ledger.attempts ++
      [claimRow ledger input (JsText.trim input.headSha) (stageAttemptId host input.toAttemptKey)
        nowIso] }

variable {ledger : StageAttemptLedger} {input : ClaimStageAttemptInput}

lemma claim_of_addsRow (h : AddsRow host ledger input) (nowIso : String) :
    claimStageAttempt host ledger input nowIso = (.ok (claimRow ledger input (JsText.trim input.headSha)
        (stageAttemptId host input.toAttemptKey) nowIso) true, withClaim host ledger input nowIso) := by
  obtain ⟨hhead, haction, hfind⟩ := h
  have hid := stageAttemptId_trim host input.toAttemptKey
  simp only [claimStageAttempt]
  rw [if_neg hhead, if_neg (by simpa using haction), hid, hfind]
  rfl

variable (runDir failure files) in
lemma claimAndPersist_of_not_addsRow (h : ¬AddsRow host ledger input) (nowIso : String) :
    (claimAndPersistStageAttempt host runDir failure files ledger input nowIso).ledger = ledger ∧
      (claimAndPersistStageAttempt host runDir failure files ledger input nowIso).files = files := by
  unfold claimAndPersistStageAttempt
  rcases claim_cases host ledger input nowIso with ⟨reason, hclaim⟩ | ⟨row, -, hclaim⟩ |
    ⟨hfind, haction, -⟩
  · rw [hclaim]
    exact ⟨rfl, rfl⟩
  · rw [hclaim]
    exact ⟨rfl, rfl⟩
  · have hhead : JsText.trim input.headSha = "" := by
      by_contra hhead
      exact h ⟨hhead, haction, hfind⟩
    simp only [claimStageAttempt]
    rw [if_pos hhead]
    exact ⟨rfl, rfl⟩

lemma filter_withClaim
    (h : ledger.find (stageAttemptId host input.toAttemptKey) = none) (nowIso : String) :
    (withClaim host ledger input nowIso).attempts.filter
      (fun a => a.attemptId ≠ some (stageAttemptId host input.toAttemptKey)) = ledger.attempts := by
  have hold : ledger.attempts.filter
      (fun a => a.attemptId ≠ some (stageAttemptId host input.toAttemptKey)) = ledger.attempts :=
    filter_eq_self.2 fun row hrow => by
      simpa using find?_eq_none.1 h row hrow
  unfold withClaim
  rw [filter_append, hold, filter_cons_of_neg (by rw [claimRow_attemptId]; simp)]
  simp

variable {row : AttemptRow}

lemma outcome_set_self (h : row.isPlainObject = true) (outcome : String) :
    (row.set "outcome" (.str outcome)).textAt "outcome" = some outcome := by
  rw [Json.textAt, Json.get?_set_self h]
  rfl

lemma completeRow_ne (hobject : row.isPlainObject = true)
    (hrunning : IsRunning row) (input : CompleteStageAttemptInput) (nowIso : String) :
    completeRow input nowIso row ≠ row := by
  intro heq
  rcases hrunning with hstatus | houtcome
  · have hsettled := status_completeRow input nowIso hobject
    rw [heq, hstatus] at hsettled
    cases hsucceeded : input.succeeded <;> simp [hsucceeded] at hsettled
  · have hkeep : ∀ {key : String}, "outcome" ≠ key → ∀ (r : AttemptRow) (value : Json),
        (r.set key value).textAt "outcome" = r.textAt "outcome" := by
      intro key hkey r value
      rw [Json.textAt, Json.get?_set_of_ne hkey]
      rfl
    have hdrop : ∀ {key : String}, "outcome" ≠ key → ∀ r : AttemptRow,
        (r.without key).textAt "outcome" = r.textAt "outcome" := by
      intro key hkey r
      rw [Json.textAt, Json.get?_without_of_ne hkey]
      rfl
    have hself : ∀ (r : AttemptRow) (outcome : String), r.isPlainObject = true →
        (r.set "outcome" (.str outcome)).textAt "outcome" = some outcome :=
      fun r outcome h => outcome_set_self h outcome
    have hsettled : (completeRow input nowIso row).textAt "outcome" =
        some (if input.succeeded then "completed" else "failed") := by
      unfold completeRow
      cases input.succeeded <;> cases input.typedReason.filter (· ≠ "") <;>
        simp [hkeep, hdrop, hself, hobject]
    rw [heq, of_decide_eq_true houtcome] at hsettled
    cases hsucceeded : input.succeeded <;> simp [hsucceeded] at hsettled

lemma updateFirst_ne {id : String} {f : AttemptRow → AttemptRow} {rows : List AttemptRow}
    (hfind : (rows.find? fun row => row.attemptId = some id) = some row)
    (hne : f row ≠ row) : updateFirst id f rows ≠ rows := by
  induction rows with
  | nil => cases hfind
  | cons first rows ih =>
    by_cases hfirst : first.attemptId = some id
    · obtain rfl : first = row := by simpa [hfirst] using hfind
      intro heq
      simp only [updateFirst, hfirst, if_true] at heq
      exact hne (List.cons.inj heq).1
    · intro heq
      simp only [updateFirst, hfirst, if_false] at heq
      refine ih ?_ (List.cons.inj heq).2
      simpa [hfirst] using hfind

/-- What the file holds after the rename is the ledger itself, or the one from before. -/
def KeptByFile (readAt : String) (files : LedgerFiles) (ledger : StageAttemptLedger) : Prop :=
  Storable ledger ∨ hydrated host true readAt files = some (reread ledger)

/-- The read-back throws, after the file was replaced. -/
def FailsAfterRename (runDir : Bool) (failure : Option StepFailure) : Prop :=
  runDir = true ∧ failure.map (·.step) = some .readBack

variable (runDir failure files) in
lemma persistLedger_isError_iff (ledger : StageAttemptLedger) :
    (∃ reason, (persistLedger runDir failure files ledger).1 = .error reason) ↔
      runDir = false ∨ failure.isSome = true := by
  rw [persistLedger_eq]
  cases runDir with
  | false => simp
  | true => cases failure <;> simp

variable (runDir failure files) in
lemma hydrated_failed_iff (readAt : String) (ledger : StageAttemptLedger)
    (hfails : runDir = false ∨ failure.isSome = true) :
    (hydrated host runDir readAt (persistLedger runDir failure files ledger).2 = hydrated host runDir readAt files ∨
      hydrated host runDir readAt (persistLedger runDir failure files ledger).2 = some ledger) ↔
        (FailsAfterRename runDir failure → KeptByFile host readAt files ledger) := by
  rw [persistLedger_eq]
  unfold FailsAfterRename
  cases runDir with
  | false => simp
  | true =>
    cases failure with
    | none => simp at hfails
    | some failure =>
      by_cases hstep : failure.step = .readBack
      · have hreplaced := hydrated_persisted host files readAt ledger
        simp only [hstep, if_true, Bool.true_eq_false, if_false, hreplaced, Option.map_some,
          and_self, true_imp_iff, KeptByFile, Storable, Option.some_inj]
        rw [or_comm, eq_comm (a := some (reread ledger))]
      · simp [hstep]

/-- When a call that fails leaves nothing behind: a claim, or a completion of an attempt that is not
running; and where the read-back fails, a ledger that its file keeps. -/
def CleanWhen (runDir : Bool) (failure : Option StepFailure) (files : LedgerFiles)
    (ledger : StageAttemptLedger) (nowIso readAt : String) : PersistCall → Prop
  | .claim input =>
    AddsRow host ledger input → FailsAfterRename runDir failure →
      KeptByFile host readAt files (withClaim host ledger input nowIso)
  | .complete input =>
    (runDir = false ∨ failure.isSome = true) → ∀ row, ledger.find input.attemptId = some row →
      ¬IsRunning row ∧ (FailsAfterRename runDir failure → KeptByFile host readAt files ledger)

lemma failsClean_claim_iff (ledger : StageAttemptLedger) (input : ClaimStageAttemptInput) (nowIso readAt : String) :
    FailsClean host runDir failure files ledger nowIso readAt (.claim input) ↔
      CleanWhen host runDir failure files ledger nowIso readAt (.claim input) := by
  by_cases hadds : AddsRow host ledger input
  · have hclaim := claim_of_addsRow host hadds nowIso
    have hfilter := filter_withClaim host hadds.2.2 nowIso
    have hfails := persistLedger_isError_iff runDir failure files
      (withClaim host ledger input nowIso)
    have hhydrated := hydrated_failed_iff host runDir failure files readAt
      (withClaim host ledger input nowIso)
    unfold FailsClean CleanWhen PersistCall.perform PersistCall.tried claimAndPersistStageAttempt
    simp only [hclaim, hadds, true_imp_iff]
    rcases hpersist : persistLedger runDir failure files (withClaim host ledger input nowIso) with ⟨written, files'⟩
    rw [hpersist] at hfails hhydrated
    cases written with
    | ok _ =>
      -- nothing failed
      have hnot : ¬FailsAfterRename runDir failure := by
        rintro ⟨-, hstep⟩
        have hsome : failure.isSome = true := by cases failure <;> simp_all
        obtain ⟨reason, hreason⟩ := hfails.2 (.inr hsome)
        cases hreason
      simp [hnot]
    | error reason =>
      rw [← hhydrated (hfails.1 ⟨reason, rfl⟩)]
      have hback : (withClaim host ledger input nowIso).attempts.filter
          (fun a => a.attemptId ≠ AttemptRow.attemptId (claimRow ledger input
            (JsText.trim input.headSha) (stageAttemptId host input.toAttemptKey) nowIso)) =
            ledger.attempts := by
        rw [claimRow_attemptId]
        exact hfilter
      constructor
      · intro h
        exact (h reason none rfl).2
      · intro h reason' attempt' _
        refine ⟨?_, h⟩
        simp only [hback]
        rfl
  · obtain ⟨hledger, hfiles⟩ := claimAndPersist_of_not_addsRow host runDir failure files
      hadds nowIso
    constructor
    · intro _ hadds'
      exact absurd hadds' hadds
    · intro _ reason attempt _
      refine ⟨hledger, .inl ?_⟩
      exact congrArg (hydrated host runDir readAt) hfiles

lemma failsClean_complete_iff (ledger : StageAttemptLedger) (input : CompleteStageAttemptInput)
    (nowIso readAt : String) : FailsClean host runDir failure files ledger nowIso readAt (.complete input) ↔
      CleanWhen host runDir failure files ledger nowIso readAt (.complete input) := by
  unfold FailsClean CleanWhen PersistCall.perform PersistCall.tried completeAndPersistStageAttempt
  cases hfind : ledger.find input.attemptId with
  | none =>
    simp [completeStageAttempt, hfind]
  | some row =>
    have hobject := isPlainObject_of_attemptId (find_attemptId hfind)
    by_cases hrunning : IsRunning row
    · have hcomplete : completeStageAttempt ledger input nowIso = (.ok (completeRow input nowIso row) false,
            ledger.update input.attemptId (completeRow input nowIso)) := by
        unfold completeStageAttempt
        rw [hfind]
        refine if_neg ?_
        rintro ⟨hstatus, houtcome⟩
        rcases hrunning with h | h
        · exact hstatus h
        · rw [houtcome] at h
          cases h
      have hne : ledger.update input.attemptId (completeRow input nowIso) ≠ ledger := fun heq =>
        updateFirst_ne hfind (completeRow_ne hobject hrunning input nowIso)
          (congrArg StageAttemptLedger.attempts heq)
      have hfails := persistLedger_isError_iff runDir failure files
        (ledger.update input.attemptId (completeRow input nowIso))
      simp only [hcomplete]
      rcases hpersist : persistLedger runDir failure files
          (ledger.update input.attemptId (completeRow input nowIso)) with ⟨written, files'⟩
      rw [hpersist] at hfails
      cases written with
      | ok _ =>
        have hnot : ¬(runDir = false ∨ failure.isSome = true) := by
          intro h
          obtain ⟨reason, hreason⟩ := hfails.2 h
          cases hreason
        simp [hnot]
      | error reason =>
        have h := hfails.1 ⟨reason, rfl⟩
        constructor
        · intro hclean
          exact absurd (hclean reason _ rfl).1 hne
        · intro hclean
          exact absurd hrunning (hclean h row hfind).1
    · have hcomplete : completeStageAttempt ledger input nowIso = (.ok row false, ledger) := by
        unfold completeStageAttempt
        rw [hfind]
        refine if_pos ⟨fun h => hrunning (.inl h), ?_⟩
        cases houtcome : row.outcomeIs "started" with
        | true => exact absurd (.inr houtcome) hrunning
        | false => rfl
      have hfails := persistLedger_isError_iff runDir failure files ledger
      have hhydrated := hydrated_failed_iff host runDir failure files readAt ledger
      simp only [hcomplete]
      rcases hpersist : persistLedger runDir failure files ledger with ⟨written, files'⟩
      rw [hpersist] at hfails hhydrated
      cases written with
      | ok _ =>
        have hnot : ¬(runDir = false ∨ failure.isSome = true) := by
          intro h
          obtain ⟨reason, hreason⟩ := hfails.2 h
          cases hreason
        simp [hnot]
      | error reason =>
        have h := hfails.1 ⟨reason, rfl⟩
        rw [← hhydrated h]
        constructor
        · intro hclean _ row' hrow'
          obtain rfl : row = row' := Option.some.inj (hfind.symm.trans hrow')
          exact ⟨hrunning, (hclean reason _ rfl).2⟩
        · intro hclean reason' attempt' _
          exact ⟨rfl, (hclean h row hfind).2⟩

/-- Which calls that fail leave the ledger at hand as it was, and the file with the ledger from
before or the one that was to be written. -/
theorem failsClean_iff (runDir : Bool) (failure : Option StepFailure) (files : LedgerFiles)
    (ledger : StageAttemptLedger) (nowIso readAt : String) (call : PersistCall) :
    FailsClean host runDir failure files ledger nowIso readAt call ↔
      CleanWhen host runDir failure files ledger nowIso readAt call := by
  cases call with
  | claim input => exact failsClean_claim_iff host ledger input nowIso readAt
  | complete input => exact failsClean_complete_iff host ledger input nowIso readAt

end Failures

/-! ## A completion whose rename fails -/

def PersistResult.isFailed : PersistResult → Bool
  | .failed _ _ => true
  | .ok _ _ => false

/-- The ledger at hand says that the attempt is over, and the file says that it is running. -/
theorem completion_kept_in_memory :
    ¬∀ (host : NodeHost) (runDir : Bool) (failure : Option StepFailure) (files : LedgerFiles)
      (ledger : StageAttemptLedger) (nowIso readAt : String) (call : PersistCall),
      FailsClean host runDir failure files ledger nowIso readAt call := by
  intro h
  let host := NodeHost.onFirstDay [] []
  let now := "1970-01-01T00:00:00.000Z"
  let ledger := (claimStageAttempt host {} rebaseClaim now).2
  let call : PersistCall := .complete { attemptId := NodeHost.zeros 64, succeeded := true }
  let failure : StepFailure := ⟨.rename, "EIO: i/o error, rename"⟩
  have hclean := h host true (some failure) { primary := persistStageAttemptLedger ledger } ledger
    now now call
  have hfailed : (call.perform host true (some failure)
      { primary := persistStageAttemptLedger ledger } ledger now).result.isFailed = true := by
    decide +kernel
  have hstatus : (call.perform host true (some failure)
      { primary := persistStageAttemptLedger ledger } ledger now).ledger.attempts.map
        AttemptRow.status ≠ ledger.attempts.map AttemptRow.status := by
    decide +kernel
  unfold FailsClean at hclean
  generalize call.perform host true (some failure)
    { primary := persistStageAttemptLedger ledger } ledger now = outcome at hclean hfailed hstatus
  cases hresult : outcome.result with
  | ok attempt created => simp [hresult, PersistResult.isFailed] at hfailed
  | failed reason attempt =>
    obtain ⟨hledger, -⟩ := hclean reason attempt hresult
    exact hstatus (congrArg (fun l => l.attempts.map AttemptRow.status) hledger)

end AgentPipeline.Stage
