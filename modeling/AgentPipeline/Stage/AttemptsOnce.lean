import AgentPipeline.Foundation.Transition
import AgentPipeline.Stage.AttemptLedger

/-!
# AttemptsOnce: a stage attempt is created once and never started again

A process works on the ledger in memory and writes it to its file; another process starts from what
the file holds.

* `Reaches`: a later ledger: every attempt is at its place, and what was settled is not started;
* `Leaves`: what an operation does to the rows, and which identities it created;
* `Admits`: a ledger at hand is replaced only by one that is not behind it;
* `attempts_once`: what then holds over every sequence of calls.
-/

namespace AgentPipeline.Stage

open List
open JsText (trim)

/-! ## Sequences of calls -/

/-- The ledger at hand, the files of the run directory, and the identities that were created. -/
structure LedgerState where
  ledger : StageAttemptLedger := {}
  primary : LedgerText := .absent
  legacy : LedgerText := .absent
  created : List String := []

inductive LedgerCall where
  | claim (input : ClaimStageAttemptInput) (nowIso : String)
  | complete (input : CompleteStageAttemptInput) (nowIso : String)
  | supersede (attemptId : String) (reason : Option String) (nowIso : String)
  | sync (projection : CiProjection) (nowIso : String)
  /-- The temporary file was renamed, or an error came before. -/
  | persist (renamed : Bool)
  | hydrate (runDir : Bool) (attestation : List AttemptRow) (nowIso : String)

section Calls

variable (host : NodeHost)

/-- The identity that a claim created. -/
def ClaimResult.createdId : ClaimResult → List String
  | .ok attempt true => attempt.attemptId.toList
  | _ => []

def callStep (s : LedgerState) : LedgerCall → Option LedgerState
  | .claim input nowIso =>
    let result := claimStageAttempt host s.ledger input nowIso
    some { s with ledger := result.2, created := s.created ++ result.1.createdId }
  | .complete input nowIso =>
    some { s with ledger := (completeStageAttempt s.ledger input nowIso).2 }
  | .supersede attemptId reason nowIso =>
    some { s with ledger := (supersedeStageAttempt s.ledger attemptId reason nowIso).2 }
  | .sync projection nowIso =>
    let result := syncCiProjectionIntoLedger host s.ledger projection nowIso
    some { s with ledger := result.2, created := s.created ++ result.1 }
  | .persist renamed =>
    some (if renamed then { s with primary := persistStageAttemptLedger s.ledger } else s)
  | .hydrate runDir attestation nowIso =>
    match hydrateStageAttemptLedger host runDir s.primary s.legacy nowIso attestation with
    | .ok (ledger, _) => some { s with ledger := ledger }
    | .error _ => some s

/-! ## Later ledgers -/

/-- An attempt at a later moment. -/
def Follows (row row' : AttemptRow) : Prop :=
  row'.attemptId = row.attemptId ∧ (row.status ≠ some "started" → row'.status ≠ some "started")

/-- Every attempt is at its place in the later list. -/
def Reaches (rows rows' : List AttemptRow) : Prop :=
  ∀ (i : Nat) (row : AttemptRow), rows[i]? = some row → ∃ row', rows'[i]? = some row' ∧ Follows row row'

lemma Reaches.refl (rows : List AttemptRow) : Reaches rows rows := fun _ row hrow => ⟨row, hrow, rfl, fun h => h⟩

variable {a b c : List AttemptRow}

lemma Reaches.trans (h : Reaches a b) (h' : Reaches b c) : Reaches a c := by
  intro i row hrow
  obtain ⟨row₁, hrow₁, hid, hstatus⟩ := h i row hrow
  obtain ⟨row₂, hrow₂, hid', hstatus'⟩ := h' i row₁ hrow₁
  exact ⟨row₂, hrow₂, hid'.trans hid, fun hs => hstatus' (hstatus hs)⟩

lemma Reaches.append (rows new : List AttemptRow) : Reaches rows (rows ++ new) := by
  intro i row hrow
  have hlt : i < rows.length := (List.getElem?_eq_some_iff.1 hrow).1
  exact ⟨row, by rw [getElem?_append_left hlt]; exact hrow, rfl, fun h => h⟩

variable {rows : List AttemptRow}

lemma Reaches.exists_mem {rows' : List AttemptRow} (h : Reaches rows rows') {row : AttemptRow}
    (hrow : row ∈ rows) : ∃ row' ∈ rows', row'.attemptId = row.attemptId := by
  obtain ⟨i, hi⟩ := mem_iff_getElem?.1 hrow
  obtain ⟨row', hrow', hid, -⟩ := h i row hi
  exact ⟨row', mem_of_getElem? hrow', hid⟩

open StageAttemptLedger (updateFirst)

variable {i : Nat}

lemma getElem?_updateFirst {id : String} (f : AttemptRow → AttemptRow) {row : AttemptRow} (h : rows[i]? = some row) :
    (updateFirst id f rows)[i]? = some row ∨ (rows.find? fun row => row.attemptId = some id) = some row ∧
        (updateFirst id f rows)[i]? = some (f row) := by
  induction rows generalizing i with
  | nil => simp at h
  | cons first rows ih =>
    by_cases hfirst : first.attemptId = some id
    · simp only [updateFirst, hfirst, if_true]
      cases i with
      | zero =>
        obtain rfl : first = row := by simpa using h
        exact .inr ⟨by simp [hfirst], rfl⟩
      | succ i => exact .inl h
    · simp only [updateFirst, hfirst, if_false]
      cases i with
      | zero => exact .inl h
      | succ i =>
        rcases ih h with hsame | ⟨hfind, hchanged⟩
        · exact .inl hsame
        · exact .inr ⟨by simp [hfirst, hfind], hchanged⟩

variable {f : AttemptRow → AttemptRow}

lemma mem_updateFirst {id : String}
    {row : AttemptRow} (h : row ∈ updateFirst id f rows) :
    row ∈ rows ∨ ∃ old, (rows.find? fun row => row.attemptId = some id) = some old ∧ row = f old := by
  induction rows with
  | nil => cases h
  | cons first rows ih =>
    by_cases hfirst : first.attemptId = some id
    · simp only [updateFirst, hfirst, if_true, mem_cons] at h
      rcases h with rfl | h
      · exact .inr ⟨first, by simp [hfirst], rfl⟩
      · exact .inl (mem_cons_of_mem _ h)
    · simp only [updateFirst, hfirst, if_false, mem_cons] at h
      rcases h with rfl | h
      · exact .inl mem_cons_self
      · rcases ih h with hmem | ⟨old, hfind, hold⟩
        · exact .inl (mem_cons_of_mem _ hmem)
        · exact .inr ⟨old, by simp [hfirst, hfind], hold⟩

lemma reaches_updateFirst {id : String}
    (h : ∀ row, (rows.find? fun row => row.attemptId = some id) = some row → Follows row (f row)) :
    Reaches rows (updateFirst id f rows) := by
  intro i row hrow
  rcases getElem?_updateFirst f hrow with hsame | ⟨hfind, hchanged⟩
  · exact ⟨row, hsame, rfl, fun hs => hs⟩
  · exact ⟨f row, hchanged, h row hfind⟩

/-! ## What an operation leaves -/

def AllValid (rows : List AttemptRow) : Prop := ∀ row ∈ rows, isValidAttemptRecord row = true

/-- The rows before and after, and the identities that were created in between. -/
structure Leaves (before after : List AttemptRow) (created : List String) : Prop where
  reaches : Reaches before after
  valid : AllValid before → AllValid after
  nodup : created.Nodup
  fresh : ∀ id ∈ created, ∀ row ∈ before, row.attemptId ≠ some id
  known : ∀ id ∈ created, ∃ row ∈ after, row.attemptId = some id

lemma Leaves.refl (rows : List AttemptRow) : Leaves rows rows [] :=
  ⟨.refl rows, fun h => h, nodup_nil, by simp, by simp⟩

variable {ids : List String}

lemma Leaves.trans {ids' : List String} (h : Leaves a b ids)
    (h' : Leaves b c ids') : Leaves a c (ids ++ ids') where
  reaches := h.reaches.trans h'.reaches
  valid hvalid := h'.valid (h.valid hvalid)
  nodup := by
    refine nodup_append.2 ⟨h.nodup, h'.nodup, fun id hid id' hid' heq => ?_⟩
    obtain ⟨row, hrow, hknown⟩ := h.known id hid
    exact h'.fresh id' hid' row hrow (heq ▸ hknown)
  fresh id hid row hrow := by
    rcases mem_append.1 hid with hid | hid
    · exact h.fresh id hid row hrow
    · obtain ⟨row', hrow', heq⟩ := h.reaches.exists_mem hrow
      rw [← heq]
      exact h'.fresh id hid row' hrow'
  known id hid := by
    rcases mem_append.1 hid with hid | hid
    · obtain ⟨row, hrow, hknown⟩ := h.known id hid
      obtain ⟨row', hrow', heq⟩ := h'.reaches.exists_mem hrow
      exact ⟨row', hrow', heq.trans hknown⟩
    · exact h'.known id hid

lemma leaves_updateFirst {id : String}
    (h : ∀ row, (rows.find? fun row => row.attemptId = some id) = some row →
      isValidAttemptRecord row = true → isValidAttemptRecord (f row) = true)
    (hfollows : ∀ row, (rows.find? fun row => row.attemptId = some id) = some row →
      Follows row (f row)) : Leaves rows (updateFirst id f rows) [] where
  reaches := reaches_updateFirst hfollows
  valid hvalid row hrow := by
    rcases mem_updateFirst hrow with hmem | ⟨old, hfind, rfl⟩
    · exact hvalid row hmem
    · exact h old hfind (hvalid old (mem_of_find?_eq_some hfind))
  nodup := nodup_nil
  fresh := by simp
  known := by simp

lemma leaves_append {row : AttemptRow}
    (hvalid : isValidAttemptRecord row = true) : Leaves rows (rows ++ [row]) [] where
  reaches := .append rows [row]
  valid hrows r hr := by
    rcases mem_append.1 hr with hr | hr
    · exact hrows r hr
    · rw [mem_singleton.1 hr]
      exact hvalid
  nodup := nodup_nil
  fresh := by simp
  known := by simp

/-! ## Settling a row -/

def recordKeys : List String := ["attempt_id", "head_sha", "action", "budget_remaining"]

/-- The fields that make an attempt record stay, its status apart. -/
structure SameRecord (row row' : AttemptRow) : Prop where
  object : row'.isPlainObject = row.isPlainObject
  fields : ∀ key ∈ recordKeys, row'.get? key = row.get? key

lemma isPlainObject_without (object : Json) (key : String) :
    (object.without key).isPlainObject = object.isPlainObject := by
  cases object <;> rfl

variable {key : String}

namespace SameRecord

variable {row row' : AttemptRow}

lemma refl (row : AttemptRow) : SameRecord row row := ⟨rfl, fun _ _ => rfl⟩

variable (h : SameRecord row row')
include h

lemma set {k : String} (hkey : k ∉ recordKeys) (value : Json) :
    SameRecord row (row'.set k value) where
  object := (Json.isPlainObject_set row' k value).trans h.object
  fields other hother := by
    have hne : other ≠ k := fun heq => hkey (heq ▸ hother)
    rw [Json.get?_set_of_ne hne]
    exact h.fields other hother

lemma without (hkey : key ∉ recordKeys) :
    SameRecord row (row'.without key) where
  object := (isPlainObject_without row' key).trans h.object
  fields other hother := by
    have hne : other ≠ key := fun heq => hkey (heq ▸ hother)
    rw [Json.get?_without_of_ne hne]
    exact h.fields other hother

lemma attemptId : row'.attemptId = row.attemptId := by
  rw [AttemptRow.attemptId, Json.textAt, h.fields "attempt_id" (by decide)]
  rfl

lemma valid (hstatus : row'.status.isSome = true)
    (hrow : isValidAttemptRecord row = true) : isValidAttemptRecord row' = true := by
  have hid := h.fields "attempt_id" (by decide)
  have hhead := h.fields "head_sha" (by decide)
  have haction := h.fields "action" (by decide)
  have hbudget := h.fields "budget_remaining" (by decide)
  have htext : (row'.textAt "status").isSome = true := hstatus
  simp only [isValidAttemptRecord, Json.textAt, hid, hhead, haction, hbudget, h.object] at hrow htext ⊢
  simp only [Bool.and_eq_true] at hrow
  simp [htext, hrow]

end SameRecord

lemma status_set_self {row : AttemptRow} (h : row.isPlainObject = true) (status : String) :
    AttemptRow.status (row.set "status" (.str status)) = some status := by
  rw [AttemptRow.status, Json.textAt, Json.get?_set_self h]
  rfl

lemma status_set_of_ne (row : AttemptRow) (hkey : "status" ≠ key) (value : Json) :
    AttemptRow.status (row.set key value) = row.status := by
  rw [AttemptRow.status, Json.textAt, Json.get?_set_of_ne hkey]
  rfl

lemma status_without_of_ne (row : AttemptRow) (hkey : "status" ≠ key) :
    AttemptRow.status (row.without key) = row.status := by
  rw [AttemptRow.status, Json.textAt, Json.get?_without_of_ne hkey]
  rfl

lemma sameRecord_completeRow (input : CompleteStageAttemptInput) (nowIso : String) (row : AttemptRow) :
    SameRecord row (completeRow input nowIso row) := by
  have hstamped := (SameRecord.refl row).set (k := "completed_at") (by decide) (.str nowIso)
  have hsucceeded := fun outcome => ((((hstamped.set (k := "status") (by decide) (.str "completed")).set
    (k := "outcome") (by decide) (.str "completed")).set (k := "terminal_outcome") (by decide) (.str outcome)).without
      (show "error" ∉ recordKeys by decide)).without (show "last_error" ∉ recordKeys by decide)
  have hfailed := fun outcome error => ((((hstamped.set (k := "status") (by decide) (.str "failed")).set
    (k := "outcome") (by decide) (.str "failed")).set (k := "terminal_outcome") (by decide) (.str outcome)).set
      (k := "error") (by decide) (.str error)).set (k := "last_error") (by decide) (.str error)
  unfold completeRow
  cases input.succeeded <;> cases input.typedReason.filter (· ≠ "") <;> dsimp only
  · exact hfailed _ _
  · exact (hfailed _ _).set (by decide) _
  · exact hsucceeded _
  · exact (hsucceeded _).set (by decide) _

lemma status_completeRow (input : CompleteStageAttemptInput) (nowIso : String) {row : AttemptRow}
    (hrow : row.isPlainObject = true) :
    (completeRow input nowIso row).status = some (if input.succeeded then "completed" else "failed") := by
  have hstamped : (row.set "completed_at" (.str nowIso)).isPlainObject = true := by
    rw [Json.isPlainObject_set, hrow]
  unfold completeRow
  cases input.succeeded <;> cases input.typedReason.filter (· ≠ "") <;>
    simp [status_set_of_ne, status_without_of_ne, status_set_self hstamped]

lemma sameRecord_supersedeRow (reason : Option String) (nowIso : String) (row : AttemptRow) :
    SameRecord row (supersedeRow reason nowIso row) := by
  have hsuperseded := ((((SameRecord.refl row).set (k := "completed_at") (by decide) (.str nowIso)).set
    (k := "status") (by decide) (.str "superseded")).set (k := "outcome") (by decide)
      (.str "superseded")).set (k := "terminal_outcome") (by decide) (.str "superseded")
  unfold supersedeRow
  split
  · exact (hsuperseded.set (by decide) _).set (by decide) _
  · exact hsuperseded

lemma status_supersedeRow (reason : Option String) (nowIso : String) {row : AttemptRow}
    (hrow : row.isPlainObject = true) : (supersedeRow reason nowIso row).status = some "superseded" := by
  have hstamped : (row.set "completed_at" (.str nowIso)).isPlainObject = true := by
    rw [Json.isPlainObject_set, hrow]
  unfold supersedeRow
  cases reason.filter (· ≠ "") <;> simp [status_set_of_ne, status_set_self hstamped]

/-! ## The operations -/

lemma isPlainObject_of_attemptId {row : AttemptRow} {id : String} (h : row.attemptId = some id) :
    row.isPlainObject = true := by
  cases row with
  | obj fields => rfl
  | _ => cases h

lemma find_attemptId {id : String} {row : AttemptRow}
    (h : (rows.find? fun row => row.attemptId = some id) = some row) : row.attemptId = some id := by
  simpa using find?_some h

lemma leaves_settle {id s : String} (hne : s ≠ "started") (hsame : ∀ row, SameRecord row (f row))
    (hstatus : ∀ row, Json.isPlainObject row = true → (f row).status = some s) :
    Leaves rows (updateFirst id f rows) [] := by
  have hfound : ∀ row, (rows.find? fun row => row.attemptId = some id) = some row →
      (f row).status = some s := fun row hfind =>
    hstatus row (isPlainObject_of_attemptId (find_attemptId hfind))
  apply leaves_updateFirst
  · intro row hfind hvalid
    exact (hsame row).valid (by rw [hfound row hfind]; rfl) hvalid
  · intro row hfind
    exact ⟨(hsame row).attemptId, fun _ => by simp [hfound row hfind, hne]⟩

lemma complete_leaves (ledger : StageAttemptLedger) (input : CompleteStageAttemptInput) (nowIso : String) :
    Leaves ledger.attempts (completeStageAttempt ledger input nowIso).2.attempts [] := by
  unfold completeStageAttempt
  split
  · exact .refl _
  · split
    · exact .refl _
    · refine leaves_settle (s := if input.succeeded then "completed" else "failed") ?_
        (sameRecord_completeRow input nowIso) (fun _ => status_completeRow input nowIso)
      split <;> decide

lemma supersede_leaves (ledger : StageAttemptLedger) (attemptId : String) (reason : Option String) (nowIso : String) :
    Leaves ledger.attempts (supersedeStageAttempt ledger attemptId reason nowIso).2.attempts [] := by
  unfold supersedeStageAttempt
  split
  · exact .refl _
  · split
    · exact .refl _
    · exact leaves_settle (by decide) (sameRecord_supersedeRow reason nowIso)
        (fun _ => status_supersedeRow reason nowIso)

variable {other : String}

lemma lookup_textField_of_ne (h : other ≠ key) (value : Option String) : (textField key value).lookup other = none := by
  unfold textField
  split
  · have hne : (other == key) = false := by simpa using h
    simp [lookup_cons, hne]
  · rfl

lemma lookup_presentField_of_ne (h : other ≠ key) (value : Option Json) :
    (presentField key value).lookup other = none := by
  unfold presentField
  split
  · have hne : (other == key) = false := by simpa using h
    simp [lookup_cons, hne]
  · rfl

section ClaimRow

variable (ledger : StageAttemptLedger) (input : ClaimStageAttemptInput) (headSha id nowIso : String)

lemma claimRow_attemptId : (claimRow ledger input headSha id nowIso).attemptId = some id := by
  simp [AttemptRow.attemptId, Json.textAt, claimRow, Json.get?, Json.text?]

lemma createdId_claimRow : (ClaimResult.ok (claimRow ledger input headSha id nowIso) true).createdId = [id] := by
  rw [ClaimResult.createdId, claimRow_attemptId]
  rfl

lemma get?_claimRow_head : Json.get? (claimRow ledger input headSha id nowIso) "head_sha" = some (.str headSha) := by
  simp [claimRow, Json.get?, lookup_append, lookup_cons, lookup_textField_of_ne]

lemma get?_claimRow_action :
    Json.get? (claimRow ledger input headSha id nowIso) "action" = some (.str input.action) := by
  simp [claimRow, Json.get?, lookup_append, lookup_cons, lookup_textField_of_ne]

lemma claimRow_status : (claimRow ledger input headSha id nowIso).status =
    some (if isSpent (input.budgetBefore.getD (.finite 1)) then "exhausted" else "started") := by
  simp [AttemptRow.status, Json.textAt, claimRow, Json.get?, lookup_append, lookup_cons,
    lookup_textField_of_ne, lookup_presentField_of_ne, Json.text?]

lemma get?_claimRow_budget :
    Json.get? (claimRow ledger input headSha id nowIso) "budget_remaining" =
      some (.num (if isSpent (input.budgetBefore.getD (.finite 1)) then exhaustedBudget
        else chargedBudget (input.budgetBefore.getD (.finite 1)))) := by
  simp [claimRow, Json.get?, lookup_append, lookup_cons, lookup_textField_of_ne, lookup_presentField_of_ne]

variable {input} in
lemma claimRow_valid (haction : stageActions.contains input.action = true) :
    isValidAttemptRecord (claimRow ledger input headSha id nowIso) = true := by
  have hid : Json.textAt (claimRow ledger input headSha id nowIso) "attempt_id" = some id :=
    claimRow_attemptId ledger input headSha id nowIso
  have hhead := get?_claimRow_head ledger input headSha id nowIso
  have haction' := get?_claimRow_action ledger input headSha id nowIso
  have hstatus : Json.textAt (claimRow ledger input headSha id nowIso) "status" = _ :=
    claimRow_status ledger input headSha id nowIso
  have hbudget := get?_claimRow_budget ledger input headSha id nowIso
  have hobject : (claimRow ledger input headSha id nowIso).isPlainObject = true := rfl
  have hhead' : (Json.textAt (claimRow ledger input headSha id nowIso) "head_sha").isSome = true := by
    rw [Json.textAt, hhead]
    rfl
  have hstage : isStageAction (Json.get? (claimRow ledger input headSha id nowIso) "action") = true := by
    rw [haction']
    exact haction
  rw [isValidAttemptRecord, hobject, hid, hhead', hstage, hstatus, hbudget]
  rfl

end ClaimRow

lemma stageAttemptId_trim (key : AttemptKey) :
    stageAttemptId host { key with headSha := trim key.headSha } = stageAttemptId host key := by
  simp only [stageAttemptId, JsText.trim_trim]

lemma claim_cases (ledger : StageAttemptLedger) (input : ClaimStageAttemptInput) (nowIso : String) :
    (∃ reason, claimStageAttempt host ledger input nowIso = (.failed reason, ledger)) ∨
      (∃ row, ledger.find (stageAttemptId host input.toAttemptKey) = some row ∧
        claimStageAttempt host ledger input nowIso = (.ok row false, ledger)) ∨
      ledger.find (stageAttemptId host input.toAttemptKey) = none ∧ stageActions.contains input.action = true ∧
        claimStageAttempt host ledger input nowIso =
          (.ok (claimRow ledger input (trim input.headSha) (stageAttemptId host input.toAttemptKey) nowIso) true,
            { ledger with attempts := ledger.attempts ++
              [claimRow ledger input (trim input.headSha) (stageAttemptId host input.toAttemptKey)
                nowIso] }) := by
  have hid := stageAttemptId_trim host input.toAttemptKey
  simp only [claimStageAttempt]
  split
  · exact .inl ⟨_, rfl⟩
  · split
    · exact .inl ⟨_, rfl⟩
    · next haction =>
      rw [hid]
      cases hfind : ledger.find (stageAttemptId host input.toAttemptKey) with
      | some row => exact .inr (.inl ⟨row, rfl, rfl⟩)
      | none => exact .inr (.inr ⟨rfl, by simpa using haction, rfl⟩)

lemma claim_leaves (ledger : StageAttemptLedger) (input : ClaimStageAttemptInput) (nowIso : String) :
    Leaves ledger.attempts (claimStageAttempt host ledger input nowIso).2.attempts
      (claimStageAttempt host ledger input nowIso).1.createdId := by
  rcases claim_cases host ledger input nowIso with ⟨reason, hresult⟩ | ⟨row, -, hresult⟩ |
    ⟨hnone, haction, hresult⟩
  · rw [hresult]
    exact .refl _
  · rw [hresult]
    exact .refl _
  · rw [hresult, createdId_claimRow]
    have hvalid := claimRow_valid ledger (trim input.headSha)
      (stageAttemptId host input.toAttemptKey) nowIso haction
    refine ⟨(leaves_append hvalid).reaches, (leaves_append hvalid).valid, nodup_singleton _, ?_, ?_⟩
    · intro id hid row hrow
      rw [mem_singleton.1 hid]
      simpa using find?_eq_none.1 hnone row hrow
    · intro id hid
      rw [mem_singleton.1 hid]
      exact ⟨_, mem_append_right _ (mem_singleton.2 rfl), claimRow_attemptId ledger input _ _ nowIso⟩

lemma ensureOne_leaves (ledger : StageAttemptLedger) (action : StageAction) (headSha nowIso : String) :
    Leaves ledger.attempts (ensureOne host ledger action headSha nowIso).2.attempts
      (ensureOne host ledger action headSha nowIso).1.toList := by
  let input : ClaimStageAttemptInput :=
    { headSha, action := action.name, typedReason := some "synced_from_session_cache",
      budgetBefore := some (.finite 1) }
  have hclaim := claim_leaves host ledger input nowIso
  simp only [ensureOne]
  split
  · exact .refl _
  · rcases claim_cases host ledger input nowIso with ⟨reason, hresult⟩ | ⟨row, -, hresult⟩ |
      ⟨hnone, haction, hresult⟩
    · simp only [input] at hresult
      rw [hresult]
      exact .refl _
    · simp only [input] at hresult
      rw [hresult]
      exact .refl _
    · rw [hresult, createdId_claimRow] at hclaim
      simp only [input] at hresult
      rw [hresult]
      have hcomplete := hclaim.trans (complete_leaves _
        { attemptId := stageAttemptId host input.toAttemptKey, succeeded := true } nowIso)
      simp only [claimRow_attemptId, Option.getD_some]
      exact hcomplete

lemma ensure_leaves (nowIso : String) (action : StageAction) (shas : List String) (ledger : StageAttemptLedger) :
    Leaves ledger.attempts (ensure host nowIso action shas ledger).2.attempts
      (ensure host nowIso action shas ledger).1 := by
  induction shas generalizing ledger with
  | nil => exact .refl _
  | cons headSha shas ih =>
    exact (ensureOne_leaves host ledger action headSha nowIso).trans (ih _)

lemma ensureAll_leaves (nowIso : String) (sets : List (StageAction × List String)) (ledger : StageAttemptLedger) :
    Leaves ledger.attempts (ensureAll host nowIso sets ledger).2.attempts (ensureAll host nowIso sets ledger).1 := by
  induction sets generalizing ledger with
  | nil => exact .refl _
  | cons set sets ih =>
    obtain ⟨action, shas⟩ := set
    exact (ensure_leaves host nowIso action shas ledger).trans (ih _)

lemma sync_leaves (ledger : StageAttemptLedger) (projection : CiProjection) (nowIso : String) :
    Leaves ledger.attempts (syncCiProjectionIntoLedger host ledger projection nowIso).2.attempts
      (syncCiProjectionIntoLedger host ledger projection nowIso).1 := by
  let archived : StageAttemptLedger := { ledger with
    preArchiveSha := (projection.preArchiveSha.filter (· ≠ "")).or ledger.preArchiveSha }
  simp only [syncCiProjectionIntoLedger]
  split
  · exact ensureAll_leaves host nowIso _ archived
  · exact ensureAll_leaves host nowIso _ archived

/-! ## Attestations -/

lemma present_of_valid {row : AttemptRow} (h : isValidAttemptRecord row = true)
    (hkey : key ∈ "status" :: recordKeys) : (row.get? key).isSome = true := by
  simp only [isValidAttemptRecord, Bool.and_eq_true, Json.textAt] at h
  obtain ⟨⟨⟨⟨⟨-, hid⟩, hhead⟩, haction⟩, hstatus⟩, hbudget⟩ := h
  have hbind : ∀ {α : Type} {o : Option Json} {f : Json → Option α}, (o.bind f).isSome = true → o.isSome = true := by
    intro α o f ho
    cases o with
    | none => cases ho
    | some value => rfl
  simp only [recordKeys, mem_cons, not_mem_nil, or_false] at hkey
  rcases hkey with rfl | rfl | rfl | rfl | rfl
  · exact hbind hstatus
  · exact hbind hid
  · exact hbind hhead
  · cases hget : row.get? "action" with
    | none => simp [hget, isStageAction] at haction
    | some value => rfl
  · exact hbind hbudget

lemma isPlainObject_of_valid {row : AttemptRow} (h : isValidAttemptRecord row = true) : row.isPlainObject = true := by
  simp only [isValidAttemptRecord, Bool.and_eq_true] at h
  exact h.1.1.1.1.1

lemma get?_attested {row incoming : AttemptRow} (hrow : row.isPlainObject = true)
    (hvalid : isValidAttemptRecord incoming = true) {key : String} (hkey : key ∈ "status" :: recordKeys) :
    (Json.objectAssign row incoming).get? key = incoming.get? key := by
  have hne : key ≠ "__proto__" := by
    rintro rfl
    revert hkey
    decide
  rw [Json.get?_objectAssign hrow (isPlainObject_of_valid hvalid) hne]
  obtain ⟨value, hvalue⟩ := Option.isSome_iff_exists.1 (present_of_valid hvalid hkey)
  rw [hvalue]
  rfl

lemma isPlainObject_objectAssign {row incoming : AttemptRow} (hrow : row.isPlainObject = true) :
    (Json.objectAssign row incoming).isPlainObject = true := by
  cases row with
  | obj fields => cases incoming <;> rfl
  | _ => cases hrow

variable {incoming : AttemptRow}

lemma attested_valid {row : AttemptRow} (hrow : row.isPlainObject = true)
    (hvalid : isValidAttemptRecord incoming = true) : isValidAttemptRecord (Json.objectAssign row incoming) = true := by
  have hobject := @isPlainObject_objectAssign row incoming hrow
  have hget := fun key => @get?_attested row incoming hrow hvalid key
  have hincoming := hvalid
  simp only [isValidAttemptRecord, Json.textAt, isPlainObject_of_valid hvalid] at hincoming
  simp only [isValidAttemptRecord, Json.textAt, hobject, hget "attempt_id" (by decide),
    hget "head_sha" (by decide), hget "action" (by decide), hget "status" (by decide),
    hget "budget_remaining" (by decide)]
  exact hincoming

lemma attested_attemptId {row : AttemptRow} (hrow : row.isPlainObject = true)
    (hvalid : isValidAttemptRecord incoming = true) :
    AttemptRow.attemptId (Json.objectAssign row incoming) = incoming.attemptId := by
  rw [AttemptRow.attemptId, Json.textAt, get?_attested hrow hvalid (by decide)]
  rfl

lemma attested_status {row : AttemptRow} (hrow : row.isPlainObject = true)
    (hvalid : isValidAttemptRecord incoming = true) :
    AttemptRow.status (Json.objectAssign row incoming) = incoming.status := by
  rw [AttemptRow.status, Json.textAt, get?_attested hrow hvalid (by decide)]
  rfl

/-- A row that hydration returns: as the file has it, or settled by an attestation. -/
def Attested (attestation : List AttemptRow) (row row' : AttemptRow) : Prop :=
  row' = row ∨ row.status = some "started" ∧ row'.status ≠ some "started" ∧
    ∃ incoming ∈ attestation, incoming.attemptId = row.attemptId ∧ row' = Json.objectAssign row incoming

lemma mergeAttestation_cases (rows : List AttemptRow) (incoming : AttemptRow) :
    mergeAttestation rows incoming = rows ∨
      isValidAttemptRecord incoming = true ∧ mergeAttestation rows incoming = rows ++ [incoming] ∨
      isValidAttemptRecord incoming = true ∧ incoming.status ≠ some "started" ∧
        ∃ id existing, incoming.attemptId = some id ∧ (rows.find? fun row => row.attemptId = some id) = some existing ∧
          existing.status = some "started" ∧
          mergeAttestation rows incoming = updateFirst id (fun row => Json.objectAssign row incoming) rows := by
  by_cases hvalid : isValidAttemptRecord incoming = true
  · obtain ⟨id, hid⟩ : ∃ id, incoming.attemptId = some id := by
      simp only [isValidAttemptRecord, Bool.and_eq_true] at hvalid
      exact Option.isSome_iff_exists.1 hvalid.1.1.1.1.2
    simp only [mergeAttestation, hvalid, hid]
    rw [if_neg (by simp)]
    split
    · exact .inr (.inl ⟨trivial, rfl⟩)
    · next existing hfind =>
      split
      · next hsettles =>
        simp only [Bool.and_eq_true, decide_eq_true_eq] at hsettles
        exact .inr (.inr ⟨trivial, hsettles.1.2, id, existing, rfl, hfind, hsettles.2, rfl⟩)
      · exact .inl rfl
  · left
    simp [mergeAttestation, hvalid]

lemma mergeAttestation_leaves (rows : List AttemptRow) (incoming : AttemptRow) :
    Leaves rows (mergeAttestation rows incoming) [] := by
  rcases mergeAttestation_cases rows incoming with hsame | ⟨hvalid, hadded⟩ |
    ⟨hvalid, hsettled, id, existing, hid, hfind, hstarted, hmerged⟩
  · rw [hsame]
    exact .refl _
  · rw [hadded]
    exact leaves_append hvalid
  · rw [hmerged]
    have hobject : ∀ row, (rows.find? fun row => row.attemptId = some id) = some row →
        Json.isPlainObject row = true := fun row hrow => isPlainObject_of_attemptId (find_attemptId hrow)
    apply leaves_updateFirst
    · intro row hrow _
      exact attested_valid (hobject row hrow) hvalid
    · intro row hrow
      refine ⟨?_, fun _ => ?_⟩
      · rw [attested_attemptId (hobject row hrow) hvalid, hid, find_attemptId hrow]
      · rw [attested_status (hobject row hrow) hvalid]
        exact hsettled

lemma merge_leaves (attestation : List AttemptRow) (rows : List AttemptRow) :
    Leaves rows (attestation.foldl mergeAttestation rows) [] := by
  induction attestation generalizing rows with
  | nil => exact .refl _
  | cons incoming attestation ih => exact (mergeAttestation_leaves rows incoming).trans (ih _)

variable {all : List AttemptRow} {current : AttemptRow}

lemma mergeAttestation_attested (hmem : incoming ∈ all) {row : AttemptRow} (hcurrent : rows[i]? = some current)
    (hrow : Attested all row current) :
    ∃ row', (mergeAttestation rows incoming)[i]? = some row' ∧ Attested all row row' := by
  rcases mergeAttestation_cases rows incoming with hsame | ⟨-, hadded⟩ |
    ⟨hvalid, hsettled, id, existing, hid, hfind, hstarted, hmerged⟩
  · exact ⟨current, by rw [hsame]; exact hcurrent, hrow⟩
  · have hlt : i < rows.length := (List.getElem?_eq_some_iff.1 hcurrent).1
    exact ⟨current, by rw [hadded, getElem?_append_left hlt]; exact hcurrent, hrow⟩
  · rw [hmerged]
    rcases getElem?_updateFirst (fun row => Json.objectAssign row incoming) hcurrent with hsame | ⟨hfound, hchanged⟩
    · exact ⟨current, hsame, hrow⟩
    · obtain rfl : existing = current := Option.some.inj (hfind.symm.trans hfound)
      have hobject := isPlainObject_of_attemptId (find_attemptId hfound)
      -- a row that an attestation settled is not started, so this is the row of the file
      rcases hrow with rfl | ⟨-, hnot, -⟩
      · refine ⟨_, hchanged, .inr ⟨hstarted, ?_, incoming, hmem, ?_, rfl⟩⟩
        · rw [attested_status hobject hvalid]
          exact hsettled
        · rw [hid, find_attemptId hfound]
      · exact absurd hstarted hnot

variable {attestation : List AttemptRow}

lemma merge_attested (hall : attestation ⊆ all) {row : AttemptRow} (hcurrent : rows[i]? = some current)
    (hrow : Attested all row current) :
    ∃ row', (attestation.foldl mergeAttestation rows)[i]? = some row' ∧ Attested all row row' := by
  induction attestation generalizing rows current with
  | nil => exact ⟨current, hcurrent, hrow⟩
  | cons incoming attestation ih =>
    obtain ⟨next, hnext, hattested⟩ :=
      mergeAttestation_attested (hall mem_cons_self) hcurrent hrow
    exact ih (fun a ha => hall (mem_cons_of_mem _ ha)) hnext hattested

/-! ## Loading -/

lemma legacyRow_valid (nowIso headSha : String) (action : StageAction) (seq : Nat) :
    isValidAttemptRecord (legacyRow host nowIso headSha action seq) = true := by
  have haction : stageActions.contains action.name = true := by cases action <;> decide
  simp [isValidAttemptRecord, legacyRow, Json.isPlainObject, Json.fields?, Json.textAt, Json.get?,
    lookup_cons, Json.text?, isStageAction, Json.number?]
  simpa using haction

variable {nowIso : String}

lemma pushLegacy_valid {action : StageAction}
    (h : AllValid rows) (headSha : String) : AllValid (pushLegacy host nowIso action rows headSha) := by
  simp only [pushLegacy]
  split
  · exact h
  · exact (leaves_append (legacyRow_valid host nowIso headSha action rows.length)).valid h

lemma foldl_keeps {α β : Type} {P : β → Prop} {f : β → α → β} (hf : ∀ b a, P b → P (f b a))
    (as : List α) {b : β} (hb : P b) : P (as.foldl f b) := by
  induction as generalizing b with
  | nil => exact hb
  | cons a as ih => exact ih (hf b a hb)

variable {ledger : StageAttemptLedger}

lemma migrate_valid {markers : Json}
    (h : migrateLegacyCiMarkersToAttempts host markers nowIso = some ledger) : AllValid ledger.attempts := by
  simp only [migrateLegacyCiMarkersToAttempts, Option.bind_eq_bind, Option.bind_eq_some_iff] at h
  obtain ⟨rebase, -, rerun, -, archiveFail, -, assertionFix, -, docsStale, -, terminal, -, hledger⟩ := h
  cases hledger
  refine foldl_keeps (P := AllValid) (fun rows set hrows => ?_) _ (fun _ hrow => by cases hrow)
  exact foldl_keeps (P := AllValid) (fun rows headSha hrows => pushLegacy_valid host hrows headSha) _ hrows

lemma parse_eq_some {file : LedgerText} (h : parseLedgerJson file = some ledger) :
    ∃ value rows, file = .json value ∧ value.get? "attempts" = some (.arr rows) ∧
      ledger.attempts = rows.filter isValidAttemptRecord := by
  cases file with
  | json value =>
    simp only [parseLedgerJson] at h
    split at h
    · next rows hrows =>
      split at h
      · cases h
        exact ⟨value, rows, rfl, hrows, rfl⟩
      · cases h
    · cases h
  | _ => cases h

variable {runDir migrated : Bool} {primary legacy : LedgerText}

lemma load_valid
    (h : loadLedger host runDir primary legacy nowIso = .ok (ledger, migrated)) : AllValid ledger.attempts := by
  have hempty : AllValid ({} : StageAttemptLedger).attempts := fun _ hrow => by cases hrow
  have hparsed : ∀ file, parseLedgerJson file = some ledger → AllValid ledger.attempts := by
    intro file hparse
    obtain ⟨value, rows, -, -, hrows⟩ := parse_eq_some hparse
    intro row hrow
    rw [hrows] at hrow
    exact (mem_filter.1 hrow).2
  simp only [loadLedger] at h
  repeat' split at h
  all_goals first
    | cases h
      exact hempty
    | cases h
  · next hmigrate => exact migrate_valid host hmigrate
  · next hparse => exact hparsed _ hparse

lemma hydrate_eq_ok
    (h : hydrateStageAttemptLedger host runDir primary legacy nowIso attestation = .ok (ledger, migrated)) :
    ∃ loaded, loadLedger host runDir primary legacy nowIso = .ok (loaded, migrated) ∧
      ledger = mergeAttestations loaded attestation := by
  simp only [hydrateStageAttemptLedger] at h
  split at h
  · cases h
  · next loaded migrated' hload =>
    cases h
    exact ⟨loaded, hload, rfl⟩

lemma load_persist (ledger : StageAttemptLedger) (hvalid : AllValid ledger.attempts)
    (hfinite : ∀ row ∈ ledger.attempts, row.isFinite = true) (legacy : LedgerText) (nowIso : String) :
    ∃ loaded, loadLedger host true (persistStageAttemptLedger ledger) legacy nowIso =
      .ok (loaded, false) ∧ loaded.attempts = ledger.attempts := by
  have hattempts : (Json.printed (ledgerObject ledger)).get? "attempts" = some (.arr ledger.attempts) := by
    have hself : ledger.attempts.map Json.printed = ledger.attempts := by
      refine (map_congr_left fun row hrow => ?_).trans (map_id _)
      exact (Json.printed_eq_self_iff row).2 (hfinite row hrow)
    rw [Json.get?_printed]
    simp [ledgerObject, Json.get?, lookup_cons, Json.printed, Json.printedElems_eq_map, hself]
  have hversion : (Json.printed (ledgerObject ledger)).rationalAt "schema_version" = some 1 := by
    rw [Json.rationalAt_printed]
    simp [ledgerObject, Json.rationalAt, Json.get?, Json.rational?]
  have hfilter : ledger.attempts.filter isValidAttemptRecord = ledger.attempts := filter_eq_self.2 hvalid
  simp only [loadLedger, persistStageAttemptLedger, parseLedgerJson, hattempts, hversion, hfilter]
  exact ⟨_, rfl, rfl⟩

/-! ## Runs -/

/-- A ledger at hand is not replaced by one that is behind it. -/
def Admits (s : LedgerState) : LedgerCall → Prop
  | .hydrate runDir _ nowIso =>
    ∀ loaded migrated, loadLedger host runDir s.primary s.legacy nowIso = .ok (loaded, migrated) →
      Reaches s.ledger.attempts loaded.attempts
  | _ => True

structure LedgerInv (s : LedgerState) : Prop where
  valid : AllValid s.ledger.attempts
  once : s.created.Nodup
  known : ∀ id ∈ s.created, ∃ row ∈ s.ledger.attempts, row.attemptId = some id

lemma LedgerInv.leaves {s t : LedgerState} (h : LedgerInv s)
    (hleaves : Leaves s.ledger.attempts t.ledger.attempts ids) (hcreated : t.created = s.created ++ ids) :
    LedgerInv t where
  valid := hleaves.valid h.valid
  once := by
    rw [hcreated]
    refine nodup_append.2 ⟨h.once, hleaves.nodup, fun id hid id' hid' heq => ?_⟩
    obtain ⟨row, hrow, hknown⟩ := h.known id hid
    exact hleaves.fresh id' hid' row hrow (heq ▸ hknown)
  known id hid := by
    rw [hcreated] at hid
    rcases mem_append.1 hid with hid | hid
    · obtain ⟨row, hrow, hknown⟩ := h.known id hid
      obtain ⟨row', hrow', heq⟩ := hleaves.reaches.exists_mem hrow
      exact ⟨row', hrow', heq.trans hknown⟩
    · exact hleaves.known id hid

lemma step_leaves {s t : LedgerState} {call : LedgerCall} (hadmits : Admits host s call)
    (h : LedgerInv s) (hstep : callStep host s call = some t) :
    LedgerInv t ∧ Reaches s.ledger.attempts t.ledger.attempts := by
  cases call with
  | claim input nowIso =>
    cases hstep
    have hleaves := claim_leaves host s.ledger input nowIso
    exact ⟨h.leaves hleaves rfl, hleaves.reaches⟩
  | complete input nowIso =>
    cases hstep
    have hleaves := complete_leaves s.ledger input nowIso
    exact ⟨h.leaves hleaves (by simp), hleaves.reaches⟩
  | supersede attemptId reason nowIso =>
    cases hstep
    have hleaves := supersede_leaves s.ledger attemptId reason nowIso
    exact ⟨h.leaves hleaves (by simp), hleaves.reaches⟩
  | sync projection nowIso =>
    cases hstep
    have hleaves := sync_leaves host s.ledger projection nowIso
    exact ⟨h.leaves hleaves rfl, hleaves.reaches⟩
  | persist renamed =>
    cases hstep
    cases renamed with
    | true => exact ⟨⟨h.valid, h.once, h.known⟩, .refl _⟩
    | false => exact ⟨h, .refl _⟩
  | hydrate runDir attestation nowIso =>
    simp only [callStep] at hstep
    split at hstep
    · next ledger migrated hhydrate =>
      cases hstep
      obtain ⟨loaded, hload, rfl⟩ := hydrate_eq_ok host hhydrate
      have hreaches := hadmits loaded migrated hload
      have hmerged := merge_leaves attestation loaded.attempts
      refine ⟨⟨hmerged.valid (load_valid host hload), h.once, fun id hid => ?_⟩, hreaches.trans hmerged.reaches⟩
      obtain ⟨row, hrow, hknown⟩ := h.known id hid
      obtain ⟨row', hrow', heq⟩ := (hreaches.trans hmerged.reaches).exists_mem hrow
      exact ⟨row', hrow', heq.trans hknown⟩
    · cases hstep
      exact ⟨h, .refl _⟩

lemma hasAttempted_of_claim {input : ClaimStageAttemptInput} (hdefault : input.candidateIdentity = none)
    (hconsumed : ∀ row, ledger.find (stageAttemptId host input.toAttemptKey) = some row →
      isConsumed host row = true) {attempt : AttemptRow} {created : Bool}
    (hok : (claimStageAttempt host ledger input nowIso).1 = .ok attempt created) :
    hasAttempted host (claimStageAttempt host ledger input nowIso).2 input.toAttemptKey = true := by
  have hkey : { input.toAttemptKey with candidateIdentity := none } = input.toAttemptKey := by rw [← hdefault]
  rcases claim_cases host ledger input nowIso with ⟨reason, hresult⟩ | ⟨row, hfind, hresult⟩ |
    ⟨hnone, haction, hresult⟩
  · rw [hresult] at hok
    cases hok
  · rw [hresult]
    simp only [hasAttempted, hkey, hfind]
    exact hconsumed row hfind
  · rw [hresult]
    generalize hrow : claimRow ledger input (trim input.headSha)
      (stageAttemptId host input.toAttemptKey) nowIso = row
    have hid : row.attemptId = some (stageAttemptId host input.toAttemptKey) := by
      rw [← hrow]
      exact claimRow_attemptId ledger input _ _ nowIso
    have hstatus : ∃ status, row.status = some status ∧ hasAttemptedStatus status = true := by
      rw [← hrow]
      refine ⟨_, claimRow_status ledger input _ _ nowIso, ?_⟩
      split <;> decide
    have hfind : ({ ledger with attempts := ledger.attempts ++ [row] } : StageAttemptLedger).find
        (stageAttemptId host input.toAttemptKey) = some row := by
      simp only [StageAttemptLedger.find] at hnone ⊢
      rw [find?_append, hnone]
      simp [hid]
    obtain ⟨status, hstatus, hcharged⟩ := hstatus
    simp [hasAttempted, hkey, hfind, isConsumed, hstatus, hcharged]

/-- Over every sequence of calls in which a ledger is never replaced by one that is behind it: an
identity is created once, a settled attempt is not started again, a granted claim that finds no
unconsumed row consumes its attempt, a ledger of finite numbers is read back as it was written, and
hydration refuses or returns every attempt record of the file. -/
theorem attempts_once {primary legacy : LedgerText} {before after : List LedgerCall} {s t : LedgerState}
    (hs : Transition.Run (callStep host) (Admits host) { primary := primary, legacy := legacy } before s)
    (ht : Transition.Run (callStep host) (Admits host) s after t) :
    t.created.Nodup ∧ Reaches s.ledger.attempts t.ledger.attempts ∧
      (∀ input nowIso attempt created, input.candidateIdentity = none →
        (∀ row, t.ledger.find (stageAttemptId host input.toAttemptKey) = some row → isConsumed host row = true) →
        (claimStageAttempt host t.ledger input nowIso).1 = .ok attempt created →
        hasAttempted host (claimStageAttempt host t.ledger input nowIso).2 input.toAttemptKey = true) ∧
      ((∀ row ∈ t.ledger.attempts, row.isFinite = true) → ∀ nowIso, ∃ ledger,
        hydrateStageAttemptLedger host true (persistStageAttemptLedger t.ledger) t.legacy nowIso [] =
          .ok (ledger, false) ∧ ledger.attempts = t.ledger.attempts) ∧
      ∀ value rows nowIso attestation ledger migrated, value.get? "attempts" = some (.arr rows) →
        hydrateStageAttemptLedger host true (.json value) t.legacy nowIso attestation = .ok (ledger, migrated) →
        ∀ (i : Nat) (row : AttemptRow), (rows.filter isValidAttemptRecord)[i]? = some row →
          ∃ row', ledger.attempts[i]? = some row' ∧ Attested attestation row row' := by
  have hinitial : LedgerInv { primary := primary, legacy := legacy } :=
    ⟨by simp [AllValid], nodup_nil, by simp⟩
  have hkeeps := fun s call t hadmits h hcall => (@step_leaves host s t call hadmits h hcall).1
  have hinv : LedgerInv s := hs.invariant (I := LedgerInv) hkeeps hinitial
  have hinv' : LedgerInv t := ht.invariant (I := LedgerInv) hkeeps hinv
  have hreaches : Reaches s.ledger.attempts t.ledger.attempts :=
    ht.relation (I := LedgerInv) (R := fun s t => Reaches s.ledger.attempts t.ledger.attempts)
      (fun _ => .refl _) (fun _ _ _ h h' => h.trans h') hkeeps
      (fun s call t hadmits h hcall => (@step_leaves host s t call hadmits h hcall).2) hinv
  refine ⟨hinv'.once, hreaches, ?_, ?_, ?_⟩
  · intro input nowIso attempt created hdefault hconsumed hok
    exact hasAttempted_of_claim host hdefault hconsumed hok
  · intro hfinite nowIso
    obtain ⟨loaded, hload, hsame⟩ := load_persist host t.ledger hinv'.valid hfinite t.legacy nowIso
    exact ⟨loaded, by simp [hydrateStageAttemptLedger, hload, mergeAttestations], hsame⟩
  · intro value rows nowIso attestation ledger migrated hrows hhydrate i row hrow
    obtain ⟨loaded, hload, rfl⟩ := hydrate_eq_ok host hhydrate
    have hloaded : loaded.attempts = rows.filter isValidAttemptRecord := by
      simp only [loadLedger] at hload
      split at hload
      · next hfalse => cases hfalse
      · split at hload
        · next hparse =>
          cases hload
          obtain ⟨value', rows', hvalue, hrows', hattempts⟩ := parse_eq_some hparse
          cases hvalue
          rw [hattempts]
          rw [hrows] at hrows'
          cases hrows'
          rfl
        · cases hload
    exact merge_attested (List.Subset.refl attestation) (by rw [hloaded]; exact hrow) (.inl rfl)

end Calls

/-! ## Concrete calls -/

def rebaseClaim : ClaimStageAttemptInput where
  headSha := "abc"
  action := "conflict_rebase"

/-- A claim, the file it is written to, and another process that starts from the file. -/
theorem claimed_attempt_survives_restart :
    ∃ t : LedgerState, t.ledger.attempts.length = 1 ∧ t.created.length = 1 ∧ t.created.Nodup := by
  let host := NodeHost.onFirstDay [] []
  let now := "1970-01-01T00:00:00.000Z"
  let ledger := (claimStageAttempt host {} rebaseClaim now).2
  obtain ⟨loaded, hload, hsame⟩ := load_persist host ledger (by unfold AllValid; decide +kernel)
    (by decide +kernel) .absent now
  have hadmits : ∀ created, Admits host
      { ledger := ledger, primary := persistStageAttemptLedger ledger, created := created }
      (.hydrate true [] now) := by
    intro created loaded' migrated hload'
    cases hload.symm.trans hload'
    rw [hsame]
    exact .refl _
  obtain ⟨t, hrun, hlength⟩ : ∃ t, Transition.Run (callStep host) (Admits host) {}
      [.claim rebaseClaim now, .persist true, .hydrate true [] now] t ∧
        t.ledger.attempts.length = 1 ∧ t.created.length = 1 :=
    ⟨_, .cons trivial rfl (.cons trivial rfl (.cons (hadmits _) rfl (.nil _))), by decide +kernel⟩
  exact ⟨t, hlength.1, hlength.2, (attempts_once host hrun (.nil t)).1⟩

def ClaimResult.isOk : ClaimResult → Bool
  | .ok _ _ => true
  | .failed _ => false

/-- A claim of a superseded identity is granted, and the attempt does not count as made. -/
theorem superseded_claim_not_attempted :
    ¬∀ (calls : List LedgerCall) (t : LedgerState),
      Transition.Run (callStep (NodeHost.onFirstDay [] [])) (fun _ _ => True) {} calls t →
      ∀ input nowIso, input.candidateIdentity = none →
        (claimStageAttempt (NodeHost.onFirstDay [] []) t.ledger input nowIso).1.isOk = true →
        hasAttempted (NodeHost.onFirstDay [] [])
          (claimStageAttempt (NodeHost.onFirstDay [] []) t.ledger input nowIso).2
          input.toAttemptKey = true := by
  intro h
  let host := NodeHost.onFirstDay [] []
  let now := "1970-01-01T00:00:00.000Z"
  let again (t : LedgerState) := claimStageAttempt host t.ledger rebaseClaim now
  obtain ⟨t, hrun, hok, hnot⟩ : ∃ t, Transition.Run (callStep host) (fun _ _ => True) {}
      [.claim rebaseClaim now, .supersede (NodeHost.zeros 64) (some "head moved") now] t ∧
        (again t).1.isOk = true ∧ hasAttempted host (again t).2 rebaseClaim.toAttemptKey = false :=
    Transition.Run.exists_of_exec
      (fun t : LedgerState => (again t).1.isOk = true ∧
        hasAttempted host (again t).2 rebaseClaim.toAttemptKey = false) (by decide +kernel)
  have htrue := h _ t hrun rebaseClaim now rfl hok
  exact absurd (hnot.symm.trans htrue) (by decide)

end AgentPipeline.Stage
