import AgentPipeline.Stage.AttemptsOnce
import AgentPipeline.Stage.CiRecovery

/-!
# CiBudget: what the rows of a ledger say about the recovery budgets

* `IsHead`, `Heads`: lower-case heads, and digests that tell their attempts apart;
* `Spent`: the budget of a class is spent for a head;
* `Accounts`: a ledger in which a row that carries the identity of a recovery attempt counts as that attempt;
* `sync_spent`: what `syncCiProjectionIntoLedger` adds to the budgets that are spent.
-/

namespace AgentPipeline.Stage

open List
open JsText (trim)
open JsRegExp (isHexDigit)
open StageAttemptLedger (updateFirst)

/-! ## Heads and identities -/

/-- A lower-case SHA. -/
structure IsHead (host : NodeHost) (head : String) : Prop where
  nonempty : head ≠ ""
  hex : head.toList.all isHexDigit = true
  lower : host.toLowerCase head = head

/-- The text whose digest identifies an attempt. -/
def attemptText (head : String) (action : StageAction) : String :=
  "\x00".intercalate ["pipeline-stage-attempt@1", head, action.name, "", head, ""]

/-- The actions whose rows the context is made of. -/
def ladderActions : List StageAction :=
  [.ciRebase, .ciRerun, .ciArchiveFailRecovery, .ciAssertionFix, .ciDocsStaleHeal, .noRunRecovery]

lemma CiClass.action_mem (c : CiClass) : c.action ∈ ladderActions := by cases c <;> decide

lemma StageAction.name_injective : Function.Injective StageAction.name := by
  intro a b h
  cases a <;> cases b <;> first | rfl | exact absurd h (by decide)

lemma CiClass.action_injective : Function.Injective CiClass.action := by
  intro a b h
  cases a <;> cases b <;> first | rfl | cases h

/-- The heads at hand; no two of their attempts have one digest. -/
structure Heads (host : NodeHost) (heads : List String) : Prop where
  isHead : ∀ head ∈ heads, IsHead host head
  digests : ∀ head ∈ heads, ∀ head' ∈ heads, ∀ action ∈ ladderActions, ∀ action' ∈ ladderActions,
    host.sha256 (attemptText head action) = host.sha256 (attemptText head' action') →
      attemptText head action = attemptText head' action'

variable {host : NodeHost}

lemma IsHead.trim_eq {head : String} (h : IsHead host head) : trim head = head := by
  have hspace : ∀ c ∈ head.toList, JsText.isSpace c = false :=
    fun c hc => not_isSpace_of_isHexDigit (all_eq_true.1 h.hex c hc)
  refine JsText.trim_eq_self_iff.2 ⟨fun c hc => ?_, fun c hc => ?_⟩
  · exact hspace c (mem_of_mem_head? hc)
  · exact hspace c (mem_of_mem_getLast? hc)

lemma IsHead.noNul {head : String} (h : IsHead host head) : ∀ c ∈ head.toList, (c != '\x00') = true := by
  intro c hc
  have hdigit := all_eq_true.1 h.hex c hc
  by_contra hnul
  obtain rfl : c = '\x00' := by simpa using hnul
  exact absurd hdigit (by decide)

lemma stageAttemptId_eq {head : String} (h : IsHead host head) (action : StageAction) :
    stageAttemptId host { headSha := head, action := action.name } = host.sha256 (attemptText head action) := by
  simp [stageAttemptId, attemptText, h.trim_eq, h.lower]

variable {head' : String} {action' : StageAction}

lemma attemptText_inj {head : String} (h : IsHead host head) (h' : IsHead host head')
    {action : StageAction} (heq : attemptText head action = attemptText head' action') :
    head = head' ∧ action = action' := by
  have hsplit : ∀ (head : String) (action : StageAction), (attemptText head action).toList =
      "pipeline-stage-attempt@1\x00".toList ++ (head.toList ++ '\x00' ::
        (action.name.toList ++ '\x00' :: '\x00' :: (head.toList ++ ['\x00']))) := by
    intro head action
    simp [attemptText]
  have hname : ∀ action : StageAction, ∀ c ∈ action.name.toList, (c != '\x00') = true := by
    intro action
    cases action <;> exact all_eq_true.1 (by decide)
  have hlists := congrArg String.toList heq
  rw [hsplit, hsplit] at hlists
  have hrest := append_cancel_left hlists
  have hheads : head.toList = head'.toList := by
    have htake := congrArg (List.takeWhile (· != '\x00')) hrest
    rwa [JsText.takeWhile_append_of_head _ h.noNul (by simp),
      JsText.takeWhile_append_of_head _ h'.noNul (by simp)] at htake
  rw [hheads] at hrest
  have htail := (List.cons.inj (append_cancel_left hrest)).2
  have hactions : action.name.toList = action'.name.toList := by
    have htake := congrArg (List.takeWhile (· != '\x00')) htail
    rwa [JsText.takeWhile_append_of_head _ (hname action) (by simp),
      JsText.takeWhile_append_of_head _ (hname action') (by simp)] at htake
  exact ⟨String.toList_inj.1 hheads, StageAction.name_injective (String.toList_inj.1 hactions)⟩

lemma Heads.eq_of_digest {heads : List String} (h : Heads host heads) {head : String}
    (hhead : head ∈ heads) (hhead' : head' ∈ heads) {action : StageAction}
    (haction : action ∈ ladderActions) (haction' : action' ∈ ladderActions)
    (heq : host.sha256 (attemptText head action) = host.sha256 (attemptText head' action')) :
    head = head' ∧ action = action' :=
  attemptText_inj (h.isHead head hhead) (h.isHead head' hhead')
    (h.digests head hhead head' hhead' action haction action' haction' heq)

/-! ## Spent budgets -/

variable (host) in
/-- A row counts as an attempt of an action at a head. -/
def CountsFor (action : StageAction) (head : String) (row : AttemptRow) : Prop :=
  row.textAt "action" = some action.name ∧ isConsumed host row = true ∧ row.textAt "head_sha" = some head ∧ head ≠ ""

variable (host) in
/-- The budget of a class is spent for a head. -/
def Spent (rows : List AttemptRow) (c : CiClass) (head : String) : Prop :=
  ∃ row ∈ rows, CountsFor host c.action head row

lemma mem_distinct {texts : List String} {text : String} : text ∈ distinct texts ↔ text ∈ texts := by
  suffices h : ∀ seen, text ∈ texts.foldl
      (fun seen text => if seen.contains text then seen else seen ++ [text]) seen ↔ text ∈ seen ∨ text ∈ texts by
    simpa [distinct] using h []
  induction texts with
  | nil => simp
  | cons first texts ih =>
    intro seen
    rw [foldl_cons, ih]
    split
    · next hseen =>
      have hfirst : first ∈ seen := by simpa using hseen
      constructor
      · rintro (h | h)
        · exact .inl h
        · exact .inr (mem_cons_of_mem _ h)
      · rintro (h | h)
        · exact .inl h
        · rcases mem_cons.1 h with rfl | h
          · exact .inl hfirst
          · exact .inr h
    · simp [or_assoc]

lemma mem_attemptedShasForAction {ledger : StageAttemptLedger} {action : StageAction} {head : String} :
    head ∈ attemptedShasForAction host ledger action ↔ ∃ row ∈ ledger.attempts, CountsFor host action head row := by
  simp only [attemptedShasForAction, mem_distinct, mem_filterMap, mem_filter, CountsFor,
    Bool.and_eq_true, decide_eq_true_eq, Option.filter_eq_some_iff]
  constructor
  · rintro ⟨row, ⟨hrow, haction, hconsumed⟩, hhead, hne⟩
    exact ⟨row, hrow, haction, hconsumed, hhead, hne⟩
  · rintro ⟨row, hrow, haction, hconsumed, hhead, hne⟩
    exact ⟨row, ⟨hrow, haction, hconsumed⟩, hhead, hne⟩

lemma mem_ciRecoveryShaSetUnion {a b : List String} {head : String} :
    head ∈ ciRecoveryShaSetUnion a b ↔ (head ∈ a ∨ head ∈ b) ∧ head ≠ "" := by
  simp [ciRecoveryShaSetUnion, mem_distinct, or_and_right]

variable {shas : List String}

lemma mem_ciRecoveryShaSetAdd {sha head : String} : head ∈ ciRecoveryShaSetAdd shas sha ↔ head ∈ shas ∨ head = sha := by
  unfold ciRecoveryShaSetAdd
  split
  · next hmem =>
    have hsha : sha ∈ shas := by simpa using hmem
    constructor
    · exact .inl
    · rintro (h | rfl)
      · exact h
      · exact hsha
  · simp

/-! ## The row that synchronization adds -/

lemma isFinite_without {object : Json} (h : object.isFinite = true) (key : String) :
    (object.without key).isFinite = true := by
  cases object with
  | obj fields =>
    simp only [Json.isFinite, Json.isFiniteFields_eq_all, all_eq_true, Json.without] at h ⊢
    exact fun field hfield => h field (mem_of_mem_filter hfield)
  | _ => exact h

/-- The claim that `syncCiProjectionIntoLedger` makes. -/
def syncedClaim (action : StageAction) (head : String) : ClaimStageAttemptInput where
  headSha := head
  action := action.name
  typedReason := some "synced_from_session_cache"
  budgetBefore := some (.finite 1)

variable (host) in
/-- The row of a head that was claimed and completed. -/
def syncedRow (ledger : StageAttemptLedger) (action : StageAction) (head nowIso : String) : AttemptRow :=
  let id := host.sha256 (attemptText head action)
  completeRow { attemptId := id, succeeded := true } nowIso
    (claimRow ledger (syncedClaim action head) head id nowIso)

section SyncedRow

variable (ledger : StageAttemptLedger) (action : StageAction) (head nowIso : String)

lemma sameRecord_syncedRow : SameRecord
    (claimRow ledger (syncedClaim action head) head (host.sha256 (attemptText head action)) nowIso)
    (syncedRow host ledger action head nowIso) := by
  unfold syncedRow
  exact sameRecord_completeRow _ _ _

lemma attemptId_syncedRow : (syncedRow host ledger action head nowIso).attemptId =
    some (host.sha256 (attemptText head action)) :=
  (sameRecord_syncedRow ledger action head nowIso).attemptId.trans (claimRow_attemptId ..)

lemma countsFor_syncedRow (hne : head ≠ "") :
    CountsFor host action' head' (syncedRow host ledger action head nowIso) ↔ action' = action ∧ head' = head := by
  have hsame : SameRecord _ (syncedRow host ledger action head nowIso) := sameRecord_syncedRow ledger action head nowIso
  have haction : Json.textAt (syncedRow host ledger action head nowIso) "action" = some action.name := by
    rw [Json.textAt, hsame.fields "action" (by decide), get?_claimRow_action]
    rfl
  have hhead : Json.textAt (syncedRow host ledger action head nowIso) "head_sha" = some head := by
    rw [Json.textAt, hsame.fields "head_sha" (by decide), get?_claimRow_head]
    rfl
  have hstatus : (syncedRow host ledger action head nowIso).status = some "completed" := by
    unfold syncedRow
    rw [status_completeRow _ _ (isPlainObject_of_attemptId (claimRow_attemptId ..))]
    rfl
  have hconsumed : isConsumed host (syncedRow host ledger action head nowIso) = true := by
    simp [isConsumed, hstatus, hasAttemptedStatus, isAttemptCharged]
  simp only [CountsFor, haction, hhead, hconsumed, Option.some.injEq, true_and]
  constructor
  · rintro ⟨hname, hsame, -⟩
    exact ⟨(StageAction.name_injective hname).symm, hsame.symm⟩
  · rintro ⟨rfl, rfl⟩
    exact ⟨rfl, rfl, hne⟩

lemma isFinite_textField (key : String) (value : Option String) :
    ((textField key value).all fun field => field.2.isFinite) = true := by
  unfold textField
  split <;> rfl

lemma isFinite_syncedRow : (syncedRow host ledger action head nowIso).isFinite = true := by
  have hspent : isSpent (.finite 1) = false := by
    simp only [isSpent, JsNumber.ge_finite, decide_eq_false_iff_not]
    norm_num
  have hclaim : Json.isFinite (claimRow ledger (syncedClaim action head) head
      (host.sha256 (attemptText head action)) nowIso) = true := by
    simp only [claimRow, syncedClaim, Json.isFinite, Json.isFiniteFields_eq_all, all_append,
      isFinite_textField, hspent, Option.getD_some]
    simp [presentField, countOf, chargedBudget, Json.isFinite, Json.isFiniteElems]
  have hset : ∀ {row : Json} (key text : String), row.isFinite = true →
      (row.set key (.str text)).isFinite = true := fun key _ h => Json.isFinite_set h rfl key
  exact isFinite_without (isFinite_without (hset "terminal_outcome" _ (hset "outcome" _ (hset "status" _
    (hset "completed_at" nowIso hclaim)))) "error") "last_error"

end SyncedRow

/-! ## Synchronization -/

variable {rows : List AttemptRow} {row : AttemptRow}

lemma updateFirst_append {id : String} (f : AttemptRow → AttemptRow)
    (hnone : (rows.find? fun row => row.attemptId = some id) = none) (hid : row.attemptId = some id) :
    updateFirst id f (rows ++ [row]) = rows ++ [f row] := by
  induction rows with
  | nil => simp [updateFirst, hid]
  | cons first rows ih =>
    have hfirst : first.attemptId ≠ some id := by simpa using find?_eq_none.1 hnone first mem_cons_self
    rw [find?_cons_of_neg (by simpa using hfirst)] at hnone
    simp [updateFirst, hfirst, ih hnone]

lemma claim_synced {head : String} (h : IsHead host head) (ledger : StageAttemptLedger) (action : StageAction)
    (nowIso : String) : claimStageAttempt host ledger (syncedClaim action head) nowIso =
      match ledger.find (host.sha256 (attemptText head action)) with
      | some existing => (.ok existing false, ledger)
      | none =>
        let row := claimRow ledger (syncedClaim action head) head (host.sha256 (attemptText head action)) nowIso
        (.ok row true, { ledger with attempts := ledger.attempts ++ [row] }) := by
  have hknown : stageActions.contains action.name = true := by cases action <;> decide
  have hid : stageAttemptId host { (syncedClaim action head).toAttemptKey with headSha := head } =
      host.sha256 (attemptText head action) := stageAttemptId_eq h action
  unfold claimStageAttempt
  simp only [show (syncedClaim action head).headSha = head from rfl, h.trim_eq, hid]
  rw [if_neg h.nonempty, show (syncedClaim action head).action = action.name from rfl, hknown]
  exact if_neg (by decide)

/-- A row that was just claimed for a synchronization is completed. -/
lemma complete_claimed (ledger : StageAttemptLedger) (action : StageAction) (sha head id nowIso : String)
    (hfind : ledger.find id = none) : (completeStageAttempt
        { ledger with attempts := ledger.attempts ++ [claimRow ledger (syncedClaim action sha) head id nowIso] }
        { attemptId := id, succeeded := true } nowIso).2 =
      { ledger with attempts := ledger.attempts ++ [completeRow { attemptId := id, succeeded := true } nowIso
            (claimRow ledger (syncedClaim action sha) head id nowIso)] } := by
  generalize hrow : claimRow ledger (syncedClaim action sha) head id nowIso = row
  have hrowId : row.attemptId = some id := by
    rw [← hrow]
    exact claimRow_attemptId ..
  have hstarted : row.status = some "started" := by
    have hspent : isSpent (.finite 1) = false := by
      simp only [isSpent, JsNumber.ge_finite, decide_eq_false_iff_not]
      norm_num
    rw [← hrow, claimRow_status]
    simp [syncedClaim, hspent]
  have hfound : ({ ledger with attempts := ledger.attempts ++ [row] } : StageAttemptLedger).find id = some row := by
    simp only [StageAttemptLedger.find] at hfind ⊢
    rw [find?_append, hfind]
    simp [hrowId]
  simp only [completeStageAttempt, hfound, hstarted, ne_eq, not_true_eq_false, false_and, if_false,
    StageAttemptLedger.update]
  rw [updateFirst_append _ hfind hrowId]

lemma ensureOne_cases {head : String} (h : IsHead host head) (ledger : StageAttemptLedger) (action : StageAction)
    (nowIso : String) : (∃ row ∈ ledger.attempts, row.attemptId = some (host.sha256 (attemptText head action)) ∧
      (ensureOne host ledger action head nowIso).2 = ledger) ∨
    (∀ row ∈ ledger.attempts, row.attemptId ≠ some (host.sha256 (attemptText head action))) ∧
      (ensureOne host ledger action head nowIso).2 =
        { ledger with attempts := ledger.attempts ++ [syncedRow host ledger action head nowIso] } := by
  have hclaimed := claim_synced h ledger action nowIso
  have hid := stageAttemptId_eq h action
  simp only [syncedClaim] at hclaimed
  cases hfind : ledger.find (host.sha256 (attemptText head action)) with
  | some row =>
    left
    refine ⟨row, mem_of_find?_eq_some hfind, find_attemptId hfind, ?_⟩
    unfold ensureOne
    split
    · rfl
    · rw [hclaimed, hfind]
  | none =>
    right
    have hnot : hasAttempted host ledger { headSha := head, action := action.name } = false := by
      simp [hasAttempted, hid, hfind]
    refine ⟨fun row hrow => by simpa using find?_eq_none.1 hfind row hrow, ?_⟩
    unfold ensureOne
    rw [if_neg (by simp [h.nonempty, hnot]), hclaimed, hfind]
    simp only [claimRow_attemptId, Option.getD_some]
    exact complete_claimed ledger action head head _ nowIso hfind

variable (host) in
/-- The rows of a ledger: a row that carries the identity of a recovery attempt counts as that attempt, and
the attempts that are counted are those of heads at hand. -/
structure Accounts (heads : List String) (rows : List AttemptRow) : Prop where
  finite : ∀ row ∈ rows, row.isFinite = true
  known : ∀ row ∈ rows, ∀ action ∈ ladderActions, ∀ head, CountsFor host action head row → head ∈ heads
  counted : ∀ c : CiClass, ∀ head ∈ heads, ∀ row ∈ rows,
    row.attemptId = some (host.sha256 (attemptText head c.action)) → Spent host rows c head

variable {heads : List String}

lemma spent_append {c : CiClass} {head : String} :
    Spent host (rows ++ [row]) c head ↔ Spent host rows c head ∨ CountsFor host c.action head row := by
  simp [Spent, or_and_right, exists_or]

lemma ensureOne_spent (hheads : Heads host heads) {ledger : StageAttemptLedger}
    (haccounts : Accounts host heads ledger.attempts) {action : StageAction} (haction : action ∈ ladderActions)
    {head : String} (hhead : head ∈ heads) (nowIso : String) :
    Accounts host heads (ensureOne host ledger action head nowIso).2.attempts ∧ ∀ (c : CiClass) (head' : String),
        Spent host (ensureOne host ledger action head nowIso).2.attempts c head' ↔
          Spent host ledger.attempts c head' ∨ c.action = action ∧ head' = head := by
  have hne := (hheads.isHead head hhead).nonempty
  rcases ensureOne_cases (hheads.isHead head hhead) ledger action nowIso with ⟨row, hrow, hid, hsame⟩ | ⟨hfresh, hadded⟩
  · rw [hsame]
    refine ⟨haccounts, fun c head' => ⟨.inl, ?_⟩⟩
    rintro (hspent | ⟨rfl, rfl⟩)
    · exact hspent
    · exact haccounts.counted c head' hhead row hrow hid
  · rw [hadded]
    have hcounts : ∀ (c : CiClass) (head' : String),
        Spent host (ledger.attempts ++ [syncedRow host ledger action head nowIso]) c head' ↔
          Spent host ledger.attempts c head' ∨ c.action = action ∧ head' = head := fun c head' => by
      rw [spent_append, countsFor_syncedRow ledger action head nowIso hne]
    refine ⟨⟨fun row hrow => ?_, fun row hrow action' haction' head' hcountsFor => ?_,
      fun c head' hhead' row hrow hid => ?_⟩, hcounts⟩
    · rcases mem_append.1 hrow with hrow | hrow
      · exact haccounts.finite row hrow
      · rw [mem_singleton.1 hrow]
        exact isFinite_syncedRow ledger action head nowIso
    · rcases mem_append.1 hrow with hrow | hrow
      · exact haccounts.known row hrow action' haction' head' hcountsFor
      · rw [mem_singleton.1 hrow, countsFor_syncedRow ledger action head nowIso hne] at hcountsFor
        rw [hcountsFor.2]
        exact hhead
    · rw [hcounts]
      rcases mem_append.1 hrow with hrow | hrow
      · exact .inl (haccounts.counted c head' hhead' row hrow hid)
      · rw [mem_singleton.1 hrow, attemptId_syncedRow] at hid
        obtain ⟨rfl, haction'⟩ := hheads.eq_of_digest hhead hhead' haction c.action_mem (Option.some.inj hid)
        exact .inr ⟨haction'.symm, rfl⟩

lemma ensure_spent (hheads : Heads host heads) {action : StageAction} (haction : action ∈ ladderActions)
    (hshas : ∀ head ∈ shas, head ∈ heads) (nowIso : String) {ledger : StageAttemptLedger}
    (haccounts : Accounts host heads ledger.attempts) :
    Accounts host heads (ensure host nowIso action shas ledger).2.attempts ∧
      ∀ (c : CiClass) (head : String), Spent host (ensure host nowIso action shas ledger).2.attempts c head ↔
        Spent host ledger.attempts c head ∨ c.action = action ∧ head ∈ shas := by
  induction shas generalizing ledger with
  | nil => exact ⟨haccounts, by simp [ensure]⟩
  | cons first shas ih =>
    obtain ⟨hfirst, hspent⟩ := ensureOne_spent hheads haccounts haction (hshas first mem_cons_self) nowIso
    obtain ⟨hrest, hspent'⟩ := ih (fun head hhead => hshas head (mem_cons_of_mem _ hhead)) hfirst
    refine ⟨hrest, fun c head => (hspent' c head).trans ?_⟩
    rw [hspent, mem_cons]
    tauto

lemma ensureAll_spent (hheads : Heads host heads) {sets : List (StageAction × List String)}
    (hsets : ∀ set ∈ sets, set.1 ∈ ladderActions ∧ ∀ head ∈ set.2, head ∈ heads) (nowIso : String)
    {ledger : StageAttemptLedger} (haccounts : Accounts host heads ledger.attempts) :
    Accounts host heads (ensureAll host nowIso sets ledger).2.attempts ∧
      ∀ (c : CiClass) (head : String), Spent host (ensureAll host nowIso sets ledger).2.attempts c head ↔
        Spent host ledger.attempts c head ∨ ∃ set ∈ sets, c.action = set.1 ∧ head ∈ set.2 := by
  induction sets generalizing ledger with
  | nil => exact ⟨haccounts, by simp [ensureAll]⟩
  | cons set sets ih =>
    obtain ⟨action, shas⟩ := set
    obtain ⟨haction, hshas⟩ := hsets _ mem_cons_self
    obtain ⟨hfirst, hspent⟩ := ensure_spent hheads haction hshas nowIso haccounts
    obtain ⟨hrest, hspent'⟩ := ih (fun set hset => hsets set (mem_cons_of_mem _ hset)) hfirst
    refine ⟨hrest, fun c head => (hspent' c head).trans ?_⟩
    simp only [hspent, mem_cons, exists_eq_or_imp, or_assoc]

/-- The heads of a context are heads at hand. -/
structure PreMergePollingContext.Within (ctx : PreMergePollingContext) (heads : List String) : Prop where
  attempted : ∀ c, ∀ head ∈ ctx.attemptedShas c, head ∈ heads
  noRun : ∀ head ∈ ctx.noRunRecoveryAttemptedForSha, head ≠ "" → head ∈ heads

lemma sync_spent (hheads : Heads host heads) {ledger : StageAttemptLedger}
    (haccounts : Accounts host heads ledger.attempts) {ctx : PreMergePollingContext} (hctx : ctx.Within heads)
    (nowIso : String) : Accounts host heads (syncCiProjectionIntoLedger host ledger ctx.projection nowIso).2.attempts ∧
      ∀ (c : CiClass) (head : String),
        Spent host (syncCiProjectionIntoLedger host ledger ctx.projection nowIso).2.attempts c head ↔
          Spent host ledger.attempts c head ∨ head ∈ ctx.attemptedShas c := by
  let archived : StageAttemptLedger := { ledger with
    preArchiveSha := (ctx.projection.preArchiveSha.filter (· ≠ "")).or ledger.preArchiveSha }
  let sets : List (StageAction × List String) :=
    [(.ciRebase, ctx.attemptedShas .rebase), (.ciRerun, ctx.attemptedShas .rerun),
      (.ciArchiveFailRecovery, ctx.attemptedShas .archiveFail),
      (.ciAssertionFix, ctx.attemptedShas .assertionFix),
      (.ciDocsStaleHeal, ctx.attemptedShas .docsStaleHeal),
      (.noRunRecovery, (ctx.noRunRecoveryAttemptedForSha.filter (· ≠ "")).toList)]
  have hsets : ∀ set ∈ sets, set.1 ∈ ladderActions ∧ ∀ head ∈ set.2, head ∈ heads := by
    simp only [sets, forall_mem_cons, not_mem_nil, false_imp_iff, implies_true, and_true]
    refine ⟨⟨by decide, hctx.attempted .rebase⟩, ⟨by decide, hctx.attempted .rerun⟩,
      ⟨by decide, hctx.attempted .archiveFail⟩, ⟨by decide, hctx.attempted .assertionFix⟩,
      ⟨by decide, hctx.attempted .docsStaleHeal⟩, by decide, fun head hhead => ?_⟩
    simp only [Option.mem_toList, Option.filter_eq_some_iff] at hhead
    exact hctx.noRun head hhead.1 (by simpa using hhead.2)
  have harchived : Accounts host heads archived.attempts := haccounts
  obtain ⟨hsynced, hspent⟩ := ensureAll_spent hheads hsets nowIso harchived
  have hattempts : (syncCiProjectionIntoLedger host ledger ctx.projection nowIso).2.attempts =
      (ensureAll host nowIso sets archived).2.attempts := by
    simp only [syncCiProjectionIntoLedger]
    split <;> rfl
  rw [hattempts]
  refine ⟨hsynced, fun c head => (hspent c head).trans ?_⟩
  cases c <;> simp [sets, CiClass.action, archived]

end AgentPipeline.Stage
