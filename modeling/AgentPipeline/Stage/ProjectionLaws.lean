import AgentPipeline.Stage.CiBudget

/-!
# ProjectionLaws: the CI markers, the ledger and its projection

`projectCiRecoveryFromLedger` and `syncCiProjectionIntoLedger` on arbitrary texts. An attempt is
identified by its head without the space around it and in lower case; a projection reports the head
as it was written first.

* `attemptText_injective`: the text that is hashed names the head and the action, whatever
  characters the head has;
* `sync_own`: a ledger whose attempts all have the identity of their head is not changed by its
  own projection;
* `hasAttempted_synced`: what was synchronized counts, unless a row that does not count is there.
-/

namespace AgentPipeline.Stage

open List
open JsText (trim)
open StageAttemptLedger (updateFirst)

/-! ## The projection -/

structure CiRecoveryProjection where
  preArchiveSha : Option String := none
  ciRebaseAttemptedShas : Option (List String) := none
  ciRerunAttemptedShas : Option (List String) := none
  ciArchiveFailRecoveryAttemptedShas : Option (List String) := none
  ciAssertionFixAttemptedShas : Option (List String) := none
  ciDocsStaleHealAttemptedShas : Option (List String) := none
  ciTerminalFailRecordedShas : Option (List String) := none
  noRunRecoveryAttemptedShas : Option (List String) := none
deriving DecidableEq, Repr

/-- `nonEmpty(list)`. -/
def nonEmptyList (list : List String) : Option (List String) := if list = [] then none else some list

@[simp] lemma getD_nonEmptyList (list : List String) : (nonEmptyList list).getD [] = list := by
  unfold nonEmptyList
  split
  · next h => rw [h]; rfl
  · rfl

def projectCiRecoveryFromLedger (host : NodeHost) (ledger : StageAttemptLedger) :
    CiRecoveryProjection where
  preArchiveSha := ledger.preArchiveSha
  ciRebaseAttemptedShas := nonEmptyList (attemptedShasForAction host ledger .ciRebase)
  ciRerunAttemptedShas := nonEmptyList (attemptedShasForAction host ledger .ciRerun)
  ciArchiveFailRecoveryAttemptedShas :=
    nonEmptyList (attemptedShasForAction host ledger .ciArchiveFailRecovery)
  ciAssertionFixAttemptedShas := nonEmptyList (attemptedShasForAction host ledger .ciAssertionFix)
  ciDocsStaleHealAttemptedShas := nonEmptyList (attemptedShasForAction host ledger .ciDocsStaleHeal)
  ciTerminalFailRecordedShas := nonEmptyList (ledger.ciTerminalFailRecordedShas.getD [])
  noRunRecoveryAttemptedShas := nonEmptyList (attemptedShasForAction host ledger .noRunRecovery)

/-- The set of a class. -/
def CiRecoveryProjection.shas (p : CiRecoveryProjection) : CiClass → List String
  | .rebase => p.ciRebaseAttemptedShas.getD []
  | .rerun => p.ciRerunAttemptedShas.getD []
  | .archiveFail => p.ciArchiveFailRecoveryAttemptedShas.getD []
  | .assertionFix => p.ciAssertionFixAttemptedShas.getD []
  | .docsStaleHeal => p.ciDocsStaleHealAttemptedShas.getD []

lemma shas_project (host : NodeHost) (ledger : StageAttemptLedger) (c : CiClass) :
    (projectCiRecoveryFromLedger host ledger).shas c = attemptedShasForAction host ledger c.action := by
  cases c <;> exact getD_nonEmptyList _

/-- A projection as an argument of `syncCiProjectionIntoLedger`: it has no
`noRunRecoveryAttemptedForSha`. -/
def CiRecoveryProjection.toCache (p : CiRecoveryProjection) : CiProjection where
  preArchiveSha := p.preArchiveSha
  ciRebaseAttemptedShas := p.shas .rebase
  ciRerunAttemptedShas := p.shas .rerun
  ciArchiveFailRecoveryAttemptedShas := p.shas .archiveFail
  ciAssertionFixAttemptedShas := p.shas .assertionFix
  ciDocsStaleHealAttemptedShas := p.shas .docsStaleHeal
  ciTerminalFailRecordedShas := p.ciTerminalFailRecordedShas.getD []

/-- The sets of a cache and their actions, in the order of `syncCiProjectionIntoLedger`. -/
def CiProjection.sets (p : CiProjection) : List (StageAction × List String) :=
  [(.ciRebase, p.ciRebaseAttemptedShas), (.ciRerun, p.ciRerunAttemptedShas),
    (.ciArchiveFailRecovery, p.ciArchiveFailRecoveryAttemptedShas),
    (.ciAssertionFix, p.ciAssertionFixAttemptedShas),
    (.ciDocsStaleHeal, p.ciDocsStaleHealAttemptedShas),
    (.noRunRecovery, (p.noRunRecoveryAttemptedForSha.filter (· ≠ "")).toList)]

/-! ## Identities of any heads -/

variable {action action' : StageAction} {sha : String} {sha' : String}

section Identity

variable (host : NodeHost)

/-- The head as an identity has it. -/
def headForm (sha : String) : String := host.toLowerCase (trim sha)

/-- The identity of an attempt that is bound to its head alone. -/
def headId (sha : String) (action : StageAction) : String :=
  host.sha256 (attemptText (headForm host sha) action)

lemma stageAttemptId_unbound (sha : String) (action : StageAction) :
    stageAttemptId host { headSha := sha, action := action.name } = headId host sha action := by
  simp [stageAttemptId, headId, headForm, attemptText]

@[simp] lemma headForm_trim (sha : String) : headForm host (trim sha) = headForm host sha := by
  simp [headForm]

@[simp] lemma headId_trim (sha : String) (action : StageAction) :
    headId host (trim sha) action = headId host sha action := by
  simp [headId]

lemma toList_attemptText (head : String) (action : StageAction) :
    (attemptText head action).toList = "pipeline-stage-attempt@1\x00".toList ++
      (head.toList ++ '\x00' :: (action.name.toList ++ '\x00' :: '\x00' :: (head.toList ++ ['\x00']))) := by
  simp [attemptText]

lemma name_noNul (action : StageAction) : '\x00' ∉ action.name.toList := by
  cases action <;> decide

lemma head_eq_of_le {h h' a a' : List Char} (hnul : '\x00' ∉ a)
    (heq : h ++ '\x00' :: (a ++ '\x00' :: '\x00' :: (h ++ ['\x00'])) =
      h' ++ '\x00' :: (a' ++ '\x00' :: '\x00' :: (h' ++ ['\x00']))) (hle : h.length ≤ h'.length) : h = h' := by
  have hlength := congrArg List.length heq
  simp only [length_append, length_cons] at hlength
  obtain ⟨y, rfl⟩ : ∃ y, h' = h ++ y := by
    rcases append_eq_append_iff.1 heq with ⟨y, hy, -⟩ | ⟨y, hy, -⟩
    · exact ⟨y, hy⟩
    · have hy' : y = [] := by
        have hlong := congrArg List.length hy
        rw [length_append] at hlong
        exact eq_nil_of_length_eq_zero (by omega)
      exact ⟨[], by rw [hy, hy']; simp⟩
  cases y with
  | nil => simp
  | cons c y =>
    simp only [length_append, length_cons] at hlength
    rw [append_assoc] at heq
    obtain ⟨-, htail⟩ := List.cons.inj (append_cancel_left heq)
    -- the action goes on where the longer head ends
    exfalso
    apply hnul
    rcases append_eq_append_iff.1 htail with ⟨z, hz, -⟩ | ⟨z, hz, hsep⟩
    · have hlong := congrArg List.length hz
      rw [length_append] at hlong
      omega
    · cases z with
      | nil =>
        rw [append_nil] at hz
        have hsame := congrArg List.length hz
        omega
      | cons d z =>
        obtain ⟨rfl, -⟩ := List.cons.inj hsep
        rw [hz]
        simp

lemma attemptText_injective {head head' : String}
    (heq : attemptText head action = attemptText head' action') : head = head' ∧ action = action' := by
  have hlists := congrArg String.toList heq
  rw [toList_attemptText, toList_attemptText] at hlists
  have hrest := append_cancel_left hlists
  have hheads : head.toList = head'.toList := by
    rcases Nat.le_total head.toList.length head'.toList.length with hle | hle
    · exact head_eq_of_le (name_noNul action) hrest hle
    · exact (head_eq_of_le (name_noNul action') hrest.symm hle).symm
  rw [hheads] at hrest
  have htail := (List.cons.inj (append_cancel_left hrest)).2
  have hactions : action.name.toList = action'.name.toList := append_cancel_right htail
  exact ⟨String.toList_inj.1 hheads, StageAction.name_injective (String.toList_inj.1 hactions)⟩

/-- No two of these attempts have one digest. -/
def DigestsApart (attempts : String → StageAction → Prop) : Prop :=
  ∀ sha action sha' action', attempts sha action → attempts sha' action' →
    headId host sha action = headId host sha' action' →
      attemptText (headForm host sha) action = attemptText (headForm host sha') action'

lemma DigestsApart.eq {attempts : String → StageAction → Prop} (h : DigestsApart host attempts)
    (hsha : attempts sha action)
    (hsha' : attempts sha' action') (heq : headId host sha action = headId host sha' action') :
    headForm host sha = headForm host sha' ∧ action = action' :=
  attemptText_injective (h sha action sha' action' hsha hsha' heq)

end Identity

/-! ## Rows of attempts that are bound to their head alone -/

variable {row : AttemptRow}

section Rows

variable (host : NodeHost)

/-- The row counts for a head and an action, and has their identity. -/
structure UnboundRow (sha : String) (action : StageAction) (row : AttemptRow) : Prop where
  id : row.attemptId = some (headId host sha action)
  counts : CountsFor host action sha row

variable {host}

lemma CountsFor.unique (h : CountsFor host action sha row) (h' : CountsFor host action' sha' row) :
    action = action' ∧ sha = sha' := by
  obtain ⟨haction, -, hsha, -⟩ := h
  obtain ⟨haction', -, hsha', -⟩ := h'
  exact ⟨StageAction.name_injective (Option.some.inj (haction.symm.trans haction')),
    Option.some.inj (hsha.symm.trans hsha')⟩

lemma isConsumed_of_status {status : String} (h : row.status = some status)
    (hcharged : hasAttemptedStatus status = true) : isConsumed host row = true := by
  simp [isConsumed, h, hcharged]

lemma unboundRow_legacyRow {sha : String} (hne : sha ≠ "") (action : StageAction)
    (nowIso : String) (seq : Nat) :
    UnboundRow host sha action (legacyRow host nowIso sha action seq) where
  id := by
    rw [← stageAttemptId_unbound]
    rfl
  counts := ⟨rfl, isConsumed_of_status (show _ = some "completed" from rfl) (by decide), rfl, hne⟩

lemma unboundRow_claimRow {ledger : StageAttemptLedger} {input : ClaimStageAttemptInput}
    {sha nowIso : String} {action : StageAction} (hne : trim sha ≠ "")
    (haction : input.action = action.name) :
    UnboundRow host (trim sha) action
      (claimRow ledger input (trim sha) (headId host sha action) nowIso) where
  id := by
    rw [claimRow_attemptId, headId_trim]
  counts := by
    refine ⟨?_, isConsumed_of_status (claimRow_status ..) (by split <;> decide), ?_, hne⟩
    · rw [Json.textAt, get?_claimRow_action, haction]
      rfl
    · rw [Json.textAt, get?_claimRow_head]
      rfl

lemma UnboundRow.complete (h : UnboundRow host sha action row) (input : CompleteStageAttemptInput) (nowIso : String) :
    UnboundRow host sha action (completeRow input nowIso row) := by
  have hsame := sameRecord_completeRow input nowIso row
  have hstatus := status_completeRow input nowIso (isPlainObject_of_attemptId h.id)
  obtain ⟨haction, -, hsha, hne⟩ := h.counts
  refine ⟨hsame.attemptId.trans h.id, ?_, isConsumed_of_status hstatus ?_, ?_, hne⟩
  · rw [Json.textAt, hsame.fields "action" (by decide)]
    exact haction
  · cases input.succeeded <;> decide
  · rw [Json.textAt, hsame.fields "head_sha" (by decide)]
    exact hsha

end Rows

/-! ## One head of a cache -/

variable (host : NodeHost)

/-- The row of a head that was claimed and completed. -/
def ensuredRow (ledger : StageAttemptLedger) (action : StageAction) (sha nowIso : String) :
    AttemptRow :=
  completeRow { attemptId := headId host sha action, succeeded := true } nowIso
    (claimRow ledger (syncedClaim action sha) (trim sha) (headId host sha action) nowIso)

variable {host}

lemma unboundRow_ensuredRow (ledger : StageAttemptLedger) (action : StageAction) {sha : String}
    (nowIso : String) (hne : trim sha ≠ "") :
    UnboundRow host (trim sha) action (ensuredRow host ledger action sha nowIso) :=
  (@unboundRow_claimRow host ledger (syncedClaim action sha) sha nowIso action hne rfl).complete _ nowIso

lemma claim_syncedClaim {ledger : StageAttemptLedger} {action : StageAction} {sha nowIso : String}
    (hne : trim sha ≠ "") : claimStageAttempt host ledger (syncedClaim action sha) nowIso =
      match ledger.find (headId host sha action) with
      | some existing => (.ok existing false, ledger)
      | none =>
        let row := claimRow ledger (syncedClaim action sha) (trim sha) (headId host sha action) nowIso
        (.ok row true, { ledger with attempts := ledger.attempts ++ [row] }) := by
  have hknown : stageActions.contains (syncedClaim action sha).action ≠ false := by
    change stageActions.contains action.name ≠ false
    cases action <;> decide
  have hid : stageAttemptId host { (syncedClaim action sha).toAttemptKey with
      headSha := trim (syncedClaim action sha).headSha } = headId host sha action :=
    (stageAttemptId_trim host _).trans (stageAttemptId_unbound host sha action)
  have hblank : trim (syncedClaim action sha).headSha ≠ "" := hne
  unfold claimStageAttempt
  simp only [hid]
  rw [if_neg hblank, if_neg hknown]
  cases ledger.find (headId host sha action) <;> rfl

variable (host) in
lemma ensureOne_any (ledger : StageAttemptLedger) (action : StageAction) (sha nowIso : String) :
    (trim sha = "" ∨ ∃ row, ledger.find (headId host sha action) = some row) ∧
        ensureOne host ledger action sha nowIso = (none, ledger) ∨
      (trim sha ≠ "" ∧ ledger.find (headId host sha action) = none) ∧ ensureOne host ledger action sha nowIso =
          (some (headId host sha action), { ledger with
              attempts := ledger.attempts ++ [ensuredRow host ledger action sha nowIso] }) := by
  have hid := stageAttemptId_unbound host sha action
  unfold ensureOne
  by_cases hblank : trim sha = ""
  · refine .inl ⟨.inl hblank, ?_⟩
    split
    · rfl
    · simp only [claimStageAttempt, hblank, if_true]
  · have hclaim := @claim_syncedClaim host ledger action sha nowIso hblank
    simp only [syncedClaim] at hclaim
    cases hfind : ledger.find (headId host sha action) with
    | some row =>
      refine .inl ⟨.inr ⟨row, rfl⟩, ?_⟩
      split
      · rfl
      · rw [hclaim, hfind]
    | none =>
      refine .inr ⟨⟨hblank, rfl⟩, ?_⟩
      have hnot : hasAttempted host ledger { headSha := sha, action := action.name } = false := by
        simp [hasAttempted, hid, hfind]
      have hne : sha ≠ "" := by
        rintro rfl
        exact hblank (by decide)
      rw [if_neg (by simp [hne, hnot]), hclaim, hfind]
      simp only [claimRow_attemptId, Option.getD_some]
      exact congrArg (Prod.mk _) (complete_claimed ledger action sha (trim sha) _ nowIso hfind)

variable (host) in
/-- The rows that were found are found again, and what is found besides counts. -/
structure Grows (ledger ledger' : StageAttemptLedger) : Prop where
  found : ∀ id row, ledger.find id = some row → ledger'.find id = some row
  added : ∀ id row, ledger.find id = none → ledger'.find id = some row → isConsumed host row = true

lemma Grows.refl (ledger : StageAttemptLedger) : Grows host ledger ledger where
  found := fun _ _ h => h
  added := fun id row hnone hsome => by
    rw [hnone] at hsome
    cases hsome

lemma Grows.trans {a b c : StageAttemptLedger} (h : Grows host a b) (h' : Grows host b c) :
    Grows host a c where
  found := fun id row hfind => h'.found id row (h.found id row hfind)
  added := fun id row hnone hsome => by
    cases hb : b.find id with
    | none => exact h'.added id row hb hsome
    | some row' =>
      obtain rfl : row' = row := Option.some.inj ((h'.found id row' hb).symm.trans hsome)
      exact h.added id row' hnone hb

lemma Grows.append (ledger : StageAttemptLedger) (hrow : isConsumed host row = true) :
    Grows host ledger { ledger with attempts := ledger.attempts ++ [row] } where
  found := fun id row' hfind => by
    simp only [StageAttemptLedger.find] at hfind ⊢
    rw [find?_append, hfind]
    rfl
  added := fun id row' hnone hsome => by
    simp only [StageAttemptLedger.find] at hnone hsome
    rw [find?_append, hnone, Option.none_or] at hsome
    rw [mem_singleton.1 (mem_of_find?_eq_some hsome)]
    exact hrow

lemma ensureOne_grows (ledger : StageAttemptLedger) (action : StageAction) (sha nowIso : String) :
    Grows host ledger (ensureOne host ledger action sha nowIso).2 := by
  rcases ensureOne_any host ledger action sha nowIso with ⟨-, hsame⟩ | ⟨⟨hne, -⟩, hadded⟩
  · rw [hsame]
    exact .refl ledger
  · rw [hadded]
    exact .append ledger (unboundRow_ensuredRow ledger action nowIso hne).counts.2.1

lemma ensure_grows (nowIso : String) (action : StageAction) (shas : List String)
    (ledger : StageAttemptLedger) : Grows host ledger (ensure host nowIso action shas ledger).2 := by
  induction shas generalizing ledger with
  | nil => exact .refl ledger
  | cons sha shas ih => exact (ensureOne_grows ledger action sha nowIso).trans (ih _)

lemma ensureAll_grows (nowIso : String) (sets : List (StageAction × List String))
    (ledger : StageAttemptLedger) : Grows host ledger (ensureAll host nowIso sets ledger).2 := by
  induction sets generalizing ledger with
  | nil => exact .refl ledger
  | cons set sets ih =>
    obtain ⟨action, shas⟩ := set
    exact (ensure_grows nowIso action shas ledger).trans (ih _)

/-! ## What was synchronized counts -/

variable (host) in
/-- The row that is found for an identity counts. -/
def Attempted (ledger : StageAttemptLedger) (id : String) : Prop :=
  ∃ row, ledger.find id = some row ∧ isConsumed host row = true

variable (host) in
/-- No row that does not count, such as a superseded one, has the identity. -/
def Free (ledger : StageAttemptLedger) (id : String) : Prop :=
  ∀ row, ledger.find id = some row → isConsumed host row = true

lemma hasAttempted_iff (ledger : StageAttemptLedger) (sha : String) (action : StageAction) :
    hasAttempted host ledger { headSha := sha, action := action.name } = true ↔
      Attempted host ledger (headId host sha action) := by
  have hid := stageAttemptId_unbound host sha action
  simp only [hasAttempted, hid, Attempted]
  cases ledger.find (headId host sha action) with
  | none => simp
  | some row => simp

variable {ledger : StageAttemptLedger} {ledger' : StageAttemptLedger} {id : String}

lemma Grows.attempted (h : Grows host ledger ledger') (hid : Attempted host ledger id) : Attempted host ledger' id := by
  obtain ⟨row, hfind, hconsumed⟩ := hid
  exact ⟨row, h.found id row hfind, hconsumed⟩

lemma Grows.free (h : Grows host ledger ledger') (hid : Free host ledger id) : Free host ledger' id := by
  intro row hfind
  cases hold : ledger.find id with
  | none => exact h.added id row hold hfind
  | some row' =>
    obtain rfl : row' = row := Option.some.inj ((h.found id row' hold).symm.trans hfind)
    exact hid row' hold

variable {nowIso : String}

lemma ensureOne_attempted (hne : trim sha ≠ "") (hfree : Free host ledger (headId host sha action)) :
    Attempted host (ensureOne host ledger action sha nowIso).2 (headId host sha action) := by
  rcases ensureOne_any host ledger action sha nowIso with ⟨hblank | ⟨row, hfind⟩, hsame⟩ | ⟨⟨-, hnone⟩, hadded⟩
  · exact absurd hblank hne
  · rw [hsame]
    exact ⟨row, hfind, hfree row hfind⟩
  · have hrow := @unboundRow_ensuredRow host ledger action sha nowIso hne
    rw [hadded]
    refine ⟨ensuredRow host ledger action sha nowIso, ?_, hrow.counts.2.1⟩
    simp only [StageAttemptLedger.find] at hnone ⊢
    rw [find?_append, hnone]
    simp [hrow.id]

variable {shas : List String}

lemma ensure_attempted (hsha : sha ∈ shas) (hne : trim sha ≠ "") (hfree : Free host ledger (headId host sha action)) :
    Attempted host (ensure host nowIso action shas ledger).2 (headId host sha action) := by
  induction shas generalizing ledger with
  | nil => cases hsha
  | cons first shas ih =>
    rcases mem_cons.1 hsha with rfl | hsha
    · exact (ensure_grows nowIso action shas _).attempted (ensureOne_attempted hne hfree)
    · exact ih hsha ((ensureOne_grows ledger action first nowIso).free hfree)

lemma ensureAll_attempted {action : StageAction} {shas : List String} {sha nowIso : String}
    {sets : List (StageAction × List String)} (hset : (action, shas) ∈ sets) (hsha : sha ∈ shas)
    (hne : trim sha ≠ "") {ledger : StageAttemptLedger} (hfree : Free host ledger (headId host sha action)) :
    Attempted host (ensureAll host nowIso sets ledger).2 (headId host sha action) := by
  induction sets generalizing ledger with
  | nil => cases hset
  | cons first sets ih =>
    obtain ⟨action', shas'⟩ := first
    rcases mem_cons.1 hset with heq | hset
    · obtain ⟨rfl, rfl⟩ := Prod.mk.inj heq
      exact (ensureAll_grows nowIso sets _).attempted (ensure_attempted hsha hne hfree)
    · exact ih hset ((ensure_grows nowIso action' shas' ledger).free hfree)

variable (host) in
lemma attempts_sync (ledger : StageAttemptLedger) (p : CiProjection) (nowIso : String) :
    ∃ archive, (syncCiProjectionIntoLedger host ledger p nowIso).2.attempts =
      (ensureAll host nowIso p.sets { ledger with preArchiveSha := archive }).2.attempts := by
  refine ⟨(p.preArchiveSha.filter (· ≠ "")).or ledger.preArchiveSha, ?_⟩
  simp only [syncCiProjectionIntoLedger]
  split <;> rfl

lemma hasAttempted_synced {p : CiProjection} (nowIso : String) (hset : (action, shas) ∈ p.sets)
    (hsha : sha ∈ shas) (hne : trim sha ≠ "") (hfree : Free host ledger (headId host sha action)) :
    hasAttempted host (syncCiProjectionIntoLedger host ledger p nowIso).2
      { headSha := sha, action := action.name } = true := by
  rw [hasAttempted_iff]
  obtain ⟨archive, hattempts⟩ := attempts_sync host ledger p nowIso
  obtain ⟨row, hfind, hconsumed⟩ := @ensureAll_attempted host _ _ _ nowIso _ hset hsha hne
    { ledger with preArchiveSha := archive } hfree
  refine ⟨row, ?_, hconsumed⟩
  simp only [StageAttemptLedger.find] at hfind ⊢
  rw [hattempts]
  exact hfind

/-! ## Synchronizing what a ledger reports -/

lemma ensure_same (nowIso : String) (h : ∀ sha ∈ shas, trim sha = "" ∨
      ∃ row, ledger.find (headId host sha action) = some row) :
    ensure host nowIso action shas ledger = ([], ledger) := by
  induction shas with
  | nil => rfl
  | cons sha shas ih =>
    have hfirst : ensureOne host ledger action sha nowIso = (none, ledger) := by
      rcases ensureOne_any host ledger action sha nowIso with ⟨-, hsame⟩ |
        ⟨⟨hne, hnone⟩, -⟩
      · exact hsame
      · rcases h sha (by simp) with hblank | ⟨row, hfind⟩
        · exact absurd hblank hne
        · rw [hnone] at hfind
          cases hfind
    rw [ensure, hfirst, ih fun sha' hsha' => h sha' (by simp [hsha'])]
    rfl

lemma ensureAll_same {sets : List (StageAction × List String)}
    (nowIso : String) (h : ∀ set ∈ sets, ∀ sha ∈ set.2, trim sha = "" ∨
      ∃ row, ledger.find (headId host sha set.1) = some row) : ensureAll host nowIso sets ledger = ([], ledger) := by
  induction sets with
  | nil => rfl
  | cons set sets ih =>
    obtain ⟨action, shas⟩ := set
    rw [ensureAll, ensure_same nowIso (h (action, shas) (by simp)), ih fun set' hset' => h set' (by simp [hset'])]
    rfl

lemma distinct_append_self {texts : List String} (h : texts.Nodup) : distinct (texts ++ texts) = texts := by
  have hnew : ∀ seen rest : List String, (seen ++ rest).Nodup →
      rest.foldl (fun seen text => if seen.contains text then seen else seen ++ [text]) seen = seen ++ rest := by
    intro seen rest hnodup
    induction rest generalizing seen with
    | nil => simp
    | cons text rest ih =>
      have hnot : text ∉ seen := fun hmem =>
        (disjoint_of_nodup_append hnodup) hmem (by simp)
      rw [foldl_cons, if_neg (by simpa using hnot), ih]
      · simp
      · simpa using hnodup
  have hold : ∀ rest : List String, (∀ text ∈ rest, text ∈ texts) →
      rest.foldl (fun seen text => if seen.contains text then seen else seen ++ [text]) texts = texts := by
    intro rest hrest
    induction rest with
    | nil => rfl
    | cons text rest ih =>
      rw [foldl_cons, if_pos (by simpa using hrest text (by simp)), ih fun t ht => hrest t (by simp [ht])]
  rw [distinct, foldl_append, hnew [] texts (by simpa using h), nil_append, hold texts fun _ ht => ht]

variable (host) in
/-- The heads that are reported for a class have a row of their identity. -/
def ReportsUnbound (ledger : StageAttemptLedger) : Prop :=
  ∀ (c : CiClass), ∀ sha ∈ attemptedShasForAction host ledger c.action,
    trim sha = "" ∨ ∃ row, ledger.find (headId host sha c.action) = some row

lemma sync_own (hrows : ReportsUnbound host ledger)
    (hterminal : (ledger.ciTerminalFailRecordedShas.getD []).Nodup) (nowIso : String) :
    syncCiProjectionIntoLedger host ledger (projectCiRecoveryFromLedger host ledger).toCache nowIso = ([], ledger) := by
  have harchive : { ledger with preArchiveSha :=
      (ledger.preArchiveSha.filter (· ≠ "")).or ledger.preArchiveSha } = ledger := by
    have hsame : (ledger.preArchiveSha.filter (· ≠ "")).or ledger.preArchiveSha = ledger.preArchiveSha := by
      cases ledger.preArchiveSha with
      | none => rfl
      | some sha => cases hkept : (some sha).filter (· ≠ "") with
        | none => rfl
        | some sha' => exact congrArg some (Option.some.inj (Option.filter_eq_some_iff.1 hkept).1).symm
    rw [hsame]
  have hsets : ensureAll host nowIso (projectCiRecoveryFromLedger host ledger).toCache.sets ledger = ([], ledger) := by
    refine ensureAll_same nowIso fun set hset sha hsha => ?_
    simp only [CiProjection.sets, CiRecoveryProjection.toCache, shas_project, mem_cons, not_mem_nil, or_false] at hset
    rcases hset with rfl | rfl | rfl | rfl | rfl | rfl
    · exact hrows .rebase sha hsha
    · exact hrows .rerun sha hsha
    · exact hrows .archiveFail sha hsha
    · exact hrows .assertionFix sha hsha
    · exact hrows .docsStaleHeal sha hsha
    · cases hsha
  have hrecorded : (projectCiRecoveryFromLedger host ledger).toCache.ciTerminalFailRecordedShas =
      ledger.ciTerminalFailRecordedShas.getD [] := getD_nonEmptyList _
  have hpre : (projectCiRecoveryFromLedger host ledger).toCache.preArchiveSha = ledger.preArchiveSha := rfl
  unfold syncCiProjectionIntoLedger
  simp only [CiProjection.sets] at hsets
  simp only [hpre, harchive, hrecorded, hsets]
  split
  · rfl
  · next hne =>
    rw [distinct_append_self hterminal]
    have hshas : some (ledger.ciTerminalFailRecordedShas.getD []) = ledger.ciTerminalFailRecordedShas := by
      cases hrecord : ledger.ciTerminalFailRecordedShas with
      | none =>
        rw [hrecord] at hne
        exact absurd rfl hne
      | some shas => rfl
    rw [hshas]

end AgentPipeline.Stage
