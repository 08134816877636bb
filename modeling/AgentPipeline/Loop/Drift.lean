import AgentPipeline.Loop.Lifecycle

/-!
# Drift: the ledger against one live observation

The pure half of `loop/reconcile.ts`: how far an observed identity carries an item forward
(`verifiedForwardTarget`), how the ledger's state disagrees with it (`classifyDrift`), which local
state it supports (`reconstructedLocalState`) and what to do next (`computeNextAction`).

A pull request counts as the item's implementation when its role, artifact, candidate epoch and
operation marker are all bound (`exactImplementation`).
-/

namespace AgentPipeline.Loop

open JsText (trim nonBlank)

/-- `REMOTE_PROVING_STATES`. -/
def isRemoteProvingState : LoopItemState → Bool
  | .prOpened | .ready | .merged | .released | .deployed => true
  | _ => false

/-- `isAdvanceStillNeeded`: an open pull request without the ready label, not parked for a
human. -/
def isAdvanceStillNeeded (identity : LoopExternalIdentity) : Bool :=
  identity.prNumber.isSome && identity.prState = some .opened && !identity.readyLabelPresent &&
    identity.pipelineStage ≠ some "needs-human"

def checksRegressed (bound : Option LoopExternalIdentity) (identity : LoopExternalIdentity) :
    Bool :=
  bound.any (fun b => b.checksConclusion = .success) &&
    (identity.checksConclusion = .failure || identity.checksConclusion = .pending)

/-- `pr:12/open checks:success`. -/
def describeObservedState (identity : LoopExternalIdentity) : String :=
  let number := (identity.prNumber.map toString).getD "none"
  let state := match identity.prState with
    | some .opened => "open"
    | some .closed => "closed"
    | some .merged => "merged"
    | none => "none"
  let checks := match identity.checksConclusion with
    | .success => "success"
    | .failure => "failure"
    | .pending => "pending"
    | .none => "none"
  "pr:" ++ number ++ "/" ++ state ++ " checks:" ++ checks

variable (rt : JsRuntime)

/-- `text.trim().toLowerCase()`. -/
def foldSha (text : String) : String :=
  rt.toLowerCase (trim text)

def localRemoteIdentityDrift (identity : LoopExternalIdentity)
    (bound : Option LoopExternalIdentity) : Bool :=
  if identity.rebaseInProgress then true
  else
    let onDisk := foldSha rt (identity.localHeadSha.getD "")
    let claimed := foldSha rt ((bound.map (·.headSha)).getD "")
    if onDisk ≠ "" ∧ claimed ≠ "" ∧ onDisk ≠ claimed ∧ identity.prState ≠ some .merged then true
    -- the source asks for the rebase once more, so dirt alone never counts
    else identity.productDirt && identity.rebaseInProgress

/-- Role, artifact, candidate epoch and operation marker all bind the observed pull request to
this item. -/
def exactImplementation (identity : LoopExternalIdentity) : Bool :=
  let expectedOperation := (identity.expectedLogicalOperationId.map trim).getD ""
  let artifactOperation := (identity.logicalOperationId.map trim).getD ""
  identity.artifactRole = some .implementation && identity.artifactIdentity.any nonBlank &&
    nonBlank identity.headSha &&
    identity.candidateEpoch.map (foldSha rt) = some (foldSha rt identity.headSha) &&
    (expectedOperation = "" || artifactOperation = expectedOperation)

def verifiedForwardTarget (identity : LoopExternalIdentity) : Option LoopItemState :=
  if identity.prState = some .merged ∧ identity.integrationCertainty = some .knownComplete ∧
      exactImplementation rt identity then
    some .merged
  else if identity.prNumber.isSome ∧ identity.prState = some .opened then
    if !exactImplementation rt identity then none
    else if identity.readyLabelPresent then some .ready
    -- an open pull request that still advances must not strand the item at `pr_opened`
    else if isAdvanceStillNeeded identity then none
    else some .prOpened
  else
    none

/-- `reconstructedLocalState`: holds and blocked recovery stay owned. -/
def reconstructedLocalState (identity : LoopExternalIdentity) (current : LoopItemState) :
    LoopItemState :=
  if current = .waiting ∨ current = .paused ∨ current = .blocked then current
  else
    match verifiedForwardTarget rt identity with
    | some target => target
    | none =>
      if identity.prNumber.isSome ∧ identity.prState = some .opened ∧ isAdvanceStillNeeded identity then
        .inProgress
      else if isRemoteProvingState current then .implemented
      else current

/-- The states past which a merged pull request proves nothing new. -/
def isPostMergeState : LoopItemState → Bool
  | .merged | .released | .deployed => true
  | _ => false

/-- The end of `classifyDrift`, once the observed objects are the bound ones. -/
def classifyProvenState (state : LoopItemState) (identity : LoopExternalIdentity)
    (bound : Option LoopExternalIdentity) : Option LoopDriftClass :=
  let regressed := if checksRegressed bound identity then some .checksRegressed else none
  match state with
  | .prOpened => if identity.prState ≠ some .opened then some .ledgerAhead else regressed
  | .ready =>
    if identity.prState ≠ some .opened ∨ !identity.readyLabelPresent then some .ledgerAhead
    else regressed
  | .merged | .released | .deployed =>
    if verifiedForwardTarget rt identity ≠ some .merged then some .ledgerAhead else none
  | _ => none

def classifyDrift (state : LoopItemState) (identity : LoopExternalIdentity)
    (bound : Option LoopExternalIdentity) : Option LoopDriftClass :=
  if !isRemoteProvingState state then
    let target := verifiedForwardTarget rt identity
    -- bare existence of a pull request does not supersede blocked recovery
    if target.isSome ∧ ¬(state = .blocked ∧ target = some .prOpened) then some .ledgerBehind
    else if localRemoteIdentityDrift rt identity bound then some .identityMismatch
    else if checksRegressed bound identity then some .checksRegressed
    else none
  else if !isPostMergeState state ∧ verifiedForwardTarget rt identity = some .merged then
    some .ledgerBehind
  else if state = .prOpened ∧ identity.prState = some .opened ∧ identity.readyLabelPresent then
    some .ledgerBehind
  else if identity.prNumber.isNone then some .externalAbsent
  else if bound.any (fun b => b.prNumber.isSome && b.prNumber ≠ identity.prNumber) then
    some .identityMismatch
  else if localRemoteIdentityDrift rt identity bound then some .identityMismatch
  else if bound.any (fun b =>
      b.headSha ≠ "" && identity.headSha ≠ "" && b.headSha ≠ identity.headSha && !isPostMergeState state) then
    some .identityMismatch
  else classifyProvenState rt state identity bound

/-! ## The next action -/

def isReviewPipelineStage (stage : Option String) : Bool :=
  stage = some "review-1" || stage = some "review-2"

def computeNextAction (state : LoopItemState) (identity : LoopExternalIdentity)
    (drift : Option LoopDriftClass) (mergeBarrierSetForThisItem currentHumanAuthority : Bool) :
    LoopNextAction :=
  let reviewStage := isReviewPipelineStage identity.pipelineStage
  if drift = some .ledgerBehind then .repairForward
  else if currentHumanAuthority then .holdForHuman
  else if drift = some .ledgerAhead ∨ drift = some .externalAbsent ∨ drift = some .identityMismatch then
    .reconstruct
  else if drift = some .checksRegressed then
    if reviewStage then .advance
    else if identity.checksConclusion = .pending then .awaitChecks
    else .noop
  else if identity.blockedLabelPresent then .noop
  else
    match state with
    | .prOpened =>
      if reviewStage then .advance
      else if identity.checksConclusion = .pending then .awaitChecks
      else if identity.checksConclusion = .success then .advance
      else .noop
    | .inProgress | .pending => if reviewStage then .advance else .noop
    | .merged => if mergeBarrierSetForThisItem then .clearMergeBarrier else .noop
    | _ => .noop

/-! ## The cases of the forward target -/

variable {identity : LoopExternalIdentity}

lemma verifiedForwardTarget_merged_iff : verifiedForwardTarget rt identity = some .merged ↔
      identity.prState = some .merged ∧ identity.integrationCertainty = some .knownComplete ∧
        exactImplementation rt identity = true := by
  unfold verifiedForwardTarget
  split
  · next h => simp [h]
  · next h =>
    simp only [h, iff_false]
    repeat' split
    all_goals simp

/-- For an open pull request the ready label decides between `ready` and bookkeeping. -/
lemma verifiedForwardTarget_opened
    (h : identity.prState = some .opened) :
    verifiedForwardTarget rt identity = if identity.prNumber.isSome ∧ exactImplementation rt identity = true then
        if identity.readyLabelPresent then some .ready
        else if isAdvanceStillNeeded identity then none else some .prOpened
      else none := by
  unfold verifiedForwardTarget
  by_cases hn : identity.prNumber.isSome <;> by_cases he : exactImplementation rt identity <;>
    simp [h, hn, he]

lemma verifiedForwardTarget_eq_some {target : LoopItemState} (h : verifiedForwardTarget rt identity = some target) :
    exactImplementation rt identity = true ∧ ((target = .merged ∧ identity.prState = some .merged) ∨
        (identity.prNumber.isSome ∧ identity.prState = some .opened ∧ isAdvanceStillNeeded identity = false ∧
          ((target = .ready ∧ identity.readyLabelPresent = true) ∨
            (target = .prOpened ∧ identity.readyLabelPresent = false)))) := by
  by_cases hm : verifiedForwardTarget rt identity = some .merged
  · have hmerged := (verifiedForwardTarget_merged_iff rt).1 hm
    have htarget : target = .merged := by simpa [hm, eq_comm] using h
    exact ⟨hmerged.2.2, .inl ⟨htarget, hmerged.1⟩⟩
  -- not merged: without an open pull request there is no target at all
  · by_cases ho : identity.prNumber.isSome ∧ identity.prState = some .opened
    · rw [verifiedForwardTarget_opened rt ho.2] at h
      by_cases he : exactImplementation rt identity <;> simp [ho.1, he] at h
      refine ⟨he, .inr ⟨ho.1, ho.2, ?_⟩⟩
      by_cases hr : identity.readyLabelPresent
      · have htarget : LoopItemState.ready = target := by simpa [hr] using h
        simp [hr, isAdvanceStillNeeded, ← htarget]
      · by_cases ha : isAdvanceStillNeeded identity <;> simp [hr, ha] at h
        simp [ha, hr, ← h]
    · have hnone : verifiedForwardTarget rt identity = none := by
        unfold verifiedForwardTarget at hm ⊢
        split at hm
        · simp at hm
        · next hno => simp [hno, ho]
      simp [hnone] at h

/-! ## The cases of `ledger-behind` -/

/-- The observation that `classifyDrift` and `verifiedForwardTarget` judge differently: an open
pull request with the ready label that is not bound to the item. -/
def readyLabelWithoutBinding (state : LoopItemState) (identity : LoopExternalIdentity) : Prop :=
  state = .prOpened ∧ identity.prState = some .opened ∧ identity.readyLabelPresent = true ∧
    ¬(identity.prNumber.isSome = true ∧ exactImplementation rt identity = true)

instance (state : LoopItemState) (identity : LoopExternalIdentity) :
    Decidable (readyLabelWithoutBinding rt state identity) :=
  inferInstanceAs (Decidable (_ ∧ _ ∧ _ ∧ ¬_))

lemma verifiedForwardTarget_of_readyLabelWithoutBinding {state : LoopItemState}
    (h : readyLabelWithoutBinding rt state identity) : verifiedForwardTarget rt identity = none := by
  obtain ⟨_, hopen, _, hexact⟩ := h
  rw [verifiedForwardTarget_opened rt hopen, if_neg hexact]

lemma classifyDrift_of_readyLabel (bound : Option LoopExternalIdentity) (hopen : identity.prState = some .opened)
    (hready : identity.readyLabelPresent = true) : classifyDrift rt .prOpened identity bound = some .ledgerBehind := by
  simp [classifyDrift, isRemoteProvingState, hopen, hready]

/-- `ledger-behind` has a forward target, or it was decided on the ready label alone. -/
lemma classifyDrift_eq_ledgerBehind {state : LoopItemState} {bound : Option LoopExternalIdentity}
    (h : classifyDrift rt state identity bound = some .ledgerBehind) :
    (∃ target, verifiedForwardTarget rt identity = some target) ∨ (state = .prOpened ∧ identity.prState = some .opened ∧
        identity.readyLabelPresent = true) := by
  -- the last check reports what is ahead or regressed, never what is behind
  have hproven : classifyProvenState rt state identity bound ≠ some .ledgerBehind := by
    unfold classifyProvenState
    split <;> split <;> (try split) <;> simp
  unfold classifyDrift at h
  split at h
  · -- a local state: the target itself is the evidence
    left
    cases ht : verifiedForwardTarget rt identity with
    | some target => exact ⟨target, rfl⟩
    | none =>
      simp only [ht] at h
      split at h
      · next hc => simp at hc
      · split at h
        · simp at h
        · split at h <;> simp at h
  · split at h
    · next hm => exact .inl ⟨.merged, hm.2⟩
    · split at h
      · next hl => exact .inr hl
      · split at h
        · simp at h
        · split at h
          · simp at h
          · split at h
            · simp at h
            · split at h
              · simp at h
              · exact absurd h hproven

end AgentPipeline.Loop
