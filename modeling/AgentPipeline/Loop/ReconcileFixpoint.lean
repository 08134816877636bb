import AgentPipeline.Loop.ReconcileAgreement

/-!
# ReconcileFixpoint: a second pass under unchanged live truth

A pass moves an item and rebinds it to the observation it was judged by. The second pass judges it
against that binding. Repaired, reconstructed and healed items stay where they are
(`stateAfter_of_target`, `stateAfter_local`); an aligned item may not: its first pass only renews
the binding, and a worktree head that was equal to the old bound head may differ from the new one.
`RebindsIntoDrift` names these items, and `reconcile_fixpoint_iff` shows that the second pass
changes no state exactly when the first one met none of them.
-/

namespace AgentPipeline.Loop

variable {old : Option LoopItemLedgerEntry}

section Item

variable (rt : JsRuntime)

/-! ## One turn as a function -/

/-- The stranded states that a pass heals. -/
def healable : LoopItemState → Bool
  | .prOpened | .implemented => true
  | _ => false

/-- The state of an item after its turn. -/
def stateAfter (state : LoopItemState) (identity : LoopExternalIdentity)
    (bound : Option LoopExternalIdentity) : LoopItemState :=
  match classifyDrift rt state identity bound with
  | some .ledgerBehind => (verifiedForwardTarget rt identity).getD state
  | some .ledgerAhead | some .externalAbsent | some .identityMismatch =>
    reconstructedLocalState rt identity state
  | some .checksRegressed | none =>
    if healable state && isAdvanceStillNeeded identity then .inProgress else state

/-- The turn leaves the item bound to its old identity. -/
def keepsBinding (state : LoopItemState) (identity : LoopExternalIdentity)
    (bound : Option LoopExternalIdentity) : Bool :=
  match classifyDrift rt state identity bound with
  | some .checksRegressed => !(healable state && isAdvanceStillNeeded identity)
  | none =>
    !(healable state && isAdvanceStillNeeded identity) && !(isRemoteProvingState state || identity.prNumber.isSome)
  | _ => false

def boundAfter (state : LoopItemState) (identity : LoopExternalIdentity)
    (bound : Option LoopExternalIdentity) : Option LoopExternalIdentity :=
  if keepsBinding rt state identity bound then bound else some identity

variable {state : LoopItemState}

lemma healable_iff : healable state = true ↔ state = .prOpened ∨ state = .implemented := by
  cases state <;> simp [healable]

variable {identity : LoopExternalIdentity}

lemma reconcileItem_eq_ok {engine : LoopEngineName} {time id : String}
    {entry : LoopItemLedgerEntry} {r : ReconciledItem} (h : reconcileItem rt engine time id entry identity = .ok r) :
    r.entry.state = stateAfter rt entry.state identity entry.lastVerifiedIdentity ∧ r.entry.lastVerifiedIdentity =
        boundAfter rt entry.state identity entry.lastVerifiedIdentity := by
  have hheals : ∀ {p : Prop}, ¬((entry.state = .prOpened ∨ entry.state = .implemented) ∧ p) →
      ¬(healable entry.state = true ∧ p) := fun h hp => h ⟨healable_iff.1 hp.1, hp.2⟩
  unfold reconcileItem at h
  dsimp only at h
  unfold stateAfter boundAfter keepsBinding
  split at h
  · next hdrift =>
    split at h
    · simp at h
    · next target htarget =>
      cases h
      by_cases hready : target = .ready <;>
        simp [hdrift, htarget, hready, LoopItemLedgerEntry.moved]
  · next hdrift =>
    cases h
    simp [hdrift, LoopItemLedgerEntry.moved]
  · next hdrift =>
    cases h
    simp [hdrift, LoopItemLedgerEntry.moved]
  · next hdrift =>
    cases h
    simp [hdrift, LoopItemLedgerEntry.moved]
  · next hdrift =>
    split at h
    · next hheal =>
      cases h
      simp [hdrift, healable_iff.2 hheal.1, hheal.2, LoopItemLedgerEntry.moved]
    · next hheal =>
      cases h
      simp [hdrift, hheals hheal]
  · next hdrift =>
    split at h
    · next hheal =>
      cases h
      simp [hdrift, healable_iff.2 hheal.1, hheal.2, LoopItemLedgerEntry.moved]
    · next hheal =>
      cases h
      have hno : (healable entry.state && isAdvanceStillNeeded identity) = false :=
        Bool.eq_false_iff.2 fun h => hheals hheal (by simpa using h)
      -- aligned: only the binding may be renewed
      by_cases hremote : isRemoteProvingState entry.state = true
      · simp [hdrift, hno, hremote]
      · by_cases hpr : identity.prNumber.isSome = true
        · simp [hdrift, hno, hpr]
        · simp [hdrift, hno, hremote, hpr]

/-! ## Local states -/

/-- The holds that a reconstruction leaves alone. -/
def isOwnedHold : LoopItemState → Bool
  | .waiting | .paused | .blocked => true
  | _ => false

lemma isOwnedHold_iff : (state = .waiting ∨ state = .paused ∨ state = .blocked) ↔ isOwnedHold state = true := by
  cases state <;> simp [isOwnedHold]

lemma isAdvanceStillNeeded_eq_true (h : isAdvanceStillNeeded identity = true) :
    identity.prNumber.isSome = true ∧ identity.prState = some .opened ∧ identity.readyLabelPresent = false := by
  simp only [isAdvanceStillNeeded, Bool.and_eq_true, decide_eq_true_eq, Bool.not_eq_true'] at h
  exact ⟨h.1.1.1, h.1.1.2, h.1.2⟩

lemma reconstructedLocalState_of_none
    (htarget : verifiedForwardTarget rt identity = none) :
    reconstructedLocalState rt identity state = if isOwnedHold state then state
      else if isAdvanceStillNeeded identity then .inProgress
      else if isRemoteProvingState state then .implemented else state := by
  unfold reconstructedLocalState
  simp only [isOwnedHold_iff, htarget]
  cases ha : isAdvanceStillNeeded identity with
  | false => simp
  | true =>
    have hopen := isAdvanceStillNeeded_eq_true ha
    simp [hopen.1, hopen.2.1]

variable {bound : Option LoopExternalIdentity}

/-- Without a forward target a local state moves only to `in_progress`, and only for an open pull
request that still advances: from a stranded state, or when the worktree has drifted. -/
theorem stateAfter_local (hlocal : isRemoteProvingState state = false)
    (htarget : verifiedForwardTarget rt identity = none) :
    stateAfter rt state identity bound = if isAdvanceStillNeeded identity && !isOwnedHold state &&
          (localRemoteIdentityDrift rt identity bound || healable state) then .inProgress
      else state := by
  have hhold : healable state = true → isOwnedHold state = false := by
    cases state <;> simp [healable, isOwnedHold]
  unfold stateAfter classifyDrift
  simp only [hlocal, htarget, Bool.not_false, if_true, Option.isSome_none, Bool.false_eq_true, false_and, if_false]
  cases hd : localRemoteIdentityDrift rt identity bound with
  | true =>
    simp only [if_true, reconstructedLocalState_of_none rt htarget, hlocal, Bool.true_or, Bool.and_true]
    cases isOwnedHold state <;> simp
  | false =>
    have hheal : (if healable state && isAdvanceStillNeeded identity then LoopItemState.inProgress
        else state) =
        if isAdvanceStillNeeded identity && !isOwnedHold state && (false || healable state) then
          .inProgress
        else state := by
      cases hh : healable state with
      | false => simp
      | true => simp [hhold hh]
    by_cases hr : checksRegressed bound identity = true
    · simpa [hr] using hheal
    · simpa [hr] using hheal

lemma stateAfter_blocked (htarget : verifiedForwardTarget rt identity = some .prOpened) :
    stateAfter rt .blocked identity bound = .blocked := by
  unfold stateAfter classifyDrift
  by_cases hd : localRemoteIdentityDrift rt identity bound = true
  · simp [isRemoteProvingState, htarget, hd, reconstructedLocalState]
  · by_cases hr : checksRegressed bound identity = true <;>
      simp [isRemoteProvingState, htarget, hd, hr, healable]

/-! ## Proven states -/

lemma not_checksRegressed_self (identity : LoopExternalIdentity) :
    checksRegressed (some identity) identity = false := by
  cases h : identity.checksConclusion <;> simp [checksRegressed, h]

lemma classifyDrift_rebound
    (hremote : isRemoteProvingState state = true) :
    classifyDrift rt state identity (some identity) =
      if !isPostMergeState state ∧ verifiedForwardTarget rt identity = some .merged then
        some .ledgerBehind
      else if state = .prOpened ∧ identity.prState = some .opened ∧ identity.readyLabelPresent then
        some .ledgerBehind
      else if identity.prNumber.isNone then some .externalAbsent
      else if localRemoteIdentityDrift rt identity (some identity) then some .identityMismatch
      else classifyProvenState rt state identity (some identity) := by
  unfold classifyDrift
  simp [hremote]

lemma stateAfter_of_target {target : LoopItemState} (htarget : verifiedForwardTarget rt identity = some target) :
    stateAfter rt target identity (some identity) = target := by
  have hreconstruct : isOwnedHold target = false → reconstructedLocalState rt identity target = target := by
    intro hhold
    unfold reconstructedLocalState
    simp [isOwnedHold_iff, hhold, htarget]
  rcases (verifiedForwardTarget_eq_some rt htarget).2 with ⟨rfl, hmerged⟩ |
    ⟨hpr, hopen, hadvance, ⟨rfl, hready⟩ | ⟨rfl, hready⟩⟩
  · unfold stateAfter
    rw [classifyDrift_rebound rt (by rfl)]
    by_cases hpr : identity.prNumber.isNone = true
    · simp [isPostMergeState, hpr, hreconstruct (by rfl)]
    · by_cases hd : localRemoteIdentityDrift rt identity (some identity) = true
      · simp [isPostMergeState, hpr, hd, hreconstruct (by rfl)]
      · simp [isPostMergeState, hpr, hd, classifyProvenState, htarget, healable]
  · unfold stateAfter
    rw [classifyDrift_rebound rt (by rfl)]
    have hnone : identity.prNumber.isNone = false := by simpa using hpr
    by_cases hd : localRemoteIdentityDrift rt identity (some identity) = true
    · simp [htarget, hnone, hd, hreconstruct (by rfl)]
    · simp [htarget, hnone, hd, classifyProvenState, hopen, hready, not_checksRegressed_self, healable]
  · unfold stateAfter
    rw [classifyDrift_rebound rt (by rfl)]
    have hnone : identity.prNumber.isNone = false := by simpa using hpr
    by_cases hd : localRemoteIdentityDrift rt identity (some identity) = true
    · simp [htarget, hnone, hd, hready, hreconstruct (by rfl)]
    · simp [htarget, hnone, hd, classifyProvenState, hopen, hready, not_checksRegressed_self, hadvance]

/-! ## Items that the first pass moves -/

lemma inProgress_isLocal : isRemoteProvingState .inProgress = false := rfl

lemma implemented_isLocal : isRemoteProvingState .implemented = false := rfl

lemma verifiedForwardTarget_of_advance
    (h : isAdvanceStillNeeded identity = true) : verifiedForwardTarget rt identity = none := by
  have hopen := isAdvanceStillNeeded_eq_true h
  rw [verifiedForwardTarget_opened rt hopen.2.1]
  simp [hopen.2.2, h]

lemma target_of_not_behind (hlocal : isRemoteProvingState state = false)
    (hbehind : classifyDrift rt state identity bound ≠ some .ledgerBehind) : verifiedForwardTarget rt identity = none ∨
      (state = .blocked ∧ verifiedForwardTarget rt identity = some .prOpened) := by
  cases htarget : verifiedForwardTarget rt identity with
  | none => exact .inl rfl
  | some target =>
    by_cases hb : state = .blocked ∧ target = .prOpened
    · exact .inr ⟨hb.1, by rw [hb.2]⟩
    · exact absurd (by simp [classifyDrift, hlocal, htarget, hb]) hbehind

lemma stateAfter_reconstructed (hbehind : classifyDrift rt state identity bound ≠ some .ledgerBehind) :
    stateAfter rt (reconstructedLocalState rt identity state) identity (some identity) =
      reconstructedLocalState rt identity state := by
  by_cases hhold : isOwnedHold state = true
  -- a hold is local, and without a target it stays
  · have hsame : reconstructedLocalState rt identity state = state := by
      simp [reconstructedLocalState, isOwnedHold_iff, hhold]
    have hlocal : isRemoteProvingState state = false := by
      cases state <;> simp [isOwnedHold, isRemoteProvingState] at hhold ⊢
    rw [hsame]
    rcases target_of_not_behind rt hlocal hbehind with htarget | ⟨rfl, htarget⟩
    · simp [stateAfter_local rt hlocal htarget, hhold]
    · exact stateAfter_blocked rt htarget
  · cases htarget : verifiedForwardTarget rt identity with
    | some target =>
      have hsame : reconstructedLocalState rt identity state = target := by
        simp [reconstructedLocalState, isOwnedHold_iff, hhold, htarget]
      rw [hsame]
      exact stateAfter_of_target rt htarget
    | none =>
      rw [reconstructedLocalState_of_none rt htarget]
      simp only [hhold, Bool.false_eq_true, if_false]
      by_cases ha : isAdvanceStillNeeded identity = true
      · simp [ha, stateAfter_local rt inProgress_isLocal htarget]
      · by_cases hremote : isRemoteProvingState state = true
        · simp [ha, hremote, stateAfter_local rt implemented_isLocal htarget]
        · have hlocal : isRemoteProvingState state = false := by simpa using hremote
          simp [ha, hlocal, stateAfter_local rt hlocal htarget]

/-! ## Items that the first pass only rebinds -/

/-- An aligned item whose renewed binding makes it drift: its worktree head is not the head of the
observed pull request, and that observation supports another state. -/
def RebindsIntoDrift (state : LoopItemState) (identity : LoopExternalIdentity)
    (bound : Option LoopExternalIdentity) : Prop :=
  classifyDrift rt state identity bound = none ∧ localRemoteIdentityDrift rt identity (some identity) = true ∧
    (((state = .pending ∨ state = .abandoned ∨ state = .skipped) ∧ isAdvanceStillNeeded identity = true) ∨
      ((state = .ready ∨ state = .prOpened) ∧ isAdvanceStillNeeded identity = false ∧
        exactImplementation rt identity = false))

lemma classifyProvenState_eq_none (h : classifyProvenState rt state identity bound = none) :
    (state = .prOpened → identity.prState = some .opened) ∧
      (state = .ready → identity.prState = some .opened ∧ identity.readyLabelPresent = true) ∧
      (isPostMergeState state = true → verifiedForwardTarget rt identity = some .merged) := by
  unfold classifyProvenState at h
  cases state <;> simp only [reduceCtorEq, false_implies, true_implies, isPostMergeState,
    Bool.false_eq_true, true_and, and_true]
  case prOpened =>
    by_contra hno
    simp [hno] at h
  case ready =>
    by_contra hno
    have hahead : identity.prState ≠ some .opened ∨ (!identity.readyLabelPresent) = true := by
      by_cases hopen : identity.prState = some .opened
      · exact .inr (by simpa [hopen] using hno)
      · exact .inl hopen
    simp only [if_pos hahead, reduceCtorEq] at h
  all_goals
    by_contra hno
    simp [hno] at h

lemma classifyProvenState_rebound (h : classifyProvenState rt state identity bound = none) :
    classifyProvenState rt state identity (some identity) = none := by
  obtain ⟨hopened, hready, hmerged⟩ := classifyProvenState_eq_none rt h
  unfold classifyProvenState
  cases state
  case prOpened => simp [hopened rfl, not_checksRegressed_self]
  case ready => simp [hready rfl, not_checksRegressed_self]
  case merged => simp [hmerged rfl]
  case released => simp [hmerged rfl]
  case deployed => simp [hmerged rfl]
  all_goals simp

lemma classifyDrift_eq_none (hremote : isRemoteProvingState state = true)
    (h : classifyDrift rt state identity bound = none) :
    (isPostMergeState state = false → verifiedForwardTarget rt identity ≠ some .merged) ∧
      ¬(state = .prOpened ∧ identity.prState = some .opened ∧ identity.readyLabelPresent = true) ∧
      identity.prNumber.isNone = false ∧ identity.rebaseInProgress = false ∧
      classifyProvenState rt state identity bound = none := by
  unfold classifyDrift at h
  simp only [hremote, Bool.not_true, Bool.false_eq_true, if_false] at h
  split at h
  · simp at h
  · next hmerged =>
    split at h
    · simp at h
    · next hlabel =>
      split at h
      · simp at h
      · next hpr =>
        split at h
        · simp at h
        · split at h
          · simp at h
          · next hdrift =>
            split at h
            · simp at h
            · refine ⟨fun hpost htarget => hmerged ⟨by simp [hpost], htarget⟩, hlabel,
                by simpa only [Bool.not_eq_true] using hpr, ?_, h⟩
              by_contra hrebase
              exact hdrift (by simp [localRemoteIdentityDrift, hrebase])

lemma stateAfter_rebound_proven (hremote : isRemoteProvingState state = true)
    (halign : classifyDrift rt state identity bound = none)
    (hheal : (healable state && isAdvanceStillNeeded identity) = false) :
    stateAfter rt state identity (some identity) = state ↔ ¬RebindsIntoDrift rt state identity bound := by
  obtain ⟨hmerged, hlabel, hpr, hrebase, hproven⟩ := classifyDrift_eq_none rt hremote halign
  obtain ⟨hopened, hready, hpostMerge⟩ := classifyProvenState_eq_none rt hproven
  have hhold : isOwnedHold state = false := by
    cases state <;> simp [isOwnedHold, isRemoteProvingState] at hremote ⊢
  by_cases hd : localRemoteIdentityDrift rt identity (some identity) = true
  · have hafter : stateAfter rt state identity (some identity) = reconstructedLocalState rt identity state := by
      unfold stateAfter
      rw [classifyDrift_rebound rt hremote, if_neg fun h => hmerged (by simpa using h.1) h.2, if_neg hlabel]
      simp [hpr, hd]
    -- a merged pull request has no worktree to drift from
    have hunmerged : identity.prState ≠ some .merged := by
      intro hpm
      simp [localRemoteIdentityDrift, hrebase, hpm] at hd
    -- an open pull request rebuilds its own state exactly when it is bound to the item
    have hbound : ∀ {b : Bool}, identity.prState = some .opened →
        identity.readyLabelPresent = b → isAdvanceStillNeeded identity = false →
        (b = true ∧ state = .ready ∨ b = false ∧ state = .prOpened) →
        (reconstructedLocalState rt identity state = state ↔ exactImplementation rt identity = true) := by
      intro b hopen hb hadvance hstate
      have hnum : identity.prNumber.isSome = true := by simpa using hpr
      cases he : exactImplementation rt identity with
      | true =>
        have htarget : verifiedForwardTarget rt identity = some state := by
          rw [verifiedForwardTarget_opened rt hopen]
          rcases hstate with ⟨rfl, rfl⟩ | ⟨rfl, rfl⟩ <;> simp [hnum, he, hb, hadvance]
        simp [reconstructedLocalState, isOwnedHold_iff, hhold, htarget]
      | false =>
        have htarget : verifiedForwardTarget rt identity = none := by
          rw [verifiedForwardTarget_opened rt hopen]
          simp [he]
        rw [reconstructedLocalState_of_none rt htarget]
        rcases hstate with ⟨rfl, rfl⟩ | ⟨rfl, rfl⟩ <;>
          simp [isOwnedHold, hadvance, isRemoteProvingState]
    rw [hafter]
    cases state <;> simp only [isRemoteProvingState, Bool.false_eq_true] at hremote
    case prOpened =>
      have hunlabelled : identity.readyLabelPresent = false := by
        by_contra hyes
        exact hlabel ⟨rfl, hopened rfl, by simpa using hyes⟩
      have hadvance : isAdvanceStillNeeded identity = false := by simpa [healable] using hheal
      rw [hbound (hopened rfl) hunlabelled hadvance (.inr ⟨rfl, rfl⟩)]
      simp [RebindsIntoDrift, halign, hd, hadvance]
    case ready =>
      have hadvance : isAdvanceStillNeeded identity = false := by simp [isAdvanceStillNeeded, (hready rfl).2]
      rw [hbound (hready rfl).1 (hready rfl).2 hadvance (.inl ⟨rfl, rfl⟩)]
      simp [RebindsIntoDrift, halign, hd, hadvance]
    all_goals
      -- past the merge an aligned item has a merged pull request, which never drifts
      exact absurd ((verifiedForwardTarget_merged_iff rt).1 (hpostMerge rfl)).1 hunmerged
  -- without drift the second judgement is the first one
  · have hsame : stateAfter rt state identity (some identity) = state := by
      unfold stateAfter
      rw [classifyDrift_rebound rt hremote, if_neg fun h => hmerged (by simpa using h.1) h.2, if_neg hlabel]
      have hself := classifyProvenState_rebound rt hproven
      simp [hpr, hd, hself, hheal]
    simp [hsame, RebindsIntoDrift, hd]

lemma stateAfter_rebound_local (hlocal : isRemoteProvingState state = false)
    (halign : classifyDrift rt state identity bound = none)
    (hheal : (healable state && isAdvanceStillNeeded identity) = false) :
    stateAfter rt state identity (some identity) = state ↔ ¬RebindsIntoDrift rt state identity bound := by
  have hbehind : classifyDrift rt state identity bound ≠ some .ledgerBehind := by simp [halign]
  rcases target_of_not_behind rt hlocal hbehind with htarget | ⟨rfl, htarget⟩
  · rw [stateAfter_local rt hlocal htarget]
    cases hadvance : isAdvanceStillNeeded identity with
    | false =>
      cases state <;> simp [RebindsIntoDrift, hadvance, isRemoteProvingState] at hlocal ⊢
    | true =>
      have hnot : healable state = false := by simpa [hadvance] using hheal
      cases state <;>
        simp [RebindsIntoDrift, hadvance, halign, isOwnedHold, healable, isRemoteProvingState] at hlocal hnot ⊢
  · simp [stateAfter_blocked rt htarget, RebindsIntoDrift]

lemma stateAfter_stateAfter_iff (hlabel : ¬readyLabelWithoutBinding rt state identity) :
    stateAfter rt (stateAfter rt state identity bound) identity
        (boundAfter rt state identity bound) = stateAfter rt state identity bound ↔
      ¬RebindsIntoDrift rt state identity bound := by
  have hmoved : classifyDrift rt state identity bound ≠ none →
      ¬RebindsIntoDrift rt state identity bound := fun hdrift h => hdrift h.1
  by_cases hbehind : classifyDrift rt state identity bound = some .ledgerBehind
  · -- repaired forward: the item stands at its target
    have hsome := (ledgerBehind_isSome_iff rt state identity bound).2 hlabel hbehind
    obtain ⟨target, htarget⟩ := Option.isSome_iff_exists.1 hsome
    have hafter : stateAfter rt state identity bound = target := by simp [stateAfter, hbehind, htarget]
    have hbound : boundAfter rt state identity bound = some identity := by
      simp [boundAfter, keepsBinding, hbehind]
    simp only [hafter, hbound, stateAfter_of_target rt htarget, true_iff]
    exact hmoved (by simp [hbehind])
  by_cases hreconstruct : classifyDrift rt state identity bound = some .ledgerAhead ∨
      classifyDrift rt state identity bound = some .externalAbsent ∨
      classifyDrift rt state identity bound = some .identityMismatch
  -- rebuilt from the observer, and bound to what it was rebuilt from
  · have hafter : stateAfter rt state identity bound = reconstructedLocalState rt identity state := by
      rcases hreconstruct with h | h | h <;> simp [stateAfter, h]
    have hbound : boundAfter rt state identity bound = some identity := by
      rcases hreconstruct with h | h | h <;> simp [boundAfter, keepsBinding, h]
    simp only [hafter, hbound, stateAfter_reconstructed rt hbehind, true_iff]
    exact hmoved (by rcases hreconstruct with h | h | h <;> simp [h])
  have hdrift : classifyDrift rt state identity bound = some .checksRegressed ∨
      classifyDrift rt state identity bound = none := by
    cases hd : classifyDrift rt state identity bound with
    | none => exact .inr rfl
    | some cls => cases cls <;> simp_all
  cases hheal : healable state && isAdvanceStillNeeded identity with
  | true =>
    -- healed: `in_progress` has no target to move to
    have hadvance : isAdvanceStillNeeded identity = true := (Bool.and_eq_true _ _ ▸ hheal).2
    have hafter : stateAfter rt state identity bound = .inProgress := by
      rcases hdrift with h | h <;> simp [stateAfter, h, hheal]
    have hbound : boundAfter rt state identity bound = some identity := by
      rcases hdrift with h | h <;> simp [boundAfter, keepsBinding, h, hheal]
    have hstay : stateAfter rt .inProgress identity (some identity) = .inProgress := by
      rw [stateAfter_local rt inProgress_isLocal (verifiedForwardTarget_of_advance rt hadvance)]
      simp
    simp only [hafter, hbound, hstay, true_iff]
    rintro ⟨_, _, ⟨rfl | rfl | rfl, _⟩ | ⟨_, hno, _⟩⟩
    all_goals simp_all [healable]
  | false =>
    have hafter : stateAfter rt state identity bound = state := by
      rcases hdrift with h | h <;> simp [stateAfter, h, hheal]
    rw [hafter]
    cases hkeep : keepsBinding rt state identity bound with
    | true =>
      -- nothing was renewed, so the second turn is the first one
      have hbound : boundAfter rt state identity bound = bound := by simp [boundAfter, hkeep]
      rw [hbound, hafter]
      simp only [true_iff]
      rintro ⟨halign, _, ⟨_, hadvance⟩ | ⟨hstate, _⟩⟩
      · simp [keepsBinding, halign, (isAdvanceStillNeeded_eq_true hadvance).1] at hkeep
      · rcases hstate with rfl | rfl <;>
          simp [keepsBinding, halign, isRemoteProvingState] at hkeep
    | false =>
      have hbound : boundAfter rt state identity bound = some identity := by simp [boundAfter, hkeep]
      have halign : classifyDrift rt state identity bound = none := by
        rcases hdrift with h | h
        · simp [keepsBinding, h, hheal] at hkeep
        · exact h
      -- aligned and renewed: this is where a drift can appear
      rw [hbound]
      cases hremote : isRemoteProvingState state with
      | true => exact stateAfter_rebound_proven rt hremote halign hheal
      | false => exact stateAfter_rebound_local rt hremote halign hheal

lemma not_readyLabelWithoutBinding_stateAfter (hlabel : ¬readyLabelWithoutBinding rt state identity) :
    ¬readyLabelWithoutBinding rt (stateAfter rt state identity bound) identity := by
  intro hafter
  have htarget := verifiedForwardTarget_of_readyLabelWithoutBinding rt hafter
  -- without a target no branch moves an item to `pr_opened`
  have hmoves : state = .prOpened ∨ stateAfter rt state identity bound ≠ .prOpened := by
    unfold stateAfter
    split
    · simp only [htarget, Option.getD_none]
      exact Classical.em _
    iterate 3
      · rw [reconstructedLocalState_of_none rt htarget]
        split
        · exact Classical.em _
        · split
          · simp
          · split
            · simp
            · exact Classical.em _
    iterate 2
      · split
        · simp
        · exact Classical.em _
  rcases hmoves with hstate | hstate
  · exact hlabel ⟨hstate, hafter.2⟩
  · exact hstate hafter.1

/-- One item before and after a pass that observed `identity`. -/
def Turn (identity : LoopExternalIdentity) :
    Option LoopItemLedgerEntry → Option LoopItemLedgerEntry → Prop
  | none, none => True
  | some e, some e' =>
    ¬readyLabelWithoutBinding rt e.state identity ∧ e'.state = stateAfter rt e.state identity e.lastVerifiedIdentity ∧
      e'.lastVerifiedIdentity = boundAfter rt e.state identity e.lastVerifiedIdentity
  | _, _ => False

lemma Turn.not_label {e : LoopItemLedgerEntry} (h : Turn rt identity old (some e)) :
    ¬readyLabelWithoutBinding rt e.state identity := by
  cases old with
  | none => exact h.elim
  | some e₀ =>
    rw [h.2.1]
    exact not_readyLabelWithoutBinding_stateAfter rt h.1

lemma Turn.state_eq_iff {mid new : Option LoopItemLedgerEntry} (h : Turn rt identity old mid)
    (h' : Turn rt identity mid new) : new.map (·.state) = mid.map (·.state) ↔
      ∀ e, old = some e → ¬RebindsIntoDrift rt e.state identity e.lastVerifiedIdentity := by
  cases mid with
  | none =>
    cases old with
    | some e => exact h.elim
    | none =>
      cases new with
      | some e₂ => exact h'.elim
      | none => simp
  | some e₁ =>
    cases old with
    | none => exact h.elim
    | some e =>
      cases new with
      | none => exact h'.elim
      | some e₂ =>
        obtain ⟨hlabel, hstate, hbound⟩ := h
        have hstate' := h'.2.1
        simp only [Option.map_some, Option.some.injEq, hstate', hstate, hbound, forall_eq']
        exact stateAfter_stateAfter_iff rt hlabel

end Item

/-! ## One pass over the run directory -/

section Pass

variable (rt : JsRuntime)

lemma assembleReconciliation_items (deps : ReconcileObserveDeps) (input : ReconcileInput)
    (time : String) (ledger : LoopLedger) (results : JsObject ReconciledItem) :
    (assembleReconciliation rt deps input time ledger results).2.items = results.mapEntries fun _ r => r.entry := by
  unfold assembleReconciliation
  dsimp only
  split
  · simp [bindLifecycleForItemTransition]
  · rfl

lemma items_of_decided {deps : ReconcileObserveDeps} {input : ReconcileInput} {time : String}
    {ledger next : LoopLedger} {report : LoopReconciliation}
    (h : (reconcilePass rt deps input time ledger).map (fun r => (r.1, some r.2)) = .ok (report, some next)) :
    ∃ results, ledger.items.traverse (observeItem rt deps ledger input.engine time) = .ok results ∧
      next.items = results.mapEntries fun _ r => r.entry := by
  obtain ⟨_, results, hresults, hassemble⟩ := reconcilePass_eq_ok rt (reconcilePass_of_decided rt h)
  exact ⟨results, hresults, by rw [← assembleReconciliation_items rt deps input time, ← hassemble]⟩

lemma assembleReconciliation_stop (deps : ReconcileObserveDeps) (input : ReconcileInput)
    (time : String) (ledger : LoopLedger) (results : JsObject ReconciledItem) :
    (assembleReconciliation rt deps input time ledger results).2.stop = ledger.stop := by
  unfold assembleReconciliation
  dsimp only
  split
  · simp [bindLifecycleForItemTransition]
  · rfl

lemma accepts_assembleReconciliation (contract : LoopContract) (deps : ReconcileObserveDeps)
    (input : ReconcileInput) (time : String) (ledger : LoopLedger) (results : JsObject ReconciledItem) :
    contract.accepts rt (assembleReconciliation rt deps input time ledger results).2 = contract.accepts rt ledger := by
  unfold assembleReconciliation
  dsimp only
  split
  · exact accepts_congr rt rfl rfl rfl rfl
  · exact accepts_congr rt rfl rfl rfl rfl

/-- The directory is in order for a pass: an accepted ledger without a refusing stop, and the
caller's lock. -/
structure PassReady (input : ReconcileInput) (d : RunDir) : Prop where
  accepts : d.contract.accepts rt d.ledger = true
  running : refusingStop d.ledger = none
  locked : ∃ lock, requireToken d input.token = .ok lock

/-- One item before and after a pass: absent, or moved by what was observed for it. -/
def ObservedTurn (deps : ReconcileObserveDeps) (ledger : LoopLedger) (id : String)
    (old new : Option LoopItemLedgerEntry) : Prop :=
  (old = none ∧ new = none) ∨
    ∃ identity, deps.observe id (ledger.lifecycle.map (·.logicalOperationId)) = .ok identity ∧ Turn rt identity old new

variable {rt} {observed : String → LoopExternalIdentity} {contains : String → Option Bool}
  {deps : ReconcileObserveDeps} {input : ReconcileInput} {now : Instant}

lemma ObservedTurn.fixed {ledger : LoopLedger} {id : String}
    {new : Option LoopItemLedgerEntry}
    (h : ObservedTurn rt ⟨fun id _ => .ok (observed id), contains⟩ ledger id old new) :
    Turn rt (observed id) old new := by
  rcases h with ⟨rfl, rfl⟩ | ⟨identity, hidentity, hturn⟩
  · trivial
  · cases hidentity
    exact hturn

variable {d : RunDir}

lemma reconcile_isOk (contains : String → Option Bool) (now : Instant)
    (hready : PassReady rt input d)
    (hlabel : ∀ id entry, d.ledger.items.get? id = some entry →
      ¬readyLabelWithoutBinding rt entry.state (observed id)) :
    ∃ report d₁, reconcile rt now ⟨fun id _ => .ok (observed id), contains⟩ input d = (.ok report, d₁) := by
  have hturn : ∀ id entry, d.ledger.items.get? id = some entry → ∃ r,
      observeItem rt ⟨fun id _ => .ok (observed id), contains⟩ (d.contract.normalize rt d.ledger)
        input.engine (rt.toISOString now) id entry = .ok r := by
    intro id entry hentry
    cases hr : reconcileItem rt input.engine (rt.toISOString now) id entry (observed id) with
    | ok r => exact ⟨r, hr⟩
    | error e =>
      exact absurd ((reconcileItem_eq_error_iff rt).1 hr).2 (hlabel id entry hentry)
  obtain ⟨results, hresults⟩ := JsObject.traverse_isOk hturn
  obtain ⟨lock, hlock⟩ := hready.locked
  have hstop : refusingStop (d.contract.normalize rt d.ledger) = none := hready.running
  obtain ⟨report, next, hnext⟩ : ∃ report next, assembleReconciliation rt
      ⟨fun id _ => .ok (observed id), contains⟩ input (rt.toISOString now)
      (d.contract.normalize rt d.ledger) results = (report, next) := ⟨_, _, rfl⟩
  have hlast : next.lastReconciliation = some report := by
    have h := assembleReconciliation_lastReconciliation rt
      ⟨fun id _ => .ok (observed id), contains⟩ input (rt.toISOString now)
      (d.contract.normalize rt d.ledger) results
    rwa [hnext] at h
  cases hwrite : writeLedger rt input.token next d with
  | mk written d₁ =>
    cases written with
    -- a reconciled ledger is refused for its token only, and the token was right
    | error e =>
      have htoken := writeLedger_eq_error rt (by simp [hlast]) hwrite
      simp [hlock] at htoken
    | ok _ =>
      refine ⟨report, d₁, ?_⟩
      simp only [reconcile, transact, readLedger_of_accepts rt now hready.accepts,
        reconcilePass, hstop, normalize_items, hresults, hnext, Except.map, hwrite]

lemma passed_of_write {d₀ d₁ : RunDir} {time : String} {results : JsObject ReconciledItem}
    (hacc : d₀.contract.accepts rt d₀.ledger = true) (hitems : d₀.ledger.items = itemsInForce rt d)
    (hstop : refusingStop (d₀.contract.normalize rt d₀.ledger) = none)
    (hresults : (d₀.contract.normalize rt d₀.ledger).items.traverse
      (observeItem rt deps (d₀.contract.normalize rt d₀.ledger) input.engine time) = .ok results)
    (hwrite : writeLedger rt input.token (assembleReconciliation rt deps input time
      (d₀.contract.normalize rt d₀.ledger) results).2 d₀ = (.ok (), d₁)) : PassReady rt input d₁ ∧
      ∀ id, ObservedTurn rt deps (d₀.contract.normalize rt d₀.ledger) id
        ((itemsInForce rt d).get? id) ((itemsInForce rt d₁).get? id) := by
  have hsame := sameRun_writeLedger rt input.token (assembleReconciliation rt deps input time
    (d₀.contract.normalize rt d₀.ledger) results).2 d₀
  rw [hwrite] at hsame
  obtain ⟨⟨lock, hlock⟩, hledger, _⟩ := writeLedger_eq_ok rt hwrite
  have hacc₁ : d₁.contract.accepts rt d₁.ledger = true := by
    rw [hledger, hsame.contract, accepts_normalize, accepts_assembleReconciliation, accepts_normalize, hacc]
  have hready : PassReady rt input d₁ :=
    { accepts := hacc₁
      running := by
        rw [← hstop, refusingStop, hledger]
        exact congrArg _ (assembleReconciliation_stop rt _ input time _ results)
      locked := ⟨lock, requireToken_eq_ok.2 (hsame.lock ▸ requireToken_eq_ok.1 hlock)⟩ }
  refine ⟨hready, fun id => ?_⟩
  rw [itemsInForce_of_accepts rt hacc₁, hledger, normalize_items, assembleReconciliation_items,
    JsObject.get?_mapEntries, ← hitems]
  rcases JsObject.get?_traverse hresults id with ⟨hnone, hnone'⟩ | ⟨entry, r, hentry, hr, hget⟩
  · rw [normalize_items] at hnone
    exact .inl ⟨hnone, by simp [hnone']⟩
  · rw [normalize_items] at hentry
    rw [hentry, hget]
    unfold observeItem at hr
    split at hr
    · simp at hr
    · next identity hidentity =>
      -- the turn passed, so it did not throw
      refine .inr ⟨identity, hidentity, fun hlabel => ?_, reconcileItem_eq_ok rt hr⟩
      have hthrow : reconcileItem rt input.engine time id entry identity =
          .error (mustAgree id) := (reconcileItem_eq_error_iff rt).2 ⟨rfl, hlabel⟩
      simp [hthrow] at hr

lemma reconcile_eq_ok {d₁ : RunDir} {report : LoopReconciliation}
    (h : reconcile rt now deps input d = (.ok report, d₁)) :
    PassReady rt input d₁ ∧ ∃ ledger, (readLedger rt now none d).1 = .ok ledger ∧
      ∀ id, ObservedTurn rt deps ledger id ((itemsInForce rt d).get? id) ((itemsInForce rt d₁).get? id) := by
  unfold reconcile transact at h
  split at h
  · simp at h
  · next ledger d₀ hread =>
    -- a read without a token returns a ledger that passes
    rcases readLedger_cases rt now hread with ⟨hacc, rfl, hitems⟩ | ⟨htoken, _⟩
    · cases hpass : reconcilePass rt deps input (rt.toISOString now)
          (d₀.contract.normalize rt d₀.ledger) with
      | error e => simp [hpass, Except.map] at h
      | ok decision =>
        obtain ⟨report', next⟩ := decision
        obtain ⟨hstop, results, hresults, hassemble⟩ := reconcilePass_eq_ok rt hpass
        obtain ⟨rfl, rfl⟩ := Prod.mk.inj hassemble
        simp only [hpass, Except.map] at h
        split at h
        · simp at h
        · next d₂ hwrite =>
          obtain rfl : d₂ = d₁ := (Prod.mk.inj h).2
          obtain ⟨hready, hturns⟩ := passed_of_write hacc hitems hstop hresults hwrite
          exact ⟨hready, _, by rw [hread], hturns⟩
    · exact absurd rfl htoken

/-- Under unchanged live truth a second pass succeeds, and it leaves every state alone exactly when
the first pass rebound no item into drift. -/
theorem reconcile_fixpoint_iff {contains' : String → Option Bool} {now' : Instant}
    {minted : String} {d d₁ : RunDir} {report : LoopReconciliation}
    (h : reconcile rt now ⟨fun id _ => .ok (observed id), contains⟩ input d = (.ok report, d₁)) :
    (∃ report' d₂, reconcile rt now' ⟨fun id _ => .ok (observed id), contains'⟩ { input with minted } d₁ =
          (.ok report', d₂) ∧
        ∀ id, ((itemsInForce rt d₂).get? id).map (·.state) = ((itemsInForce rt d₁).get? id).map (·.state)) ↔
      ∀ id entry, (itemsInForce rt d).get? id = some entry →
        ¬RebindsIntoDrift rt entry.state (observed id) entry.lastVerifiedIdentity := by
  obtain ⟨hready, _, _, hobserved⟩ := reconcile_eq_ok h
  have hfirst := fun id => (hobserved id).fixed
  have hready' : PassReady rt { input with minted } d₁ :=
    ⟨hready.accepts, hready.running, hready.locked⟩
  have hlabel : ∀ id entry, d₁.ledger.items.get? id = some entry →
      ¬readyLabelWithoutBinding rt entry.state (observed id) := by
    intro id entry hentry
    have hturn := hfirst id
    rw [itemsInForce_of_accepts rt hready.accepts, hentry] at hturn
    exact hturn.not_label rt
  obtain ⟨report', d₂, hpass⟩ := reconcile_isOk contains' now' hready' hlabel
  obtain ⟨_, _, _, hobserved'⟩ := reconcile_eq_ok hpass
  have hsecond := fun id => (hobserved' id).fixed
  constructor
  · rintro ⟨report'', d₂', hpass', hsame⟩ id entry hentry
    obtain ⟨_, rfl⟩ := Prod.mk.inj (hpass.symm.trans hpass')
    exact ((hfirst id).state_eq_iff rt (hsecond id)).1 (hsame id) entry hentry
  · intro hrebinds
    refine ⟨report', d₂, hpass, fun id => ?_⟩
    exact ((hfirst id).state_eq_iff rt (hsecond id)).2 (hrebinds id)

end Pass

/-! ## A pending item with work in its worktree -/

/-- A run of one pending item, locked by its supervisor. -/
def pendingRun : RunDir := runOf (pendingItemEntry "7")

/-- An open pull request at `a` that still advances; its worktree is at `localHead`. -/
def advancingIdentity (localHead : Option String) : LoopExternalIdentity :=
  { unboundReadyIdentity with
    readyLabelPresent := false
    pipelineStage := some "implementing"
    localHeadSha := localHead }

def pendingRunInput : ReconcileInput where
  token := "t"
  engine := .claude
  minted := "op"

/-- A pass over `pendingRun` that observes every item as `identity`. -/
def observingPass (identity : LoopExternalIdentity) (d : RunDir) :
    Except LoopError LoopReconciliation × RunDir :=
  reconcile (.onFirstDay []) .epoch ⟨fun _ _ => .ok identity, fun _ => none⟩ pendingRunInput d

lemma passReady_pendingRun : PassReady (.onFirstDay []) pendingRunInput pendingRun where
  accepts := by decide +kernel
  running := by decide +kernel
  locked := ⟨_, rfl⟩

lemma not_label_pendingRun (identity : LoopExternalIdentity) (id : String)
    (entry : LoopItemLedgerEntry) (h : pendingRun.ledger.items.get? id = some entry) :
    ¬readyLabelWithoutBinding (.onFirstDay []) entry.state identity := by
  have hmem := JsObject.get?_eq_some_iff.1 h
  have hentry : (id, entry) = ("7", pendingItemEntry "7") := by
    simpa [pendingRun, runOf, pendingItemEntry, JsObject.set, JsObject.setEntry, JsObject.empty] using hmem
  obtain ⟨_, rfl⟩ := Prod.mk.inj hentry
  simp [readyLabelWithoutBinding, pendingItemEntry]

/-- The first pass binds the head of the pull request, and the second one finds that the worktree
is elsewhere. -/
theorem second_pass_moves_pending :
    ¬∀ (rt : JsRuntime) (now now' : Instant) (observed : String → LoopExternalIdentity)
        (contains : String → Option Bool) (input : ReconcileInput) (d d₁ d₂ : RunDir)
        (report report' : LoopReconciliation),
      reconcile rt now ⟨fun id _ => .ok (observed id), contains⟩ input d = (.ok report, d₁) →
      reconcile rt now' ⟨fun id _ => .ok (observed id), contains⟩ input d₁ = (.ok report', d₂) →
      ∀ id, ((itemsInForce rt d₂).get? id).map (·.state) = ((itemsInForce rt d₁).get? id).map (·.state) := by
  intro h
  let identity := advancingIdentity (some "b")
  obtain ⟨report, d₁, hfirst⟩ : ∃ report d₁, observingPass identity pendingRun = (.ok report, d₁) :=
    reconcile_isOk _ _ passReady_pendingRun fun id entry => not_label_pendingRun identity id entry
  have hd₁ : d₁ = (observingPass identity pendingRun).2 := by rw [hfirst]
  cases hsecond : observingPass identity d₁ with
  | mk result d₂ =>
    cases result with
    | error e =>
      have hok : (observingPass identity (observingPass identity pendingRun).2).1.isOk = true := by decide +kernel
      rw [← hd₁, hsecond] at hok
      simp [Except.isOk, Except.toBool] at hok
    | ok report' =>
      have hsame := h _ _ _ _ _ _ _ _ _ _ _ hfirst hsecond "7"
      have hd₂ : d₂ = (observingPass identity d₁).2 := by rw [hsecond]
      rw [hd₂, hd₁] at hsame
      exact absurd hsame (by decide +kernel)

/-- A worktree at the head of the pull request keeps the item where it is. -/
theorem second_pass_keeps_pending : ∃ report d₁,
    observingPass (advancingIdentity (some "a")) pendingRun = (.ok report, d₁) ∧
      ∃ report' d₂, observingPass (advancingIdentity (some "a")) d₁ = (.ok report', d₂) ∧
        ∀ id, ((itemsInForce (.onFirstDay []) d₂).get? id).map (·.state) =
          ((itemsInForce (.onFirstDay []) d₁).get? id).map (·.state) := by
  obtain ⟨report, d₁, hfirst⟩ : ∃ report d₁,
      observingPass (advancingIdentity (some "a")) pendingRun = (.ok report, d₁) :=
    reconcile_isOk _ _ passReady_pendingRun fun id entry => not_label_pendingRun _ id entry
  refine ⟨report, d₁, hfirst, (reconcile_fixpoint_iff hfirst).2 fun id entry _ hrebinds => ?_⟩
  have hdrift : localRemoteIdentityDrift (.onFirstDay []) (advancingIdentity (some "a"))
      (some (advancingIdentity (some "a"))) = false := by decide +kernel
  exact absurd hrebinds.2.1 (by simp [hdrift])

end AgentPipeline.Loop
