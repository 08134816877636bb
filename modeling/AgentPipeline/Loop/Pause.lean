import AgentPipeline.Loop.Recovery

/-!
# Pause: holds on an item and their audited release

`loop/pause.ts`: an in-progress item enters a hold (`pauseItem`, `waitItem`), and leaves it by an
answer (`resumeHold`), by a decision to give up (`abandonHold`), or because its request turns out
to be incomplete (`invalidateIncompleteHoldForReclassify`).

A hold operation checks the lock before it reads the ledger (`asLockHolder`), and reads without a
token, so it never persists an owned wait.
-/

namespace AgentPipeline.Loop

open JsText (trim nonBlank)

/-! ## Typed requests -/

def pauseKindToTypedRequest : LoopHumanInputRequestKind → PublicTypedRequest
  | .decision => .decisionRequest
  | .answer => .capabilityRequest
  | .authorityGrant => .authorityRequest

/-- `isLoopHumanInputRequestKind`: the kind a text names, if it names one. -/
def isLoopHumanInputRequestKind : String → Option LoopHumanInputRequestKind
  | "decision" => some .decision
  | "answer" => some .answer
  | "authority-grant" => some .authorityGrant
  | _ => none

/-- The first check that fails names the reason. -/
def firstFault (checks : List (Bool × String)) : Option String :=
  checks.findSome? fun (passed, reason) => if passed then none else some reason

def validateDecisionPackage (pkg : Option DecisionResolutionPackage) :
    Except String DecisionResolutionPackage :=
  match pkg with
  | none => .error "decision resolution package is missing"
  | some pkg =>
    match firstFault
        [(nonBlank pkg.recommendation, "decision resolution missing recommendation"),
          (nonBlank pkg.rationale, "decision resolution missing rationale"),
          (nonBlank pkg.risk, "decision resolution missing risk"),
          (!pkg.evidence.isEmpty, "decision resolution missing evidence")] with
    | some reason => .error reason
    | none => .ok pkg

def validateCapabilityRequest (record : Option CapabilityRequestRecord) :
    Except String CapabilityRequestRecord :=
  match record with
  | none => .error "CapabilityRequest is missing"
  | some record =>
    match firstFault
        [(nonBlank record.missing, "CapabilityRequest missing capability or information"),
          (nonBlank record.provider, "CapabilityRequest missing provider"),
          (nonBlank record.liveProbe, "CapabilityRequest missing live probe"),
          (nonBlank record.resumeCondition, "CapabilityRequest missing resume condition")] with
    | some reason => .error reason
    | none => .ok record

def validateAuthorityRequest (record : Option AuthorityRequestRecord) (tipPresent : Bool) :
    Except String AuthorityRequestRecord :=
  match record with
  | none => .error "AuthorityRequest is missing"
  | some record =>
    let epoch := nonEmpty record.candidateEpoch
    match firstFault
        [(nonBlank record.eligibleActor, "AuthorityRequest missing eligible actor"),
          (nonBlank record.repository, "AuthorityRequest missing repository"),
          (nonBlank record.operation, "AuthorityRequest missing operation"),
          (nonBlank record.scope, "AuthorityRequest missing scope"),
          (nonBlank record.expiry, "AuthorityRequest missing expiry"),
          (!record.evidence.isEmpty, "AuthorityRequest missing evidence"),
          (!tipPresent || epoch.isSome, "AuthorityRequest missing candidate epoch while a tip exists")] with
    | some reason => .error reason
    | none => .ok { record with candidateEpoch := epoch }

def persistedTypedRequestComplete (outstanding : LoopHumanInputRequest) : Bool :=
  match outstanding.typedRequest.getD (pauseKindToTypedRequest outstanding.kind) with
  | .decisionRequest => (validateDecisionPackage outstanding.decisionPackage).isOk
  | .capabilityRequest => (validateCapabilityRequest outstanding.capabilityRequest).isOk
  | .authorityRequest =>
    (validateAuthorityRequest outstanding.authorityRequest
      (outstanding.authorityCandidateHead.any (· ≠ ""))).isOk

structure WaitRequestInput where
  kind : String
  prompt : String
  permittedResponses : Option (List String) := none
  sourceBlockedLabel : Bool := false
  authorityEvidenceKey : Option String := none
  authorityCandidateHead : Option String := none
  decisionPackage : Option DecisionResolutionPackage := none
  capabilityRequest : Option CapabilityRequestRecord := none
  authorityRequest : Option AuthorityRequestRecord := none

/-- `requireCompleteTypedRequest(kind, req)`: the request with its one typed record. -/
def requireCompleteTypedRequest (kind : LoopHumanInputRequestKind) (req : WaitRequestInput)
    (bare : LoopHumanInputRequest) : Except String LoopHumanInputRequest :=
  match kind with
  | .decision =>
    (validateDecisionPackage req.decisionPackage).map fun pkg =>
      { bare with decisionPackage := some pkg }
  | .answer =>
    (validateCapabilityRequest req.capabilityRequest).map fun record =>
      { bare with capabilityRequest := some record }
  | .authorityGrant =>
    (validateAuthorityRequest req.authorityRequest
        (req.authorityCandidateHead.any nonBlank)).map fun record =>
      { bare with authorityRequest := some record }

/-- `buildHumanInputRequest`, before anything is read; `uuid` is `deps.uuid()`. -/
def buildHumanInputRequest (uuid time itemId : String) (engine : LoopEngineName)
    (req : WaitRequestInput) : Except LoopError LoopHumanInputRequest :=
  match isLoopHumanInputRequestKind req.kind with
  | none =>
    .error (invalid ("human-input request kind \"" ++ req.kind ++
      "\" is not one of \"decision\", \"answer\", \"authority-grant\""))
  | some kind =>
    if !nonBlank req.prompt then
      .error (invalid
        "a waiting transition's human-input request requires a non-empty prompt")
    else if req.permittedResponses = some [] then
      .error (invalid ("a human-input request's permitted_responses, when present, must be a " ++
        "non-empty array of strings"))
    else
      match requireCompleteTypedRequest kind req
          { requestId := "req-" ++ uuid, itemId, kind, prompt := req.prompt
            permittedResponses := req.permittedResponses, requestedByEngine := engine
            requestedAt := time, typedRequest := some (pauseKindToTypedRequest kind)
            decisionPackage := none, capabilityRequest := none, authorityRequest := none
            authorityEvidenceKey := req.authorityEvidenceKey
            authorityCandidateHead := req.authorityCandidateHead
            sourceBlockedLabel := req.sourceBlockedLabel } with
      | .error reason => .error (invalid reason)
      | .ok request =>
        -- the two halves of authority evidence come together or not at all
        if req.authorityEvidenceKey.any (!nonBlank ·) ∨ req.authorityCandidateHead.any (!nonBlank ·) ∨
            req.authorityEvidenceKey.isSome ≠ req.authorityCandidateHead.isSome then
          .error (invalid ("authority hold evidence requires both a non-empty evidence key " ++ "and candidate head"))
        else .ok request

/-! ## Entering and abandoning a hold -/

def bindHoldLifecycle (ledger : LoopLedger) (time : String) (logicalOperationId : Option String)
    (minted : String) : LoopLedger :=
  bindLifecycleRecord ledger
    (resolveLogicalOperationId
      { written := ledger.lifecycle.map (·.logicalOperationId), parent := logicalOperationId }
      minted)
    (deriveLifecycleState
      { typedRequest := typedRequestFromOwnedItems ledger.items
        cooling := ledger.cooling.isSome
        stopReason := ledger.stop.map (·.reason)
        activeAttempt := true })
    time

structure HoldInput where
  token : String
  itemId : String
  engine : LoopEngineName
  note : Option String := none
  logicalOperationId : Option String := none
  minted : String

/-- Run an operation as the lock holder, on the holder's engine. -/
def asLockHolder {α : Type} (operation : String) (token : String) (engine : LoopEngineName)
    (run : RunDir → Except LoopError α × RunDir) (d : RunDir) : Except LoopError α × RunDir :=
  match requireToken d token with
  | .error e => (.error e, d)
  | .ok lock =>
    if lock.engine ≠ engine then
      (.error (invalid (operation ++ " names engine \"" ++ engine.name ++
        "\", which does not match the current lock holder engine \"" ++ lock.engine.name ++
        "\"")), d)
    else run d

/-- The item that a hold operation is about, unless the run is stopped for it. -/
def heldItem (ledger : LoopLedger) (itemId : String) : Except LoopError LoopItemLedgerEntry :=
  match compatibilityStopRefusal ledger itemId with
  | some e => .error e
  | none =>
    match ledger.items.get? itemId with
    | none =>
      .error (invalid ("item \"" ++ itemId ++ "\" not found in run \"" ++ ledger.runId ++ "\""))
    | some item => .ok item

/-- The item in its new state, with the request it is held for. -/
def LoopItemLedgerEntry.holdMoved (item : LoopItemLedgerEntry) (state : LoopItemState)
    (request : Option LoopHumanInputRequest) (engine : LoopEngineName) (time : String)
    (note : Option String) : LoopItemLedgerEntry :=
  { item with
    state := state
    holdRequest := request
    history := item.history ++
      [{ time := time, fromState := item.state, toState := state, engine := engine,
         note := note }] }

lemma asLockHolder_cases {α : Type} (operation token : String) (engine : LoopEngineName)
    (run : RunDir → Except LoopError α × RunDir) (d : RunDir) : (asLockHolder operation token engine run d).2 = d ∨
      (asLockHolder operation token engine run d).2 = (run d).2 := by
  unfold asLockHolder
  split
  · exact .inl rfl
  · split
    · exact .inl rfl
    · exact .inr rfl

lemma heldItem_eq_ok {ledger : LoopLedger} {itemId : String} {item : LoopItemLedgerEntry}
    (h : heldItem ledger itemId = .ok item) : ledger.items.get? itemId = some item := by
  unfold heldItem at h
  split at h
  · simp at h
  · split at h
    · simp at h
    · next item' hitem =>
      cases h
      exact hitem

variable (rt : JsRuntime) (now : Instant)

/-- `enterHold(deps, input, to, request)`. -/
def enterHold (input : HoldInput) (target : LoopItemState) (request : Option LoopHumanInputRequest)
    (d : RunDir) : Except LoopError LoopLedger × RunDir :=
  asLockHolder "hold transition" input.token input.engine
    (transact rt now none input.token fun ledger =>
      match heldItem ledger input.itemId with
      | .error e => .error e
      | .ok item =>
        if item.state ≠ .inProgress then
          .error (invalid ("item \"" ++ input.itemId ++ "\" cannot transition from \"" ++
            item.state.name ++ "\" to \"" ++ target.name ++
            "\" — only an in_progress item may enter a hold"))
        else
          let time := rt.toISOString now
          let next := bindHoldLifecycle
            { ledger with
              items := ledger.items.set input.itemId
                (item.holdMoved target request input.engine time input.note) }
            time input.logicalOperationId input.minted
          .ok (next, some next))
    d

def pauseItem (input : HoldInput) (d : RunDir) : Except LoopError LoopLedger × RunDir :=
  enterHold rt now input .paused none d

/-- `waitItem(deps, input)`: the request is built before the ledger is read. -/
def waitItem (input : HoldInput) (request : WaitRequestInput) (uuid : String) (d : RunDir) :
    Except LoopError LoopLedger × RunDir :=
  match buildHumanInputRequest uuid (rt.toISOString now) input.itemId input.engine request with
  | .error e => (.error e, d)
  | .ok request => enterHold rt now input .waiting (some request) d

def isHeld (item : LoopItemLedgerEntry) : Bool :=
  item.state = .paused || item.state = .waiting

def abandonHold (input : HoldInput) (d : RunDir) : Except LoopError LoopLedger × RunDir :=
  asLockHolder "abandonHold" input.token input.engine
    (transact rt now none input.token fun ledger =>
      match heldItem ledger input.itemId with
      | .error e => .error e
      | .ok item =>
        if !isHeld item then
          .error (invalid ("item \"" ++ input.itemId ++ "\" cannot transition from \"" ++
            item.state.name ++ "\" to \"abandoned\" via abandonHold — only a paused or waiting " ++
            "item may be abandoned this way"))
        else
          let next := { ledger with
            items := ledger.items.set input.itemId
              (item.holdMoved .abandoned none input.engine (rt.toISOString now) input.note) }
          .ok (next, some next))
    d

/-- `invalidateIncompleteHoldForReclassify(deps, input)`: the item is admitted again as
`pending`. -/
def invalidateIncompleteHoldForReclassify (input : HoldInput) (d : RunDir) :
    Except LoopError LoopLedger × RunDir :=
  match requireToken d input.token with
  | .error e => (.error e, d)
  | .ok _ =>
    transact rt now none input.token
      (fun ledger =>
        match (ledger.items.get? input.itemId).filter fun item =>
            isHeld item && item.holdRequest.isSome with
        | none =>
          .error (invalid ("item \"" ++ input.itemId ++ "\" has no incomplete hold to invalidate"))
        | some item =>
          let time := rt.toISOString now
          let next := bindHoldLifecycle
            { ledger with
              items := ledger.items.set input.itemId
                (item.holdMoved .pending none input.engine time
                  (some ("legacy or incomplete typed-request hold invalidated for " ++ "classifier re-admission"))) }
            time input.logicalOperationId input.minted
          .ok (next, some next))
      d

/-! ## Resuming -/

structure ResumeHoldInput extends HoldInput where
  responseRequestId : Option String := none
  responseValue : String
  /-- `pipeline_preflight.passed`, if there is such evidence. -/
  pipelinePreflight : Option Bool
  nativeGoal : Option LoopNativeGoalCheck

/-- `validateNativeGoalEvidence(evidence, engine, runId, now)`. -/
def nativeGoalFault (engine : LoopEngineName) (runId : String)
    (evidence : Option LoopNativeGoalCheck) : Option LoopError :=
  let corrective := "re-run the native bootstrap for \"" ++ engine.name ++ "\" and retry with fresh evidence"
  let refuse (reason : String) : Option LoopError :=
    some ⟨.nativeGoalMandate, reason ++ " — " ++ corrective⟩
  match evidence with
  | none => refuse "resume requires fresh native-goal evidence"
  | some evidence =>
    if evidence.engine ≠ engine then
      refuse ("native-goal evidence names engine \"" ++ evidence.engine.name ++
        "\", expected \"" ++ engine.name ++ "\"")
    else if evidence.runId ≠ runId then
      refuse ("native-goal evidence names run \"" ++ evidence.runId ++ "\", expected \"" ++ runId ++ "\"")
    else if evidence.status ≠ "active" then
      refuse ("native-goal evidence reports status \"" ++ evidence.status ++ "\", expected \"active\"")
    -- a date that does not parse is not finite, so it is never fresh
    else if (rt.dateParse evidence.checkedAt).any fun checkedAt =>
        |now.ms - checkedAt.ms| ≤ nativeGoalFreshnessWindowSeconds * 1000 then
      none
    else
      refuse ("native-goal evidence checked_at is outside the " ++
        toString nativeGoalFreshnessWindowSeconds ++ "s freshness window")

/-- The answer to the outstanding request of a waiting item. -/
inductive AnswerVerdict where
  | accepted
  | incomplete
  | refused (e : LoopError)

def judgeAnswer (input : ResumeHoldInput) (item : LoopItemLedgerEntry) : AnswerVerdict :=
  -- a paused item has no question to answer
  if item.state ≠ .waiting then .accepted
  else
    match item.holdRequest with
    | none =>
      .refused (invalid ("item \"" ++ input.itemId ++ "\" is waiting but carries no outstanding human-input request"))
    | some outstanding =>
      if input.responseRequestId ≠ some outstanding.requestId then
        .refused (invalid ("resume response names request \"" ++
          input.responseRequestId.getD "undefined" ++ "\", but item \"" ++ input.itemId ++
          "\"'s outstanding request is \"" ++ outstanding.requestId ++ "\""))
      -- a request from before typed records cannot be answered
      else if !persistedTypedRequestComplete outstanding then .incomplete
      else
        match outstanding.permittedResponses with
        | some permitted =>
          if input.responseValue ∈ permitted then .accepted
          else
            .refused (invalid ("resume response \"" ++ input.responseValue ++
              "\" is not among the outstanding request's permitted responses: " ++
              ", ".intercalate permitted))
        | none => .accepted

/-- The decision of `resumeHold`; `none` asks for the hold to be invalidated instead. -/
def decideResume (input : ResumeHoldInput) (ledger : LoopLedger) :
    Except LoopError (Option LoopLedger × Option LoopLedger) :=
  match heldItem ledger input.itemId with
  | .error e => .error e
  | .ok item =>
    if !isHeld item then
      .error (invalid ("item \"" ++ input.itemId ++
        "\" has no active hold to resume — its state is \"" ++ item.state.name ++
        "\", not \"paused\" or \"waiting\""))
    else if !nonBlank input.responseValue then
      .error (invalid "resume requires a non-empty response.value")
    else
      match judgeAnswer input item with
      | .refused e => .error e
      -- nothing is written here; the caller invalidates the hold
      | .incomplete => .ok (none, none)
      | .accepted =>
        if input.pipelinePreflight ≠ some true then
          .error ⟨.pipelineMandate, "resume into in_progress requires evidence that the Pipeline preflight passed"⟩
        else
          match nativeGoalFault rt now input.engine ledger.runId input.nativeGoal with
          | some e => .error e
          | none =>
            let time := rt.toISOString now
            let next := bindHoldLifecycle
              { ledger with
                items := ledger.items.set input.itemId
                  (item.holdMoved .inProgress none input.engine time input.note)
                lastNativeGoalCheck := input.nativeGoal }
              time input.logicalOperationId input.minted
            .ok (some next, some next)

lemma decideResume_eq_ok {input : ResumeHoldInput} {ledger next : LoopLedger}
    {after : Option LoopLedger} (h : decideResume rt now input ledger = .ok (after, some next)) :
    ∃ item, ledger.items.get? input.itemId = some item ∧ isHeld item = true ∧ next = bindHoldLifecycle { ledger with
          items := ledger.items.set input.itemId
            (item.holdMoved .inProgress none input.engine (rt.toISOString now) input.note)
          lastNativeGoalCheck := input.nativeGoal }
        (rt.toISOString now) input.logicalOperationId input.minted := by
  unfold decideResume at h
  split at h
  · simp at h
  · next item hitem =>
    split at h
    · simp at h
    · next hheld =>
      split at h
      · simp at h
      · split at h
        · simp at h
        · simp at h
        · split at h
          · simp at h
          · split at h
            · simp at h
            · cases h
              exact ⟨item, heldItem_eq_ok hitem, by simpa using hheld, rfl⟩

def resumeHold (input : ResumeHoldInput) (d : RunDir) : Except LoopError LoopLedger × RunDir :=
  asLockHolder "resumeHold" input.token input.engine
    (fun d =>
      match transact rt now none input.token (decideResume rt now input) d with
      | (.error e, d₁) => (.error e, d₁)
      | (.ok (some next), d₁) => (.ok next, d₁)
      | (.ok none, d₁) => invalidateIncompleteHoldForReclassify rt now input.toHoldInput d₁)
    d

end AgentPipeline.Loop
