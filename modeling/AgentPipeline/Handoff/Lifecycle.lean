import AgentPipeline.Handoff.Resume
import AgentPipeline.Handoff.RoundTrip

/-!
# Lifecycle: creating, answering and superseding a handoff

The pure part of the lifecycle: none of these functions writes anything.

* `canCreateHandoff`: the gate a new question passes;
* `authorizeHandoffAnswer`, `applyHandoffAnswer`: who may answer, and the answered record;
* `supersedeHandoff`: the two records of a replaced question.
-/

namespace AgentPipeline.Handoff

/-! ## Creation -/

inductive TypedRequestKind where
  | decision | capability | authority
deriving DecidableEq, Repr

/-- `CreateHandoffInput`; the three records of typed requests are still unchecked. -/
structure CreateHandoffInput where
  domain : String
  repo : String
  issueNumber : JsNumber
  runId : Option String := none
  attemptId : Option String := none
  blockedStage : String
  question : String
  reason : String
  handoffClass : HandoffClass
  authorityMode : Option AuthorityMode := none
  requiredCapability : List String
  candidateSha : Option String := none
  tipPresent : Bool := false
  planRevision : Option String := none
  dossierHash : Option String := none
  policyHash : Option String := none
  specHashes : Option (List String) := none
  contentHashes : Option (List String) := none
  humanDecisionRequired : Option HumanDecisionRequiredEvidence := none
  policyBoundAuthorityGate : Bool := false
  resolutionEvidence : Option HandoffEligibilityEvidence := none
  resumeTarget : String
  resumePreconditions : Option (List String) := none
  expiresAt : Option String := none
  supersedes : Option String := none
  declarationIdentity : Option String := none
  handoffId : Option String := none
  createdAt : Option String := none
  engineExhaustionWithoutDecision : Bool := false
  typedRequest : Option TypedRequestKind := none
  decisionPackage : Option Json := none
  capabilityRequest : Option Json := none
  authorityRequest : Option Json := none
  candidateEpoch : Option String := none

inductive CreateCode where
  | emptyQuestion | questionTooLong | missingCapability | missingCandidateSha
  | authorityEvidenceRequired | invalidAuthorityMode | unresolvedAuthorityRouting | schema
  | incompleteTypedRequest | defaultAuthorityGrant
deriving DecidableEq, Repr

structure CreateFailure where
  reason : String
  code : CreateCode
deriving DecidableEq, Repr

/-- Engine exhaustion is a manual repair, whatever the caller says. -/
def CreateHandoffInput.forced (input : CreateHandoffInput) : CreateHandoffInput :=
  if input.engineExhaustionWithoutDecision then
    { input with
      handoffClass := .manualRepair
      authorityMode := some .nonAuthority
      humanDecisionRequired := none
      policyBoundAuthorityGate := false }
  else input

def CreateHandoffInput.mode (input : CreateHandoffInput) : AuthorityMode :=
  input.authorityMode.getD (defaultAuthorityModeForClass input.handoffClass)

def HumanDecisionRequiredEvidence.isComplete (hdr : HumanDecisionRequiredEvidence) : Bool :=
  isNonEmptyString 64 (some (.str hdr.findingKey)) && isNonEmptyString 64 (some (.str hdr.findingFingerprint)) &&
    isNonEmptyString 64 (some (.str hdr.reviewedSha))

def CreateHandoffInput.resolution (input : CreateHandoffInput) : HandoffEligibilityEvidence :=
  input.resolutionEvidence.getD
    { unresolved := false, eligibleActors := []
      resolutionSummary := "no resolution provided at create" }

/-- The checks on the record of a typed request. -/
def createTypedProblems (input : CreateHandoffInput) : List (Bool × String × CreateCode) :=
  let incomplete (problems : List (Bool × String)) : List (Bool × String × CreateCode) :=
    problems.map fun (failed, reason) => (failed, reason, .incompleteTypedRequest)
  match input.typedRequest with
  | none => []
  | some .decision => incomplete (decisionProblems input.decisionPackage)
  | some .capability => incomplete (capabilityProblems input.capabilityRequest)
  | some .authority =>
    ((presentOrNull (input.authorityRequest.bind (·.get? "grant"))).isSome,
      "AuthorityRequest must not record a default grant", .defaultAuthorityGrant) ::
    incomplete (authorityProblems input.authorityRequest input.tipPresent)

def createProblems (input : CreateHandoffInput) : List (Bool × String × CreateCode) :=
  let question := JsText.trim input.question
  let mode := input.mode
  let resolution := input.resolution
  let ownProblems : List (Bool × String × CreateCode) := [
    (question = "", "question is empty", .emptyQuestion),
    (MAX_QUESTION_LENGTH < utf16Length question, "question exceeds 4000 characters", .questionTooLong),
    (input.requiredCapability.isEmpty && mode ≠ .authority && !input.handoffClass.bearsAuthority,
      "required_capability must be non-empty for non-authority handoffs", .missingCapability),
    (input.handoffClass = .unknown && mode = .authority,
      "unknown class cannot be authority-bearing", .invalidAuthorityMode),
    (mode = .authority && !input.humanDecisionRequired.any (·.isComplete) && !input.policyBoundAuthorityGate,
      "authority-bearing create requires current human-decision-required evidence " ++
        "(finding_key, fingerprint, reviewed_sha) or a policy-bound authority gate",
      .authorityEvidenceRequired),
    (input.tipPresent && (input.candidateSha.filter (· ≠ "")).isNone,
      "candidate_sha required when a PR/worktree tip is present", .missingCandidateSha)]
  ownProblems ++ createTypedProblems input ++
  [(mode = .authority && resolution.unresolved && resolution.eligibleActors.isEmpty,
      "unresolved authority routing: no eligible actor under effective policy",
      .unresolvedAuthorityRouting)]

/-- `reason.slice(0, n)`; a pair of surrogates that the cut divides is dropped. -/
def sliceUnits : Nat → List Char → List Char
  | _, [] => []
  | n, c :: cs =>
    let width := if c.toNat < 0x10000 then 1 else 2
    if width ≤ n then c :: sliceUnits (n - width) cs else []

def createdTypedRequest (input : CreateHandoffInput) : Option TypedRequest :=
  input.typedRequest.map fun
    | .decision => .decision (decisionPackageOf input.decisionPackage)
    | .capability => .capability (capabilityRequestOf input.capabilityRequest)
    | .authority => .authority (authorityRequestOf input.authorityRequest)

def createdEpoch (input : CreateHandoffInput) : Option String :=
  input.candidateEpoch.orElse fun _ =>
    match input.typedRequest with
    | some .authority => epochOf input.authorityRequest
    | _ => textOrNull (input.authorityRequest.bind (·.get? "candidate_epoch"))

/-- The record of an input that passes the gate. -/
def createdHandoff (input : CreateHandoffInput) (nowIso freshId : String) : HumanQuestionHandoff where
  handoffId := input.handoffId.getD freshId
  domain := input.domain
  repo := input.repo
  issueNumber := input.issueNumber
  runId := input.runId
  attemptId := input.attemptId
  blockedStage := input.blockedStage
  question := JsText.trim input.question
  reason := String.ofList (sliceUnits MAX_REASON_LENGTH input.reason.toList)
  handoffClass := input.handoffClass
  authorityMode := input.mode
  humanDecisionRequired := input.humanDecisionRequired
  policyBoundAuthorityGate := input.policyBoundAuthorityGate
  scope :=
    { candidateSha := input.candidateSha
      candidateEpoch := createdEpoch input
      planRevision := input.planRevision.map .str
      dossierHash := input.dossierHash.map .str
      policyHash := input.policyHash.map .str
      specHashes := input.specHashes
      contentHashes := input.contentHashes }
  requiredCapability :=
    if !input.requiredCapability.isEmpty then input.requiredCapability
    else if input.mode = .authority then ["authority"]
    else []
  resolutionEvidence := input.resolution
  status := .pending
  createdAt := input.createdAt.getD nowIso
  expiresAt := input.expiresAt
  supersedes := input.supersedes
  supersededBy := none
  answer := none
  resumeTarget := input.resumeTarget
  resumePreconditions := input.resumePreconditions.getD []
  declarationIdentity := input.declarationIdentity
  typedRequest := createdTypedRequest input

/-- `canCreateHandoff(input)`; a new id and the time are given. -/
def canCreateHandoff (host : NodeHost) (input : CreateHandoffInput) (nowIso freshId : String) :
    Except CreateFailure HumanQuestionHandoff :=
  let input := input.forced
  match (createProblems input).find? (·.1) with
  | some (_, reason, code) => .error ⟨reason, code⟩
  | none =>
    match parseHumanQuestionHandoff host (createdHandoff input nowIso freshId).toJson with
    | .error reason => .error ⟨reason, .schema⟩
    | .ok h => .ok h

/-! ## Answers -/

structure AnswerHandoffInput (ρ : Type) where
  decision : Decision
  actor : String
  identitySource : String
  authenticated : Bool
  answerText : Option String := none
  supportingEvidence : Option String := none
  clientRequestId : Option String := none
  approvers : ApproverPolicy ρ := {}
  now : Option String := none

inductive AnswerCode where
  | terminalStatus | alreadyAnswered | unidentified | unresolvedRouting | unauthorized | emptyAnswer
  | answerTooLong | notFound | lockHeld | persistFailed
  /-- The code of a materialize hook. -/
  | hook (code : String)
deriving DecidableEq, Repr

section Answer

variable {ρ : Type} (host : NodeHost)
  (resolveAuthorizedApprover : ApproverResolutionInput ρ → Except String ApproverResolutionResult)

/-- The declaration identity of a question of the grill. -/
def HumanQuestionHandoff.isGrillBound (h : HumanQuestionHandoff) : Bool :=
  h.declarationIdentity.any fun identity => "grill-v1:".toList.isPrefixOf identity.toList

/-- An answer to a question of the grill: it runs under the lock of the issue and is materialized. -/
def isGrillAnswer (input : AnswerHandoffInput ρ) (h : HumanQuestionHandoff) : Bool :=
  h.isGrillBound && input.decision = .answer

/-- The rules are asked where the eligible set does not decide; the evidence is what they say. -/
def authorizeByRules (input : AnswerHandoffInput ρ) (eligible : List String) (notEligible : String) :
    Except ResumeFailure (Except String String) :=
  let unresolvedRouting := "unresolved authority routing: no eligible actor under effective policy"
  let unauthorized (evidence : String) :=
    "unauthorized actor for authority-bearing handoff: " ++ evidence
  if input.approvers.hasRules then
    match resolveAuthorizedApprover (input.approvers.input input.actor input.identitySource) with
    | .error message => .error (.threw message)
    | .ok result =>
      if result.unresolved then
        .ok (.error "unresolved authority routing under current policy")
      else
        let evidence := String.intercalate "; " result.evidence
        .ok (if result.authorized then .ok evidence else .error (unauthorized evidence))
  else .ok (.error (if eligible.isEmpty then unresolvedRouting else unauthorized notEligible))

/-- `authorizeHandoffAnswer(input)`: the evidence, or the reason to refuse. -/
def authorizeHandoffAnswer (h : HumanQuestionHandoff) (input : AnswerHandoffInput ρ) :
    Except ResumeFailure (Except String String) :=
  if h.status ≠ .pending then
    .ok (.error ("handoff status is " ++ h.status.name ++ ", not pending"))
  else if h.authorityMode = .authority then
    if !input.authenticated ∨ input.actor = "" ∨ input.identitySource = "" then
      .ok (.error "unidentified actor cannot satisfy authority-bearing handoff")
    else
      let eligible := h.resolutionEvidence.eligibleActors.map host.toLowerCase
      if host.toLowerCase input.actor ∈ eligible then
        .ok (.ok ("actor " ++ input.actor ++ " in eligible set"))
      else if h.isGrillBound then
        .ok (.ok ("grill-authority: authenticated actor " ++ input.actor))
      else
        authorizeByRules resolveAuthorizedApprover input eligible
          ("actor " ++ input.actor ++ " not in eligible set")
  else if !input.authenticated ∨ input.actor = "" then
    .ok (.error "non-authority answer requires authenticated actor identity for provenance")
  else .ok (.ok ("authenticated " ++ input.actor ++ " via " ++ input.identitySource))

/-- `payloadHash(parts)` of an answer. -/
def payloadHash (handoffId : String) (input : AnswerHandoffInput ρ) : String :=
  let canonical := JsonText.stringify host.numberText
    (.obj [("actor", .str input.actor), ("answer_text", orNull input.answerText),
      ("client_request_id", orNull input.clientRequestId), ("decision", .str input.decision.name),
      ("handoff_id", .str handoffId)])
  String.ofList ((host.sha256 (String.ofList canonical)).toList.take 32)

def answerCode (reason : String) : AnswerCode :=
  if "unidentified".toList <:+: reason.toList then .unidentified
  else if "unresolved".toList <:+: reason.toList then .unresolvedRouting
  else .unauthorized

/-- The same delivery again. -/
def isDuplicate (h : HumanQuestionHandoff) (input : AnswerHandoffInput ρ) : Bool :=
  (h.status = .answered || h.status = .rejected) && h.answer.any fun a =>
    a.payloadHash = payloadHash host h.handoffId input ||
      (input.clientRequestId.any (· ≠ "") && a.clientRequestId = input.clientRequestId)

/-- The record with the answer. -/
def answeredHandoff (h : HumanQuestionHandoff) (input : AnswerHandoffInput ρ) (evidence nowIso : String) :
    HumanQuestionHandoff :=
  { h with
    status := match input.decision with
      | .reject => .rejected
      | .answer => .answered
    answer := some
      { decision := input.decision
        responder := input.actor
        identitySource := input.identitySource
        answerText := match input.decision with
          | .reject => none
          | .answer => some (JsText.trim (input.answerText.getD ""))
        answeredAt := input.now.getD nowIso
        supportingEvidence := input.supportingEvidence
        payloadHash := payloadHash host h.handoffId input
        clientRequestId := input.clientRequestId
        authorizationEvidence := some evidence } }

inductive ApplyResult where
  | duplicate
  | recorded (next : HumanQuestionHandoff)
  | refused (reason : String) (code : AnswerCode)
  | threw (message : String)

def applyHandoffAnswer (h : HumanQuestionHandoff) (input : AnswerHandoffInput ρ) (nowIso : String) :
    ApplyResult :=
  let text := JsText.trim (input.answerText.getD "")
  if isDuplicate host h input then .duplicate
  else if h.status = .superseded ∨ h.status = .expired then
    .refused ("cannot " ++ input.decision.name ++ " handoff in status " ++ h.status.name) .terminalStatus
  else if h.status = .answered ∨ h.status = .rejected then
    .refused "handoff already has a terminal answer; prior answer body is immutable" .alreadyAnswered
  else
    match authorizeHandoffAnswer host resolveAuthorizedApprover h input with
    | .error (.threw message) | .error (.refused message _) => .threw message
    | .ok (.error reason) => .refused reason (answerCode reason)
    | .ok (.ok evidence) =>
      if input.decision = .answer ∧ text = "" then
        .refused "answer text is required for decision=answer" .emptyAnswer
      else if input.decision = .answer ∧ MAX_ANSWER_LENGTH < utf16Length text then
        .refused "answer exceeds 8000 characters" .answerTooLong
      else .recorded (answeredHandoff host h input evidence nowIso)

lemma recorded_pending {h next : HumanQuestionHandoff} {input : AnswerHandoffInput ρ} {nowIso : String}
    (happly : applyHandoffAnswer host resolveAuthorizedApprover h input nowIso = .recorded next) :
    h.status = .pending ∧ ∃ evidence, next = answeredHandoff host h input evidence nowIso := by
  simp only [applyHandoffAnswer] at happly
  split at happly
  · cases happly
  · split at happly
    · cases happly
    · next hterminal =>
      split at happly
      · cases happly
      · next hanswered =>
        have hpending : h.status = .pending := by cases hstatus : h.status <;> simp_all
        refine ⟨hpending, ?_⟩
        split at happly
        · cases happly
        · cases happly
        · cases happly
        · split at happly
          · cases happly
          · split at happly
            · cases happly
            · cases happly
              exact ⟨_, rfl⟩

end Answer

/-! ## Supersession -/

/-- `supersedeHandoff(input)`: the replaced record and its replacement. -/
def supersedeHandoff (prior replacement : HumanQuestionHandoff) :
    HumanQuestionHandoff × HumanQuestionHandoff :=
  ({ prior with status := .superseded, supersededBy := some replacement.handoffId },
    { replacement with supersedes := some prior.handoffId, status := .pending })

end AgentPipeline.Handoff
