import AgentPipeline.Review.VerdictParsing

/-!
# Record: the stored form of a question to a human

A handoff parks an item behind a question. It is stored as JSON and read back by
`parseHumanQuestionHandoff`, which refuses what the schema does not allow and copies the rest.

* `problems`: the checks of the parser in their order, each with its reason;
* `handoffOf`: the record read from an object that passes them;
* `toJson`: the object that is written.
-/

namespace AgentPipeline

/-- Whether a value counts as true; `none` is `undefined`. -/
def Json.isTruthy : Option Json → Bool
  | none | some .null => false
  | some (.bool b) => b
  | some (.num n) => n ≠ .finite 0 && n ≠ .nan
  | some (.str text) => text ≠ ""
  | some (.arr _) | some (.obj _) => true

namespace Handoff

/-! ## Closed sets of words -/

inductive HandoffClass where
  | missingContext | productJudgment | domainExpertise | riskAuthority | overrideDisposition
  | manualRepair | unknown
deriving DecidableEq, Repr

def HandoffClass.name : HandoffClass → String
  | .missingContext => "missing_context"
  | .productJudgment => "product_judgment"
  | .domainExpertise => "domain_expertise"
  | .riskAuthority => "risk_authority"
  | .overrideDisposition => "override_disposition"
  | .manualRepair => "manual_repair"
  | .unknown => "unknown"

def HandoffClass.all : List HandoffClass :=
  [.missingContext, .productJudgment, .domainExpertise, .riskAuthority, .overrideDisposition, .manualRepair, .unknown]

/-- `AUTHORITY_BEARING_CLASSES.has(cls)`. -/
def HandoffClass.bearsAuthority (cls : HandoffClass) : Bool :=
  cls = .productJudgment || cls = .riskAuthority || cls = .overrideDisposition

/-- `NON_AUTHORITY_CLASSES.has(cls)`. -/
def HandoffClass.isNonAuthority (cls : HandoffClass) : Bool := !cls.bearsAuthority

inductive HandoffStatus where
  | pending | answered | rejected | superseded | expired
deriving DecidableEq, Repr

def HandoffStatus.name : HandoffStatus → String
  | .pending => "pending"
  | .answered => "answered"
  | .rejected => "rejected"
  | .superseded => "superseded"
  | .expired => "expired"

def HandoffStatus.all : List HandoffStatus := [.pending, .answered, .rejected, .superseded, .expired]

inductive AuthorityMode where
  | authority | nonAuthority
deriving DecidableEq, Repr

def AuthorityMode.name : AuthorityMode → String
  | .authority => "authority"
  | .nonAuthority => "non_authority"

def AuthorityMode.all : List AuthorityMode := [.authority, .nonAuthority]

def defaultAuthorityModeForClass (cls : HandoffClass) : AuthorityMode :=
  if cls.bearsAuthority then .authority else .nonAuthority

inductive Decision where
  | answer | reject
deriving DecidableEq, Repr

def Decision.name : Decision → String
  | .answer => "answer"
  | .reject => "reject"

def Decision.all : List Decision := [.answer, .reject]

/-- The member of a closed set with the given name. -/
def named {α : Type} (all : List α) (name : α → String) (value : Option Json) : Option α :=
  match value with
  | some (.str text) => all.find? fun a => name a = text
  | _ => none

/-! ## Records -/

structure HumanDecisionRequiredEvidence where
  findingKey : String
  findingFingerprint : String
  reviewedSha : String
  category : Option String := none
deriving DecidableEq, Repr

/-- `HandoffScopeHashes`; the parser copies three of the fields whatever they are. -/
structure HandoffScopeHashes where
  candidateSha : Option String := none
  candidateEpoch : Option String := none
  planRevision : Option Json := none
  dossierHash : Option Json := none
  policyHash : Option Json := none
  specHashes : Option (List String) := none
  contentHashes : Option (List String) := none
deriving Repr

structure HandoffEligibilityEvidence where
  unresolved : Bool
  eligibleActors : List String
  resolutionSummary : String
  matchedRuleIds : Option (List String) := none
deriving DecidableEq, Repr

structure HandoffAnswer where
  decision : Decision
  responder : String
  identitySource : String
  answerText : Option String
  answeredAt : String
  supportingEvidence : Option String
  payloadHash : String
  clientRequestId : Option String
  authorizationEvidence : Option String
deriving DecidableEq, Repr

structure DecisionResolutionPackage where
  recommendation : String
  rationale : String
  alternatives : List String
  risk : String
  evidence : List String
deriving DecidableEq, Repr

structure CapabilityRequestRecord where
  missing : String
  provider : String
  liveProbe : String
  resumeCondition : String
deriving DecidableEq, Repr

/-- `AuthorityRequestRecord`, whose `grant` is always `null`. -/
structure AuthorityRequestRecord where
  eligibleActor : String
  repository : String
  operation : String
  scope : String
  candidateEpoch : Option String
  evidence : List Json
  expiry : String
deriving Repr

/-- `typed_request` with the record that goes with it. -/
inductive TypedRequest where
  | decision (package : DecisionResolutionPackage)
  | capability (record : CapabilityRequestRecord)
  | authority (record : AuthorityRequestRecord)
deriving Repr

structure HumanQuestionHandoff where
  handoffId : String
  domain : String
  repo : String
  issueNumber : JsNumber
  runId : Option String
  attemptId : Option String
  blockedStage : String
  question : String
  reason : String
  handoffClass : HandoffClass
  authorityMode : AuthorityMode
  humanDecisionRequired : Option HumanDecisionRequiredEvidence
  policyBoundAuthorityGate : Bool
  scope : HandoffScopeHashes
  requiredCapability : List String
  resolutionEvidence : HandoffEligibilityEvidence
  status : HandoffStatus
  createdAt : String
  expiresAt : Option String
  supersedes : Option String
  supersededBy : Option String
  answer : Option HandoffAnswer
  resumeTarget : String
  resumePreconditions : List String
  declarationIdentity : Option String
  typedRequest : Option TypedRequest
deriving Repr

/-! ## Reading values -/

/-- `isNonEmptyString(v, max)`. -/
def isNonEmptyString (max : Nat) : Option Json → Bool
  | some (.str text) => JsText.nonBlank text && utf16Length text ≤ max
  | _ => false

/-- `typeof v === "string" && v.trim()`. -/
def isNonBlankText : Option Json → Bool
  | some (.str text) => JsText.nonBlank text
  | _ => false

/-- `Array.isArray(v)` with texts only. -/
def isTexts : Option Json → Bool
  | some (.arr elems) => elems.all fun v => v.text?.isSome
  | _ => false

/-- `v === null || v === undefined || typeof v === "string"`. -/
def isTextOrNull : Option Json → Bool
  | none | some .null | some (.str _) => true
  | _ => false

/-- `v !== null && typeof v === "object"`. -/
def isObject : Option Json → Bool
  | some (.arr _) | some (.obj _) => true
  | _ => false

def textOf (value : Option Json) : String := (value.bind Json.text?).getD ""

def textOrNull (value : Option Json) : Option String := value.bind Json.text?

def textsOf (value : Option Json) : List String :=
  ((value.bind Json.elems?).getD []).filterMap Json.text?

/-- `v ?? null`. -/
def presentOrNull : Option Json → Option Json
  | none | some .null => none
  | some v => some v

def HANDOFF_SCHEMA_VERSION : Nat := 1

def MAX_QUESTION_LENGTH : Nat := 4000

def MAX_ANSWER_LENGTH : Nat := 8000

def MAX_REASON_LENGTH : Nat := 2000

/-- `Number.isInteger(n) && n >= 1`. -/
def isIssueNumber : Option Json → Bool
  | some (.num (.finite q)) => q.den = 1 && 1 ≤ q
  | _ => false

/-- The reason of the first problem there is. -/
def firstProblem (problems : List (Bool × String)) : Option String :=
  (problems.find? (·.1)).map (·.2)

/-! ## Typed requests -/

/-- `validateDecisionPackage(pkg)`. -/
def decisionProblems (pkg : Option Json) : List (Bool × String) :=
  let read (key : String) := pkg.bind (·.get? key)
  [(!isObject pkg, "decision resolution package is missing"),
    (!isNonBlankText (read "recommendation"), "decision resolution missing recommendation"),
    (!isNonBlankText (read "rationale"), "decision resolution missing rationale"),
    (!isTexts (read "alternatives"), "decision resolution missing alternatives"),
    (!isNonBlankText (read "risk"), "decision resolution missing risk"),
    (!isTexts (read "evidence") || (textsOf (read "evidence")).isEmpty, "decision resolution missing evidence")]

def decisionPackageOf (pkg : Option Json) : DecisionResolutionPackage :=
  let read (key : String) := pkg.bind (·.get? key)
  { recommendation := textOf (read "recommendation")
    rationale := textOf (read "rationale")
    alternatives := textsOf (read "alternatives")
    risk := textOf (read "risk")
    evidence := textsOf (read "evidence") }

/-- `validateCapabilityRequest(record)`. -/
def capabilityProblems (record : Option Json) : List (Bool × String) :=
  let read (key : String) := record.bind (·.get? key)
  [(!isObject record, "CapabilityRequest is missing"),
    (!isNonBlankText (read "missing"), "CapabilityRequest missing capability or information"),
    (!isNonBlankText (read "provider"), "CapabilityRequest missing provider"),
    (!isNonBlankText (read "live_probe"), "CapabilityRequest missing live probe"),
    (!isNonBlankText (read "resume_condition"), "CapabilityRequest missing resume condition")]

def capabilityRequestOf (record : Option Json) : CapabilityRequestRecord :=
  let read (key : String) := record.bind (·.get? key)
  { missing := textOf (read "missing")
    provider := textOf (read "provider")
    liveProbe := textOf (read "live_probe")
    resumeCondition := textOf (read "resume_condition") }

def epochOf (record : Option Json) : Option String :=
  (textOrNull (record.bind (·.get? "candidate_epoch"))).map JsText.trim |>.filter (· ≠ "")

/-- `validateAuthorityRequest(record, tipPresent)`. -/
def authorityProblems (record : Option Json) (tipPresent : Bool) : List (Bool × String) :=
  let read (key : String) := record.bind (·.get? key)
  [(!isObject record, "AuthorityRequest is missing"),
    ((presentOrNull (read "grant")).isSome, "AuthorityRequest must not record a default grant"),
    (!isNonBlankText (read "eligible_actor"), "AuthorityRequest missing eligible actor"),
    (!isNonBlankText (read "repository"), "AuthorityRequest missing repository"),
    (!isNonBlankText (read "operation"), "AuthorityRequest missing operation"),
    (!isNonBlankText (read "scope"), "AuthorityRequest missing scope"),
    (!isNonBlankText (read "expiry"), "AuthorityRequest missing expiry"),
    ((((read "evidence").bind Json.elems?).getD []).isEmpty, "AuthorityRequest missing evidence"),
    (tipPresent && (epochOf record).isNone, "AuthorityRequest missing candidate epoch while a tip exists")]

def authorityRequestOf (record : Option Json) : AuthorityRequestRecord :=
  let read (key : String) := record.bind (·.get? key)
  { eligibleActor := textOf (read "eligible_actor")
    repository := textOf (read "repository")
    operation := textOf (read "operation")
    scope := textOf (read "scope")
    candidateEpoch := epochOf record
    evidence := ((read "evidence").bind Json.elems?).getD []
    expiry := textOf (read "expiry") }

/-! ## The parser -/

section Parse

variable (host : NodeHost)

/-- `String(v)`. -/
def shown : Option Json → String
  | none => "undefined"
  | some v => Review.display host v

/-- The checks on the fields of the record itself. -/
def fieldProblems (o : Json) : List (Bool × String) :=
  let cls := named HandoffClass.all HandoffClass.name (o.get? "handoff_class")
  let mode := named AuthorityMode.all AuthorityMode.name (o.get? "authority_mode")
  let status := named HandoffStatus.all HandoffStatus.name (o.get? "status")
  let schemaVersion := (o.get? "schema_version").bind Json.natural?
  [(schemaVersion ≠ some HANDOFF_SCHEMA_VERSION,
      "unsupported schema_version: " ++ shown host (o.get? "schema_version") ++ " (supported: 1)"),
    (!isNonEmptyString 200 (o.get? "handoff_id"), "missing or invalid handoff_id"),
    (!isNonEmptyString 200 (o.get? "domain"), "missing or invalid domain"),
    (!isNonEmptyString 300 (o.get? "repo"), "missing or invalid repo"),
    (!isIssueNumber (o.get? "issue_number"), "missing or invalid issue_number"),
    (!isTextOrNull (o.get? "run_id"), "invalid run_id"),
    (!isTextOrNull (o.get? "attempt_id"), "invalid attempt_id"),
    (!isNonEmptyString 100 (o.get? "blocked_stage"), "missing or invalid blocked_stage"),
    (!isNonBlankText (o.get? "question"), "missing or empty question"),
    (MAX_QUESTION_LENGTH < utf16Length (textOf (o.get? "question")), "question exceeds 4000 characters"),
    ((textOrNull (o.get? "reason")).all fun r => MAX_REASON_LENGTH < utf16Length r, "missing or oversized reason"),
    (cls.isNone, "unknown handoff_class: " ++ shown host (o.get? "handoff_class")),
    (mode.isNone, "invalid authority_mode: " ++ shown host (o.get? "authority_mode")),
    (cls = some .unknown && mode ≠ some .nonAuthority, "handoff_class unknown requires authority_mode non_authority"),
    (cls.any HandoffClass.isNonAuthority && mode = some .authority && cls ≠ some .riskAuthority &&
        !Json.isTruthy (o.get? "policy_bound_authority_gate"),
      "class " ++ shown host (o.get? "handoff_class") ++
        " cannot be authority_mode authority without policy_bound_authority_gate"),
    (status.isNone, "invalid status: " ++ shown host (o.get? "status")),
    (!isNonEmptyString 40 (o.get? "created_at"), "missing created_at"),
    (!isTextOrNull (o.get? "expires_at"), "invalid expires_at"),
    (!isNonEmptyString 200 (o.get? "resume_target"), "missing or invalid resume_target"),
    (!isTexts (o.get? "resume_preconditions"), "resume_preconditions must be string[]"),
    (!isTexts (o.get? "required_capability"), "required_capability must be string[]")]

/-- The checks on the records inside it. -/
def partProblems (o : Json) : List (Bool × String) :=
  let scope := o.get? "scope"
  let re := o.get? "resolution_evidence"
  let hdr := presentOrNull (o.get? "human_decision_required")
  let answer := presentOrNull (o.get? "answer")
  let read (value : Option Json) (key : String) := value.bind (·.get? key)
  [(!isObject scope, "missing scope"), (!isTextOrNull (read scope "candidate_sha"), "invalid candidate_sha"),
    (!isObject re, "missing resolution_evidence"),
    (((read re "unresolved").bind Json.bool?).isNone, "resolution_evidence.unresolved must be boolean"),
    (!isTexts (read re "eligible_actors"), "resolution_evidence.eligible_actors must be string[]"),
    (((read re "resolution_summary").bind Json.text?).isNone, "resolution_evidence.resolution_summary must be string"),
    (hdr.isSome && !isObject hdr, "invalid human_decision_required"),
    (hdr.isSome && !(isNonEmptyString 64 (read hdr "finding_key") &&
        isNonEmptyString 64 (read hdr "finding_fingerprint") &&
        isNonEmptyString 64 (read hdr "reviewed_sha")),
      "human_decision_required missing key/fingerprint/reviewed_sha"),
    (answer.isSome && !isObject answer, "invalid answer"),
    (answer.isSome && (named Decision.all Decision.name (read answer "decision")).isNone,
      "answer.decision must be answer|reject"),
    (answer.isSome && !(isNonEmptyString 200 (read answer "responder") &&
        isNonEmptyString 100 (read answer "identity_source")),
      "answer missing responder/identity_source"),
    (answer.isSome && !(isNonEmptyString 40 (read answer "answered_at") &&
        isNonEmptyString 128 (read answer "payload_hash")),
      "answer missing answered_at/payload_hash")]

/-- The checks on the record of a typed request. -/
def typedProblems (o : Json) : List (Bool × String) :=
  match textOrNull (o.get? "typed_request") with
  | some "DecisionRequest" => decisionProblems (o.get? "decision_package")
  | some "CapabilityRequest" => capabilityProblems (o.get? "capability_request")
  | some "AuthorityRequest" =>
    authorityProblems (o.get? "authority_request")
      (Json.isTruthy ((o.get? "scope").bind (·.get? "candidate_sha")))
  | _ => []

def problems (o : Json) : List (Bool × String) :=
  fieldProblems host o ++ partProblems o ++ typedProblems o

end Parse

def decisionRequiredOf (hdr : Json) : HumanDecisionRequiredEvidence where
  findingKey := textOf (hdr.get? "finding_key")
  findingFingerprint := textOf (hdr.get? "finding_fingerprint")
  reviewedSha := textOf (hdr.get? "reviewed_sha")
  category := (textOrNull (hdr.get? "category")).filter fun c => c = "product-decision" || c = "authority"

def answerOf (a : Json) : HandoffAnswer where
  decision := (named Decision.all Decision.name (a.get? "decision")).getD .answer
  responder := textOf (a.get? "responder")
  identitySource := textOf (a.get? "identity_source")
  answerText := textOrNull (a.get? "answer_text")
  answeredAt := textOf (a.get? "answered_at")
  supportingEvidence := textOrNull (a.get? "supporting_evidence")
  payloadHash := textOf (a.get? "payload_hash")
  clientRequestId := textOrNull (a.get? "client_request_id")
  authorizationEvidence := textOrNull (a.get? "authorization_evidence")

def scopeOf (scope : Json) : HandoffScopeHashes where
  candidateSha := textOrNull (scope.get? "candidate_sha")
  candidateEpoch := (textOrNull (scope.get? "candidate_epoch")).filter JsText.nonBlank
  planRevision := presentOrNull (scope.get? "plan_revision")
  dossierHash := presentOrNull (scope.get? "dossier_hash")
  policyHash := presentOrNull (scope.get? "policy_hash")
  specHashes := ((scope.get? "spec_hashes").bind Json.elems?).map (·.filterMap Json.text?)
  contentHashes := ((scope.get? "content_hashes").bind Json.elems?).map (·.filterMap Json.text?)

def eligibilityOf (re : Json) : HandoffEligibilityEvidence where
  unresolved := ((re.get? "unresolved").bind Json.bool?).getD false
  eligibleActors := textsOf (re.get? "eligible_actors")
  resolutionSummary := textOf (re.get? "resolution_summary")
  matchedRuleIds := ((re.get? "matched_rule_ids").bind Json.elems?).map (·.filterMap Json.text?)

def typedRequestOf (o : Json) : Option TypedRequest :=
  match textOrNull (o.get? "typed_request") with
  | some "DecisionRequest" => some (.decision (decisionPackageOf (o.get? "decision_package")))
  | some "CapabilityRequest" => some (.capability (capabilityRequestOf (o.get? "capability_request")))
  | some "AuthorityRequest" => some (.authority (authorityRequestOf (o.get? "authority_request")))
  | _ => none

/-- The record of an object that passes the checks. -/
def handoffOf (o : Json) : HumanQuestionHandoff where
  handoffId := textOf (o.get? "handoff_id")
  domain := textOf (o.get? "domain")
  repo := textOf (o.get? "repo")
  issueNumber := ((o.get? "issue_number").bind Json.number?).getD .nan
  runId := textOrNull (o.get? "run_id")
  attemptId := textOrNull (o.get? "attempt_id")
  blockedStage := textOf (o.get? "blocked_stage")
  question := JsText.trim (textOf (o.get? "question"))
  reason := textOf (o.get? "reason")
  handoffClass := (named HandoffClass.all HandoffClass.name (o.get? "handoff_class")).getD .unknown
  authorityMode :=
    (named AuthorityMode.all AuthorityMode.name (o.get? "authority_mode")).getD .nonAuthority
  humanDecisionRequired := (presentOrNull (o.get? "human_decision_required")).map decisionRequiredOf
  policyBoundAuthorityGate := (o.get? "policy_bound_authority_gate").bind Json.bool? = some true
  scope := scopeOf ((o.get? "scope").getD .null)
  requiredCapability := textsOf (o.get? "required_capability")
  resolutionEvidence := eligibilityOf ((o.get? "resolution_evidence").getD .null)
  status := (named HandoffStatus.all HandoffStatus.name (o.get? "status")).getD .pending
  createdAt := textOf (o.get? "created_at")
  expiresAt := textOrNull (o.get? "expires_at")
  supersedes := textOrNull (o.get? "supersedes")
  supersededBy := textOrNull (o.get? "superseded_by")
  answer := (presentOrNull (o.get? "answer")).map answerOf
  resumeTarget := textOf (o.get? "resume_target")
  resumePreconditions := textsOf (o.get? "resume_preconditions")
  declarationIdentity := textOrNull (o.get? "declaration_identity")
  typedRequest := typedRequestOf o

def parseHumanQuestionHandoff (host : NodeHost) (raw : Json) : Except String HumanQuestionHandoff :=
  if !isObject (some raw) then .error "handoff record is not an object"
  else
    match firstProblem (problems host raw) with
    | some reason => .error reason
    | none => .ok (handoffOf raw)

lemma firstProblem_eq_none {problems : List (Bool × String)} :
    firstProblem problems = none ↔ ∀ p ∈ problems, p.1 = false := by
  simp [firstProblem]

lemma parse_eq_ok {host : NodeHost} {raw : Json} {h : HumanQuestionHandoff} :
    parseHumanQuestionHandoff host raw = .ok h ↔
      isObject (some raw) = true ∧ (∀ p ∈ problems host raw, p.1 = false) ∧ handoffOf raw = h := by
  rw [← firstProblem_eq_none, parseHumanQuestionHandoff]
  cases hobject : isObject (some raw) with
  | false => simp
  | true =>
    cases hproblem : firstProblem (problems host raw) <;> simp

end Handoff
end AgentPipeline
