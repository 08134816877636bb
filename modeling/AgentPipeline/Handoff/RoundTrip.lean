import AgentPipeline.Handoff.Record

/-!
# RoundTrip: what is written of a handoff is what is read back

A handoff is checked by the parser before it is written and again when it is read. The parser trims
the question and drops what it does not know, so a record has a normal form.

* `toJson`: the object that the parser is given;
* `parse_toJson`: the parser returns the normal form, and reads that back unchanged.
-/

namespace AgentPipeline

open List

namespace Handoff

/-! ## The object that is written -/

def orNull (text : Option String) : Json := (text.map Json.str).getD .null

def texts (list : List String) : Json := .arr (list.map .str)

/-- A field that is left out when it is `undefined`. -/
def optional (key : String) (value : Option Json) : List (String × Json) :=
  (value.map fun v => (key, v)).toList

def HumanDecisionRequiredEvidence.toJson (hdr : HumanDecisionRequiredEvidence) : Json :=
  .obj ([("finding_key", .str hdr.findingKey), ("finding_fingerprint", .str hdr.findingFingerprint),
    ("reviewed_sha", .str hdr.reviewedSha)] ++ optional "category" (hdr.category.map .str))

def HandoffScopeHashes.toJson (scope : HandoffScopeHashes) : Json :=
  .obj ([("candidate_sha", orNull scope.candidateSha), ("candidate_epoch", orNull scope.candidateEpoch),
    ("plan_revision", scope.planRevision.getD .null), ("dossier_hash", scope.dossierHash.getD .null),
    ("policy_hash", scope.policyHash.getD .null)] ++
    optional "spec_hashes" (scope.specHashes.map texts) ++
    optional "content_hashes" (scope.contentHashes.map texts))

def HandoffEligibilityEvidence.toJson (re : HandoffEligibilityEvidence) : Json :=
  .obj ([("unresolved", .bool re.unresolved), ("eligible_actors", texts re.eligibleActors),
    ("resolution_summary", .str re.resolutionSummary)] ++
    optional "matched_rule_ids" (re.matchedRuleIds.map texts))

def HandoffAnswer.toJson (a : HandoffAnswer) : Json :=
  .obj [("decision", .str a.decision.name), ("responder", .str a.responder),
    ("identity_source", .str a.identitySource), ("answer_text", orNull a.answerText),
    ("answered_at", .str a.answeredAt), ("supporting_evidence", orNull a.supportingEvidence),
    ("payload_hash", .str a.payloadHash), ("client_request_id", orNull a.clientRequestId),
    ("authorization_evidence", orNull a.authorizationEvidence)]

def DecisionResolutionPackage.toJson (pkg : DecisionResolutionPackage) : Json :=
  .obj [("recommendation", .str pkg.recommendation), ("rationale", .str pkg.rationale),
    ("alternatives", texts pkg.alternatives), ("risk", .str pkg.risk), ("evidence", texts pkg.evidence)]

def CapabilityRequestRecord.toJson (r : CapabilityRequestRecord) : Json :=
  .obj [("missing", .str r.missing), ("provider", .str r.provider), ("live_probe", .str r.liveProbe),
    ("resume_condition", .str r.resumeCondition)]

def AuthorityRequestRecord.toJson (r : AuthorityRequestRecord) : Json :=
  .obj [("eligible_actor", .str r.eligibleActor), ("repository", .str r.repository),
    ("operation", .str r.operation), ("scope", .str r.scope),
    ("candidate_epoch", orNull r.candidateEpoch), ("evidence", .arr r.evidence),
    ("expiry", .str r.expiry), ("grant", .null)]

def typedFields : Option TypedRequest → List (String × Json)
  | none => []
  | some (.decision pkg) => [("typed_request", .str "DecisionRequest"), ("decision_package", pkg.toJson)]
  | some (.capability r) =>
    [("typed_request", .str "CapabilityRequest"), ("capability_request", r.toJson)]
  | some (.authority r) => [("typed_request", .str "AuthorityRequest"), ("authority_request", r.toJson)]

def HumanQuestionHandoff.toJson (h : HumanQuestionHandoff) : Json :=
  .obj ([("schema_version", .num (.finite 1)), ("handoff_id", .str h.handoffId),
    ("domain", .str h.domain), ("repo", .str h.repo), ("issue_number", .num h.issueNumber),
    ("run_id", orNull h.runId), ("attempt_id", orNull h.attemptId),
    ("blocked_stage", .str h.blockedStage), ("question", .str h.question), ("reason", .str h.reason),
    ("handoff_class", .str h.handoffClass.name), ("authority_mode", .str h.authorityMode.name),
    ("human_decision_required", (h.humanDecisionRequired.map HumanDecisionRequiredEvidence.toJson).getD .null),
    ("policy_bound_authority_gate", .bool h.policyBoundAuthorityGate), ("scope", h.scope.toJson),
    ("required_capability", texts h.requiredCapability),
    ("resolution_evidence", h.resolutionEvidence.toJson), ("status", .str h.status.name),
    ("created_at", .str h.createdAt), ("expires_at", orNull h.expiresAt),
    ("supersedes", orNull h.supersedes), ("superseded_by", orNull h.supersededBy),
    ("answer", (h.answer.map HandoffAnswer.toJson).getD .null),
    ("resume_target", .str h.resumeTarget), ("resume_preconditions", texts h.resumePreconditions),
    ("declaration_identity", orNull h.declarationIdentity)] ++ typedFields h.typedRequest)

/-! ## The normal form -/

def HumanDecisionRequiredEvidence.normal (hdr : HumanDecisionRequiredEvidence) :
    HumanDecisionRequiredEvidence :=
  { hdr with category := hdr.category.filter fun c => c = "product-decision" || c = "authority" }

def HandoffScopeHashes.normal (scope : HandoffScopeHashes) : HandoffScopeHashes :=
  { scope with
    candidateEpoch := scope.candidateEpoch.filter JsText.nonBlank
    planRevision := presentOrNull scope.planRevision
    dossierHash := presentOrNull scope.dossierHash
    policyHash := presentOrNull scope.policyHash }

def TypedRequest.normal : TypedRequest → TypedRequest
  | .authority r =>
    .authority { r with candidateEpoch := (r.candidateEpoch.map JsText.trim).filter (· ≠ "") }
  | request => request

/-- What the parser makes of a record. -/
def HumanQuestionHandoff.normal (h : HumanQuestionHandoff) : HumanQuestionHandoff :=
  { h with
    question := JsText.trim h.question
    humanDecisionRequired := h.humanDecisionRequired.map HumanDecisionRequiredEvidence.normal
    scope := h.scope.normal
    typedRequest := h.typedRequest.map TypedRequest.normal }

@[simp] lemma named_handoffClass (c : HandoffClass) :
    named HandoffClass.all HandoffClass.name (some (.str c.name)) = some c := by
  cases c <;> rfl

@[simp] lemma named_authorityMode (m : AuthorityMode) :
    named AuthorityMode.all AuthorityMode.name (some (.str m.name)) = some m := by
  cases m <;> rfl

@[simp] lemma named_handoffStatus (s : HandoffStatus) :
    named HandoffStatus.all HandoffStatus.name (some (.str s.name)) = some s := by
  cases s <;> rfl

@[simp] lemma named_decision (d : Decision) : named Decision.all Decision.name (some (.str d.name)) = some d := by
  cases d <;> rfl

@[simp] lemma textOf_str (text : String) : textOf (some (.str text)) = text := rfl

@[simp] lemma textOrNull_orNull (text : Option String) : textOrNull (some (orNull text)) = text := by
  cases text <;> rfl

section

variable (list : List String)
include list

@[simp] lemma filterMap_text?_str :
    (list.filterMap fun t => (Json.str t).text?) = list := by
  induction list with
  | nil => rfl
  | cons t ts ih => simp [Json.text?]

@[simp] lemma elems?_texts : (texts list).elems? = some (list.map .str) := rfl

@[simp] lemma textsOf_texts : textsOf (some (texts list)) = list := by
  simp [textsOf]

end

@[simp] lemma presentOrNull_getD_null (value : Option Json) :
    presentOrNull (some (value.getD .null)) = presentOrNull value := by
  cases value <;> rfl

lemma scopeOf_toJson (scope : HandoffScopeHashes) : scopeOf scope.toJson = scope.normal := by
  obtain ⟨sha, epoch, plan, dossier, policy, spec, content⟩ := scope
  cases spec <;> cases content <;>
    simp [scopeOf, HandoffScopeHashes.toJson, HandoffScopeHashes.normal, Json.get?, optional, lookup_cons]

lemma eligibilityOf_toJson (re : HandoffEligibilityEvidence) : eligibilityOf re.toJson = re := by
  obtain ⟨unresolved, actors, summary, rules⟩ := re
  cases rules <;>
    simp [eligibilityOf, HandoffEligibilityEvidence.toJson, Json.get?, optional, Json.bool?, lookup_cons]

lemma decisionRequiredOf_toJson (hdr : HumanDecisionRequiredEvidence) : decisionRequiredOf hdr.toJson = hdr.normal := by
  obtain ⟨key, fingerprint, sha, category⟩ := hdr
  cases category <;>
    simp [decisionRequiredOf, HumanDecisionRequiredEvidence.toJson, HumanDecisionRequiredEvidence.normal, Json.get?, optional, lookup_cons, textOrNull, Json.text?]

lemma answerOf_toJson (a : HandoffAnswer) : answerOf a.toJson = a := by
  simp [answerOf, HandoffAnswer.toJson, Json.get?, lookup_cons]

lemma decisionPackageOf_toJson (pkg : DecisionResolutionPackage) : decisionPackageOf (some pkg.toJson) = pkg := by
  simp [decisionPackageOf, DecisionResolutionPackage.toJson, Json.get?, lookup_cons]

lemma capabilityRequestOf_toJson (r : CapabilityRequestRecord) : capabilityRequestOf (some r.toJson) = r := by
  simp [capabilityRequestOf, CapabilityRequestRecord.toJson, Json.get?, lookup_cons]

lemma epochOf_toJson (r : AuthorityRequestRecord) :
    epochOf (some r.toJson) = (r.candidateEpoch.map JsText.trim).filter (· ≠ "") := by
  simp [epochOf, AuthorityRequestRecord.toJson, Json.get?, lookup_cons]

lemma authorityRequestOf_toJson (r : AuthorityRequestRecord) : authorityRequestOf (some r.toJson) =
      { r with candidateEpoch := (r.candidateEpoch.map JsText.trim).filter (· ≠ "") } := by
  simp only [authorityRequestOf, epochOf_toJson]
  simp [AuthorityRequestRecord.toJson, Json.get?, lookup_cons, Json.elems?]

lemma get?_toJson_typed (h : HumanQuestionHandoff) {k : String}
    (hkey : k ∈ ["typed_request", "decision_package", "capability_request", "authority_request"]) :
    h.toJson.get? k = (typedFields h.typedRequest).lookup k := by
  simp only [mem_cons, not_mem_nil, or_false] at hkey
  rcases hkey with rfl | rfl | rfl | rfl <;> rfl

lemma typedRequestOf_toJson (h : HumanQuestionHandoff) :
    typedRequestOf h.toJson = h.typedRequest.map TypedRequest.normal := by
  simp only [typedRequestOf, get?_toJson_typed h (k := "typed_request") (by decide),
    get?_toJson_typed h (k := "decision_package") (by decide),
    get?_toJson_typed h (k := "capability_request") (by decide),
    get?_toJson_typed h (k := "authority_request") (by decide)]
  cases h.typedRequest with
  | none => rfl
  | some request =>
    cases request with
    | decision pkg => exact congrArg (fun x => some (TypedRequest.decision x)) (decisionPackageOf_toJson pkg)
    | capability r => exact congrArg (fun x => some (TypedRequest.capability x)) (capabilityRequestOf_toJson r)
    | authority r => exact congrArg (fun x => some (TypedRequest.authority x)) (authorityRequestOf_toJson r)

lemma presentOrNull_map_toJson {α : Type} (f : α → Json) (hf : ∀ a, ∃ fields, f a = .obj fields)
    (value : Option α) : presentOrNull (some ((value.map f).getD .null)) = value.map f := by
  cases value with
  | none => rfl
  | some a =>
    obtain ⟨fields, hobj⟩ := hf a
    simp [presentOrNull, hobj]

lemma handoffOf_toJson (h : HumanQuestionHandoff) : handoffOf h.toJson = h.normal := by
  have hanswer : (presentOrNull (h.toJson.get? "answer")).map answerOf = h.answer := by
    change (presentOrNull (some ((h.answer.map HandoffAnswer.toJson).getD .null))).map answerOf = _
    rw [presentOrNull_map_toJson HandoffAnswer.toJson fun a => ⟨_, rfl⟩]
    cases h.answer <;> simp [answerOf_toJson]
  have hdecision : (presentOrNull (h.toJson.get? "human_decision_required")).map decisionRequiredOf =
      h.humanDecisionRequired.map HumanDecisionRequiredEvidence.normal := by
    change (presentOrNull (some ((h.humanDecisionRequired.map
      HumanDecisionRequiredEvidence.toJson).getD .null))).map decisionRequiredOf = _
    rw [presentOrNull_map_toJson HumanDecisionRequiredEvidence.toJson fun a => ⟨_, rfl⟩]
    cases h.humanDecisionRequired <;> simp [decisionRequiredOf_toJson]
  have hscope : scopeOf ((h.toJson.get? "scope").getD .null) = h.scope.normal := scopeOf_toJson h.scope
  have hevidence : eligibilityOf ((h.toJson.get? "resolution_evidence").getD .null) =
      h.resolutionEvidence := eligibilityOf_toJson h.resolutionEvidence
  have hrun : textOrNull (h.toJson.get? "run_id") = h.runId := textOrNull_orNull _
  have hattempt : textOrNull (h.toJson.get? "attempt_id") = h.attemptId := textOrNull_orNull _
  have hexpires : textOrNull (h.toJson.get? "expires_at") = h.expiresAt := textOrNull_orNull _
  have hsupersedes : textOrNull (h.toJson.get? "supersedes") = h.supersedes := textOrNull_orNull _
  have hsuperseded : textOrNull (h.toJson.get? "superseded_by") = h.supersededBy := textOrNull_orNull _
  have hidentity : textOrNull (h.toJson.get? "declaration_identity") = h.declarationIdentity := textOrNull_orNull _
  have hclass : named HandoffClass.all HandoffClass.name (h.toJson.get? "handoff_class") =
      some h.handoffClass := named_handoffClass _
  have hmode : named AuthorityMode.all AuthorityMode.name (h.toJson.get? "authority_mode") =
      some h.authorityMode := named_authorityMode _
  have hstatus : named HandoffStatus.all HandoffStatus.name (h.toJson.get? "status") =
      some h.status := named_handoffStatus _
  have hcapability : textsOf (h.toJson.get? "required_capability") = h.requiredCapability := textsOf_texts _
  have hpreconditions : textsOf (h.toJson.get? "resume_preconditions") = h.resumePreconditions := textsOf_texts _
  have hgate : decide ((h.toJson.get? "policy_bound_authority_gate").bind Json.bool? = some true) =
      h.policyBoundAuthorityGate := by
    change decide (some h.policyBoundAuthorityGate = some true) = _
    cases h.policyBoundAuthorityGate <;> rfl
  simp only [handoffOf, hanswer, hdecision, hscope, hevidence, typedRequestOf_toJson, hrun, hattempt,
    hexpires, hsupersedes, hsuperseded, hidentity, hclass, hmode, hstatus, hcapability, hpreconditions, hgate]
  rfl

/-! ## The normal form passes the checks -/

variable {host : NodeHost} {h : HumanQuestionHandoff}

lemma fieldProblems_normal (hok : ∀ p ∈ fieldProblems host h.toJson, p.1 = false) :
    ∀ p ∈ fieldProblems host h.normal.toJson, p.1 = false := by
  simp only [fieldProblems, forall_mem_cons] at hok ⊢
  obtain ⟨hschema, hid, hdomain, hrepo, hissue, hrun, hattempt, hstage, hquestion, hlength, hrest⟩ := hok
  have hblank : (!isNonBlankText (some (.str (JsText.trim h.question)))) = false := by
    have htext : (!isNonBlankText (some (.str h.question))) = false := hquestion
    simpa [isNonBlankText] using htext
  have hshort : decide (MAX_QUESTION_LENGTH < utf16Length (JsText.trim h.question)) = false := by
    have htext : decide (MAX_QUESTION_LENGTH < utf16Length h.question) = false := hlength
    have hle := utf16Length_trim_le h.question
    simp only [decide_eq_false_iff_not, not_lt] at htext ⊢
    omega
  exact ⟨hschema, hid, hdomain, hrepo, hissue, hrun, hattempt, hstage, hblank, hshort, hrest⟩

lemma partProblems_normal (hok : ∀ p ∈ partProblems h.toJson, p.1 = false) :
    ∀ p ∈ partProblems h.normal.toJson, p.1 = false := by
  simp only [partProblems, forall_mem_cons] at hok ⊢
  obtain ⟨hscope, hsha, hevidence, hunresolved, hactors, hsummary, hhdr, hkeys, hanswers⟩ := hok
  have hget : h.normal.toJson.get? "human_decision_required" = some ((h.humanDecisionRequired.map
      fun hdr => hdr.normal.toJson).getD .null) := by
    change some _ = some _
    simp [HumanQuestionHandoff.normal, Function.comp_def]
  have hget' : h.toJson.get? "human_decision_required" =
      some ((h.humanDecisionRequired.map HumanDecisionRequiredEvidence.toJson).getD .null) := rfl
  refine ⟨rfl, hsha, hevidence, hunresolved, hactors, hsummary, ?_, ?_, hanswers⟩
  · rw [hget]
    cases h.humanDecisionRequired <;> rfl
  · rw [hget'] at hkeys
    rw [hget]
    cases hrequired : h.humanDecisionRequired with
    | none => rfl
    | some hdr =>
      rw [hrequired] at hkeys
      exact hkeys

lemma trimmedEpoch_twice (epoch : Option String) :
    (((epoch.map JsText.trim).filter (· ≠ "")).map JsText.trim).filter (· ≠ "") =
      (epoch.map JsText.trim).filter (· ≠ "") := by
  cases epoch with
  | none => rfl
  | some e =>
    by_cases he : JsText.trim e = ""
    · simp [Option.filter, he]
    · simp [Option.filter, he]

lemma authorityProblems_normal {r : AuthorityRequestRecord} {tipPresent : Bool}
    (hok : ∀ p ∈ authorityProblems (some r.toJson) tipPresent, p.1 = false) : ∀ p ∈ authorityProblems (some { r with
      candidateEpoch := (r.candidateEpoch.map JsText.trim).filter (· ≠ "") }.toJson) tipPresent, p.1 = false := by
  simp only [authorityProblems, forall_mem_cons, epochOf_toJson, trimmedEpoch_twice] at hok ⊢
  exact hok

lemma typedProblems_normal (hok : ∀ p ∈ typedProblems h.toJson, p.1 = false) :
    ∀ p ∈ typedProblems h.normal.toJson, p.1 = false := by
  have hsha : (h.normal.toJson.get? "scope").bind (·.get? "candidate_sha") =
      (h.toJson.get? "scope").bind (·.get? "candidate_sha") := rfl
  simp only [typedProblems, hsha, get?_toJson_typed _ (k := "typed_request") (by decide),
    get?_toJson_typed _ (k := "decision_package") (by decide),
    get?_toJson_typed _ (k := "capability_request") (by decide),
    get?_toJson_typed _ (k := "authority_request") (by decide)] at hok ⊢
  cases htyped : h.typedRequest with
  | none =>
    have hnormal : h.normal.typedRequest = none := by simp [HumanQuestionHandoff.normal, htyped]
    rw [hnormal]
    rw [htyped] at hok
    exact hok
  | some request =>
    have hnormal : h.normal.typedRequest = some request.normal := by simp [HumanQuestionHandoff.normal, htyped]
    rw [hnormal]
    rw [htyped] at hok
    cases request with
    | decision pkg => exact hok
    | capability r => exact hok
    | authority r => exact authorityProblems_normal hok

lemma normal_normal (h : HumanQuestionHandoff) : h.normal.normal = h.normal := by
  have hpresent : ∀ v : Option Json, presentOrNull (presentOrNull v) = presentOrNull v := by
    intro v
    cases v with
    | none => rfl
    | some v => cases v <;> rfl
  have htyped : ∀ request : TypedRequest, request.normal.normal = request.normal := by
    intro request
    cases request with
    | decision pkg => rfl
    | capability r => rfl
    | authority r => simp only [TypedRequest.normal, trimmedEpoch_twice]
  have hhdr : ∀ hdr : HumanDecisionRequiredEvidence, hdr.normal.normal = hdr.normal := by
    intro hdr
    simp [HumanDecisionRequiredEvidence.normal]
  have hscope : h.scope.normal.normal = h.scope.normal := by simp [HandoffScopeHashes.normal, hpresent]
  simp only [HumanQuestionHandoff.normal, hscope, JsText.trim_trim, Option.map_map]
  congr 2
  · exact funext hhdr
  · exact funext htyped

lemma parse_toJson {h' : HumanQuestionHandoff} (hparse : parseHumanQuestionHandoff host h.toJson = .ok h') :
    h' = h.normal ∧ parseHumanQuestionHandoff host h'.toJson = .ok h' := by
  obtain ⟨-, hproblems, hbuilt⟩ := parse_eq_ok.1 hparse
  obtain rfl : h' = h.normal := hbuilt.symm.trans (handoffOf_toJson h)
  refine ⟨rfl, parse_eq_ok.2 ⟨rfl, ?_, ?_⟩⟩
  · simp only [problems, forall_mem_append] at hproblems ⊢
    exact ⟨⟨fieldProblems_normal hproblems.1.1, partProblems_normal hproblems.1.2⟩, typedProblems_normal hproblems.2⟩
  · rw [handoffOf_toJson, normal_normal]

end Handoff
end AgentPipeline
