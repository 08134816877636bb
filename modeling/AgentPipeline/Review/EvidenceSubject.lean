import AgentPipeline.Foundation.NodeHost

/-!
# EvidenceSubject: the identity that evidence is bound to

* `parseEvidenceSubjectDetailed`: an unchecked value as a subject, absent or malformed;
* `compareEvidenceSubjects`: the dimensions on which two subjects differ.
-/

namespace AgentPipeline.Review

structure EvidenceSubject where
  domain : String
  issue : JsNumber
  pr : Option JsNumber
  runId : String
  candidateSha : String
  diffHash : Option String
  policyHash : String
  engineFingerprint : String
  verifierFingerprint : String
  requiredEvidenceSetRevision : String
deriving DecidableEq, Repr

/-- The reason of a malformed subject is read by nobody. -/
inductive ParseEvidenceSubjectResult where
  | absent
  | malformed
  | ok (subject : EvidenceSubject)
deriving DecidableEq, Repr

inductive EvidenceSubjectComparisonOutcome where
  | same | mismatch | malformed | legacyUnbound
deriving DecidableEq, Repr

structure EvidenceSubjectComparison where
  outcome : EvidenceSubjectComparisonOutcome
  mismatchedFields : List String := []
  subjectPresent : Bool
deriving DecidableEq, Repr

variable (host : NodeHost)

def isHexAnyCase (c : Char) : Bool := JsRegExp.isHexDigit c.toLower

def normalizeSubjectSha (sha : Option String) : Option String :=
  sha.bind fun sha =>
    let t := JsText.trim sha
    if t.toList.length = 40 ∧ t.toList.all isHexAnyCase then some (host.toLowerCase t) else none

def normalizeDigest (value : Option String) : Option String :=
  value.bind fun value =>
    let t := host.toLowerCase (JsText.trim value)
    if t ≠ "" ∧ t.toList.all isHexAnyCase then some t else none

/-- A text that is not blank, trimmed. -/
def requiredText (value : Json) (key : String) : Option String :=
  (value.textAt key).bind fun t => if JsText.nonBlank t then some (JsText.trim t) else none

/-- A finite number. -/
def requiredNumber (value : Json) (key : String) : Option JsNumber :=
  (value.rationalAt key).map JsNumber.finite

/-- `v.pr`, which is a number or null. -/
def nullableNumber (value : Json) (key : String) : Option (Option JsNumber) :=
  match value.get? key with
  | some .null => some none
  | some (.num n) => some (some n)
  | _ => none

/-- `v.diff_hash`: the key is there, with a hex text or null. -/
def nullableDigest (value : Json) (key : String) : Option (Option String) :=
  match value.get? key with
  | some .null => some none
  | some (.str text) => (normalizeDigest host (some text)).map some
  | _ => none

/-- The checks of `parseEvidenceSubjectDetailed` on an object, in order. -/
def checkSubject (v : Json) : Option EvidenceSubject := do
  guard (v.rationalAt "schema_version" = some 1)
  let domain ← requiredText v "domain"
  let issue ← requiredNumber v "issue"
  let pr ← nullableNumber v "pr"
  let runId ← requiredText v "run_id"
  let candidateSha ← normalizeSubjectSha host (v.textAt "candidate_sha")
  let diffHash ← nullableDigest host v "diff_hash"
  let policyHash ← normalizeDigest host (v.textAt "policy_hash")
  let engineFingerprint ← normalizeDigest host (v.textAt "engine_fingerprint")
  let verifierFingerprint ← normalizeDigest host (v.textAt "verifier_fingerprint")
  let requiredEvidenceSetRevision ←
    normalizeDigest host (v.textAt "required_evidence_set_revision")
  return {
    domain, issue, pr, runId, candidateSha, diffHash, policyHash, engineFingerprint
    verifierFingerprint, requiredEvidenceSetRevision }

def parseEvidenceSubjectDetailed (value : Option Json) : ParseEvidenceSubjectResult :=
  match value with
  | none | some .null => .absent
  | some v =>
    if !v.isPlainObject then .malformed
    else
      match checkSubject host v with
      | some subject => .ok subject
      | none => .malformed

/-- `canonicalizeEvidenceSubject(subject)`. -/
def canonicalizeEvidenceSubject (s : EvidenceSubject) : EvidenceSubject :=
  let lower := fun (t : String) => host.toLowerCase (JsText.trim t)
  { s with
    domain := JsText.trim s.domain
    runId := JsText.trim s.runId
    candidateSha :=
      (normalizeSubjectSha host (some s.candidateSha)).getD (host.toLowerCase s.candidateSha)
    diffHash := s.diffHash.map lower
    policyHash := lower s.policyHash
    engineFingerprint := lower s.engineFingerprint
    verifierFingerprint := lower s.verifierFingerprint
    requiredEvidenceSetRevision := lower s.requiredEvidenceSetRevision }

/-- The fields of `EVIDENCE_SUBJECT_COMPARE_FIELDS` on which two subjects differ. -/
def differingFields (a p : EvidenceSubject) : List String :=
  ([("domain", a.domain ≠ p.domain), ("issue", a.issue ≠ p.issue), ("pr", a.pr ≠ p.pr),
    ("run_id", a.runId ≠ p.runId), ("candidate_sha", a.candidateSha ≠ p.candidateSha),
    ("diff_hash", a.diffHash ≠ p.diffHash), ("policy_hash", a.policyHash ≠ p.policyHash),
    ("engine_fingerprint", a.engineFingerprint ≠ p.engineFingerprint),
    ("verifier_fingerprint", a.verifierFingerprint ≠ p.verifierFingerprint),
    ("required_evidence_set_revision",
      a.requiredEvidenceSetRevision ≠ p.requiredEvidenceSetRevision)] : List (String × Bool)).filterMap
    fun (field, differs) => if differs then some field else none

def compareEvidenceSubjects (artifactSubject pinSubject : Option Json) :
    EvidenceSubjectComparison :=
  match parseEvidenceSubjectDetailed host artifactSubject with
  | .absent => { outcome := .legacyUnbound, subjectPresent := false }
  | .malformed => { outcome := .malformed, subjectPresent := true }
  | .ok artifact =>
    match parseEvidenceSubjectDetailed host pinSubject with
    | .absent | .malformed => { outcome := .malformed, subjectPresent := true }
    | .ok pin =>
      let differing := differingFields (canonicalizeEvidenceSubject host artifact)
        (canonicalizeEvidenceSubject host pin)
      if differing.isEmpty then { outcome := .same, subjectPresent := true }
      else { outcome := .mismatch, mismatchedFields := differing, subjectPresent := true }

end AgentPipeline.Review
