import AgentPipeline.Foundation.UriComponent
import AgentPipeline.Review.Attestation
import AgentPipeline.Review.OverrideGovernance

/-!
# OverrideComments: the override decisions of a comment history

An override comment ends with a sentinel line, and a governance line may stand above it. Three
readers go through the comments of trusted authors:

* `extractOverrides`: key overrides by the sentinels alone;
* `extractScopedOverrides`: scope overrides by the sentinels alone;
* `extractOverrideDecisions`: the decisions of the governance lines; a comment without one counts
  as a decision of the implicit class that does not expire.
-/

namespace AgentPipeline.Review

open JsRegExp (Regex)

/-- A comment of a trusted author. -/
structure TrustedComment where
  body : List Char
  createdAt : Option String := none
deriving DecidableEq, Repr

/-! ## Sentinels -/

def overrideHeading : String := "## Pipeline: Finding override"

def scopeOverrideHeading : String := "## Pipeline: Scope override"

/-- `OVERRIDE_RE`. -/
def overrideRe : Regex :=
  .sequence
    [.lineStart, .text "<!-- pipeline-override: ",
      .group 1 (.plain (.repeated JsRegExp.isHexDigit 8)), .text " ",
      .group 2 (.lazy JsRegExp.isDot 1), .text " -->", .lineEnd]

/-- `SCOPE_OVERRIDE_RE`. -/
def scopeOverrideRe : Regex :=
  .sequence
    [.lineStart, .text "<!-- pipeline-override-scope: ",
      .group 1 (.alt (.text "category") (.text "file")), .text ":",
      .group 2 (.plus fun c => !JsText.isSpace c), .text " ", .group 3 (.lazy JsRegExp.isDot 1),
      .text " -->", .lineEnd]

/-- `OVERRIDE_GOV_RE`. -/
def overrideGovRe : Regex :=
  .sequence
    [.lineStart, .text "<!-- pipeline-override-gov: v1 ", .group 1 (.lazy JsRegExp.isDot 1),
      .text " -->", .lineEnd]

/-- The groups of the first match. -/
def execGroups (r : Regex) (line : List Char) : Option (Nat → List Char) :=
  (JsRegExp.exec r line).map fun m i => (m.stop.groups.lookup i).getD []

def startsWith (text : List Char) (start : String) : Bool := start.toList.isPrefixOf text

/-- `text.trim()`. -/
def trimmed (text : List Char) : List Char := JsText.trimEnd (JsText.trimStart text)

/-- `body.split("\n").map((l) => l.trim()).filter(Boolean)`. -/
def trimmedLines (body : List Char) : List (List Char) :=
  ((JsRegExp.splitLines body).map trimmed).filter (· ≠ [])

/-- A key sentinel: the key and the disposition. -/
structure KeySentinel where
  key : String
  disposition : String
deriving DecidableEq, Repr

def readKeySentinel (line : List Char) : Option KeySentinel :=
  (execGroups overrideRe line).map fun m => ⟨String.ofList (m 1), String.ofList (trimmed (m 2))⟩

/-- The text before and after the first `" | "`. -/
def splitAtPipe : List Char → Option (List Char × List Char)
  | ' ' :: '|' :: ' ' :: rest => some ([], rest)
  | c :: rest => (splitAtPipe rest).map fun (before, after) => (c :: before, after)
  | [] => none

/-- A scope sentinel; a value that is not percent-encoded stands for itself. -/
def readScopeSentinel (line : List Char) : Option ScopedOverride :=
  (execGroups scopeOverrideRe line).map fun m =>
    let captured := trimmed (m 3)
    let (disposition, reason) :=
      match splitAtPipe captured with
      | some (before, after) => (trimmed before, trimmed after)
      | none => (captured, captured)
    { type := if m 1 = "category".toList then .category else .file
      value := (UriComponent.decode (String.ofList (m 2))).getD (String.ofList (m 2))
      disposition := String.ofList disposition
      reason := String.ofList reason }

variable (host : NodeHost)

/-- The lines above the attestation. -/
def sentinelLines (body : List Char) : List (List Char) :=
  let lines := trimmedLines body
  if !lines.isEmpty ∧ isVerifiedPipelineAttestation host body then lines.dropLast else lines

/-- `lines.at(-1) ?? ""`. -/
def lastLine (body : List Char) : List Char := (sentinelLines host body).getLast?.getD []

/-! ## The sentinels alone -/

/-- The key sentinel of a comment with the heading for it. -/
def headedKeySentinel (c : TrustedComment) : Option KeySentinel :=
  if startsWith c.body overrideHeading then readKeySentinel (lastLine host c.body) else none

/-- `extractOverrides(comments)`: a later sentinel replaces an earlier one for its key. -/
def extractOverrides (comments : List TrustedComment) : JsObject String :=
  (comments.filterMap (headedKeySentinel host)).foldl
    (fun overrides s => overrides.set s.key s.disposition) .empty

/-- The scope sentinel of a comment with the heading for it. -/
def headedScopeSentinel (c : TrustedComment) : Option ScopedOverride :=
  if startsWith c.body scopeOverrideHeading then readScopeSentinel (lastLine host c.body) else none

/-- The sentinels by `${type}:${value}`; a later one replaces an earlier one. -/
def scopeTable (comments : List TrustedComment) : JsObject ScopedOverride :=
  (comments.filterMap (headedScopeSentinel host)).foldl
    (fun scopes s => scopes.set (s.type.name ++ ":" ++ s.value) s) .empty

def extractScopedOverrides (comments : List TrustedComment) : List ScopedOverride :=
  (scopeTable host comments).values

/-! ## Governance lines -/

/-- `parseOverrideGovLine(line)`: an object with an id, a class and a target. -/
def parseOverrideGovLine (line : List Char) : Option Json := do
  let m ← execGroups overrideGovRe (trimmed line)
  let raw ← JsonText.parse host.numberOf (m 1)
  let target ← raw.get? "target"
  guard ((raw.textAt "decision_id").isSome ∧ (raw.textAt "class").isSome ∧
    (target.isPlainObject ∨ target.elems?.isSome))
  return raw

/-- A text that may be missing or null; anything else is not of the declared type. -/
def nullableText (value : Json) (key : String) : Option (Option String) :=
  match value.get? key with
  | none | some .null => some none
  | some (.str text) => some (some text)
  | some _ => none

def targetOf (target : Json) : Option OverrideTarget := do
  match ← target.textAt "kind" with
  | "key" => return .key (← target.textAt "key")
  | "scope" =>
    let scopeType ←
      match ← target.textAt "scopeType" with
      | "category" => some ScopeType.category
      | "file" => some ScopeType.file
      | _ => none
    return .scope scopeType (← target.textAt "scopeValue")
  | _ => none

def renewalKindOf (value : Json) : Option (Option RenewalKind) := do
  match ← nullableText value "renewal_kind" with
  | none => some none
  | some "lite" => some (some .lite)
  | some "human" => some (some .human)
  | some _ => none

/-- `{ ...(gov.evidence_refs ?? {}) }`. -/
def evidenceRefsOf (value : Json) : Option (JsObject String) :=
  match value.get? "evidence_refs" with
  | none | some .null => some .empty
  | some refs => do
      let fields ← refs.fields?
      let texts ← fields.mapM fun (kind, ref) => (ref.text?).map (kind, ·)
      return texts.foldl (fun refs (kind, ref) => refs.set kind ref) .empty

/-- The decision of a payload of the declared type, `OverrideGovPayload`. -/
def decisionOfPayload (gov : Json) : Option OverrideDecision := do
  let identitySource ← gov.textAt "identity_source"
  return {
    decisionId := ← gov.textAt "decision_id"
    classId := ← gov.textAt "class"
    disposition := ← gov.textAt "disposition"
    target := ← targetOf (← gov.get? "target")
    explanation := ← gov.textAt "explanation"
    actor := ← gov.textAt "actor"
    identitySource := identitySource
    authorization :=
      { authorized := true
        matchedRule := ← nullableText gov "authorization_matched_rule"
        evidence := ← gov.textAt "authorization_evidence"
        identitySource := identitySource }
    evidenceRefs := ← evidenceRefsOf gov
    evidenceSubject := gov.get? "evidence_subject"
    findingFingerprint := ← nullableText gov "finding_fingerprint"
    codeRegion := ← nullableText gov "code_region"
    createdAt := ← gov.textAt "created_at"
    expiresAt := ← gov.textAt "expires_at"
    supersedes := ← nullableText gov "supersedes"
    renewedFrom := ← nullableText gov "renewed_from"
    renewalKind := ← renewalKindOf gov }

/-! ## Decisions -/

/-- `new Date(createdAt).toISOString().replace(/\.\d{3}Z$/, "Z")`, or the epoch. -/
def legacyCreatedAt (createdAt : Option String) : String :=
  match (truthy createdAt).bind host.dateParse with
  | some t =>
    JsRegExp.replaceFirst
      (.sequence [.literal ".", .repeated Char.isDigit 3, .literal "Z", .atEnd]) "Z"
      (host.toISOString t)
  | none => "1970-01-01T00:00:00Z"

def legacyExpiresAt : String := "9999-12-31T23:59:59Z"

/-- What the two kinds of legacy decisions share. -/
def legacyDecision (createdAt : Option String) (idPrefix disposition explanation evidence : String)
    (target : OverrideTarget) : OverrideDecision where
  decisionId := idPrefix ++ legacyCreatedAt host createdAt
  classId := implicitLowRiskClass
  disposition := disposition
  target := target
  explanation := explanation
  actor := "legacy"
  identitySource := "legacy_sentinel"
  authorization := ⟨true, some "legacy_compat", evidence, "legacy_sentinel"⟩
  findingFingerprint := none
  codeRegion := none
  createdAt := legacyCreatedAt host createdAt
  expiresAt := legacyExpiresAt
  legacyCompat := true

def legacyKeyDecision (createdAt : Option String) (s : KeySentinel) : OverrideDecision :=
  legacyDecision host createdAt ("legacy-key-" ++ s.key ++ "-") s.disposition s.disposition
    "pre-governance sentinel under low_risk_deferred" (.key s.key)

def legacyScopeDecision (createdAt : Option String) (s : ScopedOverride) : OverrideDecision :=
  legacyDecision host createdAt ("legacy-scope-" ++ s.type.name ++ "-" ++ s.value ++ "-")
    s.disposition s.reason "pre-governance scope sentinel under low_risk_deferred"
    (.scope s.type s.value)

/-- The line of the legacy sentinel: the last one, or the one above a last governance line. -/
def legacyLine (lines : List (List Char)) : List Char :=
  let last := lines.getLast?.getD []
  if (parseOverrideGovLine host last).isSome then lines.dropLast.getLast?.getD [] else last

/-- The decision of a legacy sentinel, a key sentinel first. -/
def legacyDecisionOf (createdAt : Option String) (line : List Char) : Option OverrideDecision :=
  match readKeySentinel line with
  | some s => some (legacyKeyDecision host createdAt s)
  | none => (readScopeSentinel line).map (legacyScopeDecision host createdAt)

/-- A comment with one of the two headings. -/
def isOverrideComment (c : TrustedComment) : Bool :=
  startsWith c.body overrideHeading || startsWith c.body scopeOverrideHeading

/-- The turn of a comment. An error is a payload that is not of its declared type. -/
def readDecision (c : TrustedComment) : Except Json (Option OverrideDecision) :=
  if !isOverrideComment c then .ok none
  else
    let lines := sentinelLines host c.body
    if lines.isEmpty then .ok none
    else
      match lines.reverse.findSome? (parseOverrideGovLine host) with
      | some gov =>
        match decisionOfPayload gov with
        | some d => .ok (some d)
        | none => .error gov
      | none => .ok (legacyDecisionOf host c.createdAt (legacyLine host lines))

def extractOverrideDecisions (comments : List TrustedComment) :
    Except Json (List OverrideDecision) := do
  let read ← comments.mapM (readDecision host)
  return read.reduceOption

end AgentPipeline.Review
