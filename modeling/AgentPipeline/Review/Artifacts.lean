import AgentPipeline.Review.OverrideComments

/-!
# Artifacts: what a posted review comment records

A review comment ends with marker lines and, since they were bundled, with one artifact line that
carries their values as JSON. Of every marker the last one of the comment counts.

* `extractReviewArtifact`: the artifact, unless a marker line follows it;
* `extractBlockingKeysFromComment`, `extractBlockingSurfacesFromComment`,
  `extractDiffHashFromComment`, `extractReviewedSha` — the markers of comments without one;
* `extractVerdictFromComment`: the token in the heading.
-/

namespace AgentPipeline.Review

open JsRegExp (Regex)

/-- A comment of an issue; an author may be unknown. -/
structure IssueComment where
  author : Option String
  body : List Char
  createdAt : Option String := none
deriving DecidableEq, Repr

/-! ## Markers -/

/-- `^<!-- name: (content) -->$` with the flags `gm`. -/
def markerRe (opening : String) (content : Regex) : Regex :=
  .sequence [.lineStart, .text opening, .group 1 content, .text " -->", .lineEnd]

/-- `REVIEW_ARTIFACT_RE`. -/
def reviewArtifactRe : Regex := markerRe "<!-- review-artifact: " (.plus Base64Url.isLetter)

/-- `REVIEWED_SHA_RE`. -/
def reviewedShaRe : Regex :=
  markerRe "<!-- reviewed-sha: " (.plain (.repeated isHexAnyCase 40))

/-- `PIPELINE_BLOCKING_KEYS_RE`. -/
def pipelineBlockingKeysRe : Regex :=
  markerRe "<!-- pipeline-blocking-keys: " (.star fun c => JsRegExp.isHexDigit c || c = ',')

/-- `VERDICT_DIFF_HASH_RE`. -/
def verdictDiffHashRe : Regex :=
  markerRe "<!-- verdict-diff-hash: " (.plain (.repeated JsRegExp.isHexDigit 16))

/-- `PIPELINE_BLOCKING_SURFACES_RE`. -/
def pipelineBlockingSurfacesRe : Regex :=
  markerRe "<!-- pipeline-blocking-surfaces: " (.lazy JsRegExp.isDot 0)

/-- The last match of a global pattern. -/
def lastMatch (r : Regex) (body : List Char) : Option JsRegExp.Found :=
  (JsRegExp.matchAll r body).getLast?

/-- The value of the last marker. -/
def lastMarker (r : Regex) (body : List Char) : Option (List Char) :=
  (lastMatch r body).bind fun m => m.stop.groups.lookup 1

/-- `hasMatchAfterPos(re, body, pos)`; a position is the length of what follows it. -/
def hasMatchAfter (r : Regex) (body : List Char) (rest : Nat) : Bool :=
  (JsRegExp.matchAll r body).any fun m => m.start.rest.length < rest

/-- `/^[0-9a-f]{8}$/.test(key)`. -/
def isKeyText (key : List Char) : Bool := key.length = 8 && key.all JsRegExp.isHexDigit

/-- `text.split(",")`. -/
def splitCommas (text : List Char) : List (List Char) := text.splitOnP (· = ',')

/-! ## The artifact -/

inductive ReviewRound where
  | one | two
deriving DecidableEq, Repr

inductive Review1Risk where
  | low | standard
deriving DecidableEq, Repr

/-- One recorded finding. -/
structure ArtifactFinding where
  key : String
  surface : Option String
  severity : String
  title : String
  confidence : Option ℚ := none
  rejectedAlternatives : Option (List String) := none
deriving DecidableEq, Repr

structure ReviewArtifact where
  round : ReviewRound
  reviewedSha : String
  diffHash : Option String
  blockingKeys : List String
  review1Risk : Option Review1Risk
  pipelineRunId : Option String := none
  bodyHash : Option String := none
  blockingFindings : Option (List ArtifactFinding) := none
  advisoryFindings : Option (List ArtifactFinding) := none
  evidenceSubject : Option Json := none

/-- A value that must be there, as a text or as `null`. -/
def textOrNull (value : Json) (key : String) : Option (Option String) :=
  match value.get? key with
  | some .null => some none
  | some (.str text) => some (some text)
  | _ => none

/-- A value that may be absent; when it is there, it must have a form. -/
def optionalAt {α : Type} (value : Json) (key : String) (read : Json → Option α) :
    Option (Option α) :=
  match value.get? key with
  | none => some none
  | some v => (read v).map some

def textList? (value : Json) : Option (List String) :=
  value.elems?.bind fun elems => elems.mapM Json.text?

/-- One element of `isValidBlockingFindings(v)`, with the entry it stands for. -/
def artifactFinding? (e : Json) : Option ArtifactFinding := do
  return {
    key := ← e.textAt "key"
    surface := ← textOrNull e "surface"
    severity := ← e.textAt "severity"
    title := ← e.textAt "title"
    confidence := ← optionalAt e "confidence" Json.rational?
    rejectedAlternatives := ← optionalAt e "rejectedAlternatives" textList? }

/-- `isValidBlockingFindings(v)`, with the entries. -/
def artifactFindings? (v : Json) : Option (List ArtifactFinding) :=
  v.elems?.bind fun elems => elems.mapM artifactFinding?

def reviewRound? (value : Json) : Option ReviewRound :=
  if value.rationalAt "round" = some 1 then some .one
  else if value.rationalAt "round" = some 2 then some .two
  else none

def review1Risk? (value : Json) : Option (Option Review1Risk) := do
  match ← textOrNull value "review1Risk" with
  | none => some none
  | some "low" => some (some .low)
  | some "standard" => some (some .standard)
  | some _ => none

/-- An id of letters, digits and `-._:/`. -/
def isRunIdText (id : String) : Bool :=
  id ≠ "" && id.toList.all fun c =>
    c.isAlphanum || c = '.' || c = '_' || c = ':' || c = '/' || c = '-'

/-- `evidence_subject`: kept when it is an object, dropped when it is a list or null. -/
def subjectField? : Json → Option (Option Json)
  | .obj fields => some (some (.obj fields))
  | .arr _ | .null => some none
  | _ => none

/-- The checks of `extractReviewArtifact` on the parsed value. -/
def artifactOf (obj : Json) : Option ReviewArtifact := do
  return {
    round := ← reviewRound? obj
    reviewedSha := ← obj.textAt "reviewedSha"
    diffHash := ← textOrNull obj "diffHash"
    blockingKeys := ← (obj.get? "blockingKeys").bind textList?
    review1Risk := ← review1Risk? obj
    pipelineRunId :=
      ← optionalAt obj "pipelineRunId" fun v => v.text?.filter fun id => isRunIdText id
    bodyHash := ← optionalAt obj "bodyHash" Json.text?
    blockingFindings := ← optionalAt obj "blockingFindings" artifactFindings?
    advisoryFindings := ← optionalAt obj "advisoryFindings" artifactFindings?
    evidenceSubject := (← optionalAt obj "evidence_subject" subjectField?).join }

section Readers

variable (host : NodeHost)

/-- `extractReviewArtifact(body)`: a marker line after the artifact means that the artifact is not
the one of the footer. -/
def extractReviewArtifact (body : List Char) : Option ReviewArtifact := do
  let last ← lastMatch reviewArtifactRe body
  let rest := last.start.rest.length
  guard (!hasMatchAfter reviewedShaRe body rest ∧ !hasMatchAfter pipelineBlockingKeysRe body rest ∧
    !hasMatchAfter verdictDiffHashRe body rest)
  let b64 ← last.stop.groups.lookup 1
  let obj ← JsonText.parse host.numberOf (host.utf8Text (Base64Url.decode b64)).toList
  artifactOf obj

/-! ## The markers of comments without an artifact -/

/-- `extractBlockingKeysMarker(body)`: a set. -/
def extractBlockingKeysMarker (body : List Char) : Option (List String) :=
  (lastMarker pipelineBlockingKeysRe body).map fun keys =>
    (((splitCommas keys).filter isKeyText).map String.ofList).dedup

/-- A backtick. -/
def backtick : Char := Char.ofNat 0x60

/-- The token that a comment prints beside every finding. -/
def overrideKeyTokenRe : Regex :=
  .sequence
    [.oneOf (· = backtick), .text "override-key: ",
      .group 1 (.plain (.repeated JsRegExp.isHexDigit 8)), .oneOf (· = backtick)]

/-- `extractAllKeysFromComment(body)`: a set. -/
def extractAllKeysFromComment (body : List Char) : List String :=
  ((JsRegExp.matchAll overrideKeyTokenRe body).filterMap (·.group 1)).dedup

def extractBlockingKeysFromComment (body : List Char) : List String :=
  (extractBlockingKeysMarker body).getD (extractAllKeysFromComment body)

def extractDiffHashFromComment (body : List Char) : Option String :=
  (lastMarker verdictDiffHashRe body).map String.ofList

/-- The key and the surface of a pair `key~surface`. -/
def surfacePair (pair : List Char) : Option (String × String) :=
  if !pair.contains '~' then none
  else
    let fk := trimmed (pair.takeWhile (· ≠ '~'))
    let encodedSk := String.ofList (trimmed ((pair.dropWhile (· ≠ '~')).drop 1))
    if isKeyText fk then
      some (String.ofList fk, (UriComponent.decode encodedSk).getD encodedSk)
    else none

def extractBlockingSurfacesFromComment (body : List Char) : JsObject String :=
  (((lastMarker pipelineBlockingSurfacesRe body).map splitCommas).getD []).foldl
    (fun surfaces pair =>
      match surfacePair pair with
      | some (fk, sk) => surfaces.set fk sk
      | none => surfaces) .empty

/-- The sentinel of the reviewed commit. -/
def extractLegacyReviewedSha (body : List Char) : Option String :=
  (lastMarker reviewedShaRe body).map String.ofList

/-- The digits, the parenthesis and the dash of a heading, up to the token. -/
def verdictHeadingRe : Regex :=
  .sequence
    [.lineStart, .text "## Review ", .plus Char.isDigit, .text " (", .plus (· ≠ ')'), .text ") — ",
      .group 1 (.alt (.text "approve") (.text "needs-attention"))]

def extractVerdictFromComment (body : List Char) : Option VerdictToken :=
  (execGroups verdictHeadingRe body).map fun m =>
    if m 1 = "approve".toList then .approve else .needsAttention

end Readers

/-! ## Headings -/

/-- `REVIEW_MARKER_PREFIX_R1` and `REVIEW_MARKER_PREFIX_R2`. -/
def ReviewRound.marker : ReviewRound → String
  | .one => "## Review 1"
  | .two => "## Review 2"

/-- `DELTA_REVIEW_MARKER_PREFIX`. -/
def deltaReviewMarker : String := "## Pre-merge Delta Review"

def isReviewShapedComment (body : List Char) : Bool :=
  startsWith body ReviewRound.one.marker || startsWith body ReviewRound.two.marker || startsWith body deltaReviewMarker

end AgentPipeline.Review
