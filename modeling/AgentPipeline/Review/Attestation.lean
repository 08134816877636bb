import AgentPipeline.Foundation.Base64Url
import AgentPipeline.Foundation.JsExec
import AgentPipeline.Foundation.JsonText
import AgentPipeline.Foundation.NodeHost

/-!
# Attestation: the marker that binds a comment to its body

A comment that the pipeline posts ends with a marker line that carries the kind of the comment and
the digest of what precedes the line.

* `attestPipelineComment`: the body with its marker;
* `isVerifiedPipelineAttestation`: the last marker ends the comment and its digest is that of the
  text before it.
-/

namespace AgentPipeline.Review

open JsRegExp (Regex)

structure PipelineAttestation where
  kind : String
  bodyHash : String
deriving DecidableEq, Repr

/-- `PIPELINE_ATTEST_RE`. -/
def pipelineAttestRe : Regex :=
  .sequence
    [.lineStart, .text "<!-- pipeline-attest: ", .group 1 (.plus Base64Url.isLetter), .text " -->",
      .lineEnd]

variable (host : NodeHost)

def hashReviewBody (text : List Char) : String := host.sha256 (String.ofList text)

def encodePipelineAttestation (attestation : PipelineAttestation) : List Char :=
  let json := JsonText.stringify host.numberText
    (.obj [("kind", .str attestation.kind), ("bodyHash", .str attestation.bodyHash)])
  let b64 := Base64Url.encode (NodeHost.utf8Bytes (String.ofList json))
  "<!-- pipeline-attest: ".toList ++ b64 ++ " -->".toList

def attestPipelineComment (kind : String) (body : List Char) : List Char :=
  body ++ '\n' :: encodePipelineAttestation host ⟨kind, hashReviewBody host body⟩

/-- The last marker of a body. -/
def lastAttestationMark (body : List Char) : Option JsRegExp.Found :=
  (JsRegExp.matchAll pipelineAttestRe body).getLast?

def extractPipelineAttestation (body : List Char) : Option PipelineAttestation := do
  let mark ← lastAttestationMark body
  let b64 ← mark.stop.groups.lookup 1
  let json ← JsonText.parse host.numberOf (host.utf8Text (Base64Url.decode b64)).toList
  let kind ← json.textAt "kind"
  let bodyHash ← json.textAt "bodyHash"
  return { kind, bodyHash }

def isVerifiedPipelineAttestation (body : List Char) : Bool :=
  match extractPipelineAttestation host body, lastAttestationMark body with
  | some attestation, some mark =>
    let rawPrefix := body.take (body.length - mark.start.rest.length)
    let text := if rawPrefix.getLast? = some '\n' then rawPrefix.dropLast else rawPrefix
    mark.after.all JsText.isSpace && hashReviewBody host text = attestation.bodyHash
  | _, _ => false

end AgentPipeline.Review
