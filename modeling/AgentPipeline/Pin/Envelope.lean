import AgentPipeline.Grill.Hash
import AgentPipeline.Pin.Record

/-!
# Pin.Envelope: the authority of a rollback

A rollback carries an envelope that names the operation and the retained target. The operator's
command makes its own; an automatic rollback presents one with a MAC.

* `operatorRollbackEnvelope`: the envelope of the command;
* `assertRollbackEnvelope`: `none`, or the message of the refusal.
-/

namespace AgentPipeline.Pin

open JsText (trim nonBlank)

structure RollbackRetainedTarget where
  version : String
  tag : Option String
  gitSha : Option (Option String)
deriving DecidableEq

structure RollbackAuthorityEnvelope where
  kind : String
  operation : String
  retainedTarget : RollbackRetainedTarget
  actor : String
  repository : String
  issuedAt : String
  expiresAt : String
  mac : Option String
deriving DecidableEq

def rollbackOperation : String := "factory_pin_rollback"

def rollbackEnvelopeKind : String := "rollback_envelope"

def rollbackEnvelopeTtlSeconds : ℚ := 24 * 60 * 60

def rollbackEnvelopeMacPrefix : String := "hmac-sha256:"

/-- What the check of an envelope is given. -/
structure AssertRollbackEnvelopeOpts where
  repository : String
  /-- `none` is `NaN`. -/
  nowMs : Option Int
  hmacKey : Option String
  requireMac : Bool

/-- `version.replace(/^[vV]/, "")`. -/
def dropLetterV (version : String) : String :=
  match version.toList with
  | 'v' :: rest | 'V' :: rest => String.ofList rest
  | cs => String.ofList cs

def normalizeRollbackTag (value : String) : String := dropLetterV (trim value)

/-- `Buffer.from(text, "hex")`: pairs of digits, up to the first that is none. -/
def hexBytes : List Char → List Nat
  | a :: b :: rest =>
    match JsonText.hexValue a, JsonText.hexValue b with
    | some high, some low => (high * 16 + low) :: hexBytes rest
    | _, _ => []
  | _ => []

variable (host : NodeHost) (hmacSha256Hex : String → String → String)

def normalizeRollbackOid (value : Option String) : Option String :=
  value.bind fun value =>
    let sha := host.toLowerCase (trim value)
    if IsHexDigest 40 sha then some sha else none

/-- `operatorRollbackEnvelope`, which signs nothing; an error is the message of a `RangeError`. -/
def operatorRollbackEnvelope (target : RollbackRetainedTarget) (now : Option Instant)
    (repository : String) : Except String RollbackAuthorityEnvelope :=
  match now, now.bind fun t => t.addSeconds rollbackEnvelopeTtlSeconds with
  | some issued, some expires =>
    .ok {
      kind := rollbackEnvelopeKind
      operation := rollbackOperation
      retainedTarget := target
      actor := "operator-cli"
      repository := repository
      issuedAt := host.toISOString issued
      expiresAt := host.toISOString expires
      mac := none }
  | _, _ => .error "Invalid time value"

/-- The keys of an envelope without its MAC. -/
def RollbackAuthorityEnvelope.unsigned (envelope : RollbackAuthorityEnvelope) : Json :=
  let target := envelope.retainedTarget
  .obj [("kind", .str envelope.kind), ("operation", .str envelope.operation),
    ("retained_target", .obj (("version", .str target.version) ::
      ((target.tag.map fun tag => ("tag", .str tag)).toList ++
        (target.gitSha.map fun sha => ("git_sha", sha.elim .null .str)).toList))),
    ("actor", .str envelope.actor), ("repository", .str envelope.repository),
    ("issued_at", .str envelope.issuedAt), ("expires_at", .str envelope.expiresAt)]

/-- `hmacEqual(expectedHex, actualHex)`: the bytes of two texts of one length. -/
def hmacEqual (expectedHex actualHex : String) : Bool :=
  utf16Length expectedHex = utf16Length actualHex && hexBytes expectedHex.toList = hexBytes actualHex.toList

/-- The target that the envelope names, against the retained one. -/
def assertTarget (presented retained : RollbackRetainedTarget) : Option String :=
  if !nonBlank presented.version then
    some "rollback refused: envelope must name the retained target version"
  else if dropLetterV presented.version ≠ dropLetterV retained.version then
    some ("rollback refused: envelope retained target " ++ presented.version ++ " does not match " ++ retained.version)
  else
    match retained.tag.filter nonBlank, trim (presented.tag.getD "") with
    | some _, "" => some "rollback refused: envelope must name the retained target tag"
    | some tag, presentedTag =>
      if normalizeRollbackTag presentedTag ≠ normalizeRollbackTag tag then
        some ("rollback refused: envelope retained tag " ++ presentedTag ++ " does not match " ++ tag)
      else none
    | none, _ => none

/-- The digest that the envelope names, against the retained one. -/
def assertDigest (presented retained : RollbackRetainedTarget) : Option String :=
  match normalizeRollbackOid host retained.gitSha.join, normalizeRollbackOid host presented.gitSha.join with
  | none, _ => none
  | some _, none => some "rollback refused: envelope must name the retained target digest"
  | some expected, some sha =>
    if sha ≠ expected then
      some ("rollback refused: envelope retained digest " ++ (presented.gitSha.join.getD "null") ++
        " does not match " ++ (retained.gitSha.join.getD "null"))
    else none

/-- The actor, the repository and the times of an envelope. -/
def assertValidity (envelope : RollbackAuthorityEnvelope) (opts : AssertRollbackEnvelopeOpts) :
    Option String :=
  if !nonBlank envelope.actor then some "rollback refused: envelope must name the actor"
  else if !nonBlank envelope.repository then
    some "rollback refused: envelope must name the repository"
  else if trim envelope.repository ≠ trim opts.repository then
    some ("rollback refused: envelope repository " ++ envelope.repository ++ " does not match " ++ opts.repository)
  else
    match host.dateParse envelope.issuedAt, host.dateParse envelope.expiresAt with
    | none, _ => some "rollback refused: envelope must name issued_at"
    | _, none => some "rollback refused: envelope must name expires_at"
    | some _, some expires =>
      -- a comparison with `NaN` is false
      if opts.nowMs.any fun now => expires.ms ≤ now then some "rollback refused: envelope has expired"
      else none

def assertMac (envelope : RollbackAuthorityEnvelope) (hmacKey : Option String) : Option String :=
  let key := trim (hmacKey.getD "")
  if key = "" then some "rollback refused: automatic rollback requires a verified signed envelope"
  else
    match envelope.mac.filter fun mac => rollbackEnvelopeMacPrefix.toList.isPrefixOf mac.toList with
    | none => some "rollback refused: envelope MAC is missing"
    | some mac =>
      let expected := hmacSha256Hex key (Grill.canonicalJson host envelope.unsigned)
      let actual := String.ofList (mac.toList.drop rollbackEnvelopeMacPrefix.length)
      if hmacEqual expected actual then none
      else some "rollback refused: envelope MAC verification failed"

/-- `assertRollbackEnvelope(envelope, retainedTarget, opts)`: the message that it throws. -/
def assertRollbackEnvelope (envelope : Option RollbackAuthorityEnvelope)
    (retainedTarget : RollbackRetainedTarget) (opts : AssertRollbackEnvelopeOpts) : Option String :=
  match envelope with
  | none =>
    some ("rollback refused: authenticated envelope naming factory_pin_rollback and the retained " ++
      "target is required")
  | some envelope =>
    if envelope.kind ≠ rollbackEnvelopeKind then
      some "rollback refused: envelope kind must be rollback_envelope"
    else if envelope.operation ≠ rollbackOperation then
      some "rollback refused: envelope must name the factory_pin_rollback operation"
    else
      (assertTarget envelope.retainedTarget retainedTarget).or <|
        (assertDigest host envelope.retainedTarget retainedTarget).or <| (assertValidity host envelope opts).or <|
            if opts.requireMac then assertMac host hmacSha256Hex envelope opts.hmacKey else none

end AgentPipeline.Pin
