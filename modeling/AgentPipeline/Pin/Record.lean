import AgentPipeline.Foundation.JsonPrint
import AgentPipeline.Foundation.NodeHost

/-!
# Pin.Record: the production engine pin and its reader

The pin names the release that production runs. A key of the record that is absent reads as
`undefined`, so a nullable optional key is an option of an option.

* `PinVersion`: a normalized version `X.Y.Z`;
* `isProductionQualityPin`: a real FRG run and an evidence path;
* `parseProductionEnginePin`: the reader of the pin file.
-/

namespace AgentPipeline.Pin

open JsText (trim nonBlank)

/-! ## Versions -/

/-- `/^\d+\.\d+\.\d+$/.test(text)`. -/
def isReleaseNumber (text : String) : Bool :=
  match text.toList.splitOn '.' with
  | [major, minor, patch] =>
    [major, minor, patch].all fun digits => !digits.isEmpty && digits.all Char.isDigit
  | _ => false

structure PinVersion where
  text : String
  isNumber : isReleaseNumber text = true
deriving DecidableEq

/-- `text.trim().replace(/^v/i, "")`. -/
def withoutLeadingV (version : String) : String :=
  match (trim version).toList with
  | 'v' :: rest | 'V' :: rest => String.ofList rest
  | cs => String.ofList cs

def normalizeFrgVersion (version : String) : Except String PinVersion :=
  if h : isReleaseNumber (withoutLeadingV version) = true then .ok ⟨withoutLeadingV version, h⟩
  else .error ("Invalid FRG version \"" ++ version ++ "\": expected X.Y.Z (optional leading v)")

def normalizePinVersion (version : String) : Option PinVersion := (normalizeFrgVersion version).toOption

/-- `tagForVersion(version)`, for a normalized version. -/
def tagForVersion (version : PinVersion) : String := "v" ++ version.text

def versionsMatch (a b : String) : Bool :=
  match normalizePinVersion a, normalizePinVersion b with
  | some na, some nb => na = nb
  | _, _ => withoutLeadingV a = withoutLeadingV b

/-! ## Pins -/

inductive GitShaSource where
  | operator | promoteArg | frgNote | unknown
deriving DecidableEq, Repr

namespace GitShaSource

def name : GitShaSource → String
  | operator => "operator"
  | promoteArg => "promote-arg"
  | frgNote => "frg-note"
  | unknown => "unknown"

def ofName? (name : String) : Option GitShaSource :=
  [operator, promoteArg, frgNote, unknown].find? (·.name = name)

lemma ofName?_name (s : GitShaSource) : ofName? s.name = some s := by
  cases s <;> rfl

end GitShaSource

structure ProductionEnginePinPrevious where
  schemaVersion : Int
  version : PinVersion
  tag : String
  gitSha : Option (Option String)
  gitShaSource : Option (Option GitShaSource)
  frgRunId : String
  frgEvidencePath : Option (Option String)
  promotedAt : String
deriving DecidableEq

structure ProductionEnginePin extends ProductionEnginePinPrevious where
  previous : Option (Option ProductionEnginePinPrevious)
deriving DecidableEq

def productionPinSchemaVersion : Int := 1

def noFrgRunIdPrefix : String := "no-frg-"

def isNoFrgRunId (runId : String) : Bool := noFrgRunIdPrefix.toList.isPrefixOf runId.toList

def isProductionQualityPin (pin : ProductionEnginePinPrevious) : Bool :=
  nonBlank pin.frgRunId && !isNoFrgRunId pin.frgRunId && pin.frgEvidencePath.join.any nonBlank

/-! ## Reading -/

/-- A number for which `Number.isInteger` holds. -/
def integerAt (o : Json) (key : String) : Option Int :=
  (o.rationalAt key).bind fun q => if q.den = 1 then some q.num else none

/-- A required text; `label` is the path of the record. -/
def requiredText (label : String) (o : Json) (key : String) : Except String String :=
  match (o.textAt key).filter nonBlank with
  | some text => .ok text
  | none => .error (label ++ key ++ " is required")

/-- An optional key that may be null; `read` reads another value. -/
def nullable {α : Type} (o : Json) (key : String) (read : Json → Except String α) :
    Except String (Option (Option α)) :=
  match o.get? key with
  | none => .ok none
  | some .null => .ok (some none)
  | some value => (read value).map fun a => some (some a)

def readGitSha (label : String) (value : Json) : Except String String :=
  match value.text?.filter nonBlank with
  | some sha => .ok (trim sha)
  | none => .error (label ++ "git_sha must be a non-empty string or null")

def readGitShaSource (label : String) (value : Json) : Except String GitShaSource :=
  match value.text?.bind GitShaSource.ofName? with
  | some source => .ok source
  | none => .error (label ++ "git_sha_source invalid")

def readEvidencePath (label : String) (value : Json) : Except String String :=
  match value.text? with
  | some path => .ok path
  | none => .error (label ++ "frg_evidence_path must be a string or null")

/-- The keys that a pin and its previous snapshot share, after the schema version. -/
def parseSnapshot (label : String) (schemaVersion : Int) (o : Json) :
    Except String ProductionEnginePinPrevious := do
  let rawVersion ← requiredText label o "version"
  let tag ← requiredText label o "tag"
  let frgRunId ← requiredText label o "frg_run_id"
  let promotedAt ← requiredText label o "promoted_at"
  let some version := normalizePinVersion rawVersion
    | .error (label ++ "version invalid: " ++ rawVersion)
  let gitSha ← nullable o "git_sha" (readGitSha label)
  let gitShaSource ← nullable o "git_sha_source" (readGitShaSource label)
  let frgEvidencePath ← nullable o "frg_evidence_path" (readEvidencePath label)
  return {
    schemaVersion := schemaVersion
    version := version
    tag := trim tag
    gitSha := gitSha
    gitShaSource := gitShaSource
    frgRunId := trim frgRunId
    frgEvidencePath := frgEvidencePath
    promotedAt := trim promotedAt }

/-- `parsePrevious(raw)`, for a value that is present. -/
def parsePrevious (raw : Json) : Except String (Option ProductionEnginePinPrevious) :=
  match raw with
  | .null => .ok none
  | .obj _ =>
    match integerAt raw "schema_version" with
    | some schemaVersion => (parseSnapshot "previous." schemaVersion raw).map some
    | none => .error "previous.schema_version must be an integer"
  | _ => .error "previous must be an object or null"

variable (host : NodeHost) (syntaxError : String → String)

/-- What follows `JSON.parse`. -/
def parsePinValue (raw : Json) : Except String ProductionEnginePin := do
  if !raw.isPlainObject then .error "production pin must be a JSON object"
  let some schemaVersion := integerAt raw "schema_version"
    | .error "schema_version must be an integer"
  if schemaVersion ≠ productionPinSchemaVersion then
    .error ("unsupported production pin schema_version " ++ host.numberText schemaVersion ++
      " (expected " ++ toString productionPinSchemaVersion ++ ")")
  let pin ← parseSnapshot "" schemaVersion raw
  let previous ← match raw.get? "previous" with
    | some previous => (parsePrevious previous).map some
    | none => pure none
  return { toProductionEnginePinPrevious := pin, previous := previous }

def parseProductionEnginePin (text : String) : Except String ProductionEnginePin :=
  match JsonText.parse host.numberOf text.toList with
  | some raw => parsePinValue host raw
  | none => .error ("production pin JSON is not parseable: " ++ syntaxError text)

end AgentPipeline.Pin
