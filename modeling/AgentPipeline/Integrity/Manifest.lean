import AgentPipeline.Foundation.JsObject
import AgentPipeline.Foundation.NodeHost

/-!
# Manifest: what a candidate changes, and how two manifests compare

A manifest lists the changes of a candidate against its base. `classifyTransition` compares the
manifests from before and after a mutation by their candidate-side maps.

* `candidateSideMap`: path to blob, with a marker for what is gone;
* `pathInScope`, `renameInScope`: the declared scope of a repair;
* `classifyTransition`: equivalent, within the scope, beyond it, or not verified;
* `dispositionForClassification`: what becomes of review and readiness.
-/

namespace AgentPipeline.Integrity

/-! ## Taxonomies -/

inductive PatchStatus where
  | added | modified | deleted | renamed | copied
deriving DecidableEq, Repr

inductive IntegrityClassification where
  | semanticallyEquivalent | expectedScopedChange | scopeExpansion | unverified
deriving DecidableEq, Repr

def IntegrityClassification.name : IntegrityClassification → String
  | .semanticallyEquivalent => "semantically_equivalent"
  | .expectedScopedChange => "expected_scoped_change"
  | .scopeExpansion => "scope_expansion"
  | .unverified => "unverified"

inductive MutationMethod where
  | restack | rebase | conflictRepair | preMergeAutofix | recoveryRepair
deriving DecidableEq, Repr

def MutationMethod.name : MutationMethod → String
  | .restack => "restack"
  | .rebase => "rebase"
  | .conflictRepair => "conflict_repair"
  | .preMergeAutofix => "pre_merge_autofix"
  | .recoveryRepair => "recovery_repair"

/-- `EMPTY_SCOPE_METHODS.has(method)`. -/
def MutationMethod.hasEmptyScope (method : MutationMethod) : Bool :=
  method = .restack || method = .rebase

/-! ## Manifests -/

structure CanonicalPatchRecord where
  path : String
  status : PatchStatus
  oldPath : Option String := none
  baseBlob : Option String := none
  candidateBlob : Option String := none
  incomplete : Bool := false
deriving DecidableEq, Repr

structure DeclaredRepairScope where
  paths : List String := []
  directories : Option (List String) := none
  reason : Option String := none
deriving DecidableEq, Repr

structure CandidateIntegrityManifest where
  entries : List CanonicalPatchRecord
  declaredScope : Option DeclaredRepairScope := none
deriving DecidableEq, Repr

/-! ## Paths and scopes -/

def stripDotSlash : List Char → List Char
  | '.' :: '/' :: cs => stripDotSlash cs
  | cs => cs

def stripSlash : List Char → List Char
  | '/' :: cs => stripSlash cs
  | cs => cs

def normalizeRepoPath (p : String) : String :=
  let posix := String.ofList (p.toList.map fun c => if c = '\\' then '/' else c)
  String.ofList (stripSlash (stripDotSlash (JsText.trim posix).toList))

def emptyDeclaredScope (reason : Option String) : DeclaredRepairScope :=
  { paths := [], directories := some [], reason }

def asDirectory (d : String) : String :=
  let n := normalizeRepoPath d
  if n ≠ "" ∧ n.toList.getLast? ≠ some '/' then n ++ "/" else n

def freezeDeclaredScope (scope : Option DeclaredRepairScope) : DeclaredRepairScope where
  paths := sortTexts (((scope.map (·.paths)).getD []).map normalizeRepoPath |>.filter (· ≠ ""))
  directories :=
    some (sortTexts (((scope.bind (·.directories)).getD []).map asDirectory |>.filter (· ≠ "")))
  reason := scope.bind (·.reason)

def pathInScope (filePath : String) (scope : DeclaredRepairScope) : Bool :=
  let p := normalizeRepoPath filePath
  p ≠ "" && (scope.paths.contains p ||
    (scope.directories.getD []).any fun dir => dir ≠ "" && dir.toList.isPrefixOf p.toList)

def renameInScope (oldPath : Option String) (newPath : String) (scope : DeclaredRepairScope) : Bool :=
  match oldPath.filter (· ≠ "") with
  | none => pathInScope newPath scope
  | some old => pathInScope old scope && pathInScope newPath scope

/-! ## Candidate-side maps -/

/-- The value of a path that is gone. -/
def deleteMarker : String := "__DELETE__"

def CanonicalPatchRecord.isMove (e : CanonicalPatchRecord) : Bool :=
  e.status = .renamed || e.status = .copied

/-- The source of a rename or a copy counts as gone, unless it is listed itself. -/
def markSource (map : JsObject String) (e : CanonicalPatchRecord) : JsObject String :=
  match e.oldPath.filter (· ≠ "") with
  | none => map
  | some oldPath =>
    let old := normalizeRepoPath oldPath
    if e.isMove ∧ old ≠ "" ∧ (map.get? old).isNone then map.set old deleteMarker else map

/-- One entry; `none` where a digest is missing. -/
def addEntry (map : JsObject String) (e : CanonicalPatchRecord) : Option (JsObject String) :=
  let p := normalizeRepoPath e.path
  if e.status = .deleted then some (map.set p deleteMarker)
  else
    match e.candidateBlob with
    | none => none
    | some blob => if e.incomplete then none else some (markSource (map.set p blob) e)

/-- `candidateSideMap(manifest)`. -/
def candidateSideMap (entries : List CanonicalPatchRecord) : Option (JsObject String) :=
  entries.foldlM addEntry .empty

def mapsEqual (a b : JsObject String) : Bool :=
  a.entries.length = b.entries.length && a.entries.all fun (k, v) => b.get? k = some v

def mapDiffPaths (pre post : JsObject String) : List String :=
  let paths := (pre.entries.map Prod.fst ++ post.entries.map Prod.fst).dedup
  sortTexts (paths.filter fun p => pre.get? p ≠ post.get? p)

def entryIncomplete (entries : List CanonicalPatchRecord) : Bool :=
  entries.any fun e => e.incomplete || match e.status with
    | .deleted => e.baseBlob.isNone
    | .added => e.candidateBlob.isNone
    | .modified | .renamed | .copied => e.candidateBlob.isNone || e.baseBlob.isNone

/-! ## Classification -/

structure ClassificationResult where
  classification : IntegrityClassification
  reason : String
  differingPaths : List String := []
  changedPathSummary : List String := []
deriving DecidableEq, Repr

def summaryPathLimit : Nat := 32

def summarizePaths (paths : List String) : List String :=
  let uniq := sortTexts ((paths.map normalizeRepoPath).filter (· ≠ "")).dedup
  if uniq.length ≤ summaryPathLimit then uniq
  else
    uniq.take (summaryPathLimit - 1) ++ ["…+" ++ toString (uniq.length - (summaryPathLimit - 1)) ++ " more"]

/-- The entry is about this path, as its destination or as its source. -/
def CanonicalPatchRecord.touches (e : CanonicalPatchRecord) (p : String) : Bool :=
  normalizeRepoPath e.path = p || normalizeRepoPath (e.oldPath.getD "") = p

/-- A differing path passes: the first record about it decides whether its other end counts too. -/
def passesScope (post : List CanonicalPatchRecord) (scope : DeclaredRepairScope) (p : String) :
    Bool :=
  match post.find? (·.touches p) with
  | some e => if e.isMove then renameInScope e.oldPath e.path scope else pathInScope p scope
  | none => pathInScope p scope

/-- The comparison of two complete manifests whose maps differ. -/
def classifyDelta (post : List CanonicalPatchRecord) (preMap postMap : JsObject String)
    (declaredScope : DeclaredRepairScope) (method : MutationMethod) : ClassificationResult :=
  let differing := mapDiffPaths preMap postMap
  let listed := String.intercalate ", " differing
  let scope := freezeDeclaredScope (some declaredScope)
  let outOfScope := differing.filter fun p => !passesScope post scope p
  let result (classification : IntegrityClassification) (reason : String) : ClassificationResult :=
    { classification, reason, differingPaths := differing, changedPathSummary := summarizePaths differing }
  if method.hasEmptyScope then
    result .scopeExpansion
      (method.name ++ ": candidate-side map changed with empty declared scope (" ++ listed ++ ")")
  else if scope.paths.isEmpty ∧ (scope.directories.getD []).isEmpty then
    result .scopeExpansion ("undeclared candidate-side delta with empty scope: " ++ listed)
  else if !outOfScope.isEmpty then
    result .scopeExpansion
      ("undeclared path/content change outside scope: " ++ String.intercalate ", " outOfScope)
  else result .expectedScopedChange ("all differing paths within declared scope: " ++ listed)

/-- `classifyTransition(pre, post, declaredScope, mutationMethod)`. -/
def classifyTransition (pre post : Option CandidateIntegrityManifest)
    (declaredScope : DeclaredRepairScope) (method : MutationMethod) : ClassificationResult :=
  match pre, post with
  | none, _ => { classification := .unverified, reason := "missing pre-mutation manifest" }
  | some pre, none =>
    { classification := .unverified, reason := "missing post-mutation manifest"
      changedPathSummary := summarizePaths (pre.entries.map (·.path)) }
  | some pre, some post =>
    let unverified (reason : String) : ClassificationResult :=
      { classification := .unverified, reason
        changedPathSummary := summarizePaths (post.entries.map (·.path)) }
    if entryIncomplete pre.entries ∨ entryIncomplete post.entries then
      unverified "incomplete digests (binary/unreadable path or missing OID)"
    else
      match candidateSideMap pre.entries, candidateSideMap post.entries with
      | some preMap, some postMap =>
        if mapsEqual preMap postMap then
          { classification := .semanticallyEquivalent
            reason := "candidate-side path→blob map identical"
            changedPathSummary := summarizePaths (postMap.entries.map Prod.fst) }
        else classifyDelta post.entries preMap postMap declaredScope method
      | _, _ => unverified "could not build candidate-side map"

/-! ## Disposition -/

structure IntegrityDisposition where
  classification : IntegrityClassification
  invalidatedReview : Bool
  invalidatedReadiness : Bool
  requiresFreshReview : Bool
  reEvaluateGates : Bool := true
  invalidationReason : Option String
  humanAuthorityHold : Bool := false
  mergeEligible : Bool
deriving DecidableEq, Repr

/-- `reason || fallback`. -/
def orText (reason fallback : String) : String := if reason = "" then fallback else reason

/-- A classification after which the review of the old head counts no more. -/
def invalidating (classification : IntegrityClassification) (reason : String) :
    IntegrityDisposition where
  classification := classification
  invalidatedReview := true
  invalidatedReadiness := true
  requiresFreshReview := true
  invalidationReason := some reason
  mergeEligible := false

def dispositionForClassification (classification : IntegrityClassification) (shaChanged : Bool)
    (classificationReason : String) : IntegrityDisposition :=
  match classification with
  | .semanticallyEquivalent =>
    { classification
      invalidatedReview := false
      -- an earlier claim of readiness is not carried over
      invalidatedReadiness := shaChanged
      requiresFreshReview := false
      invalidationReason :=
        if shaChanged then
          some ("semantically_equivalent: re-evaluate current-head gates; " ++ "readiness not auto-preserved")
        else none
      mergeEligible := true }
  | .expectedScopedChange =>
    invalidating .expectedScopedChange
      (orText classificationReason "expected_scoped_change: fresh review required at new SHA")
  | .scopeExpansion =>
    invalidating .scopeExpansion
      (orText classificationReason "scope_expansion: prior review not readiness authority")
  | .unverified => invalidating .unverified (orText classificationReason "unverified: fail closed")

end AgentPipeline.Integrity
