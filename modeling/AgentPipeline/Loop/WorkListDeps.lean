import AgentPipeline.Foundation.Json
import AgentPipeline.Loop.DependencyGrammar
import AgentPipeline.Loop.ContractItems

/-!
# WorkListDeps: discovery of declared dependencies

`loop/work-list-deps.ts`: the declared prerequisites of the issues of a work list, from three
sources, unioned per depender and admitted as hard waits when their target is open and on the
list.

* `WorkListDependencyDiscoverDeps`: the discovery seams, each of which may return nothing or
  throw;
* `admitHardWaits`: the admitted and the ignored edges of a raw list;
* `discoverDeclaredDependencies`: the items and the audit records of one discovery.
-/

namespace AgentPipeline.Loop

/-! ## Records -/

inductive DiscoverySourceStatus where
  | observedEmpty | observedWithEdges | unavailable | incomplete
deriving DecidableEq, Repr

def DiscoverySourceStatus.name : DiscoverySourceStatus → String
  | .observedEmpty => "observed-empty"
  | .observedWithEdges => "observed-with-edges"
  | .unavailable => "unavailable"
  | .incomplete => "incomplete"

inductive DependencyEdgeSource where
  | lexical | nativeBlockedBy | roadmapDeclared
deriving DecidableEq, Repr

def DependencyEdgeSource.name : DependencyEdgeSource → String
  | .lexical => "lexical"
  | .nativeBlockedBy => "native-blocked-by"
  | .roadmapDeclared => "roadmap-declared"

structure SourceObservation where
  source : DependencyEdgeSource
  scope : String
  status : DiscoverySourceStatus
  observationId : String
  reason : Option String
deriving DecidableEq, Repr

/-- `observation(source, scope, status, reason)`; an empty reason is dropped. -/
def observation (source : DependencyEdgeSource) (scope : String) (status : DiscoverySourceStatus)
    (reason : Option String := none) : SourceObservation where
  source := source
  scope := scope
  status := status
  observationId := source.name ++ ":" ++ scope ++ ":" ++ status.name
  reason := reason.filter (· ≠ "")

def isIncompleteStatus (status : DiscoverySourceStatus) : Bool :=
  status = .unavailable || status = .incomplete

structure DeclaredEdge where
  depender : String
  prerequisite : String
deriving DecidableEq, Repr

structure DeclaredEdgeProvenance extends DeclaredEdge where
  sources : List DependencyEdgeSource
deriving DecidableEq, Repr

inductive IgnoredDepReason where
  | notOnSelector | closed | notOpen
deriving DecidableEq, Repr

def IgnoredDepReason.name : IgnoredDepReason → String
  | .notOnSelector => "not_on_selector"
  | .closed => "closed"
  | .notOpen => "not_open"

structure IgnoredDep where
  depender : String
  target : String
  reason : IgnoredDepReason
deriving DecidableEq, Repr

inductive PrerequisiteOpenClass where
  | opened | closed | notOpen
deriving DecidableEq, Repr

/-- A live observation; `null` is `none`. -/
inductive PrerequisiteObservation where
  | opened | closed | merged
deriving DecidableEq, Repr

structure IssueText where
  title : Option String
  body : Option String

/-- What a seam did: it threw, with the message of an `Error`, or it returned. -/
abbrev Seam (α : Type) := Except (Option String) α

/-- The discovery seams. A seam is asked for `Number(id)`; here it may depend on the id itself.
`none` in the place of a seam is a seam that is not supplied. -/
structure WorkListDependencyDiscoverDeps where
  getIssueTitleBody : String → Seam (Option IssueText)
  getBlockedByIssueNumbers : String → Seam (Option (List JsNumber))
  getRoadmapDeclaredEdges : Option (Seam (Option (List DeclaredEdge)))
  getIssueOpenState : Option (String → Seam (Option PrerequisiteObservation))

structure DeclaredDependencyDiscoveryResult where
  items : List RawContractItem
  observations : List SourceObservation
  edgeProvenance : List DeclaredEdgeProvenance
  ignoredDeps : List IgnoredDep
  hasIncomplete : Bool

/-! ## Hard-wait admission -/

/-- The reason for which a target is not waited for. -/
def ignoredReason (selectorIds : List String) (openState : JsObject PrerequisiteOpenClass)
    (target : String) : Option IgnoredDepReason :=
  let state := (openState.get? target).getD .notOpen
  if state = .closed then some .closed
  else if target ∉ selectorIds then some .notOnSelector
  else if state ≠ .opened then some .notOpen
  else none

/-- `${depender}:${target}`. -/
def edgeKey (depender target : String) : String := depender ++ ":" ++ target

structure Admission where
  admitted : List DeclaredEdge := []
  ignored : List IgnoredDep := []
  seenAdmitted : List String := []
  seenIgnored : List String := []

/-- One edge of the loop. -/
def admitEdge (selectorIds : List String) (openState : JsObject PrerequisiteOpenClass)
    (acc : Admission) (edge : DeclaredEdge) : Admission :=
  if !isCanonicalIssueId edge.depender || !isCanonicalIssueId edge.prerequisite then acc
  else if edge.depender = edge.prerequisite then acc
  else
    match ignoredReason selectorIds openState edge.prerequisite with
    | some reason =>
      let key := edgeKey edge.depender edge.prerequisite ++ ":" ++ reason.name
      if key ∈ acc.seenIgnored then acc
      else { acc with
        seenIgnored := key :: acc.seenIgnored
        ignored := acc.ignored ++ [⟨edge.depender, edge.prerequisite, reason⟩] }
    | none =>
      let key := edgeKey edge.depender edge.prerequisite
      if key ∈ acc.seenAdmitted then acc
      else { acc with
        seenAdmitted := key :: acc.seenAdmitted
        admitted := acc.admitted ++ [edge] }

/-- The order of the audit records: by depender, by target, by reason. On decimal numerals and
on the reason codes the comparison of the locale is the one of the texts. -/
def ignoredOrder (a b : IgnoredDep) : Bool :=
  if a.depender ≠ b.depender then decide (a.depender ≤ b.depender)
  else if a.target ≠ b.target then decide (a.target ≤ b.target)
  else decide (a.reason.name ≤ b.reason.name)

def admitHardWaits (edges : List DeclaredEdge) (selectorIds : List String)
    (openState : JsObject PrerequisiteOpenClass) : List DeclaredEdge × List IgnoredDep :=
  let acc := edges.foldl (admitEdge selectorIds openState) {}
  (acc.admitted, acc.ignored.mergeSort ignoredOrder)

/-! ## Discovery -/

/-- depender → prerequisite → contributing sources. -/
abbrev Provenance := JsObject (JsObject (List DependencyEdgeSource))

/-- `addEdge(depender, prerequisite, source)`. -/
def addEdge (provenance : Provenance) (edge : DeclaredEdge) (source : DependencyEdgeSource) :
    Provenance :=
  if edge.depender = edge.prerequisite then provenance
  else if !isCanonicalIssueId edge.prerequisite then provenance
  else
    let byPrereq := (provenance.get? edge.depender).getD .empty
    let sources := (byPrereq.get? edge.prerequisite).getD []
    provenance.set edge.depender (byPrereq.set edge.prerequisite
      (if source ∈ sources then sources else sources ++ [source]))

/-- The records that the sources write. -/
structure Discovery where
  observations : List SourceObservation := []
  provenance : Provenance := .empty

/-- The edges of one source, with the observation they end in. -/
def Discovery.record (d : Discovery) (source : DependencyEdgeSource) (scope : String)
    (edges : List DeclaredEdge) : Discovery where
  provenance := edges.foldl (fun p edge => addEdge p edge source) d.provenance
  observations := d.observations ++ [observation source scope
    (if edges.isEmpty then .observedEmpty else .observedWithEdges)]

/-- A source that was not observed. -/
def Discovery.miss (d : Discovery) (source : DependencyEdgeSource) (scope : String)
    (status : DiscoverySourceStatus) (reason : String) : Discovery :=
  { d with observations := d.observations ++ [observation source scope status (some reason)] }

/-- The roadmap edges that count: canonical ids, no issue before itself. -/
def countedRoadmapEdges (edges : List DeclaredEdge) : List DeclaredEdge :=
  edges.filter fun e => isCanonicalIssueId e.depender && isCanonicalIssueId e.prerequisite &&
    e.depender ≠ e.prerequisite

def discoverRoadmap (deps : WorkListDependencyDiscoverDeps) (d : Discovery) : Discovery :=
  match deps.getRoadmapDeclaredEdges with
  | none => d
  | some (.ok none) => d.miss .roadmapDeclared "*" .unavailable "roadmap edges returned null"
  | some (.ok (some edges)) => d.record .roadmapDeclared "*" (countedRoadmapEdges edges)
  | some (.error message) =>
    d.miss .roadmapDeclared "*" .unavailable (message.getD "roadmap edges threw")

/-- The edges that the title and the body of an issue declare. -/
def lexicalEdges (id : String) (text : IssueText) : List DeclaredEdge :=
  (parseDeclaredDependencyIds (text.title.getD "" ++ "\n" ++ text.body.getD "") id).map (⟨id, ·⟩)

def discoverLexical (deps : WorkListDependencyDiscoverDeps) (id : String) (d : Discovery) :
    Discovery :=
  match deps.getIssueTitleBody id with
  | .ok none => d.miss .lexical id .unavailable "issue title/body unobservable (null)"
  | .ok (some text) => d.record .lexical id (lexicalEdges id text)
  | .error message => d.miss .lexical id .unavailable (message.getD "lexical discovery threw")

section Native

variable (rt : JsRuntime)

/-- `String(n)`. -/
def numberString : JsNumber → String
  | .finite q => rt.numberText q
  | .infinity negative => if negative then "-Infinity" else "Infinity"
  | .nan => "NaN"

/-- The native edges that count. -/
def nativeEdges (id : String) (blockedBy : List JsNumber) : List DeclaredEdge :=
  (blockedBy.map (numberString rt)).filterMap fun depId =>
    if isCanonicalIssueId depId && depId ≠ id then some ⟨id, depId⟩ else none

/-- `/truncat|pagination|safety bound|incomplete/i`. -/
def truncationMessage : JsRegExp.Regex :=
  .alt (.textAnyCase "truncat") (.alt (.textAnyCase "pagination")
    (.alt (.textAnyCase "safety bound") (.textAnyCase "incomplete")))

def discoverNative (deps : WorkListDependencyDiscoverDeps) (id : String) (d : Discovery) :
    Discovery :=
  match deps.getBlockedByIssueNumbers id with
  | .ok none => d.miss .nativeBlockedBy id .unavailable "blockedBy unobservable (null)"
  | .ok (some blockedBy) => d.record .nativeBlockedBy id (nativeEdges rt id blockedBy)
  | .error message =>
    let msg := message.getD "native blockedBy threw"
    let status := if JsRegExp.test truncationMessage msg.toList then .incomplete else .unavailable
    d.miss .nativeBlockedBy id status msg

/-- One issue of the list; an id that is not canonical is not observed. -/
def discoverIssue (deps : WorkListDependencyDiscoverDeps) (d : Discovery) (id : String) :
    Discovery :=
  if isCanonicalIssueId id then discoverNative rt deps id (discoverLexical deps id d) else d

/-- All three sources. -/
def discoverSources (issueIds : List String) (deps : WorkListDependencyDiscoverDeps) : Discovery :=
  issueIds.foldl (discoverIssue rt deps) (discoverRoadmap deps {})

/-- The raw edges, in the order of the map. -/
def rawEdges (provenance : Provenance) : List DeclaredEdge :=
  provenance.entries.flatMap fun (depender, byPrereq) =>
    byPrereq.entries.map fun (prerequisite, _) => ⟨depender, prerequisite⟩

/-- The open class of one target: without the seam every target counts as open. -/
def observeOpenClass (deps : WorkListDependencyDiscoverDeps) (target : String) :
    PrerequisiteOpenClass :=
  match deps.getIssueOpenState with
  | none => .opened
  | some getIssueOpenState =>
    match getIssueOpenState target with
    | .ok (some .opened) => .opened
    | .ok (some .closed) | .ok (some .merged) => .closed
    | .ok none | .error _ => .notOpen

def observeOpenState (deps : WorkListDependencyDiscoverDeps) (targets : List String) :
    JsObject PrerequisiteOpenClass :=
  targets.foldl (fun m target => m.set target (observeOpenClass deps target)) .empty

/-- `admittedByDepender`. -/
def groupByDepender (admitted : List DeclaredEdge) : JsObject (List String) :=
  admitted.foldl (fun m edge =>
    m.set edge.depender ((m.get? edge.depender).getD [] ++ [edge.prerequisite])) .empty

/-- The provenance of the edges whose key is in a set. -/
def provenanceOf (provenance : Provenance) (keys : List String) : List DeclaredEdgeProvenance :=
  provenance.entries.flatMap fun (depender, byPrereq) =>
    byPrereq.entries.filterMap fun (prerequisite, sources) =>
      if edgeKey depender prerequisite ∈ keys then
        some { depender := depender, prerequisite := prerequisite, sources := sources }
      else none

def provenanceOrder (a b : DeclaredEdgeProvenance) : Bool :=
  if a.depender ≠ b.depender then decide (a.depender ≤ b.depender)
  else decide (a.prerequisite ≤ b.prerequisite)

def discoverDeclaredDependencies (issueIds : List String)
    (deps : WorkListDependencyDiscoverDeps) : DeclaredDependencyDiscoveryResult :=
  let d := discoverSources rt issueIds deps
  let selectorIds := issueIds.filter isCanonicalIssueId
  let edges := rawEdges d.provenance
  let openState := observeOpenState deps (edges.map DeclaredEdge.prerequisite)
  let admission := admitHardWaits edges selectorIds openState
  let byDepender := groupByDepender admission.1
  { items := issueIds.map fun id => ⟨id, (byDepender.get? id).getD []⟩
    observations := d.observations
    edgeProvenance := (provenanceOf d.provenance
      (admission.1.map fun e => edgeKey e.depender e.prerequisite)).mergeSort provenanceOrder
    ignoredDeps := admission.2
    hasIncomplete := d.observations.any fun o => isIncompleteStatus o.status }

end Native

/-- One incomplete source in the text of a refusal. -/
def SourceObservation.detail (o : SourceObservation) : String :=
  o.source.name ++ " scope=" ++ o.scope ++ " status=" ++ o.status.name ++
    ((o.reason.map fun reason => " (" ++ reason ++ ")").getD "")

/-- `assertDiscoveryCompleteForAdmission(issueIds, result, { forceRefuse })`. -/
def assertDiscoveryCompleteForAdmission (issueIds : List String) (result : DeclaredDependencyDiscoveryResult)
    (forceRefuse : Bool) : Except String Unit :=
  if !result.hasIncomplete then .ok ()
  else if issueIds.length < 2 && !forceRefuse then .ok ()
  else .error ("declared-dependency discovery incomplete for fresh multi-item or factory-owned admission — " ++
    "refusing contract/ledger init. Incomplete sources: " ++
    "; ".intercalate ((result.observations.filter fun o => isIncompleteStatus o.status).map (·.detail)))

end AgentPipeline.Loop
