import AgentPipeline.Artifact.Sanitize
import AgentPipeline.Handoff.Lifecycle

/-!
# Schema: records of the lineage graph and their identities

* `LineageNode`: one artifact of the graph;
* `validateLineageNode`: reading a record back, with all issues that it has;
* `readsBack_iff`: a record reads back as itself just when it is in `NormalForm`;
* `resolveComponentId`, `resolveCapabilityId`, `makeDomainNodeId`: the three ways to name an artifact.
-/

namespace AgentPipeline.Lineage

open Option JsText

/-! ## Texts -/

/-- A run of a character, up to whose end or any place before it the rest is matched. -/
def afterRun (c : Char) (rest : List Char → Bool) : List Char → Bool
  | d :: cs => d = c && (rest cs || afterRun c rest cs)
  | [] => false

/-- `/^(abc+|def+|fff+|000+){1,}$/`; `fuel` bounds the number of blocks. -/
def isHexBlocks : Nat → List Char → Bool
  | 0, _ => false
  | fuel + 1, cs =>
    let more := fun rest => rest.isEmpty || isHexBlocks fuel rest
    match cs with
    | 'a' :: 'b' :: rest => afterRun 'c' more rest
    | 'd' :: 'e' :: rest => afterRun 'f' more rest
    | 'f' :: 'f' :: rest => afterRun 'f' more rest
    | '0' :: '0' :: rest => afterRun '0' more rest
    | _ => false

def isPlaceholderIdentity (host : NodeHost) (value : String) : Bool :=
  let t := host.toLowerCase (trim value)
  t = "" || ["unknown", "null", "undefined", "n/a", "none"].contains t ||
    (7 ≤ t.toList.length && t.toList.all (· = '0')) || "placeholder".toList.isPrefixOf t.toList ||
    ["deadbeef", "cafebabe"].contains t ||
    (isHexBlocks t.toList.length t.toList && t.toList.length < 40)

def normalizeFullSha (host : NodeHost) (sha : String) : Option String :=
  let t := host.toLowerCase (trim sha)
  if t.toList.length = 40 &&
      t.toList.all (fun c => c.isDigit || ('a' ≤ c && c ≤ 'f') || ('A' ≤ c && c ≤ 'F')) then some t
  else none

def redactFreeText (env : Artifact.ProcessEnv) (text : String) (maxLen : Nat) : String :=
  String.ofList (Handoff.sliceUnits maxLen (Artifact.scrub env text.toList))

def domainIdSep : List Char := "::".toList

def isDomainScopedNodeId (nodeId domain : String) : Bool :=
  domainIdSep <:+: nodeId.toList && (domain = "" || (domain.toList ++ domainIdSep).isPrefixOf nodeId.toList)

/-! ## Records -/

inductive LineageNodeType where
  | intentOutcome | requirement | objective | decision | run | commit | pr | verification
  | productionOutcome | component | capability | policyEvent | overrideEvent
deriving DecidableEq, Repr

namespace LineageNodeType

/-- `NODE_TYPES`. -/
def all : List LineageNodeType :=
  [.intentOutcome, .requirement, .objective, .decision, .run, .commit, .pr, .verification,
    .productionOutcome, .component, .capability, .policyEvent, .overrideEvent]

def text : LineageNodeType → String
  | .intentOutcome => "intent_outcome"
  | .requirement => "requirement"
  | .objective => "objective"
  | .decision => "decision"
  | .run => "run"
  | .commit => "commit"
  | .pr => "pr"
  | .verification => "verification"
  | .productionOutcome => "production_outcome"
  | .component => "component"
  | .capability => "capability"
  | .policyEvent => "policy_event"
  | .overrideEvent => "override_event"

def ofText? (text : String) : Option LineageNodeType := all.find? fun nodeType => nodeType.text = text

end LineageNodeType

inductive DecisionStatus where
  | answered | deferred | «open»
deriving DecidableEq, Repr

namespace DecisionStatus

def text : DecisionStatus → String
  | .answered => "answered"
  | .deferred => "deferred"
  | .open => "open"

def ofText? (text : String) : Option DecisionStatus :=
  [answered, deferred, .open].find? fun status => status.text = text

end DecisionStatus

/-- An optional property: absent, `null` or a value. -/
inductive Property (α : Type) where
  | absent
  | null
  | value (a : α)
deriving DecidableEq, Repr

namespace Property

/-- The fields that printing a property gives. -/
def fields {α : Type} (key : String) (print : α → Json) : Property α → List (String × Json)
  | absent => []
  | null => [(key, .null)]
  | value a => [(key, print a)]

end Property

def orNull {α : Type} (print : α → Json) : Option α → Json
  | none => .null
  | some a => print a

structure LineageNodeProvenance where
  producer : String
  observedAt : Option String
deriving DecidableEq, Repr

structure LineageNode where
  nodeId : String
  nodeType : LineageNodeType
  domain : String
  revision : String
  contentHash : Option String
  componentId : Property String
  capabilityId : Property String
  summary : Option String
  identity : List (String × Json)
  provenance : LineageNodeProvenance
  ownership : Property (List (String × Json))
  decisionStatus : Property DecisionStatus
deriving Repr

/-- `LINEAGE_SCHEMA_VERSION`, and the lowest version that is read. -/
def schemaVersion : Json := .num (.finite 2)

def minSupportedSchemaVersion : Json := .num (.finite 1)

/-- The value that `serializeLineageNode` prints. -/
def LineageNode.toJson (node : LineageNode) : Json :=
  .obj ([("schema_version", schemaVersion), ("type", .str "lineage_node"), ("node_id", .str node.nodeId),
      ("node_type", .str node.nodeType.text), ("domain", .str node.domain), ("revision", .str node.revision),
      ("content_hash", orNull .str node.contentHash)] ++
    node.componentId.fields "component_id" .str ++ node.capabilityId.fields "capability_id" .str ++
    [("summary", orNull .str node.summary), ("identity", .obj node.identity),
      ("provenance", .obj [("producer", .str node.provenance.producer),
        ("observed_at", orNull .str node.provenance.observedAt)])] ++
    node.ownership.fields "ownership" .obj ++
    node.decisionStatus.fields "decision_status" fun status => .str status.text)

/-! ## Reading -/

structure ValidationIssue where
  path : String
  message : String
deriving DecidableEq, Repr

/-- The issue, where there is one. -/
def issueIf (bad : Bool) (path message : String) : List ValidationIssue :=
  if bad then [⟨path, message⟩] else []

section Validation

variable (host : NodeHost) (env : Artifact.ProcessEnv)

/-- `typeof o[key] !== "string" || !o[key].trim()`. -/
def lacksText (o : Json) (key : String) : Bool := !((o.textAt key).any nonBlank)

/-- The field is neither absent nor `null`, and no text. -/
def isLooseAt (o : Json) (key : String) : Bool := o.isPresentAt key && (o.textAt key).isNone

/-- `{ ...o }`, of an object. -/
def objectAt (o : Json) (key : String) : Option (List (String × Json)) := (o.get? key).bind Json.fields?

/-- `validateNodeProvenance(raw, issues, path)`. -/
def validateNodeProvenance (raw : Option Json) (path : String) :
    LineageNodeProvenance × List ValidationIssue :=
  match raw with
  | some (.obj fields) =>
    let o := Json.obj fields
    (⟨(o.textAt "producer").elim "" trim, o.textAt "observed_at"⟩,
      issueIf (lacksText o "producer") (path ++ ".producer") "required non-empty string" ++
        issueIf (isLooseAt o "observed_at") (path ++ ".observed_at") "must be ISO string or null")
  | _ => (⟨"", none⟩, [⟨path, "provenance object required"⟩])

/-- The commit that the identity names. -/
def identitySha (o : Json) : Option Json := (o.get? "identity").bind (·.get? "sha")

def isType (o : Json) (nodeType : LineageNodeType) : Bool := o.textAt "node_type" = some nodeType.text

/-- Whether the check of the commit throws: what it names cannot be printed. -/
def shaThrows (o : Json) : Bool :=
  isType o .commit && (identitySha o).any fun sha => !Review.prints sha

/-- The issues of an object, in the order in which they are found. -/
def nodeIssues (o : Json) : List ValidationIssue :=
  let domain := (o.textAt "domain").elim "" trim
  let nodeId := (o.textAt "node_id").elim "" trim
  issueIf (!((o.get? "schema_version").any fun version =>
      version.same schemaVersion || version.same minSupportedSchemaVersion))
    "schema_version" "must be 2 (or legacy 1)" ++
  issueIf (o.textAt "type" ≠ some "lineage_node") "type" "must be \"lineage_node\"" ++
  issueIf (!((o.textAt "node_id").any fun id => nonBlank id && !isPlaceholderIdentity host id))
    "node_id" "required non-placeholder string" ++
  issueIf ((o.textAt "node_type").bind LineageNodeType.ofText?).isNone
    "node_type" "invalid or unknown node_type for schema_version 1" ++
  issueIf (lacksText o "domain") "domain" "required non-empty domain" ++
  issueIf (lacksText o "revision") "revision" "required revision string" ++
  issueIf (isLooseAt o "content_hash") "content_hash" "must be string or null" ++
  issueIf (domain ≠ "" && nodeId ≠ "" && !isDomainScopedNodeId nodeId domain)
    "node_id" "node_id must be domain-scoped (domain::…)" ++
  issueIf (isType o .commit && (identitySha o).any fun sha =>
      !(sha matches .null) && (normalizeFullSha host (Review.display host sha)).isNone)
    "identity.sha" "commit sha must be full 40-char hex" ++
  issueIf (isType o .run && (((o.get? "identity").bind (·.textAt "run_id")).any
      (isPlaceholderIdentity host)))
    "identity.run_id" "placeholder run_id forbidden" ++
  issueIf (isType o .decision && o.isPresentAt "decision_status" &&
      ((o.textAt "decision_status").bind DecisionStatus.ofText?).isNone)
    "decision_status" "must be answered|deferred|open" ++
  issueIf (o.isPresentAt "component_id" && lacksText o "component_id")
    "component_id" "must be non-empty string or null" ++
  issueIf (o.isPresentAt "capability_id" && lacksText o "capability_id")
    "capability_id" "must be non-empty string or null" ++
  (validateNodeProvenance (o.get? "provenance") "provenance").2 ++
  issueIf (o.isPresentAt "identity" && (objectAt o "identity").isNone) "identity" "must be object" ++
  issueIf (isLooseAt o "summary") "summary" "must be string or null"

/-- The record of an object without issues. -/
def nodeOf (o : Json) (nodeType : LineageNodeType) : LineageNode where
  nodeId := (o.textAt "node_id").elim "" trim
  nodeType
  domain := (o.textAt "domain").elim "" trim
  revision := (o.textAt "revision").elim "" trim
  contentHash := o.textAt "content_hash"
  componentId := (o.textAt "component_id").elim .null fun id => .value (trim id)
  capabilityId := (o.textAt "capability_id").elim .null fun id => .value (trim id)
  summary := (o.textAt "summary").map fun text => redactFreeText env text 500
  identity := (objectAt o "identity").getD []
  provenance := (validateNodeProvenance (o.get? "provenance") "provenance").1
  ownership := (objectAt o "ownership").elim .null .value
  decisionStatus :=
    if nodeType = .decision then
      ((o.textAt "decision_status").bind DecisionStatus.ofText?).elim .null .value
    else .absent

/-- What reading a record comes to. -/
inductive Reading where
  | node (node : LineageNode)
  | invalid (issues : List ValidationIssue)
  | throws

def validateLineageNode (input : Json) : Reading :=
  match input with
  | .obj _ =>
    if shaThrows input then .throws
    else
      match nodeIssues host input, (input.textAt "node_type").bind LineageNodeType.ofText? with
      | [], some nodeType => .node (nodeOf env input nodeType)
      | issues, _ => .invalid issues
  | _ => .invalid [⟨"", "node must be an object"⟩]

end Validation

/-! ## Reading back -/

/-- A text without white space around it that is not empty. -/
def IsTrimmed (text : String) : Prop := text ≠ "" ∧ trim text = text

namespace Property

variable {α : Type}

def value? : Property α → Option α
  | value a => some a
  | _ => none

/-- The property is `null` or has a value of a kind. -/
def IsRead (p : α → Prop) : Property α → Prop
  | absent => False
  | null => True
  | value a => p a

/-- What the property is found as. -/
def json (print : α → Json) : Property α → Option Json
  | absent => none
  | null => some .null
  | value a => some (print a)

end Property

/-- A record in the form that the reader gives it. -/
structure NormalForm (host : NodeHost) (env : Artifact.ProcessEnv) (node : LineageNode) : Prop where
  nodeId : IsTrimmed node.nodeId ∧ isPlaceholderIdentity host node.nodeId = false
  domain : IsTrimmed node.domain ∧ isDomainScopedNodeId node.nodeId node.domain = true
  revision : IsTrimmed node.revision
  componentId : node.componentId.IsRead IsTrimmed
  capabilityId : node.capabilityId.IsRead IsTrimmed
  summary : ∀ text ∈ node.summary, redactFreeText env text 500 = text
  /-- No number of the identity is lost when it is printed. -/
  identity : (Json.obj node.identity).isFinite = true
  commit : node.nodeType = .commit → ∀ sha ∈ node.identity.lookup "sha", Review.prints sha = true ∧
    (sha = .null ∨ (normalizeFullSha host (Review.display host sha)).isSome = true)
  run : node.nodeType = .run → ∀ runId, node.identity.lookup "run_id" = some (.str runId) →
    isPlaceholderIdentity host runId = false
  producer : IsTrimmed node.provenance.producer
  ownership : node.ownership.IsRead fun fields => (Json.obj fields).isFinite = true
  decisionStatus : node.decisionStatus = .absent ↔ node.nodeType ≠ .decision

section ReadingBack

variable {α : Type} {host : NodeHost} {env : Artifact.ProcessEnv} {node : LineageNode} {o : Json} {key : String}

lemma validateLineageNode_eq_node_iff {nodeType : LineageNodeType} (hobject : o.isPlainObject = true)
    (htype : (o.textAt "node_type").bind LineageNodeType.ofText? = some nodeType) :
    validateLineageNode host env o = .node node ↔
      shaThrows o = false ∧ nodeIssues host o = [] ∧ nodeOf env o nodeType = node := by
  cases o with
  | obj fields =>
    unfold validateLineageNode
    cases shaThrows (.obj fields) <;> cases nodeIssues host (.obj fields) <;> simp [htype]
  | _ => simp [Json.isPlainObject, Json.fields?] at hobject

lemma LineageNodeType.ofText?_text (nodeType : LineageNodeType) : ofText? nodeType.text = some nodeType := by
  cases nodeType <;> decide +kernel

lemma LineageNodeType.text_inj {a b : LineageNodeType} : a.text = b.text ↔ a = b :=
  ⟨fun h => some.inj (by rw [← ofText?_text a, h, ofText?_text b]), congrArg _⟩

lemma DecisionStatus.ofText?_text (status : DecisionStatus) : ofText? status.text = some status := by
  cases status <;> decide +kernel

lemma issueIf_eq_nil {bad : Bool} {path message : String} : issueIf bad path message = [] ↔ bad = false := by
  cases bad <;> simp [issueIf]

lemma lookup_fields (p : Property α) (key k : String) (print : α → Json) :
    (p.fields key print).lookup k = if k = key then p.json print else none := by
  by_cases h : k = key
  · subst h
    cases p <;> simp [Property.fields, Property.json]
  · have hbeq : (k == key) = false := by simpa using h
    cases p <;> simp [Property.fields, List.lookup_cons, h, hbeq]

/-- What is found under each key of a record. -/
lemma get?_toJson (node : LineageNode) :
    node.toJson.get? "schema_version" = some schemaVersion ∧ node.toJson.get? "type" = some (.str "lineage_node") ∧
      node.toJson.get? "node_id" = some (.str node.nodeId) ∧
      node.toJson.get? "node_type" = some (.str node.nodeType.text) ∧
      node.toJson.get? "domain" = some (.str node.domain) ∧
      node.toJson.get? "revision" = some (.str node.revision) ∧
      node.toJson.get? "content_hash" = some (orNull .str node.contentHash) ∧
      node.toJson.get? "component_id" = node.componentId.json .str ∧
      node.toJson.get? "capability_id" = node.capabilityId.json .str ∧
      node.toJson.get? "summary" = some (orNull .str node.summary) ∧
      node.toJson.get? "identity" = some (.obj node.identity) ∧
      node.toJson.get? "provenance" = some (.obj [("producer", .str node.provenance.producer),
        ("observed_at", orNull .str node.provenance.observedAt)]) ∧
      node.toJson.get? "ownership" = node.ownership.json .obj ∧
      node.toJson.get? "decision_status" = node.decisionStatus.json fun status => .str status.text := by
  simp [LineageNode.toJson, Json.get?, List.lookup_append, lookup_fields, List.lookup_cons]

lemma textAt_of_str {t : String} (h : o.get? key = some (.str t)) : o.printed.textAt key = some t := by
  rw [Json.textAt_printed, Json.textAt, h]
  rfl

lemma textAt_of_orNull {t : Option String} (h : o.get? key = some (orNull .str t)) :
    o.printed.textAt key = t ∧ isLooseAt o.printed key = false := by
  rw [isLooseAt, Json.textAt_printed, Json.textAt, Json.isPresentAt, Json.get?_printed, h]
  cases t <;> exact ⟨rfl, rfl⟩

lemma textAt_of_json {p : Property α} {f : α → String} (h : o.get? key = p.json fun a => .str (f a)) :
    o.printed.textAt key = p.value?.map f ∧ o.printed.isPresentAt key = p.value?.isSome := by
  rw [Json.textAt_printed, Json.textAt, Json.isPresentAt, Json.get?_printed, h]
  cases p <;> exact ⟨rfl, rfl⟩

variable {p : Property (List (String × Json))}

lemma objectAt_of_json (h : o.get? key = p.json .obj) : objectAt o.printed key = p.value?.map Json.printedFields := by
  rw [objectAt, Json.get?_printed, h]
  cases p <;> rfl

lemma validateNodeProvenance_printed (provenance : LineageNodeProvenance) (path : String) :
    validateNodeProvenance (some (Json.obj [("producer", .str provenance.producer),
        ("observed_at", orNull .str provenance.observedAt)]).printed) path =
      (⟨trim provenance.producer, provenance.observedAt⟩,
        issueIf (!nonBlank provenance.producer) (path ++ ".producer") "required non-empty string") := by
  obtain ⟨producer, observedAt⟩ := provenance
  cases observedAt <;> exact Prod.ext rfl (List.append_nil _)

lemma isTrimmed_iff {text : String} : IsTrimmed text ↔ nonBlank text = true ∧ trim text = text := by
  simp only [IsTrimmed, nonBlank, decide_eq_true_eq, ne_eq]
  exact and_congr_left fun h => by simp [h]

lemma isRead_iff {p : Property String} : p.IsRead IsTrimmed ↔
    (p.value?.isSome && !p.value?.any nonBlank) = false ∧ (p.value?.elim .null fun id => .value (trim id)) = p := by
  cases p <;> simp [Property.value?, Property.IsRead, isTrimmed_iff]

lemma isRead_isFinite_iff :
    p.IsRead (fun fields => (Json.obj fields).isFinite = true) ↔
      (p.value?.map Json.printedFields).elim .null .value = p := by
  cases p <;> simp [Property.value?, Property.IsRead, ← Json.printed_eq_self_iff, Json.printed]

lemma nodeOf_printed (env : Artifact.ProcessEnv) (node : LineageNode) :
    nodeOf env node.toJson.printed node.nodeType = node ↔
      trim node.nodeId = node.nodeId ∧ trim node.domain = node.domain ∧ trim node.revision = node.revision ∧
      (node.componentId.value?.elim .null fun id => .value (trim id)) = node.componentId ∧
      (node.capabilityId.value?.elim .null fun id => .value (trim id)) = node.capabilityId ∧
      (∀ text ∈ node.summary, redactFreeText env text 500 = text) ∧
      Json.printedFields node.identity = node.identity ∧
      trim node.provenance.producer = node.provenance.producer ∧
      (node.ownership.value?.map Json.printedFields).elim .null .value = node.ownership ∧
      (node.decisionStatus = .absent ↔ node.nodeType ≠ .decision) := by
  obtain ⟨-, -, hnodeId, -, hdomain, hrevision, hhash, hcomponent, hcapability, hsummary, hidentity, hprovenance,
    hownership, hdecision⟩ := get?_toJson node
  have hprovenanceAt := validateNodeProvenance_printed node.provenance "provenance"
  rw [← map_some, ← hprovenance, ← Json.get?_printed] at hprovenanceAt
  have hidentityAt : objectAt node.toJson.printed "identity" = some (Json.printedFields node.identity) := by
    rw [objectAt, Json.get?_printed, hidentity]
    rfl
  have hdecisionRead : (if node.nodeType = .decision then
      ((node.decisionStatus.value?.map DecisionStatus.text).bind DecisionStatus.ofText?).elim .null .value else .absent) =
        node.decisionStatus ↔ (node.decisionStatus = .absent ↔ node.nodeType ≠ .decision) := by
    by_cases htype : node.nodeType = .decision <;>
      cases node.decisionStatus <;> simp [Property.value?, DecisionStatus.ofText?_text, htype]
  have hredacted : node.summary.map (fun text => redactFreeText env text 500) = node.summary ↔
      ∀ text ∈ node.summary, redactFreeText env text 500 = text := by
    cases node.summary <;> simp
  rw [nodeOf, textAt_of_str hnodeId, textAt_of_str hdomain, textAt_of_str hrevision, (textAt_of_orNull hhash).1,
    (textAt_of_json (f := id) hcomponent).1, (textAt_of_json (f := id) hcapability).1, (textAt_of_orNull hsummary).1,
    hidentityAt, hprovenanceAt, objectAt_of_json hownership, (textAt_of_json hdecision).1, ← hdecisionRead, ← hredacted]
  obtain ⟨nodeId, nodeType, domain, revision, contentHash, componentId, capabilityId, summary, identity,
    ⟨producer, observedAt⟩, ownership, decisionStatus⟩ := node
  simp only [LineageNode.mk.injEq, LineageNodeProvenance.mk.injEq, map_id, id, elim_some, getD_some,
    true_and, and_true]

lemma nodeIssues_printed (hfinite : Json.printedFields node.identity = node.identity) :
    shaThrows node.toJson.printed = false ∧ nodeIssues host node.toJson.printed = [] ↔
      (node.nodeType = .commit → ∀ sha ∈ node.identity.lookup "sha", Review.prints sha = true) ∧
      (nonBlank node.nodeId = true ∧ isPlaceholderIdentity host node.nodeId = false) ∧
      nonBlank node.domain = true ∧ nonBlank node.revision = true ∧ (trim node.domain ≠ "" && trim node.nodeId ≠ "" &&
        !isDomainScopedNodeId (trim node.nodeId) (trim node.domain)) = false ∧
      (node.nodeType = .commit → ∀ sha ∈ node.identity.lookup "sha",
        sha = .null ∨ (normalizeFullSha host (Review.display host sha)).isSome = true) ∧
      (node.nodeType = .run → ∀ runId ∈ (node.identity.lookup "run_id").bind Json.text?,
        isPlaceholderIdentity host runId = false) ∧
      (node.componentId.value?.isSome && !node.componentId.value?.any nonBlank) = false ∧
      (node.capabilityId.value?.isSome && !node.capabilityId.value?.any nonBlank) = false ∧
      nonBlank node.provenance.producer = true := by
  obtain ⟨hversion, hkind, hnodeId, hnodeType, hdomain, hrevision, hhash, hcomponent, hcapability, hsummary,
    hidentity, hprovenance, -, hdecision⟩ := get?_toJson node
  have hversionAt : node.toJson.printed.get? "schema_version" = some schemaVersion := by
    rw [Json.get?_printed, hversion]
    rfl
  have hsame : schemaVersion.same schemaVersion = true := by decide +kernel
  have hprovenanceAt := validateNodeProvenance_printed node.provenance "provenance"
  rw [← map_some, ← hprovenance, ← Json.get?_printed] at hprovenanceAt
  have hidentityAt : node.toJson.printed.get? "identity" = some (.obj node.identity) := by
    rw [Json.get?_printed, hidentity, map_some, Json.printed, hfinite]
  have hsha : identitySha node.toJson.printed = node.identity.lookup "sha" := by
    rw [identitySha, hidentityAt]
    rfl
  have hrun : ((node.toJson.printed.get? "identity").bind (·.textAt "run_id")) =
      (node.identity.lookup "run_id").bind Json.text? := by
    rw [hidentityAt]
    rfl
  have hobject : objectAt node.toJson.printed "identity" = some node.identity := by
    rw [objectAt, hidentityAt]
    rfl
  have hdecisionRead : (node.decisionStatus.value?.map DecisionStatus.text).bind DecisionStatus.ofText? =
      node.decisionStatus.value? := by
    cases node.decisionStatus <;> simp [Property.value?, DecisionStatus.ofText?_text]
  simp only [shaThrows, nodeIssues, List.append_eq_nil_iff, issueIf_eq_nil, isType, hsha, hrun, lacksText,
    textAt_of_str hkind, textAt_of_str hnodeId, textAt_of_str hnodeType, textAt_of_str hdomain, textAt_of_str hrevision,
    textAt_of_json hdecision, textAt_of_json (f := id) hcomponent, textAt_of_json (f := id) hcapability,
    textAt_of_orNull hhash, textAt_of_orNull hsummary, hversionAt, hprovenanceAt, hdecisionRead, hsame, hobject,
    LineageNodeType.text_inj, LineageNodeType.ofText?_text, some_inj, any_some, elim_some,
    bind_some, map_id, id]
  have hstatus : (decide (node.nodeType = .decision) && node.decisionStatus.value?.isSome &&
      node.decisionStatus.value?.isNone) = false := by
    cases node.decisionStatus.value? <;> simp
  have hall : ∀ {α : Type} (b : Bool) (bad : α → Bool) (found : Option α), (b && found.any bad) = false ↔
      (b = true → ∀ a ∈ found, bad a = false) := by
    intro α b bad found
    cases b <;> cases found <;> simp
  have hnull : ∀ sha : Json, (sha matches .null) = true ↔ sha = .null := fun sha => by cases sha <;> simp
  simp only [hall, hstatus, decide_eq_true_eq, Bool.and_eq_false_iff, Bool.not_eq_false', hnull, isNone_eq_false_iff, and_assoc, Bool.and_eq_true, Bool.true_or, true_and, isNone_some, and_true, Bool.and_false, ne_eq, not_true_eq_false, decide_false, Bool.not_eq_true']

lemma readsBack_iff (host : NodeHost) (env : Artifact.ProcessEnv) (node : LineageNode) :
    validateLineageNode host env node.toJson.printed = .node node ↔ NormalForm host env node := by
  have htype : (node.toJson.printed.textAt "node_type").bind LineageNodeType.ofText? = some node.nodeType := by
    rw [textAt_of_str (get?_toJson node).2.2.2.1]
    exact LineageNodeType.ofText?_text node.nodeType
  have hfinite : Json.printedFields node.identity = node.identity ↔ (Json.obj node.identity).isFinite = true := by
    rw [← Json.printed_eq_self_iff, Json.printed, Json.obj.injEq]
  have hrun : ∀ runId, runId ∈ (node.identity.lookup "run_id").bind Json.text? ↔
      node.identity.lookup "run_id" = some (.str runId) := by
    intro runId
    rcases node.identity.lookup "run_id" with _ | (_ | _ | _ | _ | _ | _) <;> simp [Json.text?]
  rw [validateLineageNode_eq_node_iff rfl htype, ← and_assoc, nodeOf_printed]
  constructor
  · rintro ⟨hissues, hid, hdomain, hrevision, hcomponent, hcapability, hsummary, hidentity, hproducer, hownership, hstatus⟩
    obtain ⟨hprints, ⟨hidText, hplaceholder⟩, hdomainText, hrevisionText, hscoped, hcommit, hrunId, hcomponentText, hcapabilityText,
      hproducerText⟩ := (nodeIssues_printed hidentity).1 hissues
    have hidTrimmed := isTrimmed_iff.2 ⟨hidText, hid⟩
    have hdomainTrimmed := isTrimmed_iff.2 ⟨hdomainText, hdomain⟩
    rw [hid, hdomain] at hscoped
    exact {
      nodeId := ⟨hidTrimmed, hplaceholder⟩
      domain := ⟨hdomainTrimmed, by simpa [hidTrimmed.1, hdomainTrimmed.1] using hscoped⟩
      revision := isTrimmed_iff.2 ⟨hrevisionText, hrevision⟩
      componentId := isRead_iff.2 ⟨hcomponentText, hcomponent⟩
      capabilityId := isRead_iff.2 ⟨hcapabilityText, hcapability⟩
      summary := hsummary
      identity := hfinite.1 hidentity
      commit := fun htype sha hsha => ⟨hprints htype sha hsha, hcommit htype sha hsha⟩
      run := fun htype runId hlookup => hrunId htype runId ((hrun runId).2 hlookup)
      producer := isTrimmed_iff.2 ⟨hproducerText, hproducer⟩
      ownership := isRead_isFinite_iff.2 hownership
      decisionStatus := hstatus }
  · intro h
    obtain ⟨hidText, hid⟩ := isTrimmed_iff.1 h.nodeId.1
    obtain ⟨hdomainText, hdomain⟩ := isTrimmed_iff.1 h.domain.1
    obtain ⟨hrevisionText, hrevision⟩ := isTrimmed_iff.1 h.revision
    obtain ⟨hproducerText, hproducer⟩ := isTrimmed_iff.1 h.producer
    obtain ⟨hcomponentText, hcomponent⟩ := isRead_iff.1 h.componentId
    obtain ⟨hcapabilityText, hcapability⟩ := isRead_iff.1 h.capabilityId
    have hidentity := hfinite.2 h.identity
    refine ⟨(nodeIssues_printed hidentity).2 ⟨fun htype sha hsha => (h.commit htype sha hsha).1, ⟨hidText, h.nodeId.2⟩, hdomainText,
      hrevisionText, by simp [hid, hdomain, h.domain.2], fun htype sha hsha => (h.commit htype sha hsha).2,
      fun htype runId hmem => h.run htype runId ((hrun runId).1 hmem), hcomponentText, hcapabilityText, hproducerText⟩, hid, hdomain,
      hrevision, hcomponent, hcapability, h.summary, hidentity, hproducer, isRead_isFinite_iff.1 h.ownership, h.decisionStatus⟩

end ReadingBack

/-! ## Identities -/

section Identities

variable (host : NodeHost)

def assertDomain (domain : String) : Except String String :=
  let d := trim domain
  if d = "" || isPlaceholderIdentity host d then
    .error "component/capability identity requires a non-empty domain"
  else if domainIdSep <:+: d.toList then .error "domain must not contain \"::\""
  else .ok d

def assertLocalKey (localKey kind : String) : Except String String :=
  let k := trim localKey
  if k = "" || isPlaceholderIdentity host k then
    .error (kind ++ " local_key must be non-empty and non-placeholder")
  else .ok k

/-- The id of a key of a kind, which is not escaped. -/
def resolveKindId (kind domain localKey : String) : Except String String := do
  let d ← assertDomain host domain
  let key ← assertLocalKey host localKey kind
  return d ++ "::" ++ kind ++ ":" ++ key

/-- The id that `resolveComponentId(domain, localKey)` has. -/
def resolveComponentId (domain localKey : String) : Except String String :=
  resolveKindId host "component" domain localKey

/-- The id that `resolveCapabilityId(domain, localKey)` has. -/
def resolveCapabilityId (domain localKey : String) : Except String String :=
  resolveKindId host "capability" domain localKey

def encodeLocalId (localId : String) : String :=
  String.ofList (localId.toList.flatMap fun c =>
    if c = '%' then "%25".toList
    else if c = '/' then "%2F".toList
    else if c = '\\' then "%5C".toList
    else [c])

def makeDomainNodeId (domain nodeType localId : String) : Except String String := do
  let d ← assertDomain host domain
  let localKey := trim localId
  if localKey = "" || isPlaceholderIdentity host localKey then
    .error "local id must be non-empty and non-placeholder"
  else return d ++ "::" ++ nodeType ++ ":" ++ encodeLocalId localKey

/-- An id that one of the three functions gives. -/
inductive Issued : String → Prop where
  | component {domain localKey id : String} (h : resolveComponentId host domain localKey = .ok id) :
      Issued id
  | capability {domain localKey id : String} (h : resolveCapabilityId host domain localKey = .ok id) :
      Issued id
  | artifact {domain nodeType localId id : String}
      (h : makeDomainNodeId host domain nodeType localId = .ok id) : Issued id

end Identities

/-! ## Edges -/

inductive LineageRelationship where
  | implements | derivedFrom | verifies | deliveredBy | outcomeOf | decomposesTo | supersedes | invalidates
  | disputes | ownedBy | mapsEvidence | affectedByPolicy
deriving DecidableEq, Repr

inductive DriftReasonCode where
  | upstreamRequirementRevised | objectiveContentHashChanged | componentOwnershipChanged
  | policyEventInvalidated | verificationSubjectMismatch | missingDownstreamLink
  | unauthorizedUpstreamMutation
deriving DecidableEq, Repr

namespace DriftReasonCode

/-- `DRIFT_REASON_CODES`. -/
def all : List DriftReasonCode :=
  [.upstreamRequirementRevised, .objectiveContentHashChanged, .componentOwnershipChanged,
    .policyEventInvalidated, .verificationSubjectMismatch, .missingDownstreamLink,
    .unauthorizedUpstreamMutation]

def text : DriftReasonCode → String
  | .upstreamRequirementRevised => "upstream_requirement_revised"
  | .objectiveContentHashChanged => "objective_content_hash_changed"
  | .componentOwnershipChanged => "component_ownership_changed"
  | .policyEventInvalidated => "policy_event_invalidated"
  | .verificationSubjectMismatch => "verification_subject_mismatch"
  | .missingDownstreamLink => "missing_downstream_link"
  | .unauthorizedUpstreamMutation => "unauthorized_upstream_mutation"

def ofText? (text : String) : Option DriftReasonCode := all.find? fun code => code.text = text

end DriftReasonCode

/-- An edge, with the fields that the graph's walks read. -/
structure LineageEdge where
  edgeId : String
  sourceId : String
  targetId : String
  relationship : LineageRelationship
  reasonCodes : Option (List String)
deriving DecidableEq, Repr

end AgentPipeline.Lineage
