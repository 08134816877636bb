import AgentPipeline.Foundation.Lists
import AgentPipeline.Review.EvidenceSubject
import AgentPipeline.Review.Partition
import Mathlib.Data.List.Induction

/-!
# OverrideGovernance: the override decisions in force

Override decisions are recorded in an append-only list. A decision is valid on its own
(`evaluateOverrideValidity` without a successor), or it has a successor: the decision that names it
in `supersedes` or `renewed_from`, or the next one for its target that names nothing.
`projectActiveOverrides` keeps the last valid decision of every target.

* `isActive_iff`: a decision is active when it is valid on its own and has no successor;
* `hasSuccessor_iff_hasStanding`: which decisions have one, in terms of the list alone;
* `hasSuccessor_iff`: the same where every decision has an id.
-/

namespace AgentPipeline.Review

open List

/-! ## Decisions -/

inductive OverrideLifecycle where
  | active | expired | superseded | renewed | rejected | invalidated
deriving DecidableEq, Repr

inductive OverrideValidityStatus where
  | active | expired | superseded | renewed | rejected | invalidated | unauthorized | malformed
  | scopeMismatch
deriving DecidableEq, Repr

inductive OverrideInvalidationReason where
  | subjectMismatch | subjectMalformed | policyChange | fingerprintDrift | regionDrift
  | authorizationRevoked | superseded | expired
deriving DecidableEq, Repr

inductive OverrideTarget where
  | key (key : String)
  | scope (scopeType : ScopeType) (scopeValue : String)
deriving DecidableEq, Repr

def OverrideTarget.isScope : OverrideTarget → Bool
  | .key _ => false
  | .scope _ _ => true

structure OverrideAuthorizationResolution where
  authorized : Bool
  matchedRule : Option String
  evidence : String
  identitySource : String
deriving DecidableEq, Repr

inductive RenewalKind where
  | lite | human
deriving DecidableEq, Repr

/-- `OverrideDecisionV1`; `none` is `undefined` or `null`, and `classId` is its `class`. -/
structure OverrideDecision where
  decisionId : String
  classId : String
  disposition : String
  target : OverrideTarget
  explanation : String
  actor : String
  identitySource : String
  authorization : OverrideAuthorizationResolution
  evidenceRefs : JsObject String := .empty
  evidenceSubject : Option Json := none
  findingFingerprint : Option String
  codeRegion : Option String
  createdAt : String
  expiresAt : String
  lifecycle : OverrideLifecycle := .active
  supersedes : Option String := none
  renewedFrom : Option String := none
  renewalKind : Option RenewalKind := none
  legacyCompat : Bool := false

/-- The policy of a class; `maxDurationHours` bounds what is recorded under it. -/
structure OverrideClassPolicy where
  maxDurationHours : Nat
deriving DecidableEq, Repr

structure OverrideGovernanceConfig where
  classes : JsObject OverrideClassPolicy
  defaultClass : Option String := none
  implicit : Bool

structure LiveOverrideContext where
  findingFingerprint : Option String := none
  codeRegion : Option String := none
  scopeMatches : Option Bool := none
deriving DecidableEq, Repr

structure OverrideValidityResult where
  status : OverrideValidityStatus
  reason : String
  invalidationReason : Option OverrideInvalidationReason := none
  mismatchedSubjectFields : List String := []
deriving DecidableEq, Repr

/-- A text that is not empty, as `if (text)` tests it. -/
def truthy (text : Option String) : Option String := text.filter (· ≠ "")

/-! ## The implicit policy -/

def implicitLowRiskClass : String := "low_risk_deferred"

def implicitOverrideGovernance : OverrideGovernanceConfig where
  classes := JsObject.empty.set implicitLowRiskClass ⟨720⟩
  defaultClass := some implicitLowRiskClass
  implicit := true

/-- The properties that every object inherits. -/
def inheritedProperties : List String :=
  ["constructor", "toString", "valueOf", "toLocaleString", "hasOwnProperty", "isPrototypeOf",
    "propertyIsEnumerable", "__proto__", "__defineGetter__", "__defineSetter__",
    "__lookupGetter__", "__lookupSetter__"]

/-- `getClassPolicy(governance, classId) !== null`: the lookup also finds inherited properties. -/
def hasClassPolicy (governance : OverrideGovernanceConfig) (classId : String) : Bool :=
  (governance.classes.get? classId).isSome || inheritedProperties.contains classId

/-! ## Validity -/

/-- What validity is judged against, beside the decision itself. -/
structure OverrideContext where
  governance : OverrideGovernanceConfig
  pin : Option Json := none
  /-- `liveByTarget`. -/
  live : JsObject LiveOverrideContext := .empty

section Validity

variable (host : NodeHost)

/-- Whether `if (value)` takes the branch. -/
def isTruthyJson : Json → Bool
  | .null => false
  | .bool b => b
  | .num n => n ≠ .finite 0 && n ≠ .nan
  | .str text => text ≠ ""
  | .arr _ | .obj _ => true

/-- The dimensions that invalidate an override. -/
def governedFields : List String :=
  ["candidate_sha", "policy_hash", "verifier_fingerprint", "engine_fingerprint", "diff_hash",
    "required_evidence_set_revision"]

/-- The check of the evidence subject; a missing pin skips it. -/
def subjectFault (subject pin : Option Json) : Option OverrideValidityResult :=
  match subject.filter isTruthyJson, pin.filter isTruthyJson with
  | some subject, some pin =>
    let cmp := compareEvidenceSubjects host (some subject) (some pin)
    let mismatched := cmp.mismatchedFields.filter governedFields.contains
    if cmp.outcome = .malformed then
      some
        { status := .invalidated
          reason := "decision evidence_subject is malformed"
          invalidationReason := some .subjectMalformed }
    else if cmp.outcome = .mismatch ∧ !mismatched.isEmpty then
      some
        { status := .invalidated
          reason := "evidence_subject mismatch: " ++ String.intercalate ", " mismatched
          invalidationReason := some .subjectMismatch
          mismatchedSubjectFields := mismatched }
    else none
  | _, _ => none

/-- A recorded digest that the live one contradicts. -/
def drifted (recorded live : Option String) : Bool :=
  match truthy recorded, truthy live with
  | some recorded, some live => recorded ≠ live
  | _, _ => false

def driftFault (d : OverrideDecision) (live : LiveOverrideContext) :
    Option OverrideValidityResult :=
  match d.target with
  | .scope _ _ => none
  | .key _ =>
    if drifted d.findingFingerprint live.findingFingerprint then
      some
        { status := .invalidated
          reason := "finding fingerprint drift"
          invalidationReason := some .fingerprintDrift }
    else if drifted d.codeRegion live.codeRegion then
      some
        { status := .invalidated
          reason := "code region drift"
          invalidationReason := some .regionDrift }
    else none

/-- `input.now >= Date.parse(d.expires_at)`; what is no date never expires. -/
def hasExpired (now : Int) (expiresAt : String) : Bool :=
  (host.dateParse expiresAt).any fun t => t.ms ≤ now

/-- The links to the decisions that succeed one. -/
structure Successor where
  supersedes : Option String := none
  renews : Option String := none
deriving DecidableEq, Repr

/-- `evaluateOverrideValidity(input)`, where nobody authorizes again. -/
def evaluateOverrideValidity (d : OverrideDecision) (pin : Option Json)
    (live : LiveOverrideContext) (classKnown : Bool) (now : Int) (succ : Successor) :
    OverrideValidityResult :=
  if d.lifecycle = .rejected then
    { status := .rejected, reason := "decision was rejected at record time" }
  else if (truthy succ.supersedes).isSome ∨ d.lifecycle = .superseded then
    { status := .superseded
      reason :=
        match truthy succ.supersedes with
        | some by' => "superseded by " ++ by'
        | none => "decision is superseded"
      invalidationReason := some .superseded }
  else if (truthy succ.renews).isSome ∨ d.lifecycle = .renewed then
    { status := .renewed
      reason :=
        match truthy succ.renews with
        | some by' => "renewed by " ++ by'
        | none => "decision was renewed (predecessor)" }
  else if d.target.isScope ∧ live.scopeMatches = some false then
    { status := .scopeMismatch, reason := "live finding is outside decision scope" }
  else if hasExpired host now d.expiresAt then
    { status := .expired
      reason := "expires_at " ++ d.expiresAt ++ " is in the past"
      invalidationReason := some .expired }
  else if !d.authorization.authorized ∧ !d.legacyCompat then
    { status := .unauthorized
      reason := "stored authorization is not authorized"
      invalidationReason := some .authorizationRevoked }
  else
    match (subjectFault host d.evidenceSubject pin) <|> driftFault d live with
    | some fault => fault
    | none =>
      if !classKnown ∧ !d.legacyCompat then
        { status := .malformed, reason := "unknown class policy for \"" ++ d.classId ++ "\"" }
      else { status := .active, reason := "currently valid" }

end Validity

/-! ## The projection -/

def ScopeType.name : ScopeType → String
  | .category => "category"
  | .file => "file"

/-- `targetKey(target)`. -/
def targetKey : OverrideTarget → String
  | .key key => "key:" ++ key
  | .scope scopeType scopeValue => "scope:" ++ scopeType.name ++ ":" ++ scopeValue

structure ProjectedDecision where
  decision : OverrideDecision
  validity : OverrideValidityResult

/-- The decisions of every target, in append order. -/
def groupByTarget (decisions : List OverrideDecision) : JsObject (List OverrideDecision) :=
  decisions.foldl
    (fun groups d =>
      let k := targetKey d.target
      groups.set k (((groups.get? k).getD []) ++ [d]))
    .empty

/-- The explicit link that a decision records. -/
def linkExplicit (field : Successor → Successor) (predecessor : Option String)
    (successors : JsObject Successor) : JsObject Successor :=
  match truthy predecessor with
  | some id => successors.set id (field ((successors.get? id).getD {}))
  | none => successors

/-- A decision that names no predecessor. -/
def isUnlinked (d : OverrideDecision) : Bool :=
  truthy d.supersedes = none && truthy d.renewedFrom = none

/-- The link from a decision to the next one of its target, unless it has one. -/
def linkImplicit (predecessor by' : String) (successors : JsObject Successor) :
    JsObject Successor :=
  let prev := (successors.get? predecessor).getD {}
  if truthy prev.supersedes = none ∧ truthy prev.renews = none then
    successors.set predecessor { prev with supersedes := some by' }
  else successors

/-- The turn of a decision, after the one before it for its target. -/
def linkTurn (earlier : Option OverrideDecision) (d : OverrideDecision)
    (successors : JsObject Successor) : JsObject Successor :=
  let explicit :=
    linkExplicit (fun s => { s with renews := some d.decisionId }) d.renewedFrom
      (linkExplicit (fun s => { s with supersedes := some d.decisionId }) d.supersedes successors)
  match earlier with
  | some earlier =>
    if isUnlinked d then linkImplicit earlier.decisionId d.decisionId explicit else explicit
  | none => explicit

/-- The decisions of one target, each after the one before it. -/
def linkGroup : Option OverrideDecision → List OverrideDecision → JsObject Successor → JsObject Successor
  | _, [], successors => successors
  | earlier, d :: rest, successors => linkGroup (some d) rest (linkTurn earlier d successors)

/-- `successorOf`. -/
def successorsOf (decisions : List OverrideDecision) : JsObject Successor :=
  (groupByTarget decisions).values.foldl (fun successors list => linkGroup none list successors)
    .empty

section Projection

variable (host : NodeHost)

def project (ctx : OverrideContext) (decisions : List OverrideDecision) (now : Int)
    (d : OverrideDecision) : ProjectedDecision where
  decision := d
  validity :=
    evaluateOverrideValidity host d ctx.pin ((ctx.live.get? (targetKey d.target)).getD {})
      (hasClassPolicy ctx.governance d.classId) now
      (((successorsOf decisions).get? d.decisionId).getD {})

structure ActiveProjection where
  /-- The last active decision of every target. -/
  activeByTarget : JsObject ProjectedDecision
  all : List ProjectedDecision

def projectActiveOverrides (ctx : OverrideContext) (decisions : List OverrideDecision)
    (now : Int) : ActiveProjection :=
  let all := decisions.map (project host ctx decisions now)
  { activeByTarget :=
      (all.filter fun p => p.validity.status = .active).foldl
        (fun active p => active.set (targetKey p.decision.target) p) .empty
    all := all }

def activeProjectionToPartitionInputs (activeByTarget : JsObject ProjectedDecision) :
    JsObject String × List ScopedOverride :=
  activeByTarget.values.foldl
    (fun (overrides, scopes) p =>
      match p.decision.target with
      | .key key => (overrides.set key p.decision.disposition, scopes)
      | .scope scopeType scopeValue =>
        (overrides, scopes ++ [⟨scopeType, scopeValue, p.decision.disposition, p.decision.explanation⟩]))
    (.empty, [])

end Projection

/-! ## Targets -/

lemma targetKey_injective {t u : OverrideTarget} (h : targetKey t = targetKey u) : t = u := by
  -- the first letter tells the kinds apart, and the seventh one the types of scopes
  have hfirst := congrArg (fun s : String => s.toList.head?) h
  have hseventh := congrArg (fun s : String => s.toList[6]?) h
  rcases t with k | ⟨_ | _, v⟩ <;> rcases u with k' | ⟨_ | _, v'⟩ <;>
    first
      | simp [targetKey, ScopeType.name] at hfirst hseventh; done
      | simpa [targetKey, ScopeType.name] using h

/-! ## A decision is active when it is valid alone and has no successor -/

variable {l : List OverrideDecision} {d : OverrideDecision}

lemma filter_eq_append_cons {p : OverrideDecision → Bool} {pre suf : List OverrideDecision} :
    l.filter p = pre ++ d :: suf → ∃ pre' suf', l = pre' ++ d :: suf' ∧ pre'.filter p = pre ∧ p d = true := by
  intro h
  obtain ⟨l₁, l₂, rfl, hpre, hrest⟩ := filter_eq_append_iff.1 h
  obtain ⟨u, v, rfl, hu, hd, _⟩ := filter_eq_cons_iff.1 hrest
  refine ⟨l₁ ++ u, v, by simp, ?_, hd⟩
  have hnone : u.filter p = [] := filter_eq_nil_iff.2 hu
  rw [filter_append, hpre, hnone, append_nil]

def Successor.isSet (s : Successor) : Bool :=
  (truthy s.supersedes).isSome || (truthy s.renews).isSome

variable {decisions : List OverrideDecision}

section Active

variable (host : NodeHost)

/-- The decision is valid at a time when nothing succeeds it. -/
def ValidAlone (ctx : OverrideContext) (now : Int) (d : OverrideDecision) : Prop :=
  (evaluateOverrideValidity host d ctx.pin ((ctx.live.get? (targetKey d.target)).getD {})
    (hasClassPolicy ctx.governance d.classId) now {}).status = .active

/-- The status that the projection computes. -/
def IsActive (ctx : OverrideContext) (decisions : List OverrideDecision) (now : Int)
    (d : OverrideDecision) : Prop :=
  (project host ctx decisions now d).validity.status = .active

instance (ctx : OverrideContext) (decisions : List OverrideDecision) (now : Int)
    (d : OverrideDecision) : Decidable (IsActive host ctx decisions now d) :=
  inferInstanceAs (Decidable (_ = _))

variable {now : Int}

lemma evaluate_active_iff {pin : Option Json} {live : LiveOverrideContext} {classKnown : Bool} {succ : Successor} :
    (evaluateOverrideValidity host d pin live classKnown now succ).status = .active ↔ succ.isSet = false ∧
        (evaluateOverrideValidity host d pin live classKnown now {}).status = .active := by
  cases hsupersedes : truthy succ.supersedes with
  | some by' =>
    by_cases hrejected : d.lifecycle = .rejected <;>
      simp [evaluateOverrideValidity, Successor.isSet, hsupersedes, hrejected]
  | none =>
    cases hrenews : truthy succ.renews with
    | some by' =>
      by_cases hrejected : d.lifecycle = .rejected <;>
        by_cases hsuperseded : d.lifecycle = .superseded <;>
          simp [evaluateOverrideValidity, Successor.isSet, hsupersedes, hrenews, hrejected, hsuperseded]
    | none =>
      -- a record of two empty links is judged like none
      have hnone : truthy none = none := rfl
      simp [evaluateOverrideValidity, Successor.isSet, hsupersedes, hrenews, hnone]

/-- Some decision of the list succeeds those with this id. -/
def HasSuccessor (decisions : List OverrideDecision) (id : String) : Prop :=
  ((successorsOf decisions).get? id).any Successor.isSet = true

variable {ctx : OverrideContext}

lemma isActive_iff : IsActive host ctx decisions now d ↔
      ¬HasSuccessor decisions d.decisionId ∧ ValidAlone host ctx now d := by
  unfold IsActive ValidAlone HasSuccessor project
  rw [evaluate_active_iff]
  cases (successorsOf decisions).get? d.decisionId <;> simp [Successor.isSet, truthy]

/-- The decision that `activeByTarget` holds for a target. -/
def activeDecision (ctx : OverrideContext) (decisions : List OverrideDecision) (now : Int)
    (k : String) : Option OverrideDecision :=
  ((projectActiveOverrides host ctx decisions now).activeByTarget.get? k).map (·.decision)

variable {host}

lemma activeDecision_eq (decisions : List OverrideDecision) (now : Int)
    (k : String) :
    activeDecision host ctx decisions now k = ((decisions.filter fun d => targetKey d.target = k).filter
        fun d => IsActive host ctx decisions now d).getLast? := by
  have hproject : (fun p : ProjectedDecision => p.decision) ∘ (fun p => p) ∘ project host ctx decisions now = id := rfl
  unfold activeDecision projectActiveOverrides
  rw [JsObject.get?_foldl_set]
  simp only [JsObject.get?_empty, Option.or_none, ← getLast?_filter, filter_map,
    getLast?_map, Option.map_map, filter_filter]
  rw [hproject, Option.map_id]
  refine congrArg List.getLast? (filter_congr fun d _ => ?_)
  rw [Bool.and_comm]
  rfl

/-- The decision is the last one for the target that is active. -/
def InForce (host : NodeHost) (ctx : OverrideContext) (decisions : List OverrideDecision)
    (now : Int) (k : String) (d : OverrideDecision) : Prop :=
  ∃ pre suf, decisions = pre ++ d :: suf ∧ targetKey d.target = k ∧ IsActive host ctx decisions now d ∧
    ∀ e ∈ suf, targetKey e.target = k → ¬IsActive host ctx decisions now e

lemma activeDecision_eq_some_iff {k : String} :
    activeDecision host ctx decisions now k = some d ↔ InForce host ctx decisions now k d := by
  rw [activeDecision_eq, filter_filter, getLast?_eq_some_iff]
  constructor
  · rintro ⟨init, hsplit⟩
    obtain ⟨pre, suf, rfl, hpre, hd⟩ := filter_eq_append_cons hsplit
    simp only [Bool.and_eq_true, decide_eq_true_eq] at hd
    refine ⟨pre, suf, rfl, hd.2, hd.1, fun e he hk hactive => ?_⟩
    -- nothing of the rest passes the filter
    rw [filter_append, hpre, filter_cons_of_pos (by simpa using hd)] at hsplit
    have hsuf : (suf.filter fun e => decide (IsActive host ctx (pre ++ d :: suf) now e) &&
        decide (targetKey e.target = k)) = [] := by simpa using hsplit
    have hmem := filter_eq_nil_iff.1 hsuf e he
    simp [hactive, hk] at hmem
  · rintro ⟨pre, suf, rfl, rfl, hactive, hnone⟩
    have hsuf : (suf.filter fun e => decide (IsActive host ctx (pre ++ d :: suf) now e) &&
        decide (targetKey e.target = targetKey d.target)) = [] := by
      refine filter_eq_nil_iff.2 fun e he => ?_
      simpa using fun h hk => hnone e he hk h
    exact ⟨_, by rw [filter_append, filter_cons_of_pos (by simpa using hactive), hsuf]⟩

end Active

/-! ## Which decisions have a successor -/

/-- The last decision for a target. -/
def lastFor (decisions : List OverrideDecision) (k : String) : Option OverrideDecision :=
  (decisions.filter fun d => targetKey d.target = k).getLast?

/-- A decision names this id, or it names none and follows the decision of this id. -/
def Succeeds (earlier : Option OverrideDecision) (d : OverrideDecision) (id : String) : Prop :=
  truthy d.supersedes = some id ∨ truthy d.renewedFrom = some id ∨
    (isUnlinked d = true ∧ earlier.map (·.decisionId) = some id)

/-- The decisions of one target, each with the one before it. -/
def pairsOf : Option OverrideDecision → List OverrideDecision → List (Option OverrideDecision × OverrideDecision)
  | _, [] => []
  | earlier, d :: rest => (earlier, d) :: pairsOf (some d) rest

variable {earlier : Option OverrideDecision}

lemma mem_pairsOf {e : Option OverrideDecision} : (e, d) ∈ pairsOf earlier l ↔
      ∃ pre suf, l = pre ++ d :: suf ∧ e = (pre.getLast?).or earlier := by
  induction l generalizing earlier with
  | nil => simp [pairsOf]
  | cons x rest ih =>
    simp only [pairsOf, mem_cons, Prod.mk.injEq, ih]
    constructor
    · rintro (⟨rfl, rfl⟩ | ⟨pre, suf, rfl, rfl⟩)
      · exact ⟨[], rest, rfl, by simp⟩
      · refine ⟨x :: pre, suf, rfl, ?_⟩
        cases hlast : pre.getLast? <;> simp_all [getLast?_cons]
    · rintro ⟨pre, suf, hl, rfl⟩
      cases pre with
      | nil =>
        simp only [nil_append, List.cons.injEq] at hl
        exact .inl ⟨by simp, hl.1.symm⟩
      | cons y pre =>
        simp only [cons_append, List.cons.injEq] at hl
        obtain ⟨rfl, rfl⟩ := hl
        refine .inr ⟨pre, suf, rfl, ?_⟩
        cases hlast : pre.getLast? <;> simp_all [getLast?_cons]

lemma get?_foldl_group (decisions : List OverrideDecision)
    (groups : JsObject (List OverrideDecision)) (k : String) :
    (decisions.foldl
      (fun groups d =>
        groups.set (targetKey d.target) (((groups.get? (targetKey d.target)).getD []) ++ [d]))
      groups).get? k =
      let group := decisions.filter fun d => targetKey d.target = k
      if group = [] then groups.get? k else some (((groups.get? k).getD []) ++ group) := by
  induction decisions generalizing groups with
  | nil => simp
  | cons d rest ih =>
    rw [foldl_cons, ih]
    by_cases hk : targetKey d.target = k
    · by_cases hrest : (rest.filter fun d => targetKey d.target = k) = [] <;> simp [hk, hrest]
    · simp [hk, Ne.symm hk]

lemma mem_groups :
    l ∈ (groupByTarget decisions).values ↔ l ≠ [] ∧ ∃ k, l = decisions.filter fun d => targetKey d.target = k := by
  simp only [JsObject.mem_values, groupByTarget, get?_foldl_group, JsObject.get?_empty, Option.getD_none, nil_append]
  constructor
  · rintro ⟨k, hk⟩
    split at hk
    · simp at hk
    · next hne =>
      obtain rfl := Option.some.inj hk
      exact ⟨hne, k, rfl⟩
  · rintro ⟨hne, k, rfl⟩
    exact ⟨k, by rw [if_neg hne]⟩

/-! ## Links

An explicit link is written over, also by a decision without an id, whose link counts as none.
-/

/-- A decision, after the one before it for its target. -/
abbrev Turn := Option OverrideDecision × OverrideDecision

/-- The turns of the loops, target by target. -/
def turnsOf (decisions : List OverrideDecision) : List Turn :=
  (groupByTarget decisions).values.flatMap (pairsOf none)

/-- The last decision that names the id in a field has an id itself. -/
def Stands (field : OverrideDecision → Option String) (turns : List Turn) (id : String) : Prop :=
  ((turns.filter fun turn => truthy (field turn.2) = some id).getLast?).any (·.2.decisionId ≠ "") = true

/-- The decision names nothing, and the one before it has this id. -/
def Follows (turn : Turn) (id : String) : Prop :=
  isUnlinked turn.2 = true ∧ turn.1.map (·.decisionId) = some id

instance (turn : Turn) (id : String) : Decidable (Follows turn id) := inferInstanceAs (Decidable (_ ∧ _))

/-- A decision with an id follows the one of this id, when no renewal of that one stands before it and none
after it names it as superseded. -/
def Implied (turns : List Turn) (id : String) : Prop :=
  ∃ pre turn suf, turns = pre ++ turn :: suf ∧ Follows turn id ∧ turn.2.decisionId ≠ "" ∧
    ¬Stands (·.renewedFrom) pre id ∧ ∀ later ∈ suf, truthy later.2.supersedes ≠ some id

/-- The decisions with this id have a successor: a supersession or a renewal of it stands, or one is implied. -/
def HasStanding (decisions : List OverrideDecision) (id : String) : Prop :=
  Stands (·.supersedes) (turnsOf decisions) id ∨ Stands (·.renewedFrom) (turnsOf decisions) id ∨
    Implied (turnsOf decisions) id

/-- The entry of an id. -/
def linkOf (successors : JsObject Successor) (id : String) : Successor := (successors.get? id).getD {}

lemma linkOf_linkExplicit (field : Successor → Successor) (predecessor : Option String)
    (successors : JsObject Successor) (id : String) : linkOf (linkExplicit field predecessor successors) id =
      if truthy predecessor = some id then field (linkOf successors id) else linkOf successors id := by
  unfold linkExplicit linkOf
  cases truthy predecessor with
  | none => simp
  | some x =>
    by_cases hx : id = x
    · simp [hx]
    · simp [hx, Ne.symm hx]

lemma linkOf_linkImplicit (predecessor by' : String) (successors : JsObject Successor) (id : String) :
    linkOf (linkImplicit predecessor by' successors) id =
      if predecessor = id ∧ (linkOf successors id).isSet = false then
        { linkOf successors id with supersedes := some by' } else linkOf successors id := by
  unfold linkImplicit linkOf
  by_cases hid : predecessor = id
  · subst hid
    cases hsup : truthy ((successors.get? predecessor).getD {}).supersedes <;>
      cases hren : truthy ((successors.get? predecessor).getD {}).renews <;> simp [Successor.isSet, hsup, hren]
  · dsimp only
    split <;> simp [hid, Ne.symm hid]

lemma linkOf_linkTurn (successors : JsObject Successor) (turn : Turn) (id : String) :
    linkOf (linkTurn turn.1 turn.2 successors) id =
      { supersedes := if truthy turn.2.supersedes = some id ∨ Follows turn id ∧ (linkOf successors id).isSet = false
          then some turn.2.decisionId else (linkOf successors id).supersedes
        renews := if truthy turn.2.renewedFrom = some id then some turn.2.decisionId
          else (linkOf successors id).renews } := by
  obtain ⟨earlier, d⟩ := turn
  unfold linkTurn
  cases hsup : truthy d.supersedes <;> cases hren : truthy d.renewedFrom <;> cases earlier <;>
    simp [Follows, isUnlinked, hsup, hren, linkOf_linkExplicit, linkOf_linkImplicit] <;> split_ifs <;> simp_all

section Standing

variable {turns : List Turn} {turn : Turn} {id : String} {field : OverrideDecision → Option String}

lemma stands_concat : Stands field (turns ++ [turn]) id ↔
    if truthy (field turn.2) = some id then turn.2.decisionId ≠ "" else Stands field turns id := by
  unfold Stands
  by_cases hnames : truthy (field turn.2) = some id <;> simp [hnames]

lemma implied_concat : Implied (turns ++ [turn]) id ↔
    Follows turn id ∧ turn.2.decisionId ≠ "" ∧ ¬Stands (·.renewedFrom) turns id ∨
      Implied turns id ∧ truthy turn.2.supersedes ≠ some id := by
  unfold Implied
  rw [Lists.exists_split_concat]
  simp only [not_mem_nil, false_imp_iff, implies_true, and_true, forall_mem_append,
    forall_mem_singleton, ← and_assoc, exists_and_right]

lemma Stands.exists_names (h : Stands field turns id) : ∃ turn ∈ turns, truthy (field turn.2) = some id := by
  obtain ⟨turn, hlast, -⟩ := (Option.any_eq_true _ _).1 h
  obtain ⟨hmem, hnames⟩ := mem_filter.1 (mem_of_getLast? hlast)
  exact ⟨turn, hmem, of_decide_eq_true hnames⟩

lemma stands_of_names {turn : Turn}
    (hnamed : ∀ turn ∈ turns, turn.2.decisionId ≠ "") (hturn : turn ∈ turns) (hnames : truthy (field turn.2) = some id) :
    Stands field turns id := by
  have hne : turns.filter (fun turn => truthy (field turn.2) = some id) ≠ [] :=
    ne_nil_of_mem (mem_filter.2 ⟨hturn, decide_eq_true hnames⟩)
  have hlast := hnamed _ (mem_filter.1 (getLast_mem hne)).1
  rw [Stands, getLast?_eq_some_getLast hne]
  exact decide_eq_true hlast

lemma isSome_truthy_some {text : String} : (truthy (some text)).isSome = true ↔ text ≠ "" := by
  by_cases h : text = "" <;> simp [truthy, h]

lemma links_iff (turns : List Turn) (id : String) :
    let entry := linkOf (turns.foldl (fun successors turn => linkTurn turn.1 turn.2 successors) .empty) id
    ((truthy entry.renews).isSome = true ↔ Stands (·.renewedFrom) turns id) ∧
      ((truthy entry.supersedes).isSome = true ↔ Stands (·.supersedes) turns id ∨ Implied turns id) := by
  induction turns using List.reverseRec with
  | nil => simp [linkOf, truthy, Stands, Implied]
  | append_singleton turns turn ih =>
    obtain ⟨hrenews, hsupersedes⟩ := ih
    dsimp only at hrenews hsupersedes ⊢
    rw [foldl_append, foldl_cons, foldl_nil, linkOf_linkTurn, stands_concat, stands_concat, implied_concat]
    set entry := linkOf (turns.foldl (fun successors turn => linkTurn turn.1 turn.2 successors) .empty) id
    constructor
    · by_cases hrenewal : truthy turn.2.renewedFrom = some id <;> simp [hrenewal, hrenews, isSome_truthy_some]
    · have hset : entry.isSet = false ↔
          ¬(Stands (·.supersedes) turns id ∨ Implied turns id) ∧ ¬Stands (·.renewedFrom) turns id := by
        rw [← hsupersedes, ← hrenews, Successor.isSet, Bool.or_eq_false_iff]
        simp
      by_cases hnames : truthy turn.2.supersedes = some id
      · have hlinked : isUnlinked turn.2 = false := by simp [isUnlinked, hnames]
        simp [hnames, Follows, hlinked, isSome_truthy_some]
      · by_cases hfollows : Follows turn id <;> by_cases hfree : entry.isSet = false <;>
          simp [hnames, hfollows, hfree, hsupersedes, isSome_truthy_some] <;> tauto

end Standing

lemma mem_turnsOf {e : Option OverrideDecision} : (e, d) ∈ turnsOf decisions ↔
      ∃ pre suf, decisions = pre ++ d :: suf ∧ e = lastFor pre (targetKey d.target) := by
  simp only [turnsOf, mem_flatMap, mem_groups, mem_pairsOf, Option.or_none]
  constructor
  · rintro ⟨_, ⟨-, k, rfl⟩, pre, suf, hsplit, rfl⟩
    obtain ⟨pre', suf', rfl, hpre, hd⟩ := filter_eq_append_cons hsplit
    have hk : targetKey d.target = k := by simpa using hd
    exact ⟨pre', suf', rfl, by rw [lastFor, hk, hpre]⟩
  · rintro ⟨pre, suf, rfl, rfl⟩
    exact ⟨_, ⟨by simp, targetKey d.target, rfl⟩, pre.filter fun e => targetKey e.target = targetKey d.target,
      suf.filter fun e => targetKey e.target = targetKey d.target, by simp, rfl⟩

lemma successorsOf_eq (decisions : List OverrideDecision) : successorsOf decisions =
    (turnsOf decisions).foldl (fun successors turn => linkTurn turn.1 turn.2 successors) .empty := by
  have hgroup : ∀ (l : List OverrideDecision) (earlier : Option OverrideDecision) (successors : JsObject Successor),
      linkGroup earlier l successors =
        (pairsOf earlier l).foldl (fun successors turn => linkTurn turn.1 turn.2 successors) successors := by
    intro l
    induction l with
    | nil => exact fun _ _ => rfl
    | cons d rest ih => exact fun earlier successors => ih _ _
  simp only [successorsOf, turnsOf, foldl_flatMap, hgroup]

lemma hasSuccessor_iff_hasStanding {id : String} : HasSuccessor decisions id ↔ HasStanding decisions id := by
  obtain ⟨hrenews, hsupersedes⟩ := links_iff (turnsOf decisions) id
  rw [← successorsOf_eq] at hrenews hsupersedes
  have hset : HasSuccessor decisions id ↔ (linkOf (successorsOf decisions) id).isSet = true := by
    unfold HasSuccessor linkOf
    cases (successorsOf decisions).get? id <;> simp [Successor.isSet, truthy]
  rw [hset, Successor.isSet, Bool.or_eq_true, hsupersedes, hrenews, HasStanding]
  tauto

/-- Some decision of the list succeeds those with this id, at its place in the list. -/
def IsSucceeded (decisions : List OverrideDecision) (id : String) : Prop :=
  ∃ pre d suf, decisions = pre ++ d :: suf ∧ Succeeds (lastFor pre (targetKey d.target)) d id

lemma hasSuccessor_iff (hids : ∀ d ∈ decisions, d.decisionId ≠ "") (id : String) :
    HasSuccessor decisions id ↔ IsSucceeded decisions id := by
  have hnamed : ∀ turn ∈ turnsOf decisions, turn.2.decisionId ≠ "" := by
    rintro ⟨e, d⟩ hturn
    obtain ⟨pre, suf, rfl, -⟩ := mem_turnsOf.1 hturn
    exact hids d (by simp)
  rw [hasSuccessor_iff_hasStanding]
  constructor
  · have hplace : ∀ turn ∈ turnsOf decisions, Succeeds turn.1 turn.2 id → IsSucceeded decisions id := by
      rintro ⟨e, d⟩ hturn hsucceeds
      obtain ⟨pre, suf, hsplit, rfl⟩ := mem_turnsOf.1 hturn
      exact ⟨pre, d, suf, hsplit, hsucceeds⟩
    rintro (hstands | hstands | ⟨pre, turn, suf, hsplit, hfollows, -⟩)
    · obtain ⟨turn, hturn, hnames⟩ := hstands.exists_names
      exact hplace turn hturn (.inl hnames)
    · obtain ⟨turn, hturn, hnames⟩ := hstands.exists_names
      exact hplace turn hturn (.inr (.inl hnames))
    · exact hplace turn (by simp [hsplit]) (.inr (.inr hfollows))
  · rintro ⟨pre, d, suf, hsplit, hsucceeds⟩
    have hturn := mem_turnsOf.2 ⟨pre, suf, hsplit, rfl⟩
    by_contra hnone
    obtain ⟨hsupersedes, hrenews, himplied⟩ : _ ∧ _ ∧ _ := by simpa only [HasStanding, not_or] using hnone
    rcases hsucceeds with hnames | hnames | hfollows
    · exact hsupersedes (stands_of_names hnamed hturn hnames)
    · exact hrenews (stands_of_names hnamed hturn hnames)
    · -- no link names the id, so the decision is the implied successor
      obtain ⟨before, after, hturns⟩ := append_of_mem hturn
      refine himplied ⟨before, _, after, hturns, hfollows, hnamed _ hturn, fun hstands => ?_, fun later hlater hnames => ?_⟩
      · obtain ⟨turn, hmem, hnames⟩ := hstands.exists_names
        exact hrenews (stands_of_names hnamed (by simp [hturns, hmem]) hnames)
      · exact hsupersedes (stands_of_names hnamed (by simp [hturns, hlater]) hnames)

lemma isSucceeded_append {pre : List OverrideDecision} {id : String} : IsSucceeded (pre ++ [d]) id ↔
      IsSucceeded pre id ∨ Succeeds (lastFor pre (targetKey d.target)) d id := by
  unfold IsSucceeded
  rw [Lists.exists_split_concat, or_comm]

end AgentPipeline.Review
