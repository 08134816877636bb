import Mathlib.Data.List.Infix
import AgentPipeline.Handoff.Record

/-!
# Resume: whether a stored answer may be used

`validateHandoffResume` reads a stored handoff, asks whether it is answered and still in force, and
compares what it is bound to with the current context.

* `Binding`: the seven values a handoff may be bound to;
* `NeverStale`: what is accepted is answered, in force and bound to the current values;
* `neverStale_iff`: the records for which that holds: the two lists of hashes are not compared, and
  neither is a value that counts as false.
-/

namespace AgentPipeline.Handoff

open Option

/-! ## Approvers -/

/-- What the approver rules are asked; `ρ` is a rule. -/
structure ApproverResolutionInput (ρ : Type) where
  actor : String
  authenticated : Bool
  identitySource : String
  affectedPaths : List String
  affectedComponents : List String
  matchedRiskClasses : List String
  rules : List ρ

structure ApproverResolutionResult where
  authorized : Bool
  unresolved : Bool
  evidence : List String
deriving DecidableEq, Repr

/-- The approver rules of a call, with what they are asked about. -/
structure ApproverPolicy (ρ : Type) where
  rules : Option (List ρ) := none
  affectedPaths : Option (List String) := none
  affectedComponents : Option (List String) := none
  matchedRiskClasses : Option (List String) := none

def ApproverPolicy.input {ρ : Type} (policy : ApproverPolicy ρ) (actor identitySource : String) :
    ApproverResolutionInput ρ where
  actor := actor
  authenticated := true
  identitySource := identitySource
  affectedPaths := policy.affectedPaths.getD []
  affectedComponents := policy.affectedComponents.getD []
  matchedRiskClasses := policy.matchedRiskClasses.getD []
  rules := policy.rules.getD []

def ApproverPolicy.hasRules {ρ : Type} (policy : ApproverPolicy ρ) : Bool :=
  !(policy.rules.getD []).isEmpty

/-! ## The context -/

/-- `ResumeContext`; of the three hashes `none` is `undefined` and `some none` is `null`. -/
structure ResumeContext (ρ : Type) where
  candidateSha : Option String
  candidateEpoch : Option String := none
  dossierHash : Option (Option String) := none
  policyHash : Option (Option String) := none
  planRevision : Option (Option String) := none
  specHashes : Option (List String) := none
  contentHashes : Option (List String) := none
  now : Option String := none
  approvers : ApproverPolicy ρ := {}
  knownStageEntries : Option (List String) := none
  stagePreconditionsOk : Option Bool := none

inductive ResumeCode where
  | notAnswered | rejected | superseded | expired | staleSha | scopeHashMismatch | malformed
  | ambiguousResumeTarget | stagePreconditions | authorizationStale | unsupportedSchema
deriving DecidableEq, Repr

structure ResumeTicket where
  resumeTarget : String
  handoffId : String
deriving DecidableEq, Repr

inductive ResumeFailure where
  | refused (reason : String) (code : ResumeCode)
  /-- The approver rules threw. -/
  | threw (message : String)
deriving DecidableEq, Repr

section Resume

variable {ρ : Type} (host : NodeHost)
  (resolveAuthorizedApprover : ApproverResolutionInput ρ → Except String ApproverResolutionResult)
  (nowIso : String)

/-! ## The checks -/

/-- The form in which epochs are compared. -/
def epochKey (epoch : Option String) : String := host.toLowerCase (JsText.trim (epoch.getD ""))

def candidateEpochChanged (previous next : Option String) : Bool :=
  let a := epochKey host previous
  let b := epochKey host next
  if a = "" ∨ b = "" then a ≠ "" || b ≠ "" else a ≠ b

def HumanQuestionHandoff.boundEpoch (h : HumanQuestionHandoff) : Option String :=
  h.scope.candidateEpoch.orElse fun _ =>
    match h.typedRequest with
    | some (.authority record) => record.candidateEpoch
    | _ => none

def ResumeContext.currentEpoch (ctx : ResumeContext ρ) : Option String :=
  ctx.candidateEpoch.orElse fun _ => ctx.candidateSha

/-- The handoff is past its expiry at a time; dates that cannot be read are not compared. -/
def expiredAt (expiresAt : Option String) (now : String) : Bool :=
  match (expiresAt.filter (· ≠ "")).bind host.dateParse, host.dateParse now with
  | some e, some n => e.ms < n.ms
  | _, _ => false

/-- `bound && ctx !== undefined && ctx !== bound`. -/
def hashMismatch (bound : Option Json) (current : Option (Option String)) : Bool :=
  Json.isTruthy bound && match current, bound with
    | none, _ => false
    | some (some value), some (.str text) => value ≠ text
    | some _, _ => true

/-- The reasons to refuse a record, in the order they are looked at. -/
def resumeProblems (h : HumanQuestionHandoff) (ctx : ResumeContext ρ) :
    List (Bool × String × ResumeCode) :=
  let id := h.handoffId
  let now := ctx.now.getD nowIso
  let target := JsText.trim h.resumeTarget
  let entries := ctx.knownStageEntries.getD []
  let matching := (entries.filter (· = target)).length
  [(h.status = .superseded || (h.supersededBy.filter (· ≠ "")).isSome,
      "handoff " ++ id ++ " is superseded", .superseded),
    (h.status = .rejected, "handoff " ++ id ++ " was rejected", .rejected),
    (h.status = .expired, "handoff " ++ id ++ " is expired", .expired),
    (h.status ≠ .answered || h.answer.all (·.decision ≠ .answer),
      "handoff " ++ id ++ " is not answered (status=" ++ h.status.name ++ ")", .notAnswered),
    (expiredAt host h.expiresAt now, "handoff " ++ id ++ " expired at " ++ h.expiresAt.getD "", .expired),
    (match h.scope.candidateSha.filter (· ≠ "") with
      | none => false
      | some sha => ctx.candidateSha ≠ some sha,
      "candidate SHA mismatch: handoff bound " ++ h.scope.candidateSha.getD "" ++ ", " ++
        "current " ++ ctx.candidateSha.getD "(none)", .staleSha),
    ((h.boundEpoch.filter (· ≠ "")).isSome && candidateEpochChanged host h.boundEpoch ctx.currentEpoch,
      "candidate epoch mismatch: handoff bound " ++ h.boundEpoch.getD "" ++ ", " ++
        "current " ++ ctx.currentEpoch.getD "(none)", .staleSha),
    (hashMismatch h.scope.dossierHash ctx.dossierHash, "dossier hash mismatch", .scopeHashMismatch),
    (hashMismatch h.scope.policyHash ctx.policyHash, "policy hash mismatch", .scopeHashMismatch),
    (hashMismatch h.scope.planRevision ctx.planRevision, "plan revision mismatch", .scopeHashMismatch),
    (target = "", "resume_target missing", .ambiguousResumeTarget),
    (!entries.isEmpty && matching ≠ 1,
      if matching = 0 then "resume_target \"" ++ target ++ "\" maps to no known stage entry"
      else "resume_target \"" ++ target ++ "\" maps to multiple stage entries",
      .ambiguousResumeTarget),
    (ctx.stagePreconditionsOk = some false, "stage preconditions for re-entry are not satisfied", .stagePreconditions)]

/-- The responder is asked for again where rules are given. -/
def recheckResponder (h : HumanQuestionHandoff) (ctx : ResumeContext ρ) : Except ResumeFailure Unit :=
  match h.answer with
  | some answer =>
    if h.authorityMode = .authority ∧ ctx.approvers.hasRules = true then
      match resolveAuthorizedApprover
        (ctx.approvers.input answer.responder answer.identitySource) with
      | .error message => .error (.threw message)
      | .ok result =>
        if result.unresolved || !result.authorized then
          .error (.refused "recorded responder is no longer authorized under current policy"
            .authorizationStale)
        else .ok ()
    else .ok ()
  | none => .ok ()

/-- The code of a record that cannot be read: `reason.includes("unsupported schema_version")`. -/
def parseCode (reason : String) : ResumeCode :=
  if "unsupported schema_version".toList <:+: reason.toList then .unsupportedSchema else .malformed

/-- `validateHandoffResume(handoffOrRaw, ctx)`. -/
def validateHandoffResume (raw : Json) (ctx : ResumeContext ρ) : Except ResumeFailure ResumeTicket :=
  match parseHumanQuestionHandoff host raw with
  | .error reason => .error (.refused reason (parseCode reason))
  | .ok h =>
    match (resumeProblems host nowIso h ctx).find? (·.1) with
    | some (_, reason, code) => .error (.refused reason code)
    | none =>
      match recheckResponder resolveAuthorizedApprover h ctx with
      | .error failure => .error failure
      | .ok () => .ok { resumeTarget := JsText.trim h.resumeTarget, handoffId := h.handoffId }

/-! ## Bindings -/

inductive Binding where
  | candidateSha | candidateEpoch | dossierHash | policyHash | planRevision | specHashes
  | contentHashes
deriving DecidableEq, Repr

def hashList (hashes : List String) : Json := .arr (hashes.map .str)

/-- What the record is bound to. -/
def HumanQuestionHandoff.bound (h : HumanQuestionHandoff) : Binding → Option Json
  | .candidateSha => h.scope.candidateSha.map .str
  | .candidateEpoch => h.boundEpoch.map .str
  | .dossierHash => h.scope.dossierHash
  | .policyHash => h.scope.policyHash
  | .planRevision => h.scope.planRevision
  | .specHashes => h.scope.specHashes.map hashList
  | .contentHashes => h.scope.contentHashes.map hashList

/-- What the context supplies. -/
def ResumeContext.supplied (ctx : ResumeContext ρ) : Binding → Option Json
  | .candidateSha => ctx.candidateSha.map .str
  | .candidateEpoch => ctx.candidateEpoch.map .str
  | .dossierHash => ctx.dossierHash.join.map .str
  | .policyHash => ctx.policyHash.join.map .str
  | .planRevision => ctx.planRevision.join.map .str
  | .specHashes => ctx.specHashes.map hashList
  | .contentHashes => ctx.contentHashes.map hashList

/-- Two values of a binding are the same; an epoch is a SHA without its case and outer space. -/
def SameValue (b : Binding) (v w : Json) : Prop :=
  match b with
  | .candidateEpoch => epochKey host v.text? = epochKey host w.text?
  | _ => v = w

def Accepted (raw : Json) (ctx : ResumeContext ρ) : Prop :=
  ∃ ticket, validateHandoffResume host resolveAuthorizedApprover nowIso raw ctx = .ok ticket

/-- The record is an answer in force at a time. -/
structure InForce (h : HumanQuestionHandoff) (now : String) : Prop where
  answered : h.status = .answered
  answer : ∃ a, h.answer = some a ∧ a.decision = .answer
  notSuperseded : h.supersededBy.filter (· ≠ "") = none
  notExpired : expiredAt host h.expiresAt now = false

/-- An accepted record is an answer in force whose bindings are the current values, and a context
that differs in one of them is refused. -/
structure NeverStale (raw : Json) : Prop where
  current : ∀ ctx : ResumeContext ρ, Accepted host resolveAuthorizedApprover nowIso raw ctx →
    ∃ h, parseHumanQuestionHandoff host raw = .ok h ∧ InForce host h (ctx.now.getD nowIso) ∧
      ∀ b v w, h.bound b = some v → ctx.supplied b = some w → SameValue host b v w
  refused : ∀ ctx ctx' : ResumeContext ρ, Accepted host resolveAuthorizedApprover nowIso raw ctx →
    ∀ h b v w w', parseHumanQuestionHandoff host raw = .ok h → h.bound b = some v →
      ctx.supplied b = some w → ctx'.supplied b = some w' → ¬SameValue host b w w' →
        ¬Accepted host resolveAuthorizedApprover nowIso raw ctx'

/-- The record can be accepted at all. -/
structure Usable (h : HumanQuestionHandoff) : Prop where
  answered : h.status = .answered
  answer : ∃ a, h.answer = some a ∧ a.decision = .answer
  notSuperseded : h.supersededBy.filter (· ≠ "") = none

/-- No list of hashes, and no value that counts as false, is bound. -/
structure Comparable (h : HumanQuestionHandoff) : Prop where
  specHashes : h.scope.specHashes = none
  contentHashes : h.scope.contentHashes = none
  truthy : ∀ b v, b ≠ .candidateEpoch → h.bound b = some v → Json.isTruthy (some v) = true

/-! ## What is accepted -/

variable {raw : Json} {ctx : ResumeContext ρ}

lemma accepted_iff : Accepted host resolveAuthorizedApprover nowIso raw ctx ↔
      ∃ h, parseHumanQuestionHandoff host raw = .ok h ∧ (∀ p ∈ resumeProblems host nowIso h ctx, p.1 = false) ∧
        recheckResponder resolveAuthorizedApprover h ctx = .ok () := by
  simp only [Accepted, validateHandoffResume]
  cases hparse : parseHumanQuestionHandoff host raw with
  | error reason => simp
  | ok h =>
    cases hfind : (resumeProblems host nowIso h ctx).find? (·.1) with
    | some problem =>
      have htrue := List.find?_some hfind
      have hmem := List.mem_of_find?_eq_some hfind
      simp only [hfind]
      constructor
      · rintro ⟨ticket, hticket⟩
        cases hticket
      · rintro ⟨h', hh', hall, -⟩
        cases hh'
        exact absurd (hall problem hmem) (by simp [htrue])
    | none =>
      have hall : ∀ p ∈ resumeProblems host nowIso h ctx, p.1 = false := by simpa using hfind
      simp only [hfind]
      cases hrecheck : recheckResponder resolveAuthorizedApprover h ctx with
      | error failure =>
        constructor
        · rintro ⟨ticket, hticket⟩
          cases hticket
        · rintro ⟨h', hh', -, hok⟩
          cases hh'
          cases hrecheck.symm.trans hok
      | ok _ => exact ⟨fun _ => ⟨h, rfl, hall, hrecheck⟩, fun _ => ⟨_, rfl⟩⟩

variable {h : HumanQuestionHandoff}

lemma facts_of_noProblems (hall : ∀ p ∈ resumeProblems host nowIso h ctx, p.1 = false) :
    InForce host h (ctx.now.getD nowIso) ∧
      (∀ sha, h.scope.candidateSha = some sha → sha ≠ "" → ctx.candidateSha = some sha) ∧
      (∀ epoch, h.boundEpoch = some epoch → epoch ≠ "" →
        candidateEpochChanged host (some epoch) ctx.currentEpoch = false) ∧
      hashMismatch h.scope.dossierHash ctx.dossierHash = false ∧
      hashMismatch h.scope.policyHash ctx.policyHash = false ∧
      hashMismatch h.scope.planRevision ctx.planRevision = false := by
  simp only [resumeProblems, List.forall_mem_cons] at hall
  obtain ⟨hsuperseded, -, -, hanswered, hexpired, hsha, hepoch, hdossier, hpolicy, hplan, -⟩ := hall
  simp only [Bool.or_eq_false_iff, decide_eq_false_iff_not, ne_eq, Decidable.not_not] at hanswered
  obtain ⟨hstatus, hanswer⟩ := hanswered
  have hdecision : ∃ a, h.answer = some a ∧ a.decision = .answer := by
    cases ha : h.answer with
    | none => simp [ha] at hanswer
    | some a => exact ⟨a, rfl, by simpa [ha] using hanswer⟩
  have hsupersededBy : h.supersededBy.filter (· ≠ "") = none := by
    have hnone := (Bool.or_eq_false_iff.1 hsuperseded).2
    simpa only [isSome_eq_false_iff, isNone_iff_eq_none] using hnone
  refine ⟨⟨hstatus, hdecision, hsupersededBy, hexpired⟩, ?_, ?_, hdossier, hpolicy, hplan⟩
  · intro sha hbound hne
    have hfilter : (some sha).filter (fun x => decide (x ≠ "")) = some sha := by simp [hne]
    simpa only [hbound, hfilter, decide_eq_false_iff_not, ne_eq, Decidable.not_not] using hsha
  · intro epoch hbound hne
    simpa [hbound, hne] using hepoch

lemma eq_of_not_hashMismatch {bound : Option Json} {current : Option (Option String)} {v w : Json}
    (h : hashMismatch bound current = false) (hbound : bound = some v)
    (htruthy : Json.isTruthy (some v) = true) (hcurrent : current.join.map Json.str = some w) : v = w := by
  subst hbound
  obtain ⟨text, hjoin, rfl⟩ := map_eq_some_iff.1 hcurrent
  obtain rfl : current = some (some text) := by
    cases current with
    | none => cases hjoin
    | some value => exact congrArg some hjoin
  simp only [hashMismatch, htruthy, Bool.true_and] at h
  cases v with
  | str bound => simpa using (eq_comm.1 (by simpa using h) : bound = text)
  | _ => cases h

lemma nonempty_of_boundEpoch (hparse : parseHumanQuestionHandoff host raw = .ok h) {epoch : String}
    (hepoch : h.boundEpoch = some epoch) : epoch ≠ "" := by
  obtain ⟨-, -, rfl⟩ := parse_eq_ok.1 hparse
  simp only [HumanQuestionHandoff.boundEpoch, orElse_eq_or, or_eq_some_iff] at hepoch
  rcases hepoch with hscope | ⟨-, htyped⟩
  · have hblank := (filter_eq_some_iff.1 hscope).2
    rintro rfl
    exact absurd hblank (by decide)
  · split at htyped
    · next record hrecord =>
      simp only [handoffOf, typedRequestOf] at hrecord
      split at hrecord
      · cases hrecord
      · cases hrecord
      · cases hrecord
        exact by simpa using (filter_eq_some_iff.1 htyped).2
      · cases hrecord
    · cases htyped

/-! ## Contexts that accept -/

/-- The context in which a record was answered: its own bindings, nothing else supplied. -/
def HumanQuestionHandoff.ownContext (ρ : Type) (h : HumanQuestionHandoff) : ResumeContext ρ where
  candidateSha := h.scope.candidateSha
  candidateEpoch := h.boundEpoch
  now := h.expiresAt

/-- The context repeats what the check compares of a record. -/
structure Repeats (h : HumanQuestionHandoff) (ctx : ResumeContext ρ) : Prop where
  sha : ∀ sha, h.scope.candidateSha = some sha → sha ≠ "" → ctx.candidateSha = some sha
  epoch : ctx.candidateEpoch = h.boundEpoch
  dossier : hashMismatch h.scope.dossierHash ctx.dossierHash = false
  policy : hashMismatch h.scope.policyHash ctx.policyHash = false
  plan : hashMismatch h.scope.planRevision ctx.planRevision = false
  now : ctx.now = h.expiresAt
  approvers : ctx.approvers = {}
  entries : ctx.knownStageEntries = none
  preconditions : ctx.stagePreconditionsOk = none

lemma repeats_ownContext (h : HumanQuestionHandoff) : Repeats h (h.ownContext ρ) where
  sha _ hsha _ := hsha
  epoch := rfl
  dossier := by simp [HumanQuestionHandoff.ownContext, hashMismatch]
  policy := by simp [HumanQuestionHandoff.ownContext, hashMismatch]
  plan := by simp [HumanQuestionHandoff.ownContext, hashMismatch]
  now := rfl
  approvers := rfl
  entries := rfl
  preconditions := rfl

lemma candidateEpochChanged_self (epoch : Option String) : candidateEpochChanged host epoch epoch = false := by
  simp only [candidateEpochChanged]
  split <;> simp_all

lemma expiredAt_self (expiresAt : Option String) : expiredAt host expiresAt (expiresAt.getD nowIso) = false := by
  cases expiresAt with
  | none => rfl
  | some e =>
    by_cases he : e = ""
    · have hfilter : (some "").filter (fun x => decide (x ≠ "")) = none := by simp
      simp only [he, expiredAt, hfilter, bind_none]
    · have hfilter : (some e).filter (fun x => decide (x ≠ "")) = some e := by simp [he]
      simp only [expiredAt, hfilter, bind_some, getD_some]
      cases host.dateParse e <;> simp

section

variable (hparse : parseHumanQuestionHandoff host raw = .ok h)
include hparse

lemma resumeTarget_of_parse : JsText.trim h.resumeTarget ≠ "" := by
  obtain ⟨-, hproblems, rfl⟩ := parse_eq_ok.1 hparse
  have htarget := hproblems (!isNonEmptyString 200 (raw.get? "resume_target"),
    "missing or invalid resume_target") (by simp [problems, fieldProblems])
  cases hvalue : raw.get? "resume_target" with
  | none => simp [hvalue, isNonEmptyString] at htarget
  | some v =>
    cases v with
    | str text =>
      simp only [hvalue, isNonEmptyString, Bool.not_eq_false', Bool.and_eq_true] at htarget
      simpa [handoffOf, hvalue, textOf, Json.text?, JsText.nonBlank] using htarget.1
    | _ => simp [hvalue, isNonEmptyString] at htarget

lemma accepted_of_repeats (husable : Usable h)
    (hctx : Repeats h ctx) : Accepted host resolveAuthorizedApprover nowIso raw ctx := by
  refine accepted_iff host resolveAuthorizedApprover nowIso |>.2 ⟨h, hparse, ?_, ?_⟩
  · obtain ⟨a, hanswer, hdecision⟩ := husable.answer
    have hsuperseded : (h.supersededBy.filter (· ≠ "")).isSome = false := by
      rw [husable.notSuperseded]
      rfl
    have hsha : (match h.scope.candidateSha.filter (· ≠ "") with
        | none => false
        | some sha => decide (ctx.candidateSha ≠ some sha)) = false := by
      cases hfilter : h.scope.candidateSha.filter (· ≠ "") with
      | none => rfl
      | some sha =>
        obtain ⟨hbound, hne⟩ := filter_eq_some_iff.1 hfilter
        simp [hctx.sha sha hbound (by simpa using hne)]
    have hepoch : ((h.boundEpoch.filter (· ≠ "")).isSome &&
        candidateEpochChanged host h.boundEpoch ctx.currentEpoch) = false := by
      cases hbound : h.boundEpoch with
      | none => rfl
      | some epoch =>
        have hcurrent : ctx.currentEpoch = some epoch := by
          simp [ResumeContext.currentEpoch, hctx.epoch, hbound]
        rw [hcurrent, candidateEpochChanged_self, Bool.and_false]
    have htarget := resumeTarget_of_parse host hparse
    have hexpired := expiredAt_self host nowIso h.expiresAt
    intro p hp
    simp only [resumeProblems, List.mem_cons, List.not_mem_nil, or_false, hctx.now, hctx.entries,
      hctx.preconditions] at hp
    rcases hp with rfl | rfl | rfl | rfl | rfl | rfl | rfl | rfl | rfl | rfl | rfl | rfl | rfl
    · simp only [husable.answered, hsuperseded]
      decide
    · simp [husable.answered]
    · simp [husable.answered]
    · simp [husable.answered, hanswer, hdecision]
    · exact hexpired
    · exact hsha
    · exact hepoch
    · exact hctx.dossier
    · exact hctx.policy
    · exact hctx.plan
    · simpa using htarget
    · simp
    · simp
  · obtain ⟨a, hanswer, -⟩ := husable.answer
    simp [recheckResponder, hanswer, hctx.approvers, ApproverPolicy.hasRules]

lemma comparable_of_current (husable : Usable h)
    (hcurrent : ∀ ctx : ResumeContext ρ, Accepted host resolveAuthorizedApprover nowIso raw ctx →
      ∀ b v w, h.bound b = some v → ctx.supplied b = some w → SameValue host b v w) : Comparable h := by
  have hown := repeats_ownContext (ρ := ρ) h
  have hshort : ∀ hashes : List String, hashList hashes ≠ hashList ("" :: hashes) := by
    intro hashes heq
    have hlength := congrArg (fun v : Json => v.elems?.map List.length) heq
    simp [hashList, Json.elems?] at hlength
  refine ⟨?_, ?_, ?_⟩
  · -- the same hashes and one more
    cases hspec : h.scope.specHashes with
    | none => rfl
    | some hashes =>
      let ctx : ResumeContext ρ := { h.ownContext ρ with specHashes := some ("" :: hashes) }
      have hrepeats : Repeats h ctx := { hown with }
      have haccepted := accepted_of_repeats host resolveAuthorizedApprover nowIso hparse husable hrepeats
      exact absurd (hcurrent ctx haccepted .specHashes _ _
        (by simp [HumanQuestionHandoff.bound, hspec]) rfl) (hshort hashes)
  · cases hcontent : h.scope.contentHashes with
    | none => rfl
    | some hashes =>
      let ctx : ResumeContext ρ := { h.ownContext ρ with contentHashes := some ("" :: hashes) }
      have hrepeats : Repeats h ctx := { hown with }
      have haccepted := accepted_of_repeats host resolveAuthorizedApprover nowIso hparse husable hrepeats
      exact absurd (hcurrent ctx haccepted .contentHashes _ _
        (by simp [HumanQuestionHandoff.bound, hcontent]) rfl) (hshort hashes)
  · intro b v hb hbound
    by_contra hfalsy
    have hother : v ≠ .str "x" := by
      rintro rfl
      exact hfalsy (by decide)
    have hunchecked : ∀ current, hashMismatch (some v) current = false := by simp [hashMismatch, hfalsy]
    -- a context that supplies `x` instead
    have hstale : ∀ ctx : ResumeContext ρ, Repeats h ctx → ctx.supplied b = some (.str "x") → False := by
      intro ctx hctx hsupplied
      have haccepted := accepted_of_repeats host resolveAuthorizedApprover nowIso hparse husable hctx
      have hsame := hcurrent ctx haccepted b v _ hbound hsupplied
      cases b with
      | candidateEpoch => exact hb rfl
      | _ => exact hother hsame
    cases b with
    | candidateEpoch => exact hb rfl
    | candidateSha =>
      refine hstale { h.ownContext ρ with candidateSha := some "x" } { hown with sha := ?_ } rfl
      intro sha hsha hne
      simp only [HumanQuestionHandoff.bound, hsha, map_some, Option.some.injEq] at hbound
      subst hbound
      exact absurd (by simpa [Json.isTruthy] using hne) hfalsy
    | dossierHash =>
      refine hstale { h.ownContext ρ with dossierHash := some (some "x") }
        { hown with dossier := ?_ } rfl
      have hscope : h.scope.dossierHash = some v := hbound
      rw [hscope]
      exact hunchecked _
    | policyHash =>
      refine hstale { h.ownContext ρ with policyHash := some (some "x") }
        { hown with policy := ?_ } rfl
      have hscope : h.scope.policyHash = some v := hbound
      rw [hscope]
      exact hunchecked _
    | planRevision =>
      refine hstale { h.ownContext ρ with planRevision := some (some "x") }
        { hown with plan := ?_ } rfl
      have hscope : h.scope.planRevision = some v := hbound
      rw [hscope]
      exact hunchecked _
    | specHashes | contentHashes =>
      obtain ⟨hashes, -, rfl⟩ := map_eq_some_iff.1 hbound
      exact hfalsy rfl

lemma sameValue_of_accepted (hcomparable : Comparable h) (hall : ∀ p ∈ resumeProblems host nowIso h ctx, p.1 = false)
    {b : Binding} {v w : Json} (hbound : h.bound b = some v) (hsupplied : ctx.supplied b = some w) :
    SameValue host b v w := by
  obtain ⟨-, hsha, hepoch, hdossier, hpolicy, hplan⟩ := facts_of_noProblems host nowIso hall
  have htruthy := hcomparable.truthy b v
  cases b with
  | candidateSha =>
    obtain ⟨sha, hscope, rfl⟩ := map_eq_some_iff.1 hbound
    have hne : sha ≠ "" := by simpa [Json.isTruthy] using htruthy (by decide) hbound
    have hctx := hsha sha hscope hne
    simp only [ResumeContext.supplied, hctx, map_some, Option.some.injEq] at hsupplied
    exact hsupplied
  | candidateEpoch =>
    obtain ⟨epoch, hscope, rfl⟩ := map_eq_some_iff.1 hbound
    obtain ⟨current, hctx, rfl⟩ := map_eq_some_iff.1 hsupplied
    have hne := nonempty_of_boundEpoch host hparse hscope
    have hchanged := hepoch epoch hscope hne
    simp only [ResumeContext.currentEpoch, hctx, orElse_some, candidateEpochChanged]
      at hchanged
    simp only [SameValue, Json.text?]
    split at hchanged
    · simp_all
    · simpa using hchanged
  | dossierHash => exact eq_of_not_hashMismatch hdossier hbound (htruthy (by decide) hbound) hsupplied
  | policyHash => exact eq_of_not_hashMismatch hpolicy hbound (htruthy (by decide) hbound) hsupplied
  | planRevision => exact eq_of_not_hashMismatch hplan hbound (htruthy (by decide) hbound) hsupplied
  | specHashes => simp [HumanQuestionHandoff.bound, hcomparable.specHashes] at hbound
  | contentHashes => simp [HumanQuestionHandoff.bound, hcomparable.contentHashes] at hbound

end

/-- A stored record is never used with stale evidence exactly when it cannot be used at all or all it
is bound to is compared. -/
theorem neverStale_iff (raw : Json) :
    NeverStale host resolveAuthorizedApprover nowIso raw ↔
      ∀ h, parseHumanQuestionHandoff host raw = .ok h → Usable h → Comparable h := by
  constructor
  · intro hnever h hparse husable
    refine comparable_of_current host resolveAuthorizedApprover nowIso hparse husable ?_
    intro ctx haccepted
    obtain ⟨h', hparse', -, hsame⟩ := hnever.current ctx haccepted
    cases hparse.symm.trans hparse'
    exact hsame
  · intro hcomparable
    have hcurrent : ∀ ctx : ResumeContext ρ, Accepted host resolveAuthorizedApprover nowIso raw ctx →
        ∃ h, parseHumanQuestionHandoff host raw = .ok h ∧ InForce host h (ctx.now.getD nowIso) ∧
          ∀ b v w, h.bound b = some v → ctx.supplied b = some w → SameValue host b v w := by
      intro ctx haccepted
      obtain ⟨h, hparse, hall, -⟩ := (accepted_iff host resolveAuthorizedApprover nowIso).1 haccepted
      obtain ⟨hforce, -⟩ := facts_of_noProblems host nowIso hall
      have husable : Usable h := ⟨hforce.answered, hforce.answer, hforce.notSuperseded⟩
      exact ⟨h, hparse, hforce, fun b v w =>
        sameValue_of_accepted host nowIso hparse (hcomparable h hparse husable) hall⟩
    refine ⟨hcurrent, ?_⟩
    intro ctx ctx' haccepted h b v w w' hparse hbound hsupplied hsupplied' hdiffers haccepted'
    obtain ⟨h₁, hparse₁, -, hsame⟩ := hcurrent ctx haccepted
    obtain ⟨h₂, hparse₂, -, hsame'⟩ := hcurrent ctx' haccepted'
    cases hparse.symm.trans hparse₁
    cases hparse.symm.trans hparse₂
    have hv := hsame b v w hbound hsupplied
    have hv' := hsame' b v w' hbound hsupplied'
    refine hdiffers ?_
    cases b with
    | candidateEpoch => exact Eq.trans (Eq.symm hv) hv'
    | _ => exact Eq.trans (Eq.symm hv) hv'

end Resume

/-- An answered question that is bound to the hash of one specification. -/
def specBoundHandoff : Json :=
  .obj [("schema_version", .num (.finite 1)), ("handoff_id", .str "hqh_1"), ("domain", .str "d"),
    ("repo", .str "o/r"), ("issue_number", .num (.finite 7)), ("blocked_stage", .str "planning"),
    ("question", .str "Which one?"), ("reason", .str ""), ("handoff_class", .str "missing_context"),
    ("authority_mode", .str "non_authority"), ("status", .str "answered"),
    ("created_at", .str "2026-01-01T00:00:00Z"), ("resume_target", .str "planning"),
    ("resume_preconditions", .arr []), ("required_capability", .arr [.str "context"]),
    ("scope", .obj [("candidate_sha", .null), ("spec_hashes", .arr [.str "5f3a"])]),
    ("resolution_evidence", .obj [("unresolved", .bool false), ("eligible_actors", .arr []),
      ("resolution_summary", .str "")]),
    ("answer", .obj [("decision", .str "answer"), ("responder", .str "op"),
      ("identity_source", .str "gh"), ("answer_text", .str "the first"),
      ("answered_at", .str "2026-01-01T00:00:00Z"), ("payload_hash", .str "00")])]

lemma parse_specBoundHandoff (host : NodeHost) :
    parseHumanQuestionHandoff host specBoundHandoff = .ok (handoffOf specBoundHandoff) := by
  refine parse_eq_ok.2 ⟨rfl, ?_, rfl⟩
  have hall : ((problems host specBoundHandoff).all fun p => !p.1) = true := by rfl
  intro p hp
  simpa using List.all_eq_true.1 hall p hp

/-- The answer is used although the hashes of the specifications changed. -/
theorem resume_ignores_spec_hashes :
    ¬∀ (host : NodeHost)
      (resolve : ApproverResolutionInput Unit → Except String ApproverResolutionResult)
      (nowIso : String) (raw : Json), NeverStale host resolve nowIso raw := by
  intro h
  let resolve : ApproverResolutionInput Unit → Except String ApproverResolutionResult := fun _ =>
    .error ""
  let host := NodeHost.onFirstDay [] []
  let record := handoffOf specBoundHandoff
  let ctx : ResumeContext Unit := { record.ownContext Unit with specHashes := some ["0b7c"] }
  have hparse := parse_specBoundHandoff host
  have haccepted : Accepted host resolve "" specBoundHandoff ctx :=
    accepted_of_repeats host resolve "" hparse ⟨by decide, ⟨_, rfl, by decide⟩, by decide⟩
      { repeats_ownContext record with }
  obtain ⟨h', hparse', -, hsame⟩ := (h host resolve "" specBoundHandoff).current ctx haccepted
  cases hparse.symm.trans hparse'
  have heq : Json.arr [.str "5f3a"] = .arr [.str "0b7c"] := hsame .specHashes _ _ rfl rfl
  simp at heq

end AgentPipeline.Handoff
