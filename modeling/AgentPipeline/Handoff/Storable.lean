import AgentPipeline.Foundation.JsonPrint
import AgentPipeline.Handoff.Store

/-!
# Storable: what is accepted can be written and read back

Three functions return a handoff that their caller saves: `canCreateHandoff`, `supersedeHandoff` and
`applyHandoffAnswer`. `saveHandoff` checks it once more, and writes a text that `loadHandoff` parses.

* `saveHandoffText`, `loadHandoffText`: the files as texts; `saves_refine`: over every run of saves
  `Store` abstracts them;
* `Storable`: a record that the parser takes as it stands, with numbers that are read back;
* `storable_created`, `storable_superseded`: creation parses its result, supersession changes nothing
  that is checked;
* `storable_answered_iff`: an answer is stored exactly when its responder, its identity source and
  its time are within the bounds of the parser, which authorization does not check.
-/

namespace AgentPipeline.Handoff

open List Option
open JsonText (Readable ReadableElems ReadableFields)

/-! ## Files as texts -/

section Files

variable (host : NodeHost) (root : Path)

/-- The texts of the files. -/
abbrev RecordFiles := Path → Option (List Char)

/-- `issueHandoffsDir(repoDir, issueNumber)`. -/
def issueHandoffsDir (issue : JsNumber) : Path :=
  joinPath root ("issue-" ++ Review.display host (.num issue))

/-- `JSON.stringify(data, null, 2)`, and the end of the line. -/
def recordText (h : HumanQuestionHandoff) : List Char :=
  JsonText.print (.indented 2) host.numberText 0 h.toJson ++ ['\n']

/-- `saveHandoff(repoDir, handoff)`; `none` where it throws. -/
def saveHandoffText (files : RecordFiles) (h : HumanQuestionHandoff) : Option RecordFiles :=
  match parseHumanQuestionHandoff host h.toJson with
  | .error _ => none
  | .ok parsed =>
    some fun path =>
      if path = recordPath (issueHandoffsDir host root h.issueNumber) h.handoffId then
        some (recordText host parsed)
      else files path

/-- `loadHandoff(repoDir, issueNumber, handoffId)`, with the message for a text that is no JSON. -/
def loadHandoffText (syntaxError : List Char → String) (files : RecordFiles) (issue : JsNumber)
    (id : String) : Except String HumanQuestionHandoff :=
  match files (recordPath (issueHandoffsDir host root issue) id) with
  | none => .error ("handoff not found: " ++ id)
  | some text =>
    match JsonText.parse host.numberOf text with
    | none => .error ("failed to load handoff: " ++ syntaxError text)
    | some value => parseHumanQuestionHandoff host value

/-- The files of the records of a store. -/
def Store.texts (store : Store) : RecordFiles := fun path => (store.get path).map (recordText host)

lemma saveHandoffText_texts (store : Store) (h : HumanQuestionHandoff) :
    saveHandoffText host root (store.texts host) h =
      (saveHandoff host (issueHandoffsDir host root h.issueNumber) store h).map (Store.texts host) := by
  unfold saveHandoffText saveHandoff
  cases parseHumanQuestionHandoff host h.toJson with
  | error reason => rfl
  | ok parsed =>
    refine congrArg some (funext fun path => ?_)
    change _ = Option.map (recordText host) (Store.get (store.set _ parsed) path)
    rw [Store.get_set]
    split <;> rfl

end Files

/-! ## Records whose numbers are read back -/

section Readable

variable {host : NodeHost}

variable (host) in
/-- The values of a record that are not texts are read as they are printed. -/
structure NumbersReadBack (h : HumanQuestionHandoff) : Prop where
  issue : Readable host.numberOf host.numberText (.num h.issueNumber)
  plan : ∀ v, h.scope.planRevision = some v → Readable host.numberOf host.numberText v
  dossier : ∀ v, h.scope.dossierHash = some v → Readable host.numberOf host.numberText v
  policy : ∀ v, h.scope.policyHash = some v → Readable host.numberOf host.numberText v
  evidence : ∀ r, h.typedRequest = some (.authority r) → ∀ v ∈ r.evidence, Readable host.numberOf host.numberText v

lemma readable_orNull (text : Option String) : Readable host.numberOf host.numberText (orNull text) := by
  cases text <;> exact trivial

lemma readable_texts (list : List String) : Readable host.numberOf host.numberText (texts list) := by
  refine JsonText.readableElems_iff.2 fun value hvalue => ?_
  obtain ⟨text, -, rfl⟩ := mem_map.1 hvalue
  exact trivial

lemma readable_getD_null {value : Option Json} (h : ∀ v, value = some v → Readable host.numberOf host.numberText v) :
    Readable host.numberOf host.numberText (value.getD .null) := by
  cases value with
  | none => exact trivial
  | some v => exact h v rfl

lemma readable_map_getD_null {α : Type} {value : Option α} {toJson : α → Json}
    (h : ∀ a, Readable host.numberOf host.numberText (toJson a)) :
    Readable host.numberOf host.numberText ((value.map toJson).getD .null) :=
  readable_getD_null fun v hv => by
    obtain ⟨a, -, rfl⟩ := map_eq_some_iff.1 hv
    exact h a

lemma HumanDecisionRequiredEvidence.readable (hdr : HumanDecisionRequiredEvidence) :
    Readable host.numberOf host.numberText hdr.toJson := by
  obtain ⟨key, fingerprint, sha, category⟩ := hdr
  cases category with
  | none =>
    exact JsonText.readable_obj ["finding_key", "finding_fingerprint", "reviewed_sha"] rfl (by decide)
      ⟨trivial, trivial, trivial, trivial⟩
  | some category =>
    exact JsonText.readable_obj ["finding_key", "finding_fingerprint", "reviewed_sha", "category"] rfl
      (by decide) ⟨trivial, trivial, trivial, trivial, trivial⟩

lemma HandoffEligibilityEvidence.readable (re : HandoffEligibilityEvidence) :
    Readable host.numberOf host.numberText re.toJson := by
  obtain ⟨unresolved, actors, summary, rules⟩ := re
  cases rules with
  | none =>
    exact JsonText.readable_obj ["unresolved", "eligible_actors", "resolution_summary"] rfl (by decide)
      ⟨trivial, readable_texts actors, trivial, trivial⟩
  | some rules =>
    exact JsonText.readable_obj
      ["unresolved", "eligible_actors", "resolution_summary", "matched_rule_ids"] rfl (by decide)
      ⟨trivial, readable_texts actors, trivial, readable_texts rules, trivial⟩

lemma HandoffAnswer.readable (a : HandoffAnswer) : Readable host.numberOf host.numberText a.toJson :=
  JsonText.readable_obj ["decision", "responder", "identity_source", "answer_text", "answered_at",
    "supporting_evidence", "payload_hash", "client_request_id", "authorization_evidence"] rfl (by decide)
    ⟨trivial, trivial, trivial, readable_orNull _, trivial, readable_orNull _, trivial,
      readable_orNull _, readable_orNull _, trivial⟩

lemma readable_optional {key : String} {value : Option Json}
    (h : ∀ v, value = some v → Readable host.numberOf host.numberText v) :
    ReadableFields host.numberOf host.numberText (optional key value) := by
  cases value with
  | none => exact trivial
  | some v => exact ⟨h v rfl, trivial⟩

lemma NumbersReadBack.scope {h : HumanQuestionHandoff} (hnumbers : NumbersReadBack host h) :
    Readable host.numberOf host.numberText h.scope.toJson := by
  have hfields : ReadableFields host.numberOf host.numberText
      ([("candidate_sha", orNull h.scope.candidateSha), ("candidate_epoch", orNull h.scope.candidateEpoch),
        ("plan_revision", h.scope.planRevision.getD .null), ("dossier_hash", h.scope.dossierHash.getD .null),
        ("policy_hash", h.scope.policyHash.getD .null)] ++ optional "spec_hashes" (h.scope.specHashes.map texts) ++
        optional "content_hashes" (h.scope.contentHashes.map texts)) := by
    have htexts : ∀ (list : Option (List String)) v, list.map texts = some v →
        Readable host.numberOf host.numberText v := by
      intro list v hv
      obtain ⟨list, -, rfl⟩ := map_eq_some_iff.1 hv
      exact readable_texts list
    rw [JsonText.readableFields_append, JsonText.readableFields_append]
    exact ⟨⟨⟨readable_orNull _, readable_orNull _, readable_getD_null hnumbers.plan,
      readable_getD_null hnumbers.dossier, readable_getD_null hnumbers.policy, trivial⟩,
      readable_optional (htexts _)⟩, readable_optional (htexts _)⟩
  unfold HandoffScopeHashes.toJson
  cases hspec : h.scope.specHashes <;> cases hcontent : h.scope.contentHashes <;>
    rw [hspec, hcontent] at hfields
  · exact JsonText.readable_obj ["candidate_sha", "candidate_epoch", "plan_revision", "dossier_hash",
      "policy_hash"] rfl (by decide) hfields
  · exact JsonText.readable_obj ["candidate_sha", "candidate_epoch", "plan_revision", "dossier_hash",
      "policy_hash", "content_hashes"] rfl (by decide) hfields
  · exact JsonText.readable_obj ["candidate_sha", "candidate_epoch", "plan_revision", "dossier_hash",
      "policy_hash", "spec_hashes"] rfl (by decide) hfields
  · exact JsonText.readable_obj ["candidate_sha", "candidate_epoch", "plan_revision", "dossier_hash",
      "policy_hash", "spec_hashes", "content_hashes"] rfl (by decide) hfields

lemma DecisionResolutionPackage.readable (pkg : DecisionResolutionPackage) :
    Readable host.numberOf host.numberText pkg.toJson :=
  JsonText.readable_obj ["recommendation", "rationale", "alternatives", "risk", "evidence"] rfl (by decide)
    ⟨trivial, trivial, readable_texts _, trivial, readable_texts _, trivial⟩

lemma CapabilityRequestRecord.readable (r : CapabilityRequestRecord) :
    Readable host.numberOf host.numberText r.toJson :=
  JsonText.readable_obj ["missing", "provider", "live_probe", "resume_condition"] rfl (by decide)
    ⟨trivial, trivial, trivial, trivial, trivial⟩

lemma AuthorityRequestRecord.readable {r : AuthorityRequestRecord}
    (h : ∀ v ∈ r.evidence, Readable host.numberOf host.numberText v) :
    Readable host.numberOf host.numberText r.toJson :=
  JsonText.readable_obj ["eligible_actor", "repository", "operation", "scope", "candidate_epoch",
    "evidence", "expiry", "grant"] rfl (by decide)
    ⟨trivial, trivial, trivial, trivial, readable_orNull _, JsonText.readableElems_iff.2 h, trivial, trivial, trivial⟩

/-- The keys that every record has. -/
def recordKeys : List String :=
  ["schema_version", "handoff_id", "domain", "repo", "issue_number", "run_id", "attempt_id",
    "blocked_stage", "question", "reason", "handoff_class", "authority_mode", "human_decision_required",
    "policy_bound_authority_gate", "scope", "required_capability", "resolution_evidence", "status",
    "created_at", "expires_at", "supersedes", "superseded_by", "answer", "resume_target",
    "resume_preconditions", "declaration_identity"]

lemma NumbersReadBack.readable {h : HumanQuestionHandoff} (hnumbers : NumbersReadBack host h)
    (hone : JsonText.ReadsBack host.numberOf host.numberText 1) : Readable host.numberOf host.numberText h.toJson := by
  obtain ⟨fields, hjson, hkeys, hfields⟩ : ∃ fields, h.toJson = .obj (fields ++ typedFields h.typedRequest) ∧
      fields.map Prod.fst = recordKeys ∧ ReadableFields host.numberOf host.numberText fields := by
    refine ⟨_, rfl, rfl, ?_⟩
    exact ⟨hone, trivial, trivial, trivial, hnumbers.issue, readable_orNull _, readable_orNull _, trivial,
      trivial, trivial, trivial, trivial,
      readable_map_getD_null HumanDecisionRequiredEvidence.readable, trivial, hnumbers.scope,
      readable_texts _, h.resolutionEvidence.readable, trivial, trivial, readable_orNull _,
      readable_orNull _, readable_orNull _, readable_map_getD_null HandoffAnswer.readable, trivial,
      readable_texts _, readable_orNull _, trivial⟩
  -- the fields of a typed request follow
  have hrecord : ∀ typed keys, typed.map Prod.fst = keys →
      ((recordKeys ++ keys).Nodup ∧ ∀ key ∈ recordKeys ++ keys, JsonText.isIndexKey key = false) →
      ReadableFields host.numberOf host.numberText typed →
        Readable host.numberOf host.numberText (.obj (fields ++ typed)) := by
    intro typed keys htyped horder hreadable
    refine JsonText.readable_obj (recordKeys ++ keys) (by rw [map_append, hkeys, htyped]) horder ?_
    rw [JsonText.readableFields_append]
    exact ⟨hfields, hreadable⟩
  rw [hjson]
  cases htyped : h.typedRequest with
  | none => exact hrecord [] [] rfl (by decide) trivial
  | some request =>
    cases request with
    | decision pkg =>
      exact hrecord _ ["typed_request", "decision_package"] rfl (by decide) ⟨trivial, pkg.readable, trivial⟩
    | capability r =>
      exact hrecord _ ["typed_request", "capability_request"] rfl (by decide) ⟨trivial, r.readable, trivial⟩
    | authority r =>
      exact hrecord _ ["typed_request", "authority_request"] rfl (by decide)
        ⟨trivial, AuthorityRequestRecord.readable (hnumbers.evidence r htyped), trivial⟩

end Readable

/-! ## What the parser takes as it stands -/

section Storable

variable {host : NodeHost}

variable (host) in
/-- A record that the parser leaves as it is, with values that are read as they are printed. -/
structure Storable (h : HumanQuestionHandoff) : Prop where
  parsed : parseHumanQuestionHandoff host h.toJson = .ok h
  numbers : NumbersReadBack host h

variable (host) in
/-- The record is accepted by the parser; saving it succeeds, and loading it returns it. -/
def Kept (h : HumanQuestionHandoff) : Prop :=
  parseHumanQuestionHandoff host h.toJson = .ok h ∧
    ∀ (syntaxError : List Char → String) (root : Path) (files : RecordFiles),
      ∃ files', saveHandoffText host root files h = some files' ∧
        loadHandoffText host root syntaxError files' h.issueNumber h.handoffId = .ok h

lemma Storable.text {h : HumanQuestionHandoff} (hh : Storable host h)
    (hone : JsonText.ReadsBack host.numberOf host.numberText 1) :
    JsonText.parse host.numberOf (recordText host h) = some h.toJson :=
  JsonText.parse_print (.indented 2) (hh.numbers.readable hone) [] ['\n'] (by simp)
    (all_eq_true.1 (by decide)) 0

lemma Storable.kept {h : HumanQuestionHandoff} (hh : Storable host h)
    (hone : JsonText.ReadsBack host.numberOf host.numberText 1) : Kept host h := by
  refine ⟨hh.parsed, fun syntaxError root files => ?_⟩
  have hsave : saveHandoffText host root files h = some fun path =>
      if path = recordPath (issueHandoffsDir host root h.issueNumber) h.handoffId then
        some (recordText host h)
      else files path := by
    simp only [saveHandoffText, hh.parsed]
  refine ⟨_, hsave, ?_⟩
  simp only [loadHandoffText, if_true, hh.text hone, hh.parsed]

/-! ## Creation -/

variable (host) in
/-- The values of an input that are not texts are read as they are printed. -/
structure CreateHandoffInput.NumbersReadBack (input : CreateHandoffInput) : Prop where
  issue : Readable host.numberOf host.numberText (.num input.issueNumber)
  evidence : ∀ v ∈ (authorityRequestOf input.authorityRequest).evidence, Readable host.numberOf host.numberText v

lemma NumbersReadBack.normal {h : HumanQuestionHandoff} (hh : NumbersReadBack host h) :
    NumbersReadBack host h.normal := by
  have hpresent : ∀ {value : Option Json} {v}, presentOrNull value = some v → value = some v := by
    intro value v hv
    match value, hv with
    | some (.bool _), hv | some (.num _), hv | some (.str _), hv | some (.arr _), hv
    | some (.obj _), hv => exact hv
  refine ⟨hh.issue, fun v hv => hh.plan v (hpresent hv), fun v hv => hh.dossier v (hpresent hv),
    fun v hv => hh.policy v (hpresent hv), fun r hr => ?_⟩
  obtain ⟨request, hrequest, hnormal⟩ := map_eq_some_iff.1 hr
  cases request with
  | decision pkg => cases hnormal
  | capability record => cases hnormal
  | authority record =>
    cases hnormal
    exact hh.evidence record hrequest

lemma storable_created {input : CreateHandoffInput} {nowIso freshId : String}
    {h : HumanQuestionHandoff} (hcreate : canCreateHandoff host input nowIso freshId = .ok h)
    (hinput : input.NumbersReadBack host) : Storable host h := by
  obtain ⟨rfl, hparsed⟩ := canCreate_eq_ok hcreate
  have hforced : input.forced.issueNumber = input.issueNumber ∧
      input.forced.authorityRequest = input.authorityRequest := by
    simp only [CreateHandoffInput.forced]
    split <;> exact ⟨rfl, rfl⟩
  have htext : ∀ {text : Option String} {v}, text.map Json.str = some v → Readable host.numberOf host.numberText v := by
    intro text v hv
    obtain ⟨text, -, rfl⟩ := map_eq_some_iff.1 hv
    exact trivial
  refine ⟨hparsed, NumbersReadBack.normal ⟨?_, fun v => htext, fun v => htext, fun v => htext, fun r hr => ?_⟩⟩
  · change Readable _ _ (.num input.forced.issueNumber)
    rw [hforced.1]
    exact hinput.issue
  · obtain ⟨kind, -, hkind⟩ := map_eq_some_iff.1 hr
    cases kind with
    | decision => cases hkind
    | capability => cases hkind
    | authority =>
      cases hkind
      rw [hforced.2]
      exact hinput.evidence

/-! ## Runs of saves -/

section Saves

variable (host) (root : Path)

/-- A save that throws leaves the files. -/
def saveTexts (files : RecordFiles) (h : HumanQuestionHandoff) : RecordFiles :=
  (saveHandoffText host root files h).getD files

def saveRecord (store : Store) (h : HumanQuestionHandoff) : Store :=
  (saveHandoff host (issueHandoffsDir host root h.issueNumber) store h).getD store

def AllStorable (store : Store) : Prop := ∀ path r, store.get path = some r → Storable host r

variable {host root} {store : Store}

lemma AllStorable.save (hstore : AllStorable host store) {h : HumanQuestionHandoff} (hh : NumbersReadBack host h) :
    AllStorable host (saveRecord host root store h) := by
  unfold saveRecord saveHandoff
  cases hparse : parseHumanQuestionHandoff host h.toJson with
  | error reason => exact hstore
  | ok parsed =>
    obtain ⟨rfl, hagain⟩ := parse_toJson hparse
    intro path r hget
    rw [getD_some, Store.get_set] at hget
    split at hget
    · exact some.inj hget ▸ ⟨hagain, hh.normal⟩
    · exact hstore path r hget

/-- Over every run of saves the files hold the texts of the records, and are loaded as these are. -/
theorem saves_refine (hone : JsonText.ReadsBack host.numberOf host.numberText 1) (hstore : AllStorable host store)
    {records : List HumanQuestionHandoff} (hrecords : ∀ h ∈ records, NumbersReadBack host h)
    (syntaxError : List Char → String) :
    records.foldl (saveTexts host root) (store.texts host) = (records.foldl (saveRecord host root) store).texts host ∧
      ∀ issue id, loadHandoffText host root syntaxError
          (records.foldl (saveTexts host root) (store.texts host)) issue id =
        loadHandoff host (issueHandoffsDir host root issue) (records.foldl (saveRecord host root) store) id := by
  induction records generalizing store with
  | nil =>
    refine ⟨rfl, fun issue id => ?_⟩
    unfold loadHandoffText loadHandoff
    simp only [foldl_nil, Store.texts]
    cases hget : store.get (recordPath (issueHandoffsDir host root issue) id) with
    | none => rfl
    | some r => simp only [map_some, (hstore _ r hget).text hone]
  | cons h records ih =>
    rw [forall_mem_cons] at hrecords
    have hstep : saveTexts host root (store.texts host) h = (saveRecord host root store h).texts host := by
      unfold saveTexts saveRecord
      rw [saveHandoffText_texts]
      cases saveHandoff host (issueHandoffsDir host root h.issueNumber) store h <;> rfl
    rw [foldl_cons, foldl_cons, hstep]
    exact ih (hstore.save hrecords.1) hrecords.2

end Saves

/-! ## Outcomes -/

/-- The text is not blank, and has at most `max` code units. -/
def FitsIn (max : Nat) (text : String) : Prop := JsText.nonBlank text = true ∧ utf16Length text ≤ max

/-- What the parser checks of an answer. -/
structure HandoffAnswer.Fits (a : HandoffAnswer) : Prop where
  responder : FitsIn 200 a.responder
  identitySource : FitsIn 100 a.identitySource
  answeredAt : FitsIn 40 a.answeredAt
  payloadHash : FitsIn 128 a.payloadHash

/-- The fields that a handoff's outcome is written in. -/
def HumanQuestionHandoff.withOutcome (h : HumanQuestionHandoff) (status : HandoffStatus)
    (supersedes supersededBy : Option String) (answer : Option HandoffAnswer) : HumanQuestionHandoff :=
  { h with status, supersedes, supersededBy, answer }

variable {h : HumanQuestionHandoff} (status : HandoffStatus) (supersedes supersededBy : Option String)

lemma isNonEmptyString_iff {max : Nat} {text : String} :
    isNonEmptyString max (some (.str text)) = true ↔ FitsIn max text := by
  simp [isNonEmptyString, FitsIn]

/-- The answer's four checks. -/
def answerProblems (answer : Option Json) : List (Bool × String) :=
  let read (key : String) := answer.bind (·.get? key)
  [(answer.isSome && !isObject answer, "invalid answer"),
    (answer.isSome && (named Decision.all Decision.name (read "decision")).isNone,
      "answer.decision must be answer|reject"),
    (answer.isSome && !(isNonEmptyString 200 (read "responder") && isNonEmptyString 100 (read "identity_source")),
      "answer missing responder/identity_source"),
    (answer.isSome && !(isNonEmptyString 40 (read "answered_at") && isNonEmptyString 128 (read "payload_hash")),
      "answer missing answered_at/payload_hash")]

lemma answerProblems_iff {answer : Option HandoffAnswer} :
    (∀ p ∈ answerProblems (answer.map HandoffAnswer.toJson), p.1 = false) ↔ ∀ a, answer = some a → a.Fits := by
  cases answer with
  | none => simp [answerProblems]
  | some a =>
    have hdecision : named Decision.all Decision.name (some (.str a.decision.name)) = some a.decision :=
      named_decision a.decision
    have hfits : (∀ p ∈ answerProblems (some a.toJson), p.1 = false) ↔
        (FitsIn 200 a.responder ∧ FitsIn 100 a.identitySource) ∧ FitsIn 40 a.answeredAt ∧ FitsIn 128 a.payloadHash := by
      simp only [answerProblems, forall_mem_cons, ← isNonEmptyString_iff]
      simp [HandoffAnswer.toJson, Json.get?, lookup_cons, isObject, hdecision]
    rw [map_some, hfits]
    constructor
    · rintro ⟨⟨hresponder, hsource⟩, hat, hhash⟩ a' ha'
      cases ha'
      exact ⟨hresponder, hsource, hat, hhash⟩
    · intro hall
      obtain ⟨hresponder, hsource, hat, hhash⟩ := hall a rfl
      exact ⟨⟨hresponder, hsource⟩, hat, hhash⟩

lemma fieldProblems_withOutcome {answer : Option HandoffAnswer} (hok : ∀ p ∈ fieldProblems host h.toJson, p.1 = false) :
    ∀ p ∈ fieldProblems host (h.withOutcome status supersedes supersededBy answer).toJson, p.1 = false := by
  have hstatus : (named HandoffStatus.all HandoffStatus.name
      ((h.withOutcome status supersedes supersededBy answer).toJson.get? "status")).isNone = false :=
    congrArg Option.isNone (named_handoffStatus status)
  simp only [fieldProblems, forall_mem_cons] at hok ⊢
  obtain ⟨h₁, h₂, h₃, h₄, h₅, h₆, h₇, h₈, h₉, h₁₀, h₁₁, h₁₂, h₁₃, h₁₄, h₁₅, -, hrest⟩ := hok
  exact ⟨h₁, h₂, h₃, h₄, h₅, h₆, h₇, h₈, h₉, h₁₀, h₁₁, h₁₂, h₁₃, h₁₄, h₁₅, hstatus, hrest⟩

lemma partProblems_toJson_iff : (∀ p ∈ partProblems h.toJson, p.1 = false) ↔
      (∀ p ∈ (partProblems h.toJson).take 8, p.1 = false) ∧ ∀ a, h.answer = some a → a.Fits := by
  have hanswer : presentOrNull (h.toJson.get? "answer") = h.answer.map HandoffAnswer.toJson :=
    presentOrNull_map_toJson HandoffAnswer.toJson (fun a => ⟨_, rfl⟩) h.answer
  have hdrop : (partProblems h.toJson).drop 8 = answerProblems (h.answer.map HandoffAnswer.toJson) := by
    rw [← hanswer]
    rfl
  rw [← answerProblems_iff, ← hdrop, ← forall_mem_append, take_append_drop]

lemma parse_withOutcome_iff (hparsed : parseHumanQuestionHandoff host h.toJson = .ok h)
    (answer : Option HandoffAnswer) :
    parseHumanQuestionHandoff host (h.withOutcome status supersedes supersededBy answer).toJson =
        .ok (h.withOutcome status supersedes supersededBy answer) ↔ ∀ a, answer = some a → a.Fits := by
  obtain ⟨-, hproblems, -⟩ := parse_eq_ok.1 hparsed
  simp only [problems, forall_mem_append] at hproblems
  obtain ⟨⟨hfields, hparts⟩, htyped⟩ := hproblems
  have hothers : (partProblems (h.withOutcome status supersedes supersededBy answer).toJson).take 8 =
      (partProblems h.toJson).take 8 := rfl
  rw [parse_eq_ok]
  simp only [problems, forall_mem_append]
  constructor
  · rintro ⟨-, ⟨⟨-, hparts'⟩, -⟩, -⟩
    exact (partProblems_toJson_iff.1 hparts').2
  · intro hfits
    refine ⟨rfl, ⟨⟨fieldProblems_withOutcome status supersedes supersededBy hfields,
      partProblems_toJson_iff.2 ⟨?_, hfits⟩⟩, htyped⟩, ?_⟩
    · rw [hothers]
      exact (partProblems_toJson_iff.1 hparts).1
    · have hnormal : (h.withOutcome status supersedes supersededBy answer).normal =
          h.normal.withOutcome status supersedes supersededBy answer := rfl
      rw [handoffOf_toJson, hnormal, normal_of_readable hparsed]

lemma storable_superseded {prior replacement : HumanQuestionHandoff} (hprior : Storable host prior)
    (hreplacement : Storable host replacement) : Storable host (supersedeHandoff prior replacement).1 ∧
      Storable host (supersedeHandoff prior replacement).2 := by
  have hfits : ∀ {x : HumanQuestionHandoff}, Storable host x → ∀ a, x.answer = some a → a.Fits :=
    fun {x} hx => (parse_withOutcome_iff x.status x.supersedes x.supersededBy hx.parsed x.answer).1 hx.parsed
  have hnumbers : ∀ {x : HumanQuestionHandoff} (status : HandoffStatus) (a b : Option String),
      Storable host x → NumbersReadBack host (x.withOutcome status a b x.answer) :=
    fun _ _ _ hx => ⟨hx.numbers.issue, hx.numbers.plan, hx.numbers.dossier, hx.numbers.policy, hx.numbers.evidence⟩
  exact ⟨⟨(parse_withOutcome_iff .superseded prior.supersedes (some replacement.handoffId) hprior.parsed
      prior.answer).2 (hfits hprior), hnumbers .superseded _ _ hprior⟩,
    ⟨(parse_withOutcome_iff .pending (some prior.handoffId) replacement.supersededBy hreplacement.parsed
      replacement.answer).2 (hfits hreplacement), hnumbers .pending _ _ hreplacement⟩⟩

/-! ## Answers -/

variable {ρ : Type}

/-- The responder, the identity source and the time are within the bounds of a stored answer. -/
structure AnswerHandoffInput.Fits (input : AnswerHandoffInput ρ) (nowIso : String) : Prop where
  actor : FitsIn 200 input.actor
  identitySource : FitsIn 100 input.identitySource
  now : FitsIn 40 (input.now.getD nowIso)

lemma utf16Length_le (text : String) : utf16Length text ≤ 2 * text.toList.length := by
  unfold utf16Length
  induction text.toList with
  | nil => simp
  | cons c cs ih =>
    simp only [map_cons, sum_cons, length_cons]
    split <;> omega

lemma fitsIn_payloadHash (id : String) (input : AnswerHandoffInput ρ) : FitsIn 128 (payloadHash host id input) := by
  have hdigest : IsHexDigest 32 (payloadHash host id input) := by
    obtain ⟨hlength, hdigits⟩ := host.sha256_hex (String.ofList (JsonText.stringify host.numberText
      (.obj [("actor", .str input.actor), ("answer_text", orNull input.answerText),
        ("client_request_id", orNull input.clientRequestId), ("decision", .str input.decision.name),
        ("handoff_id", .str id)])))
    refine ⟨?_, ?_⟩
    · simp [payloadHash, hlength]
    · simp only [payloadHash, String.toList_ofList]
      exact all_eq_true.2 fun c hc => all_eq_true.1 hdigits c (mem_of_mem_take hc)
  refine ⟨nonBlank_of_isHexDigest (by decide) hdigest, ?_⟩
  have hlength := utf16Length_le (payloadHash host id input)
  rw [hdigest.1] at hlength
  omega

variable {input : AnswerHandoffInput ρ} {nowIso evidence : String}

variable (host h input nowIso evidence) in
lemma answeredHandoff_eq : ∃ (status : HandoffStatus) (a : HandoffAnswer),
    answeredHandoff host h input evidence nowIso = h.withOutcome status h.supersedes h.supersededBy (some a) ∧
      (a.Fits ↔ input.Fits nowIso) := by
  refine ⟨_, _, rfl, fun hfits => ⟨hfits.responder, hfits.identitySource, hfits.answeredAt⟩,
    fun hfits => ⟨hfits.actor, hfits.identitySource, hfits.now, fitsIn_payloadHash _ _⟩⟩

variable (evidence) in
lemma storable_answered_iff (hh : Storable host h) :
    Storable host (answeredHandoff host h input evidence nowIso) ↔ input.Fits nowIso := by
  obtain ⟨status, a, heq, hfits⟩ := answeredHandoff_eq host h input nowIso evidence
  have hparse := parse_withOutcome_iff status h.supersedes h.supersededBy hh.parsed (some a)
  rw [← heq] at hparse
  rw [← hfits]
  constructor
  · exact fun hstored => hparse.1 hstored.parsed a rfl
  · intro ha
    refine ⟨hparse.2 fun a' ha' => some.inj ha' ▸ ha, ?_⟩
    rw [heq]
    exact ⟨hh.numbers.issue, hh.numbers.plan, hh.numbers.dossier, hh.numbers.policy, hh.numbers.evidence⟩

lemma kept_answered_iff (hone : JsonText.ReadsBack host.numberOf host.numberText 1) (hh : Storable host h) :
    Kept host (answeredHandoff host h input evidence nowIso) ↔ input.Fits nowIso := by
  rw [← storable_answered_iff evidence hh]
  refine ⟨fun hkept => ⟨hkept.1, ?_⟩, fun hstored => hstored.kept hone⟩
  exact ⟨hh.numbers.issue, hh.numbers.plan, hh.numbers.dossier, hh.numbers.policy, hh.numbers.evidence⟩

end Storable

/-! ## The three functions -/

/-- What creation and supersession return is kept; a recorded answer is kept exactly when it fits. -/
theorem accepted_kept_iff (host : NodeHost)
    (hone : JsonText.ReadsBack host.numberOf host.numberText 1) :
    (∀ (input : CreateHandoffInput) (nowIso freshId : String) (h : HumanQuestionHandoff),
      input.NumbersReadBack host → canCreateHandoff host input nowIso freshId = .ok h → Kept host h) ∧
    (∀ prior replacement : HumanQuestionHandoff, Storable host prior → Storable host replacement →
      Kept host (supersedeHandoff prior replacement).1 ∧ Kept host (supersedeHandoff prior replacement).2) ∧
    ∀ (ρ : Type) (resolveAuthorizedApprover :
        ApproverResolutionInput ρ → Except String ApproverResolutionResult)
      (h next : HumanQuestionHandoff) (input : AnswerHandoffInput ρ) (nowIso : String),
      Storable host h → applyHandoffAnswer host resolveAuthorizedApprover h input nowIso = .recorded next →
          (Kept host next ↔ input.Fits nowIso) := by
  refine ⟨fun input nowIso freshId h hinput hcreate => (storable_created hcreate hinput).kept hone,
    fun prior replacement hprior hreplacement => ?_, fun ρ resolve h next input nowIso hh happly => ?_⟩
  · obtain ⟨hfirst, hsecond⟩ := storable_superseded hprior hreplacement
    exact ⟨hfirst.kept hone, hsecond.kept hone⟩
  · obtain ⟨-, evidence, rfl⟩ := recorded_pending host resolve happly
    exact kept_answered_iff hone hh

/-! ## A question of an issue -/

/-- The host of two numerals, and of the digest of one answer. -/
def answeringHost : NodeHost :=
  { NodeHost.onFirstDay []
      [("\x7b\"actor\":\"op\",\"answer_text\":\"yes\",\"client_request_id\":null," ++
          "\"decision\":\"answer\",\"handoff_id\":\"hqh_1\"\x7d",
        "ec7bb3d05fb3f43441429af3222c828aa80a86308769db076c3e3154a8bc8a30")] with
    numberText := fun q => if q = 1 then "1" else "7"
    numberOf := fun text => if text = "1" then .finite 1 else if text = "7" then .finite 7 else .nan }

lemma answeringHost_reads : JsonText.ReadsBack answeringHost.numberOf answeringHost.numberText 1 ∧
      JsonText.ReadsBack answeringHost.numberOf answeringHost.numberText 7 :=
  ⟨⟨by decide +kernel, all_eq_true.1 (by decide +kernel), by decide +kernel⟩,
    ⟨by decide +kernel, all_eq_true.1 (by decide +kernel), by decide +kernel⟩⟩

lemma storable_grillQuestion : Storable answeringHost grillQuestion where
  parsed := parse_eq_ok.2 ⟨rfl, by decide +kernel, handoffOf_toJson grillQuestion⟩
  numbers :=
    { issue := answeringHost_reads.2
      plan := fun _ h => by cases h
      dossier := fun _ h => by cases h
      policy := fun _ h => by cases h
      evidence := fun _ h => by cases h }

/-- A question is created, replaced and answered, and each record is kept. -/
theorem asked_and_answered_kept :
    (∃ h, canCreateHandoff answeringHost directionInput "2026-01-01T00:00:00Z" "hqh_2" = .ok h ∧
        Kept answeringHost h) ∧
      Kept answeringHost (supersedeHandoff grillQuestion grillQuestion).1 ∧
      ∃ next, applyHandoffAnswer answeringHost noApprovers grillQuestion (operatorAnswer "yes")
          "2026-01-01T00:00:01Z" = .recorded next ∧ Kept answeringHost next := by
  obtain ⟨hcreated, hsuperseded, hanswered⟩ := accepted_kept_iff answeringHost answeringHost_reads.1
  have hinput : directionInput.NumbersReadBack answeringHost :=
    ⟨answeringHost_reads.2, fun _ h => by cases h⟩
  refine ⟨⟨_, rfl, hcreated directionInput "2026-01-01T00:00:00Z" "hqh_2" _ hinput rfl⟩,
    (hsuperseded _ _ storable_grillQuestion storable_grillQuestion).1, _, rfl,
    (hanswered Unit noApprovers grillQuestion _ (operatorAnswer "yes") "2026-01-01T00:00:01Z"
      storable_grillQuestion rfl).2 ⟨?_, ?_, ?_⟩⟩
  · exact ⟨by decide +kernel, by decide +kernel⟩
  · exact ⟨by decide +kernel, by decide +kernel⟩
  · exact ⟨by decide +kernel, by decide +kernel⟩

/-- A question and the one that supersedes it. -/
def supersededPair : HumanQuestionHandoff × HumanQuestionHandoff :=
  supersedeHandoff grillQuestion { grillQuestion with handoffId := "hqh_2" }

def blankQuestion : HumanQuestionHandoff := { grillQuestion with question := "" }

/-- A question is saved, then it is superseded, which overwrites its file; a blank one is refused. -/
theorem superseded_question_loaded :
    (∀ files, saveHandoffText answeringHost [] files blankQuestion = none) ∧
      loadHandoffText answeringHost [] (fun _ => "")
        ([grillQuestion, supersededPair.2, supersededPair.1, blankQuestion].foldl (saveTexts answeringHost [])
          (Store.texts answeringHost {})) grillQuestion.issueNumber grillQuestion.handoffId =
        .ok supersededPair.1 := by
  have hnumbers : ∀ h ∈ [grillQuestion, supersededPair.2, supersededPair.1, blankQuestion],
      NumbersReadBack answeringHost h := by
    -- the four differ in their texts alone
    simp only [forall_mem_cons, not_mem_nil, false_implies, implies_true, and_true]
    have hsame := storable_grillQuestion.numbers
    exact ⟨hsame, { hsame with }, { hsame with }, { hsame with }⟩
  exact ⟨fun _ => rfl, ((saves_refine answeringHost_reads.1 (fun _ _ h => by cases h) hnumbers _).2 _ _).trans rfl⟩

/-- An answer without an identity source is authorized and recorded, and is refused when it is saved. -/
theorem unsourced_answer_lost : ∃ next, applyHandoffAnswer answeringHost noApprovers grillQuestion
        { operatorAnswer "yes" with identitySource := "" } "2026-01-01T00:00:01Z" = .recorded next ∧
      Storable answeringHost grillQuestion ∧
      parseHumanQuestionHandoff answeringHost next.toJson = .error "answer missing responder/identity_source" ∧
      ∀ root files, saveHandoffText answeringHost root files next = none := by
  refine ⟨_, rfl, storable_grillQuestion, ?_, fun root files => ?_⟩
  · rfl
  · rfl

end AgentPipeline.Handoff
