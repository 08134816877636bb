import AgentPipeline.MergeQueue.Hold
import AgentPipeline.Review.VerdictGate

/-!
# Regate: the gates of the selection and of the re-gate

`planMergeQueue` selects PRs of a milestone; `evaluateCandidateEligibility` reads a PR again before it is
merged. Both ask GitHub through the same calls.

* `evaluateChecksGate`: the checks of a PR: the required ones, or else the observable ones;
* `selectIssue`, `planMergeQueue`: the dry run;
* `regate_selected_iff`: when a PR that passes the re-gate is a candidate of the dry run.
-/

namespace AgentPipeline.MergeQueue

open List Option
open JsText (trim)

namespace DryRun

def r2dLabel : String := "pipeline:ready-to-deploy"

/-! ## Answers -/

/-- What is read of a command that was rejected; a `stdout` that is no text is `none`. -/
structure ExecError where
  stdout : Option String := none
  stderr : Option String := none
  message : Option String := none

structure MergeQueueIssue where
  number : Nat
  labels : List String

/-- What the calls answer; `none` is a call that rejects. -/
structure MergeQueueDeps where
  listMilestoneIssues : String → Option (List MergeQueueIssue)
  getPrForIssue : Nat → Option (Option Nat)
  /-- A PR with all of its fields. -/
  prView : Nat → Option Json
  ghPrChecksRequired : Nat → Except ExecError (List Json)
  ghPrChecksAll : Nat → Except ExecError (List Json)
  getIssueLabels : Nat → Option (List String)

/-- An answer has the fields that were asked for. -/
def requested (fields : List String) : Json → Json
  | .obj values => .obj (values.filter fun value => fields.contains value.1)
  | answer => answer

def MergeQueueDeps.ghPrView (deps : MergeQueueDeps) (pr : Nat) (fields : List String) : Option Json :=
  (deps.prView pr).map (requested fields)

variable (host : NodeHost) (deps : MergeQueueDeps)

/-- `String(field ?? missing)`, which throws for a field that cannot be printed. -/
def printedOr (missing : String) : Option Json → Option String
  | none | some .null => some missing
  | some field => if Review.prints field then some (Review.display host field) else none

/-- `String(value[key] ?? missing)`. -/
def fieldText (value : Json) (key missing : String) : Option String :=
  match value with
  | .null => none
  | value => printedOr host missing (value.get? key)

/-! ## Checks -/

def recoverGhPrChecksFromExecError (err : ExecError) : Option (List Json) := do
  let stdout ← err.stdout
  if trim stdout = "" then none else (JsonText.parse host.numberOf (trim stdout).toList).bind Json.elems?

/-- `errText.includes(part)`. -/
def ExecError.mentions (err : ExecError) (part : String) : Bool :=
  Review.includes (err.stderr.getD "" ++ " " ++ err.message.getD "").toList part.toList

inductive ChecksGate where
  | ok (summary : String)
  | blocked (summary detail : String)

def ChecksGate.isOk : ChecksGate → Bool
  | .ok _ => true
  | .blocked _ _ => false

def ChecksGate.detail? : ChecksGate → Option String
  | .ok _ => none
  | .blocked _ detail => some detail

/-- `(check.bucket ?? "").toLowerCase()`. -/
def bucketOf : Json → Option String
  | .null => none
  | check => (Review.nullableText check "bucket").map fun bucket => host.toLowerCase (bucket.getD "")

/-- The entry of a check among the blocking ones. -/
def blockingEntry (blocks : String → Bool) (shown : String → String) (check : Json) : Option (Option String) := do
  let bucket ← bucketOf host check
  if blocks bucket then do
    let name ← fieldText host check "name" "unknown"
    return some (name ++ " (" ++ shown bucket ++ ")")
  else return none

def blockingChecks (blocks : String → Bool) (shown : String → String) (checks : List Json) : Option (List String) :=
  (checks.mapM (blockingEntry host blocks shown)).map (List.filterMap id)

def requiredGate (requiredChecks : List Json) : Option ChecksGate := do
  let blocking ← blockingChecks host (fun bucket => bucket ≠ "pass" && bucket ≠ "skipping")
    (fun bucket => if bucket = "" then "unknown" else bucket) requiredChecks
  let total := toString requiredChecks.length
  if blocking = [] then
    return .ok (if requiredChecks = [] then "no required checks" else total ++ " required pass")
  else
    return .blocked (toString blocking.length ++ "/" ++ total ++ " required not green") ("; ".intercalate blocking)

/-- The gate when no check is required. -/
def observableGate (allChecks : List Json) : Option ChecksGate := do
  let blocking ← blockingChecks host (fun bucket => bucket = "fail" || bucket = "pending" || bucket = "cancel")
    id allChecks
  if blocking = [] then
    return .ok (if allChecks = [] then "no required checks (none observable)"
      else "no required checks; " ++ toString allChecks.length ++ " observable green")
  else return .blocked ("fallback: " ++ toString blocking.length ++ " blocking") ("; ".intercalate blocking)

def evaluateChecksGate (pr : Nat) : Option ChecksGate :=
  match deps.ghPrChecksRequired pr with
  | .ok requiredChecks => requiredGate host requiredChecks
  | .error err =>
    if err.mentions "no required checks reported" then
      match deps.ghPrChecksAll pr with
      | .ok allChecks => observableGate host allChecks
      | .error err =>
        if err.mentions "no checks reported" then observableGate host []
        else (recoverGhPrChecksFromExecError host err).bind (observableGate host)
    else (recoverGhPrChecksFromExecError host err).bind (requiredGate host)

def isMergeableClean (mergeable mergeStateStatus : String) : Bool :=
  mergeable = "MERGEABLE" && mergeStateStatus = "CLEAN"

/-! ## The dry run -/

inductive MergeQueueSkipReason where
  | missingPr | nonMergeable | checksNotGreen | emptyHeadSha | wrongBase

structure MergeQueueCandidate where
  issueNumber : Nat
  prNumber : Nat
  headRefOid : String
  baseRefName : String
  mergeable : String
  mergeStateStatus : String
  checksSummary : String

structure MergeQueueSkip where
  issueNumber : Nat
  prNumber : Option Nat
  reason : MergeQueueSkipReason
  detail : String

inductive Selection where
  | candidate (candidate : MergeQueueCandidate)
  | skip (skip : MergeQueueSkip)

def Selection.candidate? : Selection → Option MergeQueueCandidate
  | .candidate c => some c
  | .skip _ => none

def Selection.skip? : Selection → Option MergeQueueSkip
  | .candidate _ => none
  | .skip s => some s

structure PlanMergeQueueOpts where
  milestone : String
  baseBranch : Option String := none

def PlanMergeQueueOpts.configuredBase (opts : PlanMergeQueueOpts) : String := trim (opts.baseBranch.getD "")

structure MergeQueuePlan where
  milestone : String
  candidates : List MergeQueueCandidate
  skips : List MergeQueueSkip

/-- `String(prData[key] ?? …)` of the fields that are asked for. -/
structure PrTexts where
  mergeable : String
  mergeStateStatus : String
  headRefOid : String
  baseRefName : String
deriving DecidableEq

def readPr (prNumber : Nat) : Option PrTexts := do
  let prData ← deps.ghPrView prNumber ["mergeable", "mergeStateStatus", "headRefOid", "baseRefName"]
  let mergeable ← fieldText host prData "mergeable" "UNKNOWN"
  let mergeStateStatus ← fieldText host prData "mergeStateStatus" "UNKNOWN"
  let headRefOid ← fieldText host prData "headRefOid" ""
  let baseRefName ← fieldText host prData "baseRefName" ""
  return ⟨mergeable, mergeStateStatus, headRefOid, baseRefName⟩

/-- A PR that is linked. -/
def selectPr (configuredBase : String) (issueNumber prNumber : Nat) : Option Selection := do
  let pr ← readPr host deps prNumber
  let skip (reason : MergeQueueSkipReason) (detail : String) : Selection :=
    .skip ⟨issueNumber, some prNumber, reason, detail⟩
  if configuredBase ≠ "" ∧ pr.baseRefName ≠ configuredBase then
    return skip .wrongBase ("baseRefName=" ++ (if pr.baseRefName = "" then "(empty)" else pr.baseRefName) ++
      " configured=" ++ configuredBase)
  else if isMergeableClean pr.mergeable pr.mergeStateStatus = false then
    return skip .nonMergeable ("mergeable=" ++ pr.mergeable ++ " mergeStateStatus=" ++ pr.mergeStateStatus)
  else if pr.headRefOid = "" then return skip .emptyHeadSha "headRefOid empty"
  else
    (evaluateChecksGate host deps prNumber).map fun
      | .ok summary => .candidate ⟨issueNumber, prNumber, pr.headRefOid, pr.baseRefName, pr.mergeable,
          pr.mergeStateStatus, summary⟩
      | .blocked _ detail => skip .checksNotGreen detail

/-- One round of the loop over the issues. -/
def selectIssue (configuredBase : String) (issueNumber : Nat) : Option Selection := do
  match ← deps.getPrForIssue issueNumber with
  | none => return .skip ⟨issueNumber, none, .missingPr, "no open linked PR via authoritative resolver"⟩
  | some prNumber => selectPr host deps configuredBase issueNumber prNumber

/-- The issues that the loop visits. -/
def r2dIssues (issues : List MergeQueueIssue) : List MergeQueueIssue :=
  (issues.filter fun issue => issue.labels.contains r2dLabel).insertionSort fun a b => a.number ≤ b.number

def planMergeQueue (opts : PlanMergeQueueOpts) : Option MergeQueuePlan :=
  let milestone := trim opts.milestone
  if milestone = "" then none
  else do
    let issues ← deps.listMilestoneIssues milestone
    let selections ← (r2dIssues issues).mapM fun issue => selectIssue host deps opts.configuredBase issue.number
    return ⟨milestone, selections.filterMap Selection.candidate?, selections.filterMap Selection.skip?⟩

/-! ## Fields -/

variable {host deps}

lemma lookup_filter_contains {fields : List String} {key : String} (hkey : key ∈ fields)
    (values : List (String × Json)) :
    (values.filter fun value => fields.contains value.1).lookup key = values.lookup key := by
  induction values with
  | nil => rfl
  | cons value values ih =>
    obtain ⟨name, field⟩ := value
    by_cases hname : key = name
    · subst hname
      rw [filter_cons_of_pos (by simpa using hkey), lookup_cons, lookup_cons]
      simp
    · rw [lookup_cons, show (key == name) = false by simpa using hname, ← ih]
      by_cases hasked : name ∈ fields
      · rw [filter_cons_of_pos (by simpa using hasked), lookup_cons, show (key == name) = false by simpa using hname]
      · rw [filter_cons_of_neg (by simpa using hasked)]

lemma fieldText_requested {fields : List String} {key missing : String} (hkey : key ∈ fields) (answer : Json) :
    fieldText host (requested fields answer) key missing = fieldText host answer key missing := by
  cases answer with
  | obj values => exact congrArg (printedOr host missing) (lookup_filter_contains hkey values)
  | null => rfl
  | bool b => rfl
  | num n => rfl
  | str text => rfl
  | arr elems => rfl

variable (host deps)

/-! ## What is selected -/

/-- A PR gets as far as its checks. -/
structure PrTexts.StandsToMerge (pr : PrTexts) (configuredBase : String) : Prop where
  onBase : pr.baseRefName = configuredBase
  headed : pr.headRefOid ≠ ""
  mergeable : pr.mergeable = "MERGEABLE"
  clean : pr.mergeStateStatus = "CLEAN"

/-- The calls that a round makes are answered. -/
def ReadsAnswered (configuredBase : String) (issueNumber : Nat) : Prop :=
  deps.getPrForIssue issueNumber = some none ∨
    ∃ prNumber pr, deps.getPrForIssue issueNumber = some (some prNumber) ∧ readPr host deps prNumber = some pr ∧
      (pr.StandsToMerge configuredBase → (evaluateChecksGate host deps prNumber).isSome)

variable {host deps} {configuredBase : String} {issueNumber prNumber : Nat} {pr : PrTexts}

lemma selectPr_checked (hread : readPr host deps prNumber = some pr) (hstands : pr.StandsToMerge configuredBase) :
    selectPr host deps configuredBase issueNumber prNumber = (evaluateChecksGate host deps prNumber).map fun
      | .ok summary => .candidate ⟨issueNumber, prNumber, pr.headRefOid, pr.baseRefName, pr.mergeable,
          pr.mergeStateStatus, summary⟩
      | .blocked _ detail => .skip ⟨issueNumber, some prNumber, .checksNotGreen, detail⟩ := by
  have hclean : isMergeableClean pr.mergeable pr.mergeStateStatus = true := by
    simp [isMergeableClean, hstands.mergeable, hstands.clean]
  unfold selectPr
  rw [hread, bind_eq_bind, bind_some]
  rw [if_neg fun h => h.2 hstands.onBase, if_neg (by rw [hclean]; decide), if_neg hstands.headed]

variable (issueNumber) in
lemma selectPr_skipped (hbase : configuredBase ≠ "") (hread : readPr host deps prNumber = some pr)
    (hstands : ¬pr.StandsToMerge configuredBase) :
    ∃ s, selectPr host deps configuredBase issueNumber prNumber = some (.skip s) := by
  unfold selectPr
  rw [hread, bind_eq_bind, bind_some]
  dsimp only
  split
  · exact ⟨_, rfl⟩
  · next honBase =>
    split
    · exact ⟨_, rfl⟩
    · next hclean =>
      split
      · exact ⟨_, rfl⟩
      · next hheaded =>
        have hboth : pr.mergeable = "MERGEABLE" ∧ pr.mergeStateStatus = "CLEAN" := by
          simpa [isMergeableClean] using hclean
        exact absurd ⟨not_not.1 fun h => honBase ⟨hbase, h⟩, hheaded, hboth.1, hboth.2⟩ hstands

variable (issueNumber) in
lemma selectPr_candidate_iff (hbase : configuredBase ≠ "") :
    (∃ c, selectPr host deps configuredBase issueNumber prNumber = some (.candidate c)) ↔
      (∃ pr, readPr host deps prNumber = some pr ∧ pr.StandsToMerge configuredBase) ∧
        ∃ summary, evaluateChecksGate host deps prNumber = some (.ok summary) := by
  constructor
  · rintro ⟨c, hselect⟩
    obtain ⟨pr, hread⟩ : ∃ pr, readPr host deps prNumber = some pr := by
      cases hread : readPr host deps prNumber with
      | none => simp [selectPr, hread] at hselect
      | some pr => exact ⟨pr, rfl⟩
    by_cases hstands : pr.StandsToMerge configuredBase
    · refine ⟨⟨pr, hread, hstands⟩, ?_⟩
      rw [selectPr_checked hread hstands] at hselect
      obtain ⟨checks, hchecks, hcandidate⟩ := map_eq_some_iff.1 hselect
      cases checks with
      | ok summary => exact ⟨summary, hchecks⟩
      | blocked summary detail => cases hcandidate
    · obtain ⟨s, hskip⟩ := selectPr_skipped issueNumber hbase hread hstands
      rw [hskip] at hselect
      cases hselect
  · rintro ⟨⟨pr, hread, hstands⟩, summary, hchecks⟩
    rw [selectPr_checked hread hstands, hchecks]
    exact ⟨_, rfl⟩

/-- A round throws only when one of its calls does. -/
lemma selectIssue_isSome_iff (hbase : configuredBase ≠ "") :
    (selectIssue host deps configuredBase issueNumber).isSome ↔ ReadsAnswered host deps configuredBase issueNumber := by
  unfold selectIssue ReadsAnswered
  cases hlink : deps.getPrForIssue issueNumber with
  | none => simp
  | some linked =>
    cases linked with
    | none => simp
    | some prNumber =>
      simp only [bind_eq_bind, bind_some, Option.some.injEq, reduceCtorEq, false_or]
      cases hread : readPr host deps prNumber with
      | none => simp [selectPr, hread]
      | some pr =>
        by_cases hstands : pr.StandsToMerge configuredBase
        · rw [selectPr_checked hread hstands, isSome_map]
          exact ⟨fun h => ⟨_, _, rfl, hread, fun _ => h⟩, by
            rintro ⟨_, pr', rfl, hread', h⟩
            rw [hread] at hread'
            exact h (some.inj hread' ▸ hstands)⟩
        · obtain ⟨s, hskip⟩ := selectPr_skipped issueNumber hbase hread hstands
          rw [hskip]
          exact ⟨fun _ => ⟨_, _, rfl, hread, fun h => absurd h hstands⟩, fun _ => rfl⟩

lemma selectPr_numbers {c : MergeQueueCandidate}
    (h : selectPr host deps configuredBase issueNumber prNumber = some (.candidate c)) :
    c.issueNumber = issueNumber ∧ c.prNumber = prNumber := by
  unfold selectPr at h
  obtain ⟨pr, -, h⟩ := bind_eq_some_iff.1 h
  dsimp only at h
  split at h
  · cases h
  · split at h
    · cases h
    · split at h
      · cases h
      · obtain ⟨checks, -, h⟩ := map_eq_some_iff.1 h
        cases checks with
        | ok summary =>
          cases h
          exact ⟨rfl, rfl⟩
        | blocked summary detail => cases h

lemma selectIssue_number {c : MergeQueueCandidate}
    (h : selectIssue host deps configuredBase issueNumber = some (.candidate c)) : c.issueNumber = issueNumber := by
  obtain ⟨linked, -, h⟩ := bind_eq_some_iff.1 h
  cases linked with
  | none => cases h
  | some prNumber => exact (selectPr_numbers h).1

/-! ## The rounds of the loop -/

variable {opts : PlanMergeQueueOpts} {issues : List MergeQueueIssue}

lemma mem_r2dIssues {issue : MergeQueueIssue} :
    issue ∈ r2dIssues issues ↔ issue ∈ issues ∧ r2dLabel ∈ issue.labels := by
  simp [r2dIssues]

/-- A plan is made when every round returns, and lists what the rounds select. -/
lemma planMergeQueue_iff (hmilestone : trim opts.milestone ≠ "")
    (hlist : deps.listMilestoneIssues (trim opts.milestone) = some issues) (p : MergeQueueCandidate → Prop) :
    (∃ plan, planMergeQueue host deps opts = some plan ∧ ∃ c ∈ plan.candidates, p c) ↔
      (∀ issue ∈ r2dIssues issues, (selectIssue host deps opts.configuredBase issue.number).isSome) ∧
        ∃ issue ∈ r2dIssues issues, ∃ c,
          selectIssue host deps opts.configuredBase issue.number = some (.candidate c) ∧ p c := by
  have hplan : ∀ plan, planMergeQueue host deps opts = some plan ↔ ∃ selections,
      ((r2dIssues issues).mapM fun issue => selectIssue host deps opts.configuredBase issue.number) = some selections ∧
        ⟨trim opts.milestone, selections.filterMap Selection.candidate?, selections.filterMap Selection.skip?⟩ =
          plan := by
    intro plan
    simp [planMergeQueue, hmilestone, hlist, bind_eq_some_iff]
  have hlisted : ∀ (selections : List Selection) c, c ∈ selections.filterMap Selection.candidate? ↔
      Selection.candidate c ∈ selections := by
    intro selections c
    refine mem_filterMap.trans ⟨?_, fun hmem => ⟨_, hmem, rfl⟩⟩
    rintro ⟨selection, hmem, hcandidate⟩
    cases selection with
    | skip s => cases hcandidate
    | candidate c' => exact some.inj hcandidate ▸ hmem
  rw [← Lists.exists_mapM_iff]
  constructor
  · rintro ⟨plan, hmade, c, hc, hp⟩
    obtain ⟨selections, hselections, rfl⟩ := (hplan plan).1 hmade
    obtain ⟨issue, hissue, hselect⟩ := (Lists.mem_iff_of_mapM hselections).1 ((hlisted _ c).1 hc)
    exact ⟨⟨_, hselections⟩, issue, hissue, c, hselect, hp⟩
  · rintro ⟨⟨selections, hselections⟩, issue, hissue, c, hselect, hp⟩
    exact ⟨_, (hplan _).2 ⟨selections, hselections, rfl⟩, c,
      (hlisted _ c).2 ((Lists.mem_iff_of_mapM hselections).2 ⟨issue, hissue, hselect⟩), hp⟩

end DryRun

/-! ## The re-gate -/

open DryRun

/-- `applyReadmeLandingContractGate(snapshot, readmeContent)`; `breach` has the diagnostics of a README that
breaks the contract. -/
def applyReadmeLandingContractGate (breach : String → Option String) (snapshot : EligibilitySnapshot)
    (readmeContent : Option String) : EligibilitySnapshot :=
  match readmeContent.bind breach with
  | none => snapshot
  | some detail =>
    { snapshot with
      checksOk := false
      checksDetail := some (match snapshot.checksDetail.filter (· ≠ "") with
        | some checksDetail => checksDetail ++ "; " ++ detail
        | none => detail) }

section Regate

variable (host : NodeHost) (breach : String → Option String) (deps : DryRun.MergeQueueDeps)

/-- `checksOk` and `checksDetail`: the checks of a PR that is not clean are reported and do not count. -/
def checksReading (clean : Bool) (gate : Option ChecksGate) : Option (Bool × Option String) :=
  if clean then gate.map fun checks => (checks.isOk, checks.detail?) else some (true, gate.bind ChecksGate.detail?)

/-- `evaluateCandidateEligibility(candidate, planDeps, labelDeps, opts)`, with label dependencies. -/
def evaluateCandidateEligibility (issueNumber prNumber : Nat) (readmeContent : Option String) :
    Option EligibilitySnapshot := do
  let prData ← deps.ghPrView prNumber ["mergeable", "mergeStateStatus", "headRefOid", "state"]
  let mergeable ← fieldText host prData "mergeable" "UNKNOWN"
  let mergeStateStatus ← fieldText host prData "mergeStateStatus" "UNKNOWN"
  let headRefOid ← fieldText host prData "headRefOid" ""
  let prState ← fieldText host prData "state" ""
  let checks ← checksReading (isMergeableClean mergeable mergeStateStatus) (evaluateChecksGate host deps prNumber)
  -- labels that are not answered count as none
  let issueHasR2d := (deps.getIssueLabels issueNumber).any (·.contains r2dLabel)
  return applyReadmeLandingContractGate breach
    { mergeable := mergeable
      mergeStateStatus := mergeStateStatus
      checksOk := checks.1
      checksDetail := checks.2
      headRefOid := if headRefOid = "" then none else some headRefOid
      prState := if prState = "" then none else some prState
      issueHasR2d := some issueHasR2d }
    readmeContent

variable {host breach deps} {issueNumber prNumber : Nat} {readmeContent : Option String}

lemma applyReadmeLandingContractGate_checksOk {snapshot : EligibilitySnapshot}
    (h : (applyReadmeLandingContractGate breach snapshot readmeContent).checksOk = true) :
    applyReadmeLandingContractGate breach snapshot readmeContent = snapshot := by
  unfold applyReadmeLandingContractGate at h ⊢
  split at h
  · rfl
  · cases h

lemma eligible_checked {snapshot : EligibilitySnapshot} (h : classifyQueueEligibility host snapshot = .eligible) :
    snapshot.issueHasR2d ≠ some false ∧ snapshot.checksOk = true := by
  have hgate : snapshot.issueHasR2d ≠ some false ∧ classifyEligibility host snapshot = none := by
    by_cases hlabel : snapshot.issueHasR2d = some false
    · simp only [classifyQueueEligibility, hlabel, if_true] at h
      split at h
      · cases h
      · split_ifs at h
    · refine ⟨hlabel, ?_⟩
      simp only [classifyQueueEligibility, hlabel, if_false] at h
      cases hclass : classifyEligibility host snapshot with
      | none => rfl
      | some reason =>
        rw [hclass] at h
        split at h
        · cases h
        · split_ifs at h
  refine ⟨hgate.1, ?_⟩
  cases hchecks : snapshot.checksOk with
  | true => rfl
  | false =>
    have hclass := hgate.2
    simp only [classifyEligibility, hchecks] at hclass
    split_ifs at hclass

/-- What the re-gate makes sure of. -/
lemma evaluateCandidateEligibility_eligible
    (h : (evaluateCandidateEligibility host breach deps issueNumber prNumber readmeContent).map
      (classifyQueueEligibility host) = some .eligible) :
    (∃ labels, deps.getIssueLabels issueNumber = some labels ∧ r2dLabel ∈ labels) ∧
      ∀ pr, readPr host deps prNumber = some pr → isMergeableClean pr.mergeable pr.mergeStateStatus = true →
        ∃ summary, evaluateChecksGate host deps prNumber = some (.ok summary) := by
  obtain ⟨snapshot, hsnapshot, hclass⟩ := map_eq_some_iff.1 h
  obtain ⟨hlabel, hchecks⟩ := eligible_checked hclass
  obtain ⟨prData, hview, hsnapshot⟩ := bind_eq_some_iff.1 hsnapshot
  obtain ⟨mergeable, hmergeable, hsnapshot⟩ := bind_eq_some_iff.1 hsnapshot
  obtain ⟨mergeStateStatus, hstatus, hsnapshot⟩ := bind_eq_some_iff.1 hsnapshot
  obtain ⟨headRefOid, -, hsnapshot⟩ := bind_eq_some_iff.1 hsnapshot
  obtain ⟨prState, -, hsnapshot⟩ := bind_eq_some_iff.1 hsnapshot
  obtain ⟨checks, hgate, hsnapshot⟩ := bind_eq_some_iff.1 hsnapshot
  obtain rfl := some.inj hsnapshot
  rw [applyReadmeLandingContractGate_checksOk hchecks] at hlabel hchecks
  constructor
  · cases hlabels : deps.getIssueLabels issueNumber with
    | none => simp [hlabels] at hlabel
    | some labels => exact ⟨labels, rfl, by simpa [hlabels] using hlabel⟩
  · intro pr hread hclean
    obtain ⟨prData', hview', hread⟩ := bind_eq_some_iff.1 hread
    obtain ⟨mergeable', hmergeable', hread⟩ := bind_eq_some_iff.1 hread
    obtain ⟨mergeStateStatus', hstatus', hread⟩ := bind_eq_some_iff.1 hread
    obtain ⟨headRefOid', -, hread⟩ := bind_eq_some_iff.1 hread
    obtain ⟨baseRefName', -, hread⟩ := bind_eq_some_iff.1 hread
    obtain rfl := some.inj hread
    obtain ⟨answer, hanswer, rfl⟩ := map_eq_some_iff.1 hview
    obtain ⟨_, hanswer', rfl⟩ := map_eq_some_iff.1 hview'
    rw [hanswer] at hanswer'
    obtain rfl := some.inj hanswer'
    rw [fieldText_requested (by decide)] at hmergeable hmergeable' hstatus hstatus'
    obtain rfl : mergeable' = mergeable := some.inj (hmergeable'.symm.trans hmergeable)
    obtain rfl : mergeStateStatus' = mergeStateStatus := some.inj (hstatus'.symm.trans hstatus)
    rw [show isMergeableClean mergeable' mergeStateStatus' = true from hclean] at hgate
    obtain ⟨verdict, hverdict, hreading⟩ := map_eq_some_iff.1 hgate
    cases verdict with
    | ok summary => exact ⟨summary, hverdict⟩
    | blocked summary detail =>
      rw [← hreading] at hchecks
      cases hchecks

/-- A PR that passes the re-gate is a candidate of the dry run over the same answers when it is on the configured
base, has a head, and GitHub spells its states `MERGEABLE` and `CLEAN`; the other rounds must return. -/
theorem regate_selected_iff {opts : PlanMergeQueueOpts} {issues : List MergeQueueIssue} {labels : List String}
    (hmilestone : trim opts.milestone ≠ "") (hbase : opts.configuredBase ≠ "")
    (hlist : deps.listMilestoneIssues (trim opts.milestone) = some issues)
    (hissue : ⟨issueNumber, labels⟩ ∈ issues) (hlabels : deps.getIssueLabels issueNumber = some labels)
    (hlink : deps.getPrForIssue issueNumber = some (some prNumber))
    (heligible : (evaluateCandidateEligibility host breach deps issueNumber prNumber readmeContent).map
      (classifyQueueEligibility host) = some .eligible) :
    (∃ plan, planMergeQueue host deps opts = some plan ∧
        ∃ c ∈ plan.candidates, c.issueNumber = issueNumber ∧ c.prNumber = prNumber) ↔
      (∃ pr, readPr host deps prNumber = some pr ∧ pr.StandsToMerge opts.configuredBase) ∧
        ∀ other ∈ issues, r2dLabel ∈ other.labels → other.number ≠ issueNumber →
          ReadsAnswered host deps opts.configuredBase other.number := by
  obtain ⟨⟨labels', hlabels', hready⟩, hchecks⟩ := evaluateCandidateEligibility_eligible heligible
  obtain rfl : labels' = labels := some.inj (hlabels'.symm.trans hlabels)
  have hround : selectIssue host deps opts.configuredBase issueNumber =
      selectPr host deps opts.configuredBase issueNumber prNumber := by
    rw [selectIssue, hlink]
    rfl
  rw [planMergeQueue_iff hmilestone hlist]
  constructor
  · rintro ⟨hall, issue, -, c, hselect, hnumber, hpr⟩
    rw [← selectIssue_number hselect, hnumber, hround] at hselect
    refine ⟨((selectPr_candidate_iff issueNumber hbase).1 ⟨c, hselect⟩).1, fun other hother hlabel _ => ?_⟩
    exact (selectIssue_isSome_iff hbase).1 (hall other (mem_r2dIssues.2 ⟨hother, hlabel⟩))
  · rintro ⟨⟨pr, hread, hstands⟩, hothers⟩
    have hclean : isMergeableClean pr.mergeable pr.mergeStateStatus = true := by
      simp [isMergeableClean, hstands.mergeable, hstands.clean]
    obtain ⟨c, hselect⟩ := (selectPr_candidate_iff issueNumber hbase).2
      ⟨⟨pr, hread, hstands⟩, hchecks pr hread hclean⟩
    refine ⟨fun other hother => ?_, _, mem_r2dIssues.2 ⟨hissue, hready⟩, c, hround.trans hselect,
      selectPr_numbers hselect⟩
    by_cases hsame : other.number = issueNumber
    · rw [hsame, hround, hselect]
      rfl
    · obtain ⟨hmem, hlabel⟩ := mem_r2dIssues.1 hother
      exact (selectIssue_isSome_iff hbase).2 (hothers other hmem hlabel hsame)

end Regate

/-! ## One PR, and what may change between the two readings -/

/-- An open PR of issue 7; issue 8 of the milestone has no PR. -/
def queueDeps (base head mergeable clean bucket : String) : DryRun.MergeQueueDeps where
  listMilestoneIssues _ := some [⟨8, [r2dLabel]⟩, ⟨7, [r2dLabel]⟩]
  getPrForIssue issue := if issue = 7 then some (some 70) else some none
  prView _ := some (.obj [("mergeable", .str mergeable), ("mergeStateStatus", .str clean),
    ("headRefOid", .str head), ("baseRefName", .str base), ("state", .str "OPEN")])
  ghPrChecksRequired _ := .ok [.obj [("name", .str "ci"), ("bucket", .str bucket)]]
  ghPrChecksAll _ := .ok []
  getIssueLabels _ := some [r2dLabel]

def queueHost : NodeHost := .onFirstDay [] []

def queueOpts : PlanMergeQueueOpts := ⟨"v1", some "main"⟩

/-- The class of PR 70 at the re-gate, and the issues that the dry run lists. -/
def gatesOf (deps : DryRun.MergeQueueDeps) : Option QueueEligibilityClass × Option (List Nat) :=
  ((evaluateCandidateEligibility queueHost (fun _ => none) deps 7 70 none).map (classifyQueueEligibility queueHost),
    (planMergeQueue queueHost deps queueOpts).map fun plan => plan.candidates.map (·.issueNumber))

theorem regate_selected_green : ∃ plan,
    planMergeQueue queueHost (queueDeps "main" "abc" "MERGEABLE" "CLEAN" "pass") queueOpts = some plan ∧
      ∃ c ∈ plan.candidates, c.issueNumber = 7 ∧ c.prNumber = 70 := by
  have hissue : (⟨7, [r2dLabel]⟩ : MergeQueueIssue) ∈ [⟨8, [r2dLabel]⟩, ⟨7, [r2dLabel]⟩] := by simp
  have heligible : (evaluateCandidateEligibility queueHost (fun _ => none)
      (queueDeps "main" "abc" "MERGEABLE" "CLEAN" "pass") 7 70 none).map (classifyQueueEligibility queueHost) =
        some .eligible := by decide +kernel
  have hread : readPr queueHost (queueDeps "main" "abc" "MERGEABLE" "CLEAN" "pass") 70 =
      some ⟨"MERGEABLE", "CLEAN", "abc", "main"⟩ := by decide +kernel
  refine (regate_selected_iff (by decide +kernel) (by decide +kernel) rfl hissue rfl rfl heligible).2
    ⟨⟨_, hread, by decide +kernel, by decide, rfl, rfl⟩, fun other hother _ hne => ?_⟩
  have hnone : other.number = 8 := by
    rcases mem_cons.1 hother with rfl | hother
    · rfl
    · exact absurd (mem_singleton.1 hother ▸ rfl) hne
  exact .inl (by rw [hnone]; rfl)

/-- The re-gate lets a PR pass that was retargeted, that has no head, or that has a failed check while its states are
spelled in lower case. -/
theorem retargeted_eligible :
    gatesOf (queueDeps "release" "abc" "MERGEABLE" "CLEAN" "pass") = (some .eligible, some []) ∧
      gatesOf (queueDeps "main" "" "MERGEABLE" "CLEAN" "pass") = (some .eligible, some []) ∧
      gatesOf (queueDeps "main" "abc" "mergeable" "clean" "fail") = (some .eligible, some []) := by
  decide +kernel

end AgentPipeline.MergeQueue
