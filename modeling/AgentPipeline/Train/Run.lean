import AgentPipeline.Foundation.Effect
import AgentPipeline.Foundation.JsonText
import AgentPipeline.Train.WorkList

/-!
# Run: one live run of a train

`runTrain` advances the issues of a work list in waves and, in merge mode, merges what is ready. Every answer of a
dependency may depend on all calls before it. Log lines, run events, observations that are reported and the
release of worktrees are left out: nothing is decided by them.

* `TrainDeps`, `TrainEvent`, `World`: the dependencies, their calls, and the sets of a run;
* `reconcileMergedPrIntegration`, `mergeReadyToDeployItem`: how an issue becomes integrated;
* `wave`, `runTrain`: the loop.
-/

namespace AgentPipeline.Train

open Loop (RawContractItem)

/-! ## Records -/

inductive TrainItemTerminal where
  | readyToDeploy | needsHuman | blocked | alreadyIntegrated | error | parked | dependencySkipped
deriving DecidableEq, Repr

inductive TrainNextAction where
  | resolveWorkList | advance | merge | waitForBase | nextItem | complete | stopped
deriving DecidableEq, Repr

structure TrainItemResult where
  issue : Nat
  pr : Option Nat
  terminal : TrainItemTerminal
  mergeResultOid : Option String
  integrated : Bool
  error : Option String := none
deriving DecidableEq, Repr

inductive PrState where
  | opened | closed | merged
deriving DecidableEq, Repr

def PrState.name : PrState → String
  | .opened => "open"
  | .closed => "closed"
  | .merged => "merged"

structure PrObservation where
  state : PrState
  mergeCommitOid : Option String
  headRefOid : Option String
deriving DecidableEq, Repr

inductive AdvanceTerminal where
  | readyToDeploy | needsHuman | blocked | other
deriving DecidableEq, Repr

def AdvanceTerminal.name : AdvanceTerminal → String
  | .readyToDeploy => "ready-to-deploy"
  | .needsHuman => "needs-human"
  | .blocked => "blocked"
  | .other => "other"

inductive AdvanceOutcome where
  | ok (terminal : AdvanceTerminal) (labels : List String) (diagnostic : Option String)
  | failed (error : String)
deriving DecidableEq, Repr

structure AdmissionFailure where
  kind : String
  diagnostic : String
deriving DecidableEq, Repr

/-- Why a run stopped. -/
inductive TrainBlocker where
  | rootUnavailable
  | admissionRefused (failure : AdmissionFailure)
  | mergeStopped (blocker : String)
  | independenceUnproven (issue : Nat) (held : List Nat)
  | allHeld (reasons : List String)
  | noFrontier (waitingOn : List String)
  | mergeFirstViolated (issue : Nat) (opened : List Nat)
  | waveFailed (message : String)
  | outcomeOmitted (issue : Nat)
  | heldUnfinished (reasons : List String)
  | held (reasons : List String)
  | notFinished (maxWaves : Nat)
deriving DecidableEq, Repr

/-- `#${n}`, for each of a list. -/
def issueRefs (issues : List Nat) : String := ", ".intercalate (issues.map fun n => "#" ++ toString n)

def TrainBlocker.text : TrainBlocker → String
  | .rootUnavailable => "train merge admission refused: approved persist root is unavailable"
  | .admissionRefused failure =>
    "train merge admission refused (" ++ failure.kind ++ "): " ++ failure.diagnostic
  | .mergeStopped blocker => blocker
  | .independenceUnproven issue heldIssues => "cannot merge #" ++ toString issue ++
      ": independence from held item(s) " ++ issueRefs heldIssues ++ " is unproven"
  | .allHeld reasons => "all remaining work held: " ++ ", ".intercalate reasons
  | .noFrontier waitingOn => "no base-eligible frontier; " ++ "; ".intercalate waitingOn
  | .mergeFirstViolated issue opened => "merge-first violated: would implement #" ++ toString issue ++
      " while ready-to-deploy " ++ issueRefs opened ++ " still has an open mergeable PR"
  | .waveFailed message => "advance wave failed: " ++ message
  | .outcomeOmitted issue => "advance wave omitted outcome for #" ++ toString issue
  | .heldUnfinished reasons => "held items remain with unfinished work: " ++ "; ".intercalate reasons
  | .held reasons => "held: " ++ "; ".intercalate reasons
  | .notFinished maxWaves => "train did not finish all items after " ++ toString maxWaves ++ " waves"

structure TrainStatus where
  orderedIssues : List Nat
  currentIssue : Option Nat
  currentIndex : Nat
  nextAction : TrainNextAction
  mergeMode : Bool
  items : List TrainItemResult
  blocker : Option TrainBlocker
  complete : Bool

structure TrainResult where
  exitCode : Nat
  status : TrainStatus

/-! ## The state of a run and its dependencies -/

/-- The mutable variables of a run; `byNumber` is a map. -/
structure TrainState where
  items : List TrainItemResult := []
  finished : List Nat := []
  held : List Nat := []
  integrated : List Nat := []
  byNumber : Nat → Option TrainIssueSnapshot := fun _ => none
  currentIssue : Option Nat := none
  currentIndex : Nat := 0
  nextAction : TrainNextAction := .advance

/-- A call of a dependency and its answer; an error is what it threw. -/
inductive TrainEvent where
  | getIssue (issue : Nat) (answer : TrainIssueSnapshot)
  | listMilestoneIssues (milestone : String) (answer : List TrainIssueSnapshot)
  | controlRoot (answer : String)
  | trainAdmission (refusal : Option AdmissionFailure)
  | mergeAdmission (issue pr : Nat) (refusal : Option AdmissionFailure)
  | getPrForIssue (issue : Nat) (answer : Option Nat)
  | getPrForIssueAnyState (issue : Nat) (answer : Option Nat)
  | observePr (pr : Nat) (answer : PrObservation)
  | mergeIssuePr (issue pr : Nat) (answer : Except String Unit)
  | fetchBase (base : String) (returned : Bool)
  | baseTip (base : String) (answer : String)
  | isAncestor (ancestor descendant : String) (answer : Bool)
  | advanceWave (issues : List Nat) (answer : Except String (List (Nat × AdvanceOutcome)))

/-- A call, with the variables of the run when it was made. -/
structure TrainStep where
  st : TrainState
  event : TrainEvent

structure World where
  trace : List TrainStep := []
  st : TrainState := {}

/-- The dependencies, as functions of the calls before. `advanceWave` is the injected one, or the adapter of
`advanceIssue`; a control root that is unavailable is empty. -/
structure TrainDeps where
  discoverDeps : Loop.WorkListDependencyDiscoverDeps
  isFactoryControlCheckout : Bool
  listMilestoneIssues : List TrainEvent → String → List TrainIssueSnapshot
  getIssue : List TrainEvent → Nat → TrainIssueSnapshot
  resolveApprovedControlRoot : List TrainEvent → String
  persistTrainAdmission : List TrainEvent → Option AdmissionFailure
  persistMergeAdmission : List TrainEvent → Nat → Nat → Option AdmissionFailure
  getPrForIssue : List TrainEvent → Nat → Option Nat
  getPrForIssueAnyState : List TrainEvent → Nat → Option Nat
  observePr : List TrainEvent → Nat → PrObservation
  mergeIssuePr : List TrainEvent → Nat → Except String Unit
  fetchBase : List TrainEvent → String → Bool
  baseTip : List TrainEvent → String → String
  isAncestor : List TrainEvent → String → String → Bool
  advanceWave : List TrainEvent → List Nat → Except String (List (Nat × AdvanceOutcome))

structure TrainOpts where
  issues : List Nat
  milestone : String
  merge : Bool
  baseBranch : String
  skipAdvanceIfReady : Bool

abbrev TrainM (α : Type) := Effect World String α

/-- A call whose answer is recorded. -/
def ask {α : Type} (answer : List TrainEvent → α) (event : α → TrainEvent) : TrainM α :=
  Effect.call fun w => (.ok (answer (w.trace.map (·.event))),
    { w with trace := w.trace ++ [⟨w.st, event (answer (w.trace.map (·.event)))⟩] })

def getState : TrainM TrainState := Effect.call fun w => (.ok w.st, w)

def setState (st : TrainState) : TrainM Unit := Effect.call fun w => (.ok (), { w with st := st })

/-- `set.add(n)`. -/
def addTo (set : List Nat) (n : Nat) : List Nat := if n ∈ set then set else set ++ [n]

/-- `byNumber.set(issue, snapshot)`. -/
def TrainState.setSnapshot (st : TrainState) (issue : Nat) (s : TrainIssueSnapshot) : TrainState :=
  { st with byNumber := Function.update st.byNumber issue (some s) }

/-- The stage of the snapshot of an issue. -/
def TrainState.stageOf (st : TrainState) (issue : Nat) : Option Stage :=
  (st.byNumber issue).bind fun s => pipelineStageFromLabels s.labels

def TrainState.pushItem (st : TrainState) (item : TrainItemResult) : TrainState :=
  { st with items := st.items ++ [item] }

/-- `markFinished(issue, item)`. -/
def TrainState.markFinished (st : TrainState) (item : TrainItemResult) : TrainState :=
  { st.pushItem item with
    finished := addTo st.finished item.issue
    integrated := if item.integrated then addTo st.integrated item.issue else st.integrated }

/-- `held.add(issue)` and `pushItem(item)`. -/
def TrainState.markHeld (st : TrainState) (item : TrainItemResult) : TrainState :=
  { st.pushItem item with held := addTo st.held item.issue }

section Calls

variable (deps : TrainDeps)

/-! ## Containment -/

structure ProveMergeResultInput where
  issue : Nat
  pr : Nat
  base : String
  mergeResultOid : String
  worktreeHead : String

/-- `OID_RE`, a text of 40 lower-case hex digits. -/
def isOid (text : String) : Bool :=
  text.toList.length = 40 && text.toList.all fun c => c.isDigit || ('a' ≤ c && c ≤ 'f')

/-- A proof that a merge result is contained in a base; only `createVerifiedMergeProof` makes one. -/
structure VerifiedMergeProof where
  issue : Nat
  pr : Nat
  base : String
  mergeResultOid : String
  worktreeHead : String
  issuePositive : 0 < issue
  prPositive : 0 < pr
  baseNonEmpty : base ≠ ""
  isOidMergeResult : isOid mergeResultOid = true
  isOidWorktreeHead : isOid worktreeHead = true

/-- `text.trim().toLowerCase()` of a text that is tested against `OID_RE` next. -/
def oidText (text : String) : String := (JsText.trim text).map Char.toLower

/-- `createVerifiedMergeProof(input)`; `none` is a throw. -/
def createVerifiedMergeProof (input : ProveMergeResultInput) : Option VerifiedMergeProof :=
  if h : 0 < input.issue ∧ 0 < input.pr ∧ JsText.trim input.base ≠ "" ∧
      isOid (oidText input.mergeResultOid) = true ∧ isOid (oidText input.worktreeHead) = true then
    some
      { issue := input.issue, pr := input.pr, base := JsText.trim input.base
        mergeResultOid := oidText input.mergeResultOid, worktreeHead := oidText input.worktreeHead
        issuePositive := h.1, prPositive := h.2.1, baseNonEmpty := h.2.2.1
        isOidMergeResult := h.2.2.2.1, isOidWorktreeHead := h.2.2.2.2 }
  else none

def proveMergeResultInBase (input : ProveMergeResultInput) : TrainM (Option VerifiedMergeProof) := do
  let returned ← ask (deps.fetchBase · input.base) (.fetchBase input.base)
  if returned = false then pure none
  else do
    let tip ← ask (deps.baseTip · input.base) (.baseTip input.base)
    if tip = "" then pure none
    else do
      let contained ← ask (deps.isAncestor · input.mergeResultOid tip) (.isAncestor input.mergeResultOid tip)
      pure (if contained then createVerifiedMergeProof input else none)

def proofInput (issue pr : Nat) (base oid : String) (obs : PrObservation) : ProveMergeResultInput where
  issue := issue
  pr := pr
  base := base
  mergeResultOid := oid
  worktreeHead := obs.headRefOid.getD ""

inductive IntegratedReconcileResult where
  | notMerged
  | integrated (mergeCommitOid : Option String) (verifiedMergeProof : Option VerifiedMergeProof)
  | containmentFailed (mergeCommitOid tip : String)

def observePr (pr : Nat) : TrainM PrObservation := ask (deps.observePr · pr) (.observePr pr)

/-- `reconcileMergedPrIntegration(issue, pr, baseBranch, deps)`. -/
def reconcileMergedPrIntegration (issue pr : Nat) (base : String) : TrainM IntegratedReconcileResult := do
  let obs ← observePr deps pr
  if obs.state ≠ .merged then pure .notMerged
  else
    match obs.mergeCommitOid.filter (· ≠ "") with
    -- a merged PR without an observable merge commit counts as integrated
    | none => pure (.integrated none none)
    | some oid => do
        match ← proveMergeResultInBase deps (proofInput issue pr base oid obs) with
        | some proof => pure (.integrated (some oid) (some proof))
        | none => do
            let tip ← ask (deps.baseTip · base) (.baseTip base)
            pure (.containmentFailed oid tip)

/-! ## Merging one issue -/

inductive MergeReadyToDeployResult where
  | integrated (pr : Nat) (mergeCommitOid : Option String) (already attempted : Bool)
      (verifiedMergeProof : Option VerifiedMergeProof)
  | stop (blocker : String) (pr : Option Nat) (mergeCommitOid : Option String) (attempted : Bool)
  | hold (blocker : String) (pr : Option Nat) (mergeCommitOid : Option String) (attempted : Bool)

def notContainedText (oid : String) (issue pr : Nat) (base tip : String) : String :=
  "merge result " ++ oid ++ " for #" ++ toString issue ++ " PR #" ++ toString pr ++
    " is not contained in fetched " ++ base ++ " tip " ++ tip

/-- The proof that the observed merge is contained. -/
def proveObservedMerge (issue pr : Nat) (base : String) (obs : PrObservation) (attempted : Bool) :
    TrainM MergeReadyToDeployResult :=
  match obs.mergeCommitOid.filter fun oid => obs.state = .merged && oid ≠ "" with
  | none => pure (.hold ("PR #" ++ toString pr ++ " for #" ++ toString issue ++
      " is not merged with an observable merge commit (state=" ++ obs.state.name ++ ", mergeCommit=" ++
      obs.mergeCommitOid.getD "null" ++ ")") (some pr) obs.mergeCommitOid attempted)
  | some oid => do
      match ← proveMergeResultInBase deps (proofInput issue pr base oid obs) with
      | some proof => pure (.integrated pr (some oid) (!attempted) attempted (some proof))
      | none => do
          let tip ← ask (deps.baseTip · base) (.baseTip base)
          pure (.hold (notContainedText oid issue pr base tip) (some pr) (some oid) attempted)

def missingPr (issue : Nat) : MergeReadyToDeployResult :=
  .hold ("issue #" ++ toString issue ++ " is ready-to-deploy but has no linked open PR") none none false

/-- An issue whose open PR is gone. -/
def mergeWithoutOpenPr (issue : Nat) (base : String) : TrainM MergeReadyToDeployResult := do
  match ← ask (deps.getPrForIssueAnyState · issue) (.getPrForIssueAnyState issue) with
  | none => pure (missingPr issue)
  | some anyPr =>
    match ← reconcileMergedPrIntegration deps issue anyPr base with
    | .integrated oid proof => pure (.integrated anyPr oid true false proof)
    | .containmentFailed oid tip =>
      pure (.hold (notContainedText oid issue anyPr base tip) (some anyPr) (some oid) false)
    | .notMerged => pure (missingPr issue)

/-- The merge of an open PR, and what it left. -/
def mergeOpenPr (issue pr : Nat) (base : String) : TrainM MergeReadyToDeployResult := do
  match ← ask (deps.mergeIssuePr · pr) (.mergeIssuePr issue pr) with
  | .ok () => do
      let obs ← observePr deps pr
      proveObservedMerge deps issue pr base obs true
  | .error message => do
      let obs ← observePr deps pr
      if obs.state = .merged then do
        -- the merge went through although the call failed
        let obs ← observePr deps pr
        proveObservedMerge deps issue pr base obs true
      else pure (.hold ("merge failed for #" ++ toString issue ++ " PR #" ++ toString pr ++ ": " ++ message)
        (some pr) obs.mergeCommitOid true)

/-- `mergeReadyToDeployItem(issue, baseBranch, deps)`. -/
def mergeReadyToDeployItem (issue : Nat) (base : String) : TrainM MergeReadyToDeployResult := do
  match ← ask (deps.getPrForIssue · issue) (.getPrForIssue issue) with
  | none => mergeWithoutOpenPr deps issue base
  | some pr => do
      let obs ← observePr deps pr
      if obs.state = .merged then proveObservedMerge deps issue pr base obs false
      else do
        match ← ask (deps.persistMergeAdmission · issue pr) (.mergeAdmission issue pr) with
        | some failure => pure (.hold ("nested merge admission refused (" ++ failure.kind ++ "): " ++
            failure.diagnostic) (some pr) obs.mergeCommitOid false)
        | none => mergeOpenPr deps issue pr base

end Calls

/-! ## The loop -/

section Loop

variable (deps : TrainDeps) (opts : TrainOpts) (ordered : List Nat) (codeDeps : List (Nat × List Nat))

/-- `status()`. -/
def statusOf (st : TrainState) (blocker : Option TrainBlocker) : TrainStatus where
  orderedIssues := ordered
  currentIssue := st.currentIssue
  currentIndex := st.currentIndex
  nextAction := st.nextAction
  mergeMode := opts.merge
  items := st.items
  blocker := blocker
  complete := blocker.isNone && (ordered.all fun n => st.finished.contains n || st.integrated.contains n) &&
    st.held.isEmpty

/-- The end of a run that is blocked. -/
def stopWith (blocker : TrainBlocker) : TrainM TrainResult := do
  let st ← getState
  setState { st with nextAction := .stopped }
  pure { exitCode := 1, status := statusOf opts ordered { st with nextAction := .stopped } (some blocker) }

/-- The issue that the run deals with now. -/
def TrainState.moved (st : TrainState) (issue : Nat) (nextAction : TrainNextAction) : TrainState :=
  { st with currentIssue := some issue, currentIndex := ordered.idxOf issue, nextAction := nextAction }

def moveTo (issue : Nat) (nextAction : TrainNextAction) : TrainM Unit := do
  let st ← getState
  setState (st.moved ordered issue nextAction)

def getPrForIssue (issue : Nat) : TrainM (Option Nat) := ask (deps.getPrForIssue · issue) (.getPrForIssue issue)

def skippedItem (n : Nat) (pr : Option Nat) (ancestors : List Nat) : TrainItemResult where
  issue := n
  pr := pr
  terminal := .dependencySkipped
  mergeResultOid := none
  integrated := false
  error := some ("dependency-skipped: #" ++ toString n ++ " depends on held " ++ issueRefs ancestors)

/-- One turn of `skipDependentsOfHeld()`; the issue is held before its PR is looked up. -/
def skipDependent (n : Nat) : TrainM Unit := do
  let st ← getState
  if n ∈ st.finished ∨ n ∈ st.held ∨ n ∈ st.items.map (·.issue) then pure ()
  else if isIndependentOfHeld n st.held codeDeps = true then pure ()
  else do
    let ancestors := st.held.filter fun h => !isIndependentOfHeld n [h] codeDeps
    setState { st with held := addTo st.held n }
    let pr ← getPrForIssue deps n
    setState ({ st with held := addTo st.held n }.pushItem (skippedItem n pr ancestors))

def skipDependentsOfHeld : TrainM Unit := Effect.each (fun () n => skipDependent deps codeDeps n) ordered ()

def holdContainedItem (item : TrainItemResult) : TrainM Unit := do
  let st ← getState
  setState (st.markHeld item)
  skipDependentsOfHeld deps ordered codeDeps

/-- The item of a snapshot that is parked before the run. -/
def parkedItem (s : TrainIssueSnapshot) : TrainItemResult :=
  let needsHuman : Bool := pipelineStageFromLabels s.labels = some .needsHuman
  { issue := s.number, pr := none, terminal := if needsHuman then .needsHuman else .blocked
    mergeResultOid := none, integrated := false
    error := some (if needsHuman then "issue #" ++ toString s.number ++ " parked at pipeline:needs-human"
      else "issue #" ++ toString s.number ++ " is blocked") }

/-- The issues that are held from the start. -/
def holdParked (snapshots : List TrainIssueSnapshot) : TrainM Unit := do
  Effect.each (fun () s => if isBlockedOrNeedsHumanSnapshot s then do
      let st ← getState
      setState (st.markHeld (parkedItem s))
    else pure ()) snapshots ()
  skipDependentsOfHeld deps ordered codeDeps

/-! ### Merging -/

def heldItem (issue : Nat) (pr : Option Nat) (oid : Option String) (error : String) : TrainItemResult where
  issue := issue
  pr := pr
  terminal := .error
  mergeResultOid := oid
  integrated := false
  error := some error

/-- What is done with the result of `mergeReadyToDeployItem`. -/
def applyMergeReady (issue : Nat) : MergeReadyToDeployResult → TrainM (Option TrainResult)
  | .hold blocker pr oid _ => do
      holdContainedItem deps ordered codeDeps (heldItem issue pr oid blocker)
      pure none
  | .stop blocker pr oid _ => do
      let st ← getState
      setState (st.pushItem
        { issue := issue, pr := pr, terminal := .readyToDeploy, mergeResultOid := oid, integrated := false
          error := some blocker })
      let result ← stopWith opts ordered (.mergeStopped blocker)
      pure (some result)
  | .integrated pr oid already _ _ => do
      let st ← getState
      setState { st.markFinished
        { issue := issue, pr := some pr, terminal := if already then .alreadyIntegrated else .readyToDeploy
          mergeResultOid := oid, integrated := true } with nextAction := .nextItem }
      pure none

/-- `byNumber.get(issue) ?? (await deps.getIssue(issue))`, which is set again. -/
def snapshotFor (issue : Nat) : TrainM TrainIssueSnapshot := do
  let st ← getState
  match st.byNumber issue with
  | some s => pure s
  | none => do
      let s ← ask (deps.getIssue · issue) (.getIssue issue)
      setState (st.setSnapshot issue s)
      pure s

/-- One turn of `mergeReadyCandidates(candidates)`. -/
def mergeReadyCandidate (issue : Nat) : TrainM (Option TrainResult) := do
  let st ← getState
  if issue ∈ st.finished ∨ issue ∈ st.held ∨ issue ∈ st.integrated then pure none
  else do
    let s ← snapshotFor deps issue
    if pipelineStageFromLabels s.labels ≠ some .readyToDeploy then pure none
    else if st.held ≠ [] ∧ isIndependentOfHeld issue st.held codeDeps = false then do
      let result ← stopWith opts ordered (.independenceUnproven issue st.held)
      pure (some result)
    else do
      moveTo ordered issue .merge
      let merged ← mergeReadyToDeployItem deps issue opts.baseBranch
      applyMergeReady deps opts ordered codeDeps issue merged

/-- A loop that a result ends. -/
def untilStop (turn : Nat → TrainM (Option TrainResult)) : List Nat → TrainM (Option TrainResult)
  | [] => pure none
  | n :: rest => do
      match ← turn n with
      | some result => pure (some result)
      | none => untilStop turn rest

def mergeReadyCandidates (candidates : List Nat) : TrainM (Option TrainResult) :=
  untilStop (mergeReadyCandidate deps opts ordered codeDeps) candidates

/-- One turn of `openReadyToDeployPrs()`. -/
def openReadyToDeployPr (opened : List Nat) (issue : Nat) : TrainM (List Nat) := do
  let st ← getState
  if issue ∈ st.finished ∨ issue ∈ st.held ∨ issue ∈ st.integrated then pure opened
  else if st.stageOf issue ≠ some .readyToDeploy then pure opened
  else do
    match ← getPrForIssue deps issue with
    | none => pure opened
    | some pr => do
        let obs ← observePr deps pr
        pure (if obs.state = .opened then opened ++ [issue] else opened)

/-- `openReadyToDeployPrs()`, asked for in merge mode. -/
def openBeforeAdvance : TrainM (List Nat) :=
  if opts.merge then Effect.each (openReadyToDeployPr deps) ordered [] else pure []

/-! ### One wave -/

/-- The labels of an unfinished issue are read again. -/
def refreshIssue (n : Nat) : TrainM Unit := do
  let st ← getState
  if n ∈ st.finished ∨ n ∈ st.held then pure ()
  else do
    let s ← ask (deps.getIssue · n) (.getIssue n)
    setState (st.setSnapshot n s)

/-- The PR of an issue that may already be integrated. -/
def linkedPr (issue : Nat) (stage : Option Stage) : TrainM (Option Nat) := do
  match ← getPrForIssue deps issue with
  | some pr => pure (some pr)
  | none =>
    if stage = some .readyToDeploy then
      ask (deps.getPrForIssueAnyState · issue) (.getPrForIssueAnyState issue)
    else pure none

/-- What is done with the result of `reconcileMergedPrIntegration` at the start of a wave. -/
def applyReconcile (issue pr : Nat) : IntegratedReconcileResult → TrainM Unit
  | .integrated oid _ => do
      let st ← getState
      setState (st.markFinished
        { issue := issue, pr := some pr, terminal := .alreadyIntegrated, mergeResultOid := oid
          integrated := true })
  | .containmentFailed oid tip =>
    holdContainedItem deps ordered codeDeps
      (heldItem issue (some pr) (some oid) (notContainedText oid issue pr opts.baseBranch tip))
  | .notMerged => pure ()

/-- One turn of the reconciliation at the start of a wave. -/
def reconcileIssue (issue : Nat) : TrainM Unit := do
  let st ← getState
  if issue ∈ st.finished ∨ issue ∈ st.held ∨ issue ∈ st.integrated then pure ()
  else do
    match ← linkedPr deps issue (st.stageOf issue) with
    | none => pure ()
    | some pr => do
        let recon ← reconcileMergedPrIntegration deps issue pr opts.baseBranch
        applyReconcile deps opts ordered codeDeps issue pr recon

/-- How an advanced issue that did not reach `ready-to-deploy` is held, and why. -/
def parkOf (issue : Nat) (terminal : AdvanceTerminal) (labels : List String) (diagnostic : Option String) :
    Option (TrainItemTerminal × String) :=
  let stage := (pipelineStageFromLabels labels).or
    (if terminal = .readyToDeploy then some .readyToDeploy else none)
  if terminal = .needsHuman ∨ stage = some .needsHuman then
    some (.needsHuman, diagnostic.getD ("issue #" ++ toString issue ++ " parked at pipeline:needs-human"))
  else if terminal = .blocked ∨ "blocked" ∈ labels then
    some (.blocked, diagnostic.getD ("issue #" ++ toString issue ++ " is blocked"))
  else if stage ≠ some .readyToDeploy ∧ terminal ≠ .readyToDeploy then
    some (.error, diagnostic.getD ("issue #" ++ toString issue ++ " did not reach ready-to-deploy (stage=" ++
      ((stage.map (·.name)).getD terminal.name) ++ ")"))
  else none

/-- The labels of an issue after its advance. -/
def TrainState.setLabels (st : TrainState) (issue : Nat) (labels : List String) : TrainState :=
  st.setSnapshot issue { (st.byNumber issue).getD ⟨issue, [], false⟩ with labels := labels }

/-- An issue that is held with its PR. -/
def holdAdvanced (issue : Nat) (terminal : TrainItemTerminal) (error : String) : TrainM Unit := do
  let pr ← getPrForIssue deps issue
  holdContainedItem deps ordered codeDeps
    { issue := issue, pr := pr, terminal := terminal, mergeResultOid := none, integrated := false
      error := some error }

/-- An issue that is ready without being merged. -/
def finishReady (issue : Nat) : TrainM Unit := do
  let pr ← getPrForIssue deps issue
  let st ← getState
  setState (st.markFinished
    { issue := issue, pr := pr, terminal := .readyToDeploy, mergeResultOid := none, integrated := false })

/-- An issue that was advanced. -/
def settleAdvanced (issue : Nat) (terminal : AdvanceTerminal) (labels : List String)
    (diagnostic : Option String) : TrainM Unit := do
  let st ← getState
  setState (st.setLabels issue labels)
  match parkOf issue terminal labels diagnostic with
  | some (park, error) => holdAdvanced deps ordered codeDeps issue park error
  | none =>
    if opts.merge = false then finishReady deps issue
    else setState (st.setLabels issue
      (if labels.contains Stage.readyToDeploy.label then labels else [Stage.readyToDeploy.label]))

/-- One turn of the loop over the outcomes of a wave. -/
def settleOutcome (outcomes : List (Nat × AdvanceOutcome)) (issue : Nat) : TrainM (Option TrainResult) := do
  match outcomes.lookup issue with
  | none => do
      let result ← stopWith opts ordered (.outcomeOmitted issue)
      pure (some result)
  | some (.failed error) => do
      holdAdvanced deps ordered codeDeps issue .error error
      pure none
  | some (.ok terminal labels diagnostic) => do
      settleAdvanced deps opts ordered codeDeps issue terminal labels diagnostic
      pure none

/-- The call of `advanceWave` and its outcomes. -/
def advance (toAdvance : List Nat) : TrainM (Option TrainResult) := do
  match ← ask (deps.advanceWave · toAdvance) (.advanceWave toAdvance) with
  | .error message => do
      let result ← stopWith opts ordered (.waveFailed message)
      pure (some result)
  | .ok outcomes => untilStop (settleOutcome deps opts ordered codeDeps outcomes) toAdvance

inductive WaveEnd where
  | stop (result : TrainResult)
  | complete
  | next

/-- `#n (error)`, for the held issues of a state. -/
def heldReasons (st : TrainState) (before after : String) : List String :=
  st.held.map fun n => "#" ++ toString n ++
    ((((st.items.reverse.find? (·.issue = n)).bind (·.error)).filter (· ≠ "")).map fun error =>
      before ++ error ++ after).getD ""

/-- A frontier without an issue. -/
def emptyFrontier : TrainM WaveEnd := do
  let st ← getState
  let remaining := ordered.filter fun n => !st.finished.contains n && !st.held.contains n
  if remaining = [] then
    if st.held ≠ [] then do
      let result ← stopWith opts ordered (.allHeld (heldReasons st " (" ")"))
      pure (.stop result)
    else pure .complete
  else do
    let waitingOn := remaining.map fun n =>
      let prereqs := (prereqsOf codeDeps n).filter fun p => !st.integrated.contains p
      "#" ++ toString n ++ " waits on " ++
        (if prereqs = [] then "?" else ",".intercalate (prereqs.map fun p => "#" ++ toString p)) ++
        " (not integrated on base)"
    let result ← stopWith opts ordered (.noFrontier waitingOn)
    pure (.stop result)

/-- The issues of the frontier that are advanced. -/
def toAdvanceOf (st : TrainState) (frontier : List Nat) : List Nat :=
  let toAdvance := frontier.filter fun issue =>
    !(opts.skipAdvanceIfReady && decide (st.stageOf issue = some .readyToDeploy))
  if opts.merge then toAdvance.take 1 else toAdvance

/-- The advance wave of a frontier. -/
def advanceFrontier (frontier : List Nat) : TrainM (Option TrainResult) := do
  let st ← getState
  match toAdvanceOf opts st frontier with
  | [] =>
    -- the entire frontier is ready
    if opts.merge = false then do
      Effect.each (fun () issue => do
        let st ← getState
        if issue ∈ st.finished then pure () else finishReady deps issue) frontier ()
      pure none
    else pure none
  | first :: rest => do
      let opened ← openBeforeAdvance deps opts ordered
      if opened ≠ [] then do
        let result ← stopWith opts ordered (.mergeFirstViolated first opened)
        pure (some result)
      else do
        moveTo ordered first .advance
        advance deps opts ordered codeDeps (first :: rest)

/-- The reconciliation and the merges before any advance. -/
def prelude : TrainM (Option TrainResult) :=
  if opts.merge then do
    Effect.each (fun () n => reconcileIssue deps opts ordered codeDeps n) ordered ()
    mergeReadyCandidates deps opts ordered codeDeps ordered
  else pure none

/-- The merge wave of what became ready. -/
def mergeWave (frontier : List Nat) : TrainM (Option TrainResult) :=
  if opts.merge then do
    let st ← getState
    setState { st with nextAction := .merge }
    mergeReadyCandidates deps opts ordered codeDeps frontier
  else pure none

def endOf : Option TrainResult → WaveEnd
  | some result => .stop result
  | none => .next

/-- One turn of the loop. -/
def wave : TrainM WaveEnd := do
  Effect.each (fun () n => refreshIssue deps n) ordered ()
  match ← prelude deps opts ordered codeDeps with
  | some result => pure (.stop result)
  | none => do
      let st ← getState
      let frontier := computeBaseEligibleFrontier ordered st.finished st.held st.integrated codeDeps
      if frontier = [] then emptyFrontier opts ordered codeDeps
      else do
        match ← advanceFrontier deps opts ordered codeDeps frontier with
        | some result => pure (.stop result)
        | none => do
            let stopped ← mergeWave deps opts ordered codeDeps frontier
            pure (endOf stopped)

/-- `for (let wave = 0; wave < maxWaves; wave++)`; `none` when the loop ends without a result. -/
def waves : Nat → TrainM (Option TrainResult)
  | 0 => pure none
  | fuel + 1 => do
      match ← wave deps opts ordered codeDeps with
      | .stop result => pure (some result)
      | .complete => pure none
      | .next => waves fuel

def maxWaves : Nat := ordered.length * 4 + 4

/-- What follows the loop. -/
def afterWaves : TrainM TrainResult := do
  let st ← getState
  if st.held ≠ [] then
    if ordered.all (fun n => st.finished.contains n || st.held.contains n) = false then
      stopWith opts ordered (.heldUnfinished (heldReasons st ": " ""))
    else stopWith opts ordered (.held (heldReasons st ": " ""))
  else if ordered.all (fun n => st.finished.contains n) = false then
    stopWith opts ordered (.notFinished (maxWaves ordered))
  else do
    setState { st with currentIssue := none, nextAction := .complete }
    pure
      { exitCode := 0
        status := statusOf opts ordered { st with currentIssue := none, nextAction := .complete } none }

/-- The root under which admissions are kept; a run that does not merge uses its own directory. -/
def controlRoot : TrainM String := if opts.merge then ask deps.resolveApprovedControlRoot .controlRoot else pure "."

/-- The refusal of the admission of a run that merges. -/
def trainAdmission : TrainM (Option AdmissionFailure) :=
  if opts.merge then ask deps.persistTrainAdmission .trainAdmission else pure none

/-- The issues that are held before the first wave. -/
def holdBeforeWaves (snapshots : List TrainIssueSnapshot) : TrainM Unit :=
  if opts.merge then holdParked deps ordered codeDeps snapshots else pure ()

/-- The waves and what follows them. -/
def runWaves (snapshots : List TrainIssueSnapshot) : TrainM TrainResult := do
  holdBeforeWaves deps opts ordered codeDeps snapshots
  match ← waves deps opts ordered codeDeps (maxWaves ordered) with
  | some result => pure result
  | none => afterWaves opts ordered

/-- The run of an ordered work list. -/
def runOrdered (snapshots : List TrainIssueSnapshot) : TrainM TrainResult := do
  setState { byNumber := snapshotOf snapshots, currentIssue := ordered.head? }
  let root ← controlRoot deps opts
  if root = "" then stopWith opts ordered .rootUnavailable
  else do
    match ← trainAdmission deps opts with
    | some failure => stopWith opts ordered (.admissionRefused failure)
    | none => runWaves deps opts ordered codeDeps snapshots

end Loop

/-! ## The run -/

/-- The snapshots of the issues or of the milestone. -/
def selectSnapshots (deps : TrainDeps) (opts : TrainOpts) : TrainM (List TrainIssueSnapshot) :=
  if opts.issues ≠ [] then
    Effect.each (fun snapshots n =>
      if n = 0 then Effect.fail ("invalid issue number " ++ toString n)
      else do
        let s ← ask (deps.getIssue · n) (.getIssue n)
        pure (snapshots ++ [s])) opts.issues []
  else if JsText.trim opts.milestone ≠ "" then do
    let listed ← ask (deps.listMilestoneIssues · (JsText.trim opts.milestone))
      (.listMilestoneIssues (JsText.trim opts.milestone))
    if listed.filter isFreezeEligibleIssue = [] then
      Effect.fail ("milestone " ++ String.ofList (JsonText.quote opts.milestone) ++ " has no freeze-eligible issues")
    else pure (listed.filter isFreezeEligibleIssue)
  else Effect.fail "pipeline train requires --issues <n,n,n> and/or --milestone <title>"

/-- An admitted work list: the snapshots, their order and their prerequisites. -/
structure Admitted where
  snapshots : List TrainIssueSnapshot
  items : List RawContractItem
  ordered : List Nat

/-- The work list of a run, or the error that is thrown. -/
def admitWork (rt : JsRuntime) (deps : TrainDeps) (opts : TrainOpts) : TrainM Admitted := do
  let selected ← selectSnapshots deps opts
  let snapshots := selected.filter fun s => pipelineStageFromLabels s.labels ≠ some .backlog
  if snapshots = [] then Effect.fail "work list has no eligible issues (all pipeline:backlog or empty)"
  else
    let issueIds := snapshots.map fun s => idOf s.number
    let discovery := Loop.discoverDeclaredDependencies rt issueIds deps.discoverDeps
    match Loop.assertDiscoveryCompleteForAdmission issueIds discovery deps.isFactoryControlCheckout with
    | .error e => Effect.fail e
    | .ok () =>
      match orderIssuesForTrain snapshots opts.merge discovery.items with
      | .error e => Effect.fail e
      | .ok ordered => pure { snapshots := snapshots, items := discovery.items, ordered := ordered }

/-- `runTrain(opts, deps)`, live. -/
def runTrain (rt : JsRuntime) (deps : TrainDeps) (opts : TrainOpts) : TrainM TrainResult := do
  let work ← admitWork rt deps opts
  runOrdered deps opts work.ordered (codeDependencyMap work.items) work.snapshots

end AgentPipeline.Train
