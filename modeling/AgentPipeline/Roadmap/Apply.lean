import AgentPipeline.Roadmap.Reconcile

/-!
# Apply: running a reviewed manifest against the tracker

* `Tracker`: the milestones and the open issues as the tracker has them;
* `executeAction`: one action, checked again against a local copy of the live state;
* `validateSemverApplyReady`, `applySemverReconciliation`: the gate, and the run that saves its progress after
  every action.

The run can be interrupted at each action: the call to the tracker can fail, or the process can stop once the
action is done and saved.
-/

namespace AgentPipeline.Roadmap

open List

/-! ## The tracker -/

structure TrackerIssue where
  number : Nat
  milestone : Option Nat
  /-- The time of the last update. -/
  stamp : Nat
deriving DecidableEq, Repr

structure Tracker where
  milestones : List MilestoneCatalogEntry
  issues : List TrackerIssue
  /-- The number of the next milestone. -/
  next : Nat
  clock : Nat
  numbered : (milestones.map (·.number)).Nodup
  fresh : ∀ m ∈ milestones, m.number < next
  listed : (issues.map (·.number)).Nodup
  placed : ∀ i ∈ issues, ∀ n ∈ i.milestone, n ∈ milestones.map (·.number)
  past : ∀ i ∈ issues, i.stamp < clock

namespace Tracker

def milestone? (t : Tracker) (number : Nat) : Option MilestoneCatalogEntry :=
  t.milestones.find? fun m => m.number = number

/-- How an issue is listed. -/
def snapshotIssue (stampText : Nat → String) (t : Tracker) (i : TrackerIssue) : IssueMilestoneSnapshot where
  number := i.number
  isOpen := true
  milestoneNumber := i.milestone
  milestoneTitle := (i.milestone.bind t.milestone?).map (·.title)
  updatedAt := some (stampText i.stamp)

/-- `loadLiveState(repo, shippedTitles)`. -/
def snapshot (stampText : Nat → String) (t : Tracker) (shippedTitles : List String) : ReconcileLiveState where
  milestones := t.milestones
  openIssues := t.issues.map (t.snapshotIssue stampText)
  shippedTitles

def createMilestone (t : Tracker) (title description : String) : Tracker where
  milestones := t.milestones ++ [⟨t.next, title, .open, description, 0, 0⟩]
  issues := t.issues
  next := t.next + 1
  clock := t.clock
  numbered := by
    rw [map_append, nodup_append]
    refine ⟨t.numbered, by simp, fun a ha b hb => ?_⟩
    obtain ⟨m, hm, rfl⟩ := mem_map.1 ha
    obtain rfl : b = t.next := by simpa using hb
    exact Nat.ne_of_lt (t.fresh m hm)
  fresh := by
    intro m hm
    rcases mem_append.1 hm with hm | hm
    · exact Nat.lt_succ_of_lt (t.fresh m hm)
    · rw [mem_singleton.1 hm]
      exact Nat.lt_succ_self _
  listed := t.listed
  placed := by
    intro i hi n hn
    rw [map_append]
    exact mem_append_left _ (t.placed i hi n hn)
  past := t.past

/-- Change one milestone, but not its number. -/
def editMilestone (t : Tracker) (number : Nat) (edit : MilestoneCatalogEntry → MilestoneCatalogEntry)
    (hedit : ∀ m, (edit m).number = m.number) : Tracker where
  milestones := t.milestones.map fun m => if m.number = number then edit m else m
  issues := t.issues
  next := t.next
  clock := t.clock
  numbered := by
    have hnumbers : ∀ m : MilestoneCatalogEntry, (if m.number = number then edit m else m).number = m.number := by
      intro m
      split
      · exact hedit m
      · rfl
    rw [map_map]
    simpa only [Function.comp_def, hnumbers] using t.numbered
  fresh := by
    intro m hm
    obtain ⟨m', hm', rfl⟩ := mem_map.1 hm
    split
    · rw [hedit]
      exact t.fresh m' hm'
    · exact t.fresh m' hm'
  listed := t.listed
  placed := by
    intro i hi n hn
    obtain ⟨m, hm, rfl⟩ := mem_map.1 (t.placed i hi n hn)
    refine mem_map.2 ⟨_, mem_map_of_mem hm, ?_⟩
    split
    · exact hedit m
    · rfl
  past := t.past

def reopenMilestone (t : Tracker) (number : Nat) : Tracker :=
  t.editMilestone number (fun m => { m with state := .open }) fun _ => rfl

def updateMilestone (t : Tracker) (number : Nat) (title description : Option String) : Tracker :=
  t.editMilestone number
    (fun m => { m with title := title.getD m.title, description := description.getD m.description }) fun _ => rfl

/-- Count one open issue more, or one less. -/
def countIssue (t : Tracker) (number : Nat) (count : Nat → Nat) : Tracker :=
  t.editMilestone number (fun m => { m with openIssues := count m.openIssues }) fun _ => rfl

/-- Put an issue on a milestone, or on none; the update is stamped. -/
def placeIssue (t : Tracker) (issueNumber : Nat) (milestone : Option Nat)
    (hplaced : ∀ n ∈ milestone, n ∈ t.milestones.map (·.number)) : Tracker where
  milestones := t.milestones
  issues := t.issues.map fun i => if i.number = issueNumber then ⟨i.number, milestone, t.clock⟩ else i
  next := t.next
  clock := t.clock + 1
  numbered := t.numbered
  fresh := t.fresh
  listed := by
    have hnumbers : ∀ i : TrackerIssue,
        (if i.number = issueNumber then (⟨i.number, milestone, t.clock⟩ : TrackerIssue) else i).number = i.number := by
      intro i
      split <;> rfl
    rw [map_map]
    simpa only [Function.comp_def, hnumbers] using t.listed
  placed := by
    intro i hi n hn
    obtain ⟨i', hi', rfl⟩ := mem_map.1 hi
    split at hn
    · exact hplaced n hn
    · exact t.placed i' hi' n hn
  past := by
    intro i hi
    obtain ⟨i', hi', rfl⟩ := mem_map.1 hi
    split
    · exact Nat.lt_succ_self _
    · exact Nat.lt_succ_of_lt (t.past i' hi')

def issue? (t : Tracker) (issueNumber : Nat) : Option TrackerIssue :=
  t.issues.find? fun i => i.number = issueNumber

/-- The issue leaves the count of its milestone. -/
def uncount (t : Tracker) (issueNumber : Nat) : Tracker :=
  match (t.issue? issueNumber).bind (·.milestone) with
  | none => t
  | some number => t.countIssue number (· - 1)

def clearIssueMilestone (t : Tracker) (issueNumber : Nat) : Tracker :=
  (t.uncount issueNumber).placeIssue issueNumber none (by simp)

/-- Assign by title: an open milestone with that title is picked, and there has to be one. -/
def assignIssueMilestone (t : Tracker) (issueNumber : Nat) (title : String) : Except String Tracker :=
  match hfind : (t.uncount issueNumber).milestones.find? fun m => m.title = title && m.state = .open with
  | none => .error ("'" ++ title ++ "' not found")
  | some m =>
    let placed := (t.uncount issueNumber).placeIssue issueNumber (some m.number) fun n hn => by
      obtain rfl : m.number = n := by simpa using hn
      exact mem_map_of_mem (mem_of_find?_eq_some hfind)
    .ok (placed.countIssue m.number (· + 1))

end Tracker

/-! ## One action -/

/-- What a run works on: the tracker, the local copy of the live state, and the numbers of titles. -/
structure Desk where
  tracker : Tracker
  live : ReconcileLiveState
  titleToNumber : List (String × Nat)

structure ActionResult where
  mutated : Bool
  milestoneNumber : Option Nat
deriving DecidableEq, Repr

namespace Desk

def localMilestone? (d : Desk) (number : Nat) : Option MilestoneCatalogEntry :=
  d.live.milestones.find? fun m => m.number = number

/-- Change the local entry of a number. -/
def editLocal (d : Desk) (number : Nat) (edit : MilestoneCatalogEntry → MilestoneCatalogEntry) : Desk :=
  { d with live := { d.live with milestones := d.live.milestones.map fun m =>
      if m.number = number then edit m else m } }

def editLocalIssue (d : Desk) (issueNumber : Nat) (edit : IssueMilestoneSnapshot → IssueMilestoneSnapshot) :
    Desk :=
  { d with live := { d.live with openIssues := d.live.openIssues.map fun i =>
      if i.number = issueNumber then edit i else i } }

end Desk

def executeCreate (d : Desk) (action : ReconciliationAction) : Except String (ActionResult × Desk) :=
  let title := action.milestoneTitle.getD ""
  match d.live.milestones.find? fun m => m.title = title && m.state = .open with
  | some existing =>
    .ok (⟨false, some existing.number⟩, { d with titleToNumber := mapSet title existing.number d.titleToNumber })
  | none =>
    match mapGet d.titleToNumber title with
    | some fromMap => .ok (⟨false, some fromMap⟩, d)
    | none =>
      let number := d.tracker.next
      let description := action.description.getD ""
      let milestones :=
        if d.live.milestones.any fun m => m.number = number || m.title = title then d.live.milestones
        else d.live.milestones ++ [⟨number, title, .open, description, 0, 0⟩]
      .ok (⟨true, some number⟩,
        { tracker := d.tracker.createMilestone title description
          live := { d.live with milestones }
          titleToNumber := mapSet title number d.titleToNumber })

def executeReopen (d : Desk) (action : ReconciliationAction) : Except String (ActionResult × Desk) :=
  match action.milestoneNumber with
  | none => .error ("reopen action " ++ action.id ++ " missing milestone_number")
  | some n =>
    let entry := d.localMilestone? n
    if entry.any (isShipped · d.live.shippedTitles) then
      .error ("refusing to reopen shipped milestone #" ++ toString n ++ " (\"" ++
        entry.elim "" (·.title) ++ "\") — release history is immutable")
    else if entry.any fun m => !isReusableClosedEmpty m d.live.shippedTitles && m.state = .closed then
      .error ("refusing to reopen non-empty or non-reusable closed milestone #" ++ toString n ++ " (\"" ++
        entry.elim "" (·.title) ++ "\")")
    else if entry.any fun m => m.state = .open then .ok (⟨false, some n⟩, d)
    else .ok (⟨true, some n⟩,
      { d with tracker := d.tracker.reopenMilestone n }.editLocal n fun m => { m with state := .open })

def executeRename (d : Desk) (action : ReconciliationAction) : Except String (ActionResult × Desk) :=
  match action.milestoneNumber, action.newTitle.filter (· ≠ "") with
  | some n, some newTitle =>
    let entry := d.localMilestone? n
    if entry.any (isShipped · d.live.shippedTitles) then
      .error ("refusing to rename shipped milestone #" ++ toString n ++ " (\"" ++ entry.elim "" (·.title) ++ "\")")
    else if entry.any fun m => m.title = newTitle then .ok (⟨false, some n⟩, d)
    else
      let titles := match entry with
        | some m => mapDelete m.title d.titleToNumber
        | none => d.titleToNumber
      .ok (⟨true, some n⟩,
        { d with tracker := d.tracker.updateMilestone n (some newTitle) none,
                 titleToNumber := mapSet newTitle n titles }.editLocal n
          fun m => { m with title := newTitle })
  | _, _ => .error ("rename action " ++ action.id ++ " missing milestone_number/new_title")

def executeUpdateDescription (d : Desk) (action : ReconciliationAction) : Except String (ActionResult × Desk) :=
  match action.milestoneNumber with
  | none => .error ("update_description " ++ action.id ++ " missing milestone_number")
  | some n =>
    let entry := d.localMilestone? n
    let description := action.description.getD ""
    if entry.any (isShipped · d.live.shippedTitles) then
      .error ("refusing to update description of shipped milestone #" ++ toString n)
    else if entry.any fun m => m.description = description then .ok (⟨false, some n⟩, d)
    else .ok (⟨true, some n⟩,
      { d with tracker := d.tracker.updateMilestone n none (some description) }.editLocal n
        fun m => { m with description := description })

def executeClearStale (d : Desk) (action : ReconciliationAction) : Except String (ActionResult × Desk) :=
  match action.issueNumber with
  | none => .error ("clear_stale " ++ action.id ++ " missing issue_number")
  | some issueNumber =>
    let snap := d.live.openIssues.find? fun i => i.number = issueNumber
    if ((snap.bind (·.milestoneTitle)).filter (· ≠ "")).isNone then .ok (⟨false, none⟩, d)
    else .ok (⟨true, none⟩,
      { d with tracker := d.tracker.clearIssueMilestone issueNumber }.editLocalIssue issueNumber
        fun i => { i with milestoneNumber := none, milestoneTitle := none })

def executeAssign (d : Desk) (action : ReconciliationAction) : Except String (ActionResult × Desk) :=
  match action.issueNumber, action.milestoneTitle.filter (· ≠ "") with
  | some issueNumber, some title =>
    let snap := d.live.openIssues.find? fun i => i.number = issueNumber
    if snap.bind (·.milestoneTitle) = some title then .ok (⟨false, none⟩, d)
    else (d.tracker.assignIssueMilestone issueNumber title).map fun tracker =>
      (⟨true, none⟩, { d with tracker }.editLocalIssue issueNumber
        fun i => { i with
          milestoneTitle := some title
          milestoneNumber := (mapGet d.titleToNumber title).or action.milestoneNumber })
  | _, _ => .error ("assign " ++ action.id ++ " missing issue_number/milestone_title")

/-- `executeAction(action, repo, deps, titleToNumber, live)`. -/
def executeAction (d : Desk) (action : ReconciliationAction) : Except String (ActionResult × Desk) :=
  match action.kind with
  | .reuse => .ok (⟨false, action.milestoneNumber⟩, d)
  | .create => executeCreate d action
  | .reopen => executeReopen d action
  | .rename => executeRename d action
  | .updateDescription => executeUpdateDescription d action
  | .clearStale => executeClearStale d action
  | .assign => executeAssign d action

/-- The titles after an action whose result names a milestone. -/
def noteTitles (action : ReconciliationAction) (result : ActionResult) (titles : List (String × Nat)) :
    List (String × Nat) :=
  match result.milestoneNumber, action.milestoneTitle.filter (· ≠ "") with
  | some number, some title =>
    let noted := mapSet title number titles
    match action.newTitle.filter (· ≠ "") with
    | some newTitle => mapSet newTitle number noted
    | none => noted
  | _, _ => titles

/-- An action, and the titles noted after it. -/
def runAction (d : Desk) (action : ReconciliationAction) : Except String (ActionResult × Desk) :=
  (executeAction d action).map fun (result, d') =>
    (result, { d' with titleToNumber := noteTitles action result d'.titleToNumber })

/-! ## Progress -/

inductive ApplyStatus where
  | inProgress | failed | complete
deriving DecidableEq, Repr

structure CompletedAction where
  id : String
  milestoneNumber : Option Nat
deriving DecidableEq, Repr

structure ReconciliationProgress where
  manifestIdentity : String
  applyStartFingerprint : String
  lastFingerprint : Option String
  actions : List ReconciliationAction
  completed : List CompletedAction
  nextPendingId : Option String
  status : ApplyStatus
deriving DecidableEq, Repr

inductive ApplyRefuseCode where
  | coverageBlockers | fingerprintDrift | manifestIdentityMismatch
deriving DecidableEq, Repr

structure Refusal where
  code : ApplyRefuseCode
  reason : String
deriving DecidableEq, Repr

structure Applied where
  mutations : Nat
  resumed : Bool
  noop : Bool
deriving DecidableEq, Repr

/-- The progress record is of an interrupted run of this manifest. -/
def isResuming (manifest : ReconciliationManifest) (progress : ReconciliationProgress) : Bool :=
  progress.manifestIdentity = manifest.identity &&
    (progress.status = .inProgress || progress.status = .failed) && !progress.actions.isEmpty

/-- The progress record is of a run of this manifest that is done. -/
def isPriorComplete (manifest : ReconciliationManifest) (progress : ReconciliationProgress) : Bool :=
  progress.manifestIdentity = manifest.identity && progress.status = .complete

def ReconciliationProgress.expectedFingerprint (progress : ReconciliationProgress) : String :=
  progress.lastFingerprint.getD progress.applyStartFingerprint

variable (host : NodeHost) (localeLe : String → String → Bool)

def refuseUnless (ok : Bool) (code : ApplyRefuseCode) (reason : String) : Except Refusal Unit :=
  if ok then .ok () else .error ⟨code, reason⟩

def validateSemverApplyReady (manifest : ReconciliationManifest) (live : ReconcileLiveState)
    (expectedIdentity : Option String) (resumeProgress : Option ReconciliationProgress) : Except Refusal Unit := do
  refuseUnless (expectedIdentity.all (· = manifest.identity)) .manifestIdentityMismatch
    ("Manifest identity changed; run a new dry-run preview (expected " ++ expectedIdentity.getD "" ++
      ", got " ++ manifest.identity ++ ")")
  refuseUnless manifest.coverageBlockers.isEmpty .coverageBlockers
    ("Coverage blockers present (" ++ toString manifest.coverageBlockers.length ++
      "); resolve classifications and regenerate the manifest")
  refuseUnless (manifestIdentityMatches host localeLe manifest) .manifestIdentityMismatch
    ("Manifest identity does not match canonical targets/actions/blockers/fingerprint; " ++
      "run a new dry-run preview")
  let freshFp := computeLiveStateFingerprint host live
  match resumeProgress.filter (isResuming manifest), resumeProgress.filter (isPriorComplete manifest) with
  | some progress, _ =>
    refuseUnless (freshFp = progress.expectedFingerprint) .fingerprintDrift
      "Live state drifted; run a new dry-run preview before apply"
  | none, some progress =>
    refuseUnless (freshFp = progress.expectedFingerprint) .fingerprintDrift
      "Live state drifted after a completed apply; run a new dry-run preview before apply"
  | none, none =>
    refuseUnless (freshFp = manifest.liveStateFingerprint) .fingerprintDrift
      "Live state changed after preview; run a new dry-run preview before apply"

/-! ## The run -/

/-- What happens at an action of a run. -/
inductive Interruption where
  /-- The call to the tracker throws and has no effect. -/
  | fails (message : String)
  /-- The process stops after the progress of the action was saved. -/
  | stops
deriving DecidableEq, Repr

/-- What outlives a process, and the actions that were carried out so far. -/
structure ApplyWorld where
  tracker : Tracker
  progress : Option ReconciliationProgress
  executed : List String

inductive ApplyOutcome where
  | applied (result : Applied)
  | refused (refusal : Refusal)
  | threw (message : String)
  | stopped
deriving DecidableEq, Repr

/-- The pending actions, one after the other. -/
def runPending (interrupt : String → Option Interruption) :
    List ReconciliationAction → Desk → ReconciliationProgress → Nat → List String →
      (Option ApplyOutcome × Nat) × Desk × ReconciliationProgress × List String
  | [], d, progress, mutations, executed => ((none, mutations), d, progress, executed)
  | action :: pending, d, progress, mutations, executed =>
    let progress := { progress with nextPendingId := some action.id }
    match interrupt action.id with
    | some (.fails message) => ((some (.threw message), mutations), d, progress, executed)
    | interruption =>
      match runAction d action with
      | .error message => ((some (.threw message), mutations), d, progress, executed)
      | .ok (result, d') =>
        let progress := { progress with
          completed := progress.completed ++ [⟨action.id, result.milestoneNumber⟩]
          lastFingerprint := some (computeLiveStateFingerprint host d'.live) }
        let mutations := if result.mutated then mutations + 1 else mutations
        let executed := executed ++ [action.id]
        if interruption = some .stops then ((some .stopped, mutations), d', progress, executed)
        else runPending interrupt pending d' progress mutations executed

/-- The numbers of the milestones that an earlier part of the run created. -/
def createdTitles (progress : ReconciliationProgress) : List (String × Nat) :=
  mapOf (progress.completed.filterMap fun c => do
    let number ← c.milestoneNumber
    let action ← progress.actions.find? fun a => a.id = c.id
    if action.kind = .create then (action.milestoneTitle.filter (· ≠ "")).map fun title => (title, number)
    else none)

/-- `titleToNumber`, as a run begins. -/
def startingTitles (live : ReconcileLiveState) (created : List (String × Nat)) : List (String × Nat) :=
  created.foldl (fun titles entry => mapSet entry.1 entry.2 titles)
    (mapOf (live.milestones.map fun m => (m.title, m.number)))

/-- The end of a run: what was thrown, or the record of a complete run. -/
def conclude (stampText : Nat → String) (shippedTitles : List String) (resumed : Bool) :
    (Option ApplyOutcome × Nat) × Desk × ReconciliationProgress × List String → ApplyOutcome × ApplyWorld
  | ((some (.threw message), _), d, progress, executed) =>
    (.threw message, ⟨d.tracker, some { progress with status := .failed }, executed⟩)
  | ((some outcome, _), d, progress, executed) => (outcome, ⟨d.tracker, some progress, executed⟩)
  | ((none, mutations), d, progress, executed) =>
    -- the live state is read again, so that a later call finds its fingerprint
    let finalFp := computeLiveStateFingerprint host (d.tracker.snapshot stampText shippedTitles)
    (.applied ⟨mutations, resumed, mutations = 0⟩, ⟨d.tracker, some { progress with
        nextPendingId := none
        lastFingerprint := some finalFp
        status := .complete }, executed⟩)

/-- `applySemverReconciliation(manifest, repo, outputDir, deps, { live, expectedIdentity })`. -/
def applySemverReconciliation (stampText : Nat → String) (interrupt : String → Option Interruption)
    (manifest : ReconciliationManifest) (live : ReconcileLiveState) (expectedIdentity : Option String)
    (w : ApplyWorld) : ApplyOutcome × ApplyWorld :=
  match validateSemverApplyReady host localeLe manifest live expectedIdentity w.progress with
  | .error refusal => (.refused refusal, w)
  | .ok () =>
    let freshFp := computeLiveStateFingerprint host live
    let resume := w.progress.filter (isResuming manifest)
    let prior := w.progress.filter (isPriorComplete manifest)
    let actionList := ((resume.or prior).map (·.actions)).getD manifest.actions
    let completedIds : List String := match resume, prior with
      | some progress, _ => progress.completed.map (·.id)
      | none, some progress => progress.actions.map (·.id)
      | none, none => []
    let pending := actionList.filter fun a => !completedIds.contains a.id
    if pending.isEmpty then
      let done : ReconciliationProgress :=
        { manifestIdentity := manifest.identity
          applyStartFingerprint := (resume.map (·.applyStartFingerprint)).getD freshFp
          lastFingerprint := some freshFp
          actions := actionList
          completed := (w.progress.map (·.completed)).getD (actionList.map fun a => ⟨a.id, none⟩)
          nextPendingId := none
          status := .complete }
      (.applied ⟨0, resume.isSome, true⟩, { w with progress := some done })
    else
      let progress : ReconciliationProgress := match resume with
        | some progress => { progress with actions := actionList, status := .inProgress }
        | none =>
          { manifestIdentity := manifest.identity
            applyStartFingerprint := freshFp
            lastFingerprint := some freshFp
            actions := actionList
            completed := []
            nextPendingId := pending.head?.map (·.id)
            status := .inProgress }
      let titles := startingTitles live ((resume.map createdTitles).getD [])
      conclude host stampText live.shippedTitles resume.isSome
        (runPending host interrupt pending ⟨w.tracker, live, titles⟩ progress 0 w.executed)

end AgentPipeline.Roadmap
