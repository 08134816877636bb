import AgentPipeline.Foundation.JsonText
import AgentPipeline.Foundation.NodeHost

/-!
# Reconcile: the plan that brings milestones in line with a release plan

The planned milestones are bound to milestones of the tracker by title, and what is missing becomes a list of
actions. The list, the targets and a fingerprint of the live state make up the manifest that is reviewed.

* `bindTarget`, `resolveMilestoneIdentity`: which milestone a target stands for;
* `buildReconciliationTargets`: the targets, and the issues that no target covers;
* `planReconciliationActions`: the actions, numbered in order;
* `computeLiveStateFingerprint`, `computeManifestIdentity`: what is hashed.
-/

namespace AgentPipeline.Roadmap

/-! ## Maps -/

section Maps

variable {κ α : Type} [DecidableEq κ]

/-- `map.set(key, value)`: in place when the key is there. -/
def mapSet (key : κ) (value : α) : List (κ × α) → List (κ × α)
  | [] => [(key, value)]
  | (k, v) :: entries => if k = key then (k, value) :: entries else (k, v) :: mapSet key value entries

/-- `map.get(key)`. -/
def mapGet (entries : List (κ × α)) (key : κ) : Option α :=
  (entries.find? fun entry => entry.1 = key).map (·.2)

/-- `map.delete(key)`. -/
def mapDelete (key : κ) (entries : List (κ × α)) : List (κ × α) := entries.filter fun entry => entry.1 ≠ key

@[simp] lemma mapGet_nil (key : κ) : mapGet ([] : List (κ × α)) key = none := rfl

@[simp] lemma mapGet_mapSet (entries : List (κ × α)) (key other : κ) (value : α) :
    mapGet (mapSet key value entries) other = if other = key then some value else mapGet entries other := by
  induction entries with
  | nil =>
    by_cases h : other = key
    · simp [mapSet, mapGet, h]
    · simp [mapSet, mapGet, h, Ne.symm h]
  | cons entry entries ih =>
    obtain ⟨k, v⟩ := entry
    simp only [mapGet] at ih ⊢
    by_cases hk : k = key
    · by_cases h : other = key
      · simp [mapSet, hk, h]
      · simp [mapSet, hk, h, Ne.symm h]
    · by_cases h : k = other
      · have hother : other ≠ key := h ▸ hk
        simp [mapSet, h, hother]
      · simp [mapSet, hk, h, ih]

/-- `new Map(entries)`. -/
def mapOf (entries : List (κ × α)) : List (κ × α) :=
  entries.foldl (fun map entry => mapSet entry.1 entry.2 map) []

end Maps

/-! ## Records -/

inductive MilestoneState where
  | open | closed
deriving DecidableEq, Repr

structure MilestoneCatalogEntry where
  number : Nat
  title : String
  state : MilestoneState
  description : String
  openIssues : Nat
  closedIssues : Nat
deriving DecidableEq, Repr

structure IssueMilestoneSnapshot where
  number : Nat
  isOpen : Bool
  milestoneNumber : Option Nat
  milestoneTitle : Option String
  updatedAt : Option String
deriving DecidableEq, Repr

structure ReconcileLiveState where
  milestones : List MilestoneCatalogEntry
  openIssues : List IssueMilestoneSnapshot
  shippedTitles : List String
deriving DecidableEq, Repr

inductive CompatibilityImpact where
  | major | minor | patch
deriving DecidableEq, Repr

def CompatibilityImpact.text : CompatibilityImpact → String
  | major => "major"
  | minor => "minor"
  | patch => "patch"

inductive CompatibilityStatus where
  | resolved | unresolvedMissing | unresolvedConflict
deriving DecidableEq, Repr

structure CompatibilityClassification where
  issueNumber : Nat
  status : CompatibilityStatus
  appliedImpact : Option CompatibilityImpact
  conflictLabels : Option (List String)
deriving DecidableEq, Repr

structure MilestoneSpec where
  title : String
  issueNumbers : List Nat
  rationale : String
  versionImpact : Option CompatibilityImpact
deriving DecidableEq, Repr

structure ReconciliationTargetMilestone where
  number : Option Nat
  title : String
  description : String
  versionImpact : Option CompatibilityImpact
  issueNumbers : List Nat
deriving DecidableEq, Repr

inductive CoverageBlockerReason where
  | unresolvedMissing | unresolvedConflict | unmilestoned | dualMembership | titleCollision | shippedImmutable
deriving DecidableEq, Repr

def CoverageBlockerReason.text : CoverageBlockerReason → String
  | unresolvedMissing => "unresolved_missing"
  | unresolvedConflict => "unresolved_conflict"
  | unmilestoned => "unmilestoned"
  | dualMembership => "dual_membership"
  | titleCollision => "title_collision"
  | shippedImmutable => "shipped_immutable"

structure CoverageBlocker where
  issueNumber : Option Nat
  reason : CoverageBlockerReason
  detail : String
deriving DecidableEq, Repr

inductive ActionKind where
  | create | reuse | reopen | rename | updateDescription | assign | clearStale
deriving DecidableEq, Repr

def ActionKind.text : ActionKind → String
  | create => "create"
  | reuse => "reuse"
  | reopen => "reopen"
  | rename => "rename"
  | updateDescription => "update_description"
  | assign => "assign"
  | clearStale => "clear_stale"

structure ReconciliationAction where
  id : String
  kind : ActionKind
  milestoneNumber : Option Nat := none
  milestoneTitle : Option String := none
  newTitle : Option String := none
  description : Option String := none
  issueNumber : Option Nat := none
  detail : Option String := none
deriving DecidableEq, Repr

structure ReconciliationManifest where
  identity : String
  liveStateFingerprint : String
  targets : List ReconciliationTargetMilestone
  actions : List ReconciliationAction
  coverageBlockers : List CoverageBlocker
  generatedAt : String
deriving DecidableEq, Repr

/-! ## Identities of milestones -/

/-- `/^v\d+\.\d+\.\d+$/`. -/
def isSemverTitle (title : String) : Bool :=
  JsRegExp.matchesWhole (.sequence [.literal "v", .many Char.isDigit 1 none, .literal ".",
    .many Char.isDigit 1 none, .literal ".", .many Char.isDigit 1 none]) title

def isShipped (m : MilestoneCatalogEntry) (shippedTitles : List String) : Bool :=
  m.state = .closed && (shippedTitles.contains m.title ||
      (isSemverTitle m.title && shippedTitles.contains (String.ofList (m.title.toList.drop 1))) ||
      shippedTitles.contains (if "v".toList.isPrefixOf m.title.toList then m.title else "v" ++ m.title))

def isReusableClosedEmpty (m : MilestoneCatalogEntry) (shippedTitles : List String) : Bool :=
  m.state = .closed && m.openIssues = 0 && m.closedIssues = 0 && !isShipped m shippedTitles

/-- The first milestone of each number. -/
def uniqueCatalog (catalog : List MilestoneCatalogEntry) : List MilestoneCatalogEntry :=
  (catalog.foldl (fun byNumber m =>
    if (mapGet byNumber m.number).isSome then byNumber else mapSet m.number m byNumber) []).map (·.2)

/-- The open milestones of a title that are not shipped. -/
def openMatches (catalog : List MilestoneCatalogEntry) (title : String) (shippedTitles : List String) :
    List MilestoneCatalogEntry :=
  (uniqueCatalog catalog).filter fun m => m.title = title && m.state = .open && !isShipped m shippedTitles

/-- The closed milestones of a title that can be opened again. -/
def closedMatches (catalog : List MilestoneCatalogEntry) (title : String) (shippedTitles : List String) :
    List MilestoneCatalogEntry :=
  (uniqueCatalog catalog).filter fun m => m.title = title && isReusableClosedEmpty m shippedTitles

def numbersText (ms : List MilestoneCatalogEntry) : String :=
  String.intercalate ", " (ms.map fun m => toString m.number)

def ambiguity (what title : String) (ms : List MilestoneCatalogEntry) : CoverageBlocker where
  issueNumber := none
  reason := .titleCollision
  detail := "Ambiguous " ++ what ++ " titled \"" ++ title ++ "\" (numbers: " ++ numbersText ms ++
    "); name a stable identity"

inductive ResolveMode where
  | create | reuse | reopen
deriving DecidableEq, Repr

def closedText (m : MilestoneCatalogEntry) : String :=
  "#" ++ toString m.number ++ " (\"" ++ m.title ++ "\")"

def resolveMilestoneIdentity (target : ReconciliationTargetMilestone) (catalog : List MilestoneCatalogEntry)
    (shippedTitles : List String) :
    Except CoverageBlocker (Option MilestoneCatalogEntry × ResolveMode) :=
  match target.number with
  | some number =>
    match catalog.find? fun m => m.number = number with
    | none => .error ⟨none, .titleCollision,
        "Manifest names milestone number " ++ toString number ++ " but it is not in the live catalog"⟩
    | some byNum =>
      if isShipped byNum shippedTitles then
        if byNum.title = target.title then .ok (some byNum, .reuse)
        else .error ⟨none, .shippedImmutable, "Closed shipped milestone " ++ closedText byNum ++
          " is immutable; cannot bind target \"" ++ target.title ++ "\""⟩
      else if byNum.state = .closed then
        if isReusableClosedEmpty byNum shippedTitles then .ok (some byNum, .reopen)
        else .error ⟨none, .shippedImmutable, "Closed milestone " ++ closedText byNum ++
          " is not a reusable empty unshipped planning milestone"⟩
      else .ok (some byNum, .reuse)
  | none =>
    match openMatches catalog target.title shippedTitles with
    | [] => .ok (none, .create)
    | [m] => .ok (some m, .reuse)
    | ms => .error (ambiguity "milestones" target.title ms)

/-- What `bindTargetMilestoneIdentities` makes of one target. -/
def bindTarget (live : ReconcileLiveState) (target : ReconciliationTargetMilestone) :
    ReconciliationTargetMilestone × List CoverageBlocker :=
  if target.number.isSome then (target, [])
  else
    match openMatches live.milestones target.title live.shippedTitles with
    | [m] => ({ target with number := some m.number }, [])
    | [] =>
      match closedMatches live.milestones target.title live.shippedTitles with
      | [m] => ({ target with number := some m.number }, [])
      | [] => (target, [])
      | ms => (target, [ambiguity "closed milestones" target.title ms])
    | ms => (target, [ambiguity "open milestones" target.title ms])

def bindTargetMilestoneIdentities (targets : List ReconciliationTargetMilestone) (live : ReconcileLiveState) :
    List ReconciliationTargetMilestone × List CoverageBlocker :=
  (targets.map fun target => (bindTarget live target).1, targets.flatMap fun target => (bindTarget live target).2)

/-! ## Targets -/

/-- One issue of a planned milestone, while the memberships are counted. -/
def seeMembership (openIssueNumbers : List Nat) (title : String)
    (state : List (Nat × String) × List CoverageBlocker) (n : Nat) :
    List (Nat × String) × List CoverageBlocker :=
  if !openIssueNumbers.contains n then state
  else
    match mapGet state.1 n with
    | some prev => (state.1, state.2 ++ [⟨some n, .dualMembership,
        "Issue #" ++ toString n ++ " appears in both \"" ++ prev ++ "\" and \"" ++ title ++ "\""⟩])
    | none => (mapSet n title state.1, state.2)

/-- The issues that some milestone names, and the ones that are named twice. -/
def memberships (milestones : List MilestoneSpec) (openIssueNumbers : List Nat) :
    List (Nat × String) × List CoverageBlocker :=
  milestones.foldl (fun state m => m.issueNumbers.foldl (seeMembership openIssueNumbers m.title) state) ([], [])

/-- What is missing of one open issue. -/
def issueBlockers (classByIssue : List (Nat × CompatibilityClassification)) (seen : List (Nat × String))
    (n : Nat) : List CoverageBlocker :=
  match mapGet classByIssue n with
  | none | some ⟨_, .unresolvedMissing, _, _⟩ =>
    [⟨some n, .unresolvedMissing, "Open issue #" ++ toString n ++
      " has no resolved applied semver:* classification; " ++
      "theme/epic labels do not satisfy the release-milestone invariant"⟩]
  | some ⟨_, .unresolvedConflict, _, labels⟩ =>
    [⟨some n, .unresolvedConflict, "Open issue #" ++ toString n ++ " has conflicting semver:* labels (" ++
      String.intercalate ", " (labels.getD []) ++ "); free-form prose does not select a version"⟩]
  | some ⟨_, .resolved, impact, _⟩ =>
    if (mapGet seen n).isSome then []
    else [⟨some n, .unmilestoned, "Open issue #" ++ toString n ++ " has resolved impact (" ++
      impact.elim "null" CompatibilityImpact.text ++ ") but is not in any plan milestone; " ++
      "regenerate the SemVer plan so every open issue is assigned"⟩]

def targetOf (openIssueNumbers : List Nat) (m : MilestoneSpec) : ReconciliationTargetMilestone where
  number := none
  title := m.title
  description := m.rationale
  versionImpact := m.versionImpact
  issueNumbers := m.issueNumbers.filter openIssueNumbers.contains

def buildReconciliationTargets (milestones : List MilestoneSpec)
    (classifications : List CompatibilityClassification) (openIssueNumbers : List Nat) :
    List ReconciliationTargetMilestone × List CoverageBlocker :=
  let classByIssue := mapOf (classifications.map fun c => (c.issueNumber, c))
  let (seen, dual) := memberships milestones openIssueNumbers
  (milestones.map (targetOf openIssueNumbers), dual ++ openIssueNumbers.flatMap (issueBlockers classByIssue seen))

/-! ## Actions -/

/-- An action that has no id yet: the words of the id after its number, and the rest. -/
structure Draft where
  idKind : String
  idKey : String
  action : ReconciliationAction

def nextId (seq : Nat) (kind key : String) : String :=
  let digits := (toString seq).toList
  String.ofList (List.replicate (3 - digits.length) '0' ++ digits) ++ "-" ++ kind ++ "-" ++ key

def createDraft (target : ReconciliationTargetMilestone) : Draft :=
  ⟨"create", target.title,
    { id := "", kind := .create, milestoneTitle := some target.title, description := some target.description,
      detail := some ("create milestone \"" ++ target.title ++ "\"") }⟩

def reuseDraft (entry : MilestoneCatalogEntry) : Draft :=
  ⟨"reuse", toString entry.number,
    { id := "", kind := .reuse, milestoneNumber := some entry.number, milestoneTitle := some entry.title,
      detail := some ("reuse milestone " ++ closedText entry) }⟩

def reopenDraft (target : ReconciliationTargetMilestone) (entry : MilestoneCatalogEntry) : Draft :=
  ⟨"reopen", toString entry.number,
    { id := "", kind := .reopen, milestoneNumber := some entry.number, milestoneTitle := some entry.title,
      detail := some ("reopen milestone " ++ closedText entry ++ " for \"" ++ target.title ++ "\"") }⟩

def renameDraft (target : ReconciliationTargetMilestone) (entry : MilestoneCatalogEntry) : Draft :=
  ⟨"rename", toString entry.number,
    { id := "", kind := .rename, milestoneNumber := some entry.number, milestoneTitle := some entry.title,
      newTitle := some target.title,
      detail := some ("rename milestone #" ++ toString entry.number ++ " \"" ++ entry.title ++ "\" → \"" ++
        target.title ++ "\"") }⟩

def descriptionDraft (target : ReconciliationTargetMilestone) (entry : MilestoneCatalogEntry) : Draft :=
  ⟨"desc", toString entry.number,
    { id := "", kind := .updateDescription, milestoneNumber := some entry.number,
      milestoneTitle := some target.title, description := some target.description,
      detail := some ("update description on milestone #" ++ toString entry.number) }⟩

/-- The title and the description of the milestone that a target is bound to. -/
def adjustDrafts (target : ReconciliationTargetMilestone) (entry : MilestoneCatalogEntry) : List Draft :=
  (if entry.title ≠ target.title then [renameDraft target entry] else []) ++
    if entry.description ≠ target.description then [descriptionDraft target entry] else []

/-- The actions of one target, and the number that it is bound to. -/
def targetDrafts (live : ReconcileLiveState) (target : ReconciliationTargetMilestone) :
    Except CoverageBlocker (List Draft × Option Nat) :=
  (resolveMilestoneIdentity target live.milestones live.shippedTitles).map fun
    | (none, _) => ([createDraft target], none)
    | (some _, .create) => ([createDraft target], none)
    | (some entry, .reopen) => (reopenDraft target entry :: adjustDrafts target entry, some entry.number)
    | (some entry, .reuse) =>
      (reuseDraft entry :: if isShipped entry live.shippedTitles then [] else adjustDrafts target entry,
        some entry.number)

def clearDraft (targetTitle liveTitle : String) (snap : IssueMilestoneSnapshot) : Draft :=
  ⟨"clear", toString snap.number,
    { id := "", kind := .clearStale, issueNumber := some snap.number, milestoneTitle := some liveTitle,
      milestoneNumber := snap.milestoneNumber,
      detail := some ("clear stale milestone \"" ++ liveTitle ++ "\" from #" ++ toString snap.number ++
        " (target \"" ++ targetTitle ++ "\")") }⟩

def assignDraft (targetTitle : String) (milestoneNumber : Option Nat) (issueNumber : Nat) : Draft :=
  ⟨"assign", toString issueNumber,
    { id := "", kind := .assign, issueNumber := some issueNumber, milestoneTitle := some targetTitle, milestoneNumber,
      detail := some ("assign #" ++ toString issueNumber ++ " → \"" ++ targetTitle ++ "\"") }⟩

/-- The actions of one issue. -/
def issueDrafts (snap : IssueMilestoneSnapshot) (targetTitle : String) (bound : Option Nat) : List Draft :=
  if snap.milestoneTitle = some targetTitle then []
  else
    (match snap.milestoneTitle with
      | none => []
      | some liveTitle => if liveTitle = "" then [] else [clearDraft targetTitle liveTitle snap]) ++
      [assignDraft targetTitle bound snap.number]

/-- The title that each issue is assigned to. -/
def issueTargets (targets : List ReconciliationTargetMilestone) : List (Nat × String) :=
  mapOf (targets.flatMap fun t => t.issueNumbers.map fun n => (n, t.title))

def planReconciliationActions (targets : List ReconciliationTargetMilestone) (live : ReconcileLiveState)
    (priorBlockers : List CoverageBlocker) : List ReconciliationAction × List CoverageBlocker :=
  let resolved := targets.map fun target => (target, targetDrafts live target)
  let blockers := resolved.filterMap fun r => match r.2 with
    | .error blocker => some blocker
    | .ok _ => none
  let milestoneDrafts := resolved.flatMap fun r => match r.2 with
    | .error _ => []
    | .ok (drafts, _) => drafts
  let boundTitleToNumber := mapOf (resolved.filterMap fun r => match r.2 with
    | .ok (_, some number) => some (r.1.title, number)
    | _ => none)
  let openByNumber := mapOf ((live.openIssues.filter (·.isOpen)).map fun i => (i.number, i))
  let drafts := milestoneDrafts ++ (issueTargets targets).flatMap fun (issueNumber, targetTitle) =>
    match mapGet openByNumber issueNumber with
    | none => []
    | some snap => issueDrafts snap targetTitle (mapGet boundTitleToNumber targetTitle)
  (drafts.mapIdx fun i draft => { draft.action with id := nextId (i + 1) draft.idKind draft.idKey },
    priorBlockers ++ blockers)

/-! ## Hashes -/

variable (host : NodeHost) (localeLe : String → String → Bool)

def sha12 (payload : String) : String := String.ofList ((host.sha256 payload).toList.take 12)

def jsonNat (n : Nat) : Json := .num (.finite n)

def jsonOrNull {α : Type} (print : α → Json) : Option α → Json
  | none => .null
  | some a => print a

def issueRow (i : IssueMilestoneSnapshot) : Json :=
  .obj [("n", jsonNat i.number), ("s", .str (if i.isOpen then "open" else "closed")),
    ("mn", jsonOrNull jsonNat i.milestoneNumber), ("mt", jsonOrNull .str i.milestoneTitle),
    ("u", .str (i.updatedAt.getD ""))]

def milestoneRow (m : MilestoneCatalogEntry) : Json :=
  .obj [("n", jsonNat m.number), ("t", .str m.title),
    ("s", .str (if m.state = .open then "open" else "closed")), ("d", .str (sha12 host m.description)),
    ("o", jsonNat m.openIssues), ("c", jsonNat m.closedIssues)]

/-- The value of which the fingerprint is the hash. -/
def fingerprintPayload (live : ReconcileLiveState) : Json :=
  .obj [("issues", .arr (((live.openIssues.filter (·.isOpen)).insertionSort
      fun a b => a.number ≤ b.number).map issueRow)),
    ("milestones", .arr ((live.milestones.insertionSort fun a b => a.number ≤ b.number).map (milestoneRow host))),
    ("shipped", .arr ((sortTexts live.shippedTitles).map .str))]

def hashJson (value : Json) : String := sha12 host (String.ofList (JsonText.stringify host.numberText value))

def computeLiveStateFingerprint (live : ReconcileLiveState) : String :=
  hashJson host (fingerprintPayload host live)

def targetRow (t : ReconciliationTargetMilestone) : Json :=
  .obj [("number", jsonOrNull jsonNat t.number), ("title", .str t.title), ("description", .str t.description),
    ("version_impact", jsonOrNull (fun impact => .str impact.text) t.versionImpact),
    ("issue_numbers", .arr ((t.issueNumbers.insertionSort (· ≤ ·)).map jsonNat))]

def actionRow (a : ReconciliationAction) : Json :=
  .obj [("id", .str a.id), ("kind", .str a.kind.text), ("milestone_number", jsonOrNull jsonNat a.milestoneNumber),
    ("milestone_title", jsonOrNull .str a.milestoneTitle), ("new_title", jsonOrNull .str a.newTitle),
    ("description", jsonOrNull .str a.description), ("issue_number", jsonOrNull jsonNat a.issueNumber),
    ("detail", jsonOrNull .str a.detail)]

def blockerRow (b : CoverageBlocker) : Json :=
  .obj [("issue_number", jsonOrNull jsonNat b.issueNumber), ("reason", .str b.reason.text), ("detail", .str b.detail)]

/-- The order of blockers: by issue, then by their text. -/
def blockerLe (a b : CoverageBlocker) : Bool :=
  let n := a.issueNumber.getD 0
  let m := b.issueNumber.getD 0
  n < m || (n = m && localeLe (a.reason.text ++ ":" ++ a.detail) (b.reason.text ++ ":" ++ b.detail))

/-- The value of which the identity is the hash. -/
def identityPayload (targets : List ReconciliationTargetMilestone) (actions : List ReconciliationAction)
    (blockers : List CoverageBlocker) (fingerprint : String) : Json :=
  .obj [("targets", .arr ((targets.insertionSort fun a b => localeLe a.title b.title = true).map targetRow)),
    ("actions", .arr (actions.map actionRow)),
    ("coverage_blockers", .arr ((blockers.insertionSort fun a b => blockerLe localeLe a b = true).map blockerRow)),
    ("live_state_fingerprint", .str fingerprint)]

/-- `computeManifestIdentity(targets, actions, coverage_blockers, live_state_fingerprint)`. -/
def computeManifestIdentity (targets : List ReconciliationTargetMilestone)
    (actions : List ReconciliationAction) (blockers : List CoverageBlocker) (fingerprint : String) : String :=
  hashJson host (identityPayload localeLe targets actions blockers fingerprint)

def manifestIdentityMatches (manifest : ReconciliationManifest) : Bool :=
  computeManifestIdentity host localeLe manifest.targets manifest.actions manifest.coverageBlockers
    manifest.liveStateFingerprint = manifest.identity

/-! ## The manifest -/

structure BuildManifestInput where
  milestones : List MilestoneSpec
  classifications : List CompatibilityClassification
  openIssueNumbers : List Nat
  live : ReconcileLiveState
  generatedAt : String

def buildReconciliationManifest (input : BuildManifestInput) : ReconciliationManifest :=
  let raw := buildReconciliationTargets input.milestones input.classifications input.openIssueNumbers
  let bound := bindTargetMilestoneIdentities raw.1 input.live
  let plan := planReconciliationActions bound.1 input.live (raw.2 ++ bound.2)
  let fingerprint := computeLiveStateFingerprint host input.live
  { identity := computeManifestIdentity host localeLe bound.1 plan.1 plan.2 fingerprint
    liveStateFingerprint := fingerprint
    targets := bound.1
    actions := plan.1
    coverageBlockers := plan.2
    generatedAt := input.generatedAt }

end AgentPipeline.Roadmap
