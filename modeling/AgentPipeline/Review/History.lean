import AgentPipeline.Review.Artifacts

/-!
# History: the rounds that were posted, and what each of them settled

The digest of an issue is derived from its comments alone. A review comment of the pipeline is a
round; its blocking findings are the entries of the round. How an entry ended is not recorded but
inferred: an operator overrode it, or it occurs again in a later round, or else it counts as fixed.

* `scanHistory`: the rounds and the overrides, comment by comment;
* `buildPriorRoundDigest`: the rounds with how each entry ended;
* `settledFindings`: the entries that are overridden or count as fixed
  (`mem_settledFindings_iff`).

A finding that a round raises again without acknowledging the settled entry advises
(`reraised_blocker`). The newest round has no later one, so every entry of it that nobody
overrode counts as fixed, also when the fix failed.
-/

namespace AgentPipeline.Review

/-! ## Rounds -/

inductive DigestResolution where
  | resolvedByFix | overridden | stillOpen
deriving DecidableEq, Repr

structure DigestEntry where
  key : String
  surface : Option String
  severity : String
  title : String
  resolution : DigestResolution
  overrideReason : Option String := none
  overrideRound : Option Nat := none
  confidence : Option ℚ := none
  rejectedAlternatives : List String
deriving DecidableEq, Repr

/-- An element of `advisoryEntries`. -/
structure DigestAdvisory where
  key : String
  surface : Option String
  severity : String
  title : String
deriving DecidableEq, Repr

structure DigestRound where
  round : Nat
  reviewedSha : Option String
  entries : List DigestEntry
  advisoryEntries : List DigestAdvisory
deriving DecidableEq, Repr

/-- An entry that carries its full record. -/
def ArtifactFinding.digestEntry (f : ArtifactFinding) : DigestEntry where
  key := f.key
  surface := f.surface
  severity := f.severity
  title := f.title
  resolution := .stillOpen
  confidence := f.confidence
  rejectedAlternatives := f.rejectedAlternatives.getD []

/-- An entry of which only the key is known. -/
def keyEntry (surfaces : JsObject String) (key : String) : DigestEntry where
  key := key
  surface := surfaces.get? key
  severity := "unknown"
  title := titleUnavailable
  resolution := .stillOpen
  rejectedAlternatives := []

/-- The keys of a comment without recorded findings: of the marker, else of the artifact, else of
the surfaces. -/
def recordedKeys (body : List Char) (artifact : Option ReviewArtifact)
    (surfaces : JsObject String) : Option (List String) :=
  extractBlockingKeysMarker body <|> (artifact.map fun a => a.blockingKeys.dedup) <|>
      if surfaces.entries.isEmpty then none else some (surfaces.entries.map Prod.fst)

def extractRoundEntries (body : List Char) (artifact : Option ReviewArtifact) : List DigestEntry :=
  match artifact.bind (·.blockingFindings) with
  | some findings => findings.map ArtifactFinding.digestEntry
  | none =>
    let surfaces := extractBlockingSurfacesFromComment body
    match recordedKeys body artifact surfaces with
    | some keys => (sortTexts keys).map (keyEntry surfaces)
    | none => []

def extractAdvisoryEntries (artifact : Option ReviewArtifact) : List DigestAdvisory :=
  ((artifact.bind (·.advisoryFindings)).getD []).map fun f =>
    ⟨f.key, f.surface, f.severity, f.title⟩

/-! ## The comments in order -/

/-- An override that the scan met, and the round that it followed. -/
structure RecordedOverride where
  reason : String
  round : Nat
deriving DecidableEq, Repr

structure RecordedScope extends RecordedOverride where
  type : ScopeType
  value : String
deriving DecidableEq, Repr

/-- What the first pass of `buildPriorRoundDigest` collects. -/
structure HistoryScan where
  rounds : List DigestRound := []
  keyOverrides : JsObject RecordedOverride := .empty
  scopeOverrides : JsObject RecordedScope := .empty

/-- `BuildPriorRoundDigestOpts`. -/
structure DigestOpts where
  actor : Option String
  trustedOverrideActors : List String := []
deriving DecidableEq, Repr

variable {f : ReviewFinding}

section Digest

variable (host : NodeHost)

/-- The round that a review comment records; `number` counts from one. -/
def roundOf (number : Nat) (body : List Char) : DigestRound :=
  let artifact := extractReviewArtifact host body
  { round := number
    reviewedSha := (artifact.map (·.reviewedSha)) <|> extractLegacyReviewedSha body
    entries := extractRoundEntries body artifact
    advisoryEntries := extractAdvisoryEntries artifact }

/-- `OVERRIDE_RE.exec(body)`, on the whole comment. -/
def scanKeyOverride (round : Nat) (body : List Char) (overrides : JsObject RecordedOverride) :
    JsObject RecordedOverride :=
  match execGroups overrideRe body with
  | some m => overrides.set (String.ofList (m 1)) ⟨String.ofList (trimmed (m 2)), round⟩
  | none => overrides

/-- One match of `SCOPE_OVERRIDE_RE`. -/
def scanScope (round : Nat) (scopes : JsObject RecordedScope) (m : JsRegExp.Found) :
    JsObject RecordedScope :=
  let part := fun i => (m.stop.groups.lookup i).getD []
  let type := if part 1 = "category".toList then ScopeType.category else .file
  let value := (UriComponent.decode (String.ofList (part 2))).getD (String.ofList (part 2))
  let captured := trimmed (part 3)
  let reason := ((splitAtPipe captured).map fun s => trimmed s.2).getD captured
  scopes.set (type.name ++ ":" ++ value) { reason := String.ofList reason, round, type, value }

/-- One turn of the loop over the comments. -/
def scanComment (actor : String) (trusted : List String) (s : HistoryScan) (c : IssueComment) :
    HistoryScan :=
  if c.author = some actor ∧ isReviewShapedComment c.body then
    { s with rounds := s.rounds ++ [roundOf host (s.rounds.length + 1) c.body] }
  else if !c.author.any fun author => author = actor || trusted.contains author then s
  else if startsWith c.body overrideHeading then
    { s with keyOverrides := scanKeyOverride s.rounds.length c.body s.keyOverrides }
  else if startsWith c.body scopeOverrideHeading then
    { s with
      scopeOverrides :=
        (JsRegExp.matchAll scopeOverrideRe c.body).foldl (scanScope s.rounds.length)
          s.scopeOverrides }
  else s

/-- The first pass of `buildPriorRoundDigest`. -/
def scanHistory (actor : String) (trusted : List String) (comments : List IssueComment) :
    HistoryScan :=
  comments.foldl (scanComment host actor trusted) {}

/-! ## How the entries ended -/

def identityOf (e : DigestEntry) : String := e.surface.getD ("key:" ++ e.key)

/-- A finding with the file and the category of a surface. -/
def surfaceFinding (surface : String) : ReviewFinding :=
  let chars := surface.toList
  let category := (chars.dropWhile (· ≠ '|')).drop 1
  { severity := .missing "undefined"
    title := none
    body := none
    file := some (String.ofList (chars.takeWhile (· ≠ '|')))
    confidence := none
    recommendation := none
    category := if category.isEmpty then none else some (String.ofList category) }

/-- The override that an entry falls under, by its key or else by its surface. -/
def overrideOf (s : HistoryScan) (e : DigestEntry) : Option RecordedOverride :=
  s.keyOverrides.get? e.key <|> e.surface.bind fun surface =>
      (s.scopeOverrides.values.find? fun so =>
        matchFindingScope host (surfaceFinding surface) ⟨so.type, so.value, "", so.reason⟩).map
        fun so => so.toRecordedOverride

/-- An entry of the same identity is in one of the rounds. -/
def recursIn (rounds : List DigestRound) (e : DigestEntry) : Bool :=
  rounds.any fun r => r.entries.any fun e' => identityOf e' = identityOf e

/-- The second pass of `buildPriorRoundDigest`, at one entry. -/
def resolveEntry (s : HistoryScan) (later : List DigestRound) (e : DigestEntry) : DigestEntry :=
  match overrideOf host s e with
  | some o =>
    { e with
      resolution := .overridden, overrideReason := some o.reason, overrideRound := some o.round }
  | none => { e with resolution := if recursIn later e then .stillOpen else .resolvedByFix }

/-- The second pass of `buildPriorRoundDigest`. -/
def resolveRounds (s : HistoryScan) : List DigestRound → List DigestRound
  | [] => []
  | r :: later =>
    { r with entries := r.entries.map (resolveEntry host s later) } :: resolveRounds s later

/-- `buildPriorRoundDigest(comments, opts)`: the rounds. -/
def buildPriorRoundDigest (comments : List IssueComment) (opts : DigestOpts) : List DigestRound :=
  match opts.actor with
  | none => []
  | some actor =>
    let s := scanHistory host actor opts.trustedOverrideActors comments
    resolveRounds host s s.rounds

/-- `e.resolution === "resolved-by-fix" || e.resolution === "overridden"`. -/
def DigestEntry.isSettled (e : DigestEntry) : Bool :=
  e.resolution = .resolvedByFix || e.resolution = .overridden

def DigestEntry.settled (round : Nat) (e : DigestEntry) : SettledFinding :=
  ⟨e.key, e.surface, e.title, round, e.rejectedAlternatives⟩

def settledFindings (digest : List DigestRound) : List SettledFinding :=
  digest.flatMap fun r => (r.entries.filter DigestEntry.isSettled).map (DigestEntry.settled r.round)

/-! ## The digest -/

lemma mem_settledFindings_iff {digest : List DigestRound} {s : SettledFinding} : s ∈ settledFindings digest ↔
      ∃ r ∈ digest, ∃ e ∈ r.entries, e.isSettled = true ∧ e.settled r.round = s := by
  simp [settledFindings, and_assoc]

lemma getLast?_resolveRounds (s : HistoryScan) (rounds : List DigestRound) :
    (resolveRounds host s rounds).getLast? =
      rounds.getLast?.map fun r => { r with entries := r.entries.map (resolveEntry host s []) } := by
  induction rounds with
  | nil => rfl
  | cons r later ih =>
    cases later with
    | nil => simp [resolveRounds]
    | cons r' later => simpa [resolveRounds] using ih

lemma isSettled_resolveEntry_nil (s : HistoryScan) (e : DigestEntry) : (resolveEntry host s [] e).isSettled = true := by
  unfold resolveEntry
  cases overrideOf host s e with
  | some o => rfl
  | none => rfl

variable {comments : List IssueComment} {opts : DigestOpts} {e : DigestEntry}

lemma isSettled_of_newest {r : DigestRound} (hnewest : (buildPriorRoundDigest host comments opts).getLast? = some r)
    (he : e ∈ r.entries) : e.isSettled = true := by
  unfold buildPriorRoundDigest at hnewest
  cases hactor : opts.actor with
  | none => simp [hactor] at hnewest
  | some actor =>
    simp only [hactor, getLast?_resolveRounds, Option.map_eq_some_iff] at hnewest
    obtain ⟨r, -, rfl⟩ := hnewest
    obtain ⟨e, -, rfl⟩ := List.mem_map.1 he
    exact isSettled_resolveEntry_nil host _ e

/-! ## A blocker that the next round raises again -/

/-- The guard on settled findings moved the finding to the advisory ones. -/
def IsReversal (findings : List ReviewFinding) (policy : ReviewPolicy) (inputs : PartitionInputs)
    (f : ReviewFinding) : Prop :=
  ∃ a ∈ (partitionFindings host findings policy inputs).advisory, a.finding = f ∧ a.reason = "reversal-unacknowledged"

/-- A blocking entry of the newest round that nobody overrode, and a finding of the next round with
its key that the policy lets block and that nobody took out. -/
structure Reraised (comments : List IssueComment) (opts : DigestOpts)
    (findings : List ReviewFinding) (policy : ReviewPolicy) (inputs : PartitionInputs)
    (e : DigestEntry) (f : ReviewFinding) : Prop where
  newest : ∃ r, (buildPriorRoundDigest host comments opts).getLast? = some r ∧ e ∈ r.entries
  unresolved : e.resolution ≠ .overridden
  raised : f ∈ findings
  key : e.key = findingKey host f
  meets : meetsPolicy policy f = true
  unscoped : scopedEntry host inputs.scopes f = none
  undisposed : disposedEntry host findings policy inputs f = none
  settled : inputs.settledFindings = settledFindings (buildPriorRoundDigest host comments opts)

lemma settledGuard_eq_reversal_iff {settled : List SettledFinding} :
    (∃ a, settledGuard host settled f = some a ∧ a.reason = "reversal-unacknowledged") ↔
      hasAcknowledgment f = false ∧ ∃ s ∈ settled, (matchEntry host f s).isSome = true := by
  have hfound : (matchSettledFinding host f settled).isSome = true ↔
      ∃ s ∈ settled, (matchEntry host f s).isSome = true := by
    simp [matchSettledFinding]
  rw [← hfound]
  unfold settledGuard
  cases hack : hasAcknowledgment f with
  | true => simp
  | false =>
    cases matchSettledFinding host f settled with
    | some m => simp
    | none =>
      -- the other guard gives another reason
      have hother : "settled-alternative-reinstated" ≠ "reversal-unacknowledged" := by decide
      simp [hother]

variable {findings : List ReviewFinding} {policy : ReviewPolicy} {inputs : PartitionInputs}

lemma isReversal_iff (hraised : f ∈ findings)
    (hpolicy : meetsPolicy policy f = true) (hscope : scopedEntry host inputs.scopes f = none)
    (hkey : disposedEntry host findings policy inputs f = none) : IsReversal host findings policy inputs f ↔
      f.blocking ≠ some false ∧ hasAcknowledgment f = false ∧
        ∃ s ∈ inputs.settledFindings, (matchEntry host f s).isSome = true := by
  have hplaced : IsReversal host findings policy inputs f ↔ ∃ a, place host findings policy inputs f = .advisory a ∧
        a.reason = "reversal-unacknowledged" := by
    constructor
    · rintro ⟨a, ha, hf, hreason⟩
      obtain ⟨g, hg, hplace⟩ := (mem_advisory_iff host).1 ha
      obtain rfl : g = f := (finding_of_place_advisory host hplace).symm.trans hf
      exact ⟨a, hplace, hreason⟩
    · rintro ⟨a, hplace, hreason⟩
      exact ⟨a, (mem_advisory_iff host).2 ⟨f, hraised, hplace⟩, finding_of_place_advisory host hplace, hreason⟩
  rw [hplaced, ← settledGuard_eq_reversal_iff]
  by_cases hmarked : f.blocking = some false
  · have hother : "marked non-blocking by reviewer" ≠ "reversal-unacknowledged" := by decide
    simp [place, hmarked, hother]
  · have hclassify : place host findings policy inputs f = classify host policy inputs.settledFindings f := by
      simp [place, hmarked, hscope, hkey]
    have habove : ¬((!isAboveSeverity policy f) = true ∨ belowConfidence policy f = true) := by
      simpa [meetsPolicy] using hpolicy
    rw [hclassify, classify, if_neg habove]
    cases settledGuard host inputs.settledFindings f with
    | some a => simp [hmarked]
    | none => simp

lemma Reraised.matches_blocker (h : Reraised host comments opts findings policy inputs e f)
    (hsurface : e.surface = none ∨ e.surface = surfaceKey host f) :
    ∃ s ∈ inputs.settledFindings, (matchEntry host f s).isSome = true := by
  obtain ⟨r, hnewest, he⟩ := h.newest
  have hmem : e.settled r.round ∈ inputs.settledFindings := by
    rw [h.settled]
    exact mem_settledFindings_iff.2
      ⟨r, List.mem_of_getLast? hnewest, e, he, isSettled_of_newest host hnewest he, rfl⟩
  have hkey : (e.settled r.round).key = findingKey host f := h.key
  have hsame : (e.settled r.round).surface = none ∨ (e.settled r.round).surface = surfaceKey host f := hsurface
  refine ⟨e.settled r.round, hmem, ?_⟩
  rw [matchEntry_of_key host hkey, if_pos hsame]
  rfl

/-- A blocker of the newest round that is raised again blocks when it acknowledges the round.
Without an acknowledgment it advises as a reversal: on the surface of the blocker always, and on
another one when some other settled entry matches it. -/
theorem reraised_blocker {comments : List IssueComment} {opts : DigestOpts}
    {findings : List ReviewFinding} {policy : ReviewPolicy} {inputs : PartitionInputs}
    {e : DigestEntry} {f : ReviewFinding}
    (h : Reraised host comments opts findings policy inputs e f) :
    (f.blocking ≠ some false → hasAcknowledgment f = true →
        f ∈ (partitionFindings host findings policy inputs).blocking) ∧
      (IsReversal host findings policy inputs f ↔ f.blocking ≠ some false ∧ hasAcknowledgment f = false ∧
          ((e.surface = none ∨ e.surface = surfaceKey host f) ∨
            ∃ s ∈ settledFindings (buildPriorRoundDigest host comments opts),
              (matchEntry host f s).isSome = true)) := by
  constructor
  · intro hmarked hack
    have hguard : settledGuard host inputs.settledFindings f = none := by simp [settledGuard, hack]
    refine (mem_blocking_iff host).2 ⟨h.raised, (place_eq_blocking_iff host).2 ?_⟩
    exact ⟨hmarked, h.unscoped, h.undisposed, h.meets, hguard⟩
  · rw [isReversal_iff host h.raised h.meets h.unscoped h.undisposed, ← h.settled]
    constructor
    · rintro ⟨hmarked, hack, hmatch⟩
      exact ⟨hmarked, hack, .inr hmatch⟩
    · rintro ⟨hmarked, hack, hsurface | hmatch⟩
      · exact ⟨hmarked, hack, h.matches_blocker host hsurface⟩
      · exact ⟨hmarked, hack, hmatch⟩

end Digest

/-! ## A fix that left the defect in place -/

/-- A round that found `uncheckedRead`, with the markers of a legacy comment. -/
def firstRound : IssueComment where
  author := some "pipeline-bot"
  body :=
    "## Review 2 (Adversarial) — needs-attention".toList ++ '\n' :: "<!-- pipeline-blocking-keys: 719072e4 -->".toList

def firstRoundOpts : DigestOpts where
  actor := some "pipeline-bot"

/-- The entry of `uncheckedRead`. -/
def firstRoundEntry : DigestEntry where
  key := "719072e4"
  surface := none
  severity := "unknown"
  title := "(title unavailable)"
  resolution := .resolvedByFix
  rejectedAlternatives := []

lemma digest_firstRound : buildPriorRoundDigest sameLineHost [firstRound] firstRoundOpts =
      [⟨1, none, [firstRoundEntry], []⟩] := by
  decide +kernel

def majorPolicy : ReviewPolicy where
  blockThreshold := .high
  minConfidence := 7 / 10

def afterFirstRound : PartitionInputs where
  settledFindings := [firstRoundEntry.settled 1]

/-- The next round reports the read again, and says that it was reported before. -/
def acknowledgedRead : ReviewFinding :=
  { uncheckedRead with priorRoundAcknowledgment := some "Round 1 found it; the fix missed it." }

lemma reraised_firstRound (hkey : findingKey sameLineHost f = "719072e4")
    (hpolicy : meetsPolicy majorPolicy f = true) :
    Reraised sameLineHost [firstRound] firstRoundOpts [f] majorPolicy afterFirstRound
      firstRoundEntry f where
  newest := ⟨_, by rw [digest_firstRound]; rfl, List.mem_singleton.2 rfl⟩
  unresolved := by decide
  raised := List.mem_singleton.2 rfl
  key := hkey.symm
  meets := hpolicy
  unscoped := rfl
  undisposed := by
    have hoverride : afterFirstRound.overrides.get? (findingKey sameLineHost f) = none := rfl
    have hnone : declaredNonReproducing sameLineHost afterFirstRound f = none := rfl
    simp [disposedEntry, hoverride, hnone]
  settled := by
    rw [digest_firstRound]
    rfl

theorem reraised_unacknowledged :
    Reraised sameLineHost [firstRound] firstRoundOpts [uncheckedRead] majorPolicy afterFirstRound
        firstRoundEntry uncheckedRead ∧
      IsReversal sameLineHost [uncheckedRead] majorPolicy afterFirstRound uncheckedRead := by
  have h := reraised_firstRound (f := uncheckedRead) (by decide +kernel) (by decide +kernel)
  refine ⟨h, ?_⟩
  rw [isReversal_iff sameLineHost h.raised h.meets h.unscoped h.undisposed]
  exact ⟨by decide, by decide, h.matches_blocker sameLineHost (.inl rfl)⟩

theorem reraised_acknowledged :
    Reraised sameLineHost [firstRound] firstRoundOpts [acknowledgedRead] majorPolicy
        afterFirstRound firstRoundEntry acknowledgedRead ∧
      acknowledgedRead ∈ (partitionFindings sameLineHost [acknowledgedRead] majorPolicy afterFirstRound).blocking := by
  have h := reraised_firstRound (f := acknowledgedRead) (by decide +kernel) (by decide +kernel)
  exact ⟨h, (reraised_blocker sameLineHost h).1 (by decide) (by decide +kernel)⟩

end AgentPipeline.Review
