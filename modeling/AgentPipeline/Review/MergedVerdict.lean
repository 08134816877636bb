import AgentPipeline.Review.Ensemble
import AgentPipeline.Review.StrictVerdict

/-!
# MergedVerdict: strict verdicts merged, written and read back

`mergeEnsembleVerdicts` on the findings of the strict parser, with every field of them, followed by
`serializeMergedVerdict`.

* `mergeStrictVerdicts`: the merge; `toReview_mergeStrictVerdicts` says that it is the merge of the
  findings as the policy reads them;
* `leadOf`: the finding of a key whose fields are kept;
* `merged_roundTrips_iff`: both parsers return the merged verdict exactly when the lines of the
  findings that lead are finite numbers.
-/

namespace AgentPipeline.Review

open List

structure StrictAgentVerdict where
  agentIndex : Nat
  verdict : StrictVerdict
deriving DecidableEq, Repr

/-- `Group`; a finding of the strict parser has a confidence. -/
structure StrictGroup where
  winner : StrictFinding
  winnerAgentIndex : Nat
  maxSevRank : Nat
  maxConfidence : ℚ
  explicitBlocking : Bool
deriving DecidableEq, Repr

def freshStrictGroup (agentIndex : Nat) (f : StrictFinding) : StrictGroup where
  winner := f
  winnerAgentIndex := agentIndex
  maxSevRank := f.severity.rank
  maxConfidence := f.confidence
  explicitBlocking := f.blocking = some true

/-- Whether a finding takes the place of one, with the highest rank and confidence before it. -/
def takesLead (rank : Nat) (confidence : ℚ) (leaderIndex agentIndex : Nat) (f : StrictFinding) :
    Bool :=
  let sevRank := f.severity.rank
  let betterSev := rank < sevRank
  let sameSev := sevRank = rank
  let betterConf := sameSev ∧ confidence < f.confidence
  let sameConf := sameSev ∧ f.confidence = confidence
  betterSev ∨ betterConf ∨ (sameConf ∧ agentIndex < leaderIndex)

/-- The turn of a finding whose key is there. -/
def StrictGroup.absorb (g : StrictGroup) (agentIndex : Nat) (f : StrictFinding) : StrictGroup :=
  let beaten := takesLead g.maxSevRank g.maxConfidence g.winnerAgentIndex agentIndex f
  let rank := max g.maxSevRank f.severity.rank
  let confidence := max g.maxConfidence f.confidence
  let explicit := g.explicitBlocking || f.blocking = some true
  let winner := if beaten then f else g.winner
  { winner :=
      { winner with
        severity := severityOfRank rank
        confidence
        blocking := if explicit then some true else winner.blocking }
    winnerAgentIndex := if beaten then agentIndex else g.winnerAgentIndex
    maxSevRank := rank
    maxConfidence := confidence
    explicitBlocking := explicit }

/-! ## The findings as the policy reads them -/

section ToReview

variable (host : NodeHost)

def StrictFinding.toReview (f : StrictFinding) : ReviewFinding where
  severity := .word f.severity.name
  title := some f.title
  body := some f.body
  file := f.file
  lineStart := f.lineStart.map fun n => ⟨n, host.textOf n⟩
  lineEnd := f.lineEnd.map fun n => ⟨n, host.textOf n⟩
  confidence := some (.finite f.confidence)
  recommendation := some f.recommendation
  category := f.category
  blocking := f.blocking
  priorRoundAcknowledgment := f.priorRoundAcknowledgment
  rejectedAlternatives := f.rejectedAlternatives

def StrictGroup.toGroup (g : StrictGroup) : Group where
  winner := g.winner.toReview host
  winnerAgentIndex := g.winnerAgentIndex
  maxSevRank := g.maxSevRank
  maxConfidence := some g.maxConfidence
  explicitBlocking := g.explicitBlocking

def StrictAgentVerdict.toReview (a : StrictAgentVerdict) : AgentVerdict where
  agentIndex := a.agentIndex
  verdict :=
    { verdict := a.verdict.verdict
      summary := a.verdict.summary
      findings := a.verdict.findings.map (StrictFinding.toReview host)
      nextSteps := a.verdict.nextSteps
      commitSha := "" }

end ToReview

section Merge

variable (host : NodeHost)

/-- `findingKey(f)`. -/
def StrictFinding.key (f : StrictFinding) : String := findingKey host (f.toReview host)

/-- One turn of the loop over the findings of an agent. -/
def mergeStrictFinding (agentIndex : Nat) (groups : JsObject StrictGroup) (f : StrictFinding) :
    JsObject StrictGroup :=
  let key := f.key host
  match groups.get? key with
  | none => groups.set key (freshStrictGroup agentIndex f)
  | some g => groups.set key (g.absorb agentIndex f)

def mergeStrictGroups (agentVerdicts : List StrictAgentVerdict) : JsObject StrictGroup :=
  agentVerdicts.foldl
    (fun groups a => a.verdict.findings.foldl (mergeStrictFinding host a.agentIndex) groups) .empty

/-- `mergeEnsembleVerdicts(agentVerdicts)`: the findings with every field; the rest does not look at
the findings but for their number. -/
def mergeStrictVerdicts (agentVerdicts : List StrictAgentVerdict) : StrictVerdict :=
  let merged := mergeEnsembleVerdicts host (agentVerdicts.map (StrictAgentVerdict.toReview host)) ""
  { verdict := merged.verdict
    summary := merged.summary
    findings := (mergeStrictGroups host agentVerdicts).values.map (·.winner)
    nextSteps := merged.nextSteps }

end Merge

/-! ## The two merges -/

section Link

variable (host : NodeHost)

lemma toGroup_freshStrictGroup (agentIndex : Nat) (f : StrictFinding) :
    (freshStrictGroup agentIndex f).toGroup host = freshGroup agentIndex (f.toReview host) := by
  simp only [freshStrictGroup, StrictGroup.toGroup, freshGroup, StrictFinding.toReview,
    finiteConfidence, severityRank_name]
  rfl

lemma isBeatenBy_toGroup (g : StrictGroup) (agentIndex : Nat) (f : StrictFinding) :
    (g.toGroup host).isBeatenBy agentIndex (f.toReview host) =
      takesLead g.maxSevRank g.maxConfidence g.winnerAgentIndex agentIndex f := by
  simp [Group.isBeatenBy, takesLead, StrictGroup.toGroup, StrictFinding.toReview, finiteConfidence]

lemma toGroup_absorb (g : StrictGroup) (agentIndex : Nat) (f : StrictFinding) : (g.absorb agentIndex f).toGroup host =
      (g.toGroup host).absorb agentIndex (f.toReview host) := by
  unfold Group.absorb
  rw [isBeatenBy_toGroup]
  unfold StrictGroup.absorb
  cases takesLead g.maxSevRank g.maxConfidence g.winnerAgentIndex agentIndex f with
  | true =>
    simp only [StrictGroup.toGroup, StrictFinding.toReview, canonicalWinner, finiteConfidence,
      higherConfidence, severityRank_name, if_true]
    rfl
  | false =>
    simp only [StrictGroup.toGroup, StrictFinding.toReview, canonicalWinner, finiteConfidence,
      higherConfidence, severityRank_name, Bool.false_eq_true, if_false]
    rfl

/-- The groups as the policy reads them. -/
def toGroups (groups : JsObject StrictGroup) : JsObject Group :=
  groups.mapEntries fun _ g => g.toGroup host

lemma toGroups_mergeStrictFinding (agentIndex : Nat) (groups : JsObject StrictGroup) (f : StrictFinding) :
    toGroups host (mergeStrictFinding host agentIndex groups f) =
      mergeFinding host agentIndex (toGroups host groups) (f.toReview host) := by
  unfold mergeStrictFinding mergeFinding toGroups
  simp only [JsObject.get?_mapEntries, StrictFinding.key]
  cases groups.get? (findingKey host (f.toReview host)) with
  | none => rw [Option.map_none, JsObject.mapEntries_set, toGroup_freshStrictGroup]
  | some g => rw [Option.map_some, JsObject.mapEntries_set, toGroup_absorb]

lemma toGroups_mergeStrictGroups (l : List StrictAgentVerdict) : toGroups host (mergeStrictGroups host l) =
      mergeGroups host (l.map (StrictAgentVerdict.toReview host)) := by
  unfold mergeStrictGroups mergeGroups
  rw [foldl_map]
  have hfindings : ∀ (agentIndex : Nat) (findings : List StrictFinding) (groups : JsObject StrictGroup),
      toGroups host (findings.foldl (mergeStrictFinding host agentIndex) groups) =
        (findings.map (StrictFinding.toReview host)).foldl (mergeFinding host agentIndex) (toGroups host groups) := by
    intro agentIndex findings
    induction findings with
    | nil => exact fun _ => rfl
    | cons f findings ih =>
      intro groups
      rw [foldl_cons, ih, toGroups_mergeStrictFinding]
      rfl
  have hagents : ∀ groups : JsObject StrictGroup, toGroups host (l.foldl (fun groups a =>
        a.verdict.findings.foldl (mergeStrictFinding host a.agentIndex) groups) groups) =
      l.foldl (fun groups a => (a.toReview host).verdict.findings.foldl
        (mergeFinding host (a.toReview host).agentIndex) groups) (toGroups host groups) := by
    induction l with
    | nil => exact fun _ => rfl
    | cons a l ih =>
      intro groups
      rw [foldl_cons, ih, hfindings]
      rfl
  exact hagents .empty

lemma toReview_mergeStrictVerdicts (l : List StrictAgentVerdict) :
    (mergeStrictVerdicts host l).findings.map (StrictFinding.toReview host) =
      (mergeEnsembleVerdicts host (l.map (StrictAgentVerdict.toReview host)) "").findings := by
  unfold mergeStrictVerdicts mergeEnsembleVerdicts
  rw [← toGroups_mergeStrictGroups]
  simp [toGroups, JsObject.mapEntries, JsObject.values, StrictGroup.toGroup]

end Link

/-! ## The finding that leads a key -/

/-- A finding of an agent. -/
structure StrictOccurrence where
  agentIndex : Nat
  finding : StrictFinding
deriving DecidableEq, Repr

def strictOccurrences (agentVerdicts : List StrictAgentVerdict) : List StrictOccurrence :=
  agentVerdicts.flatMap fun a => a.verdict.findings.map fun f => ⟨a.agentIndex, f⟩

/-- The finding that leads after some more, with the highest rank and confidence before them. -/
def leadFrom (rank : Nat) (confidence : ℚ) (leader : StrictOccurrence) :
    List StrictOccurrence → StrictOccurrence
  | [] => leader
  | o :: rest =>
    leadFrom (max rank o.finding.severity.rank) (max confidence o.finding.confidence)
      (if takesLead rank confidence leader.agentIndex o.agentIndex o.finding then o else leader)
      rest

/-- The finding whose fields are kept of some findings of one key. -/
def leadOf : List StrictOccurrence → Option StrictOccurrence
  | [] => none
  | o :: rest => some (leadFrom o.finding.severity.rank o.finding.confidence o rest)

lemma leadFrom_mem (rank : Nat) (confidence : ℚ) (leader : StrictOccurrence)
    (rest : List StrictOccurrence) : leadFrom rank confidence leader rest ∈ leader :: rest := by
  induction rest generalizing rank confidence leader with
  | nil => simp [leadFrom]
  | cons o rest ih =>
    rw [leadFrom]
    have hmem := ih (max rank o.finding.severity.rank) (max confidence o.finding.confidence)
      (if takesLead rank confidence leader.agentIndex o.agentIndex o.finding then o else leader)
    rcases mem_cons.1 hmem with h | h
    · rw [h]
      split <;> simp
    · simp [h]

lemma leadOf_mem {l : List StrictOccurrence} {o : StrictOccurrence} (h : leadOf l = some o) : o ∈ l := by
  cases l with
  | nil => cases h
  | cons first rest =>
    obtain rfl := Option.some.inj h
    exact leadFrom_mem _ _ _ _

/-- The group keeps the lines of the finding that leads, and confidences of the findings. -/
structure StrictGroup.Led (P : ℚ → Prop) (leader : StrictOccurrence) (g : StrictGroup) : Prop where
  lineStart : g.winner.lineStart = leader.finding.lineStart
  lineEnd : g.winner.lineEnd = leader.finding.lineEnd
  index : g.winnerAgentIndex = leader.agentIndex
  confidence : g.winner.confidence = g.maxConfidence
  kept : P g.maxConfidence

/-- The group of a key after one more finding of it. -/
def turnedStrict (group : Option StrictGroup) (o : StrictOccurrence) : StrictGroup :=
  match group with
  | none => freshStrictGroup o.agentIndex o.finding
  | some g => g.absorb o.agentIndex o.finding

section Led

variable {P : ℚ → Prop} {leader o : StrictOccurrence} {g : StrictGroup}

lemma StrictGroup.Led.fresh (ho : P o.finding.confidence) :
    (freshStrictGroup o.agentIndex o.finding).Led P o := ⟨rfl, rfl, rfl, rfl, ho⟩

lemma StrictGroup.Led.absorb (h : g.Led P leader) (ho : P o.finding.confidence) :
    (g.absorb o.agentIndex o.finding).Led P
      (if takesLead g.maxSevRank g.maxConfidence leader.agentIndex o.agentIndex o.finding then o
        else leader) := by
  have hmax : P (max g.maxConfidence o.finding.confidence) := by
    rcases max_choice g.maxConfidence o.finding.confidence with hmax | hmax <;> rw [hmax]
    · exact h.kept
    · exact ho
  unfold StrictGroup.absorb
  rw [h.index]
  cases takesLead g.maxSevRank g.maxConfidence leader.agentIndex o.agentIndex o.finding with
  | true => exact ⟨rfl, rfl, rfl, rfl, hmax⟩
  | false => exact ⟨h.lineStart, h.lineEnd, rfl, rfl, hmax⟩

lemma StrictGroup.Led.run (h : g.Led P leader) (rest : List StrictOccurrence)
    (hrest : ∀ o ∈ rest, P o.finding.confidence) :
    ∃ g', rest.foldl (fun group o => some (turnedStrict group o)) (some g) = some g' ∧
      g'.Led P (leadFrom g.maxSevRank g.maxConfidence leader rest) := by
  induction rest generalizing g leader with
  | nil => exact ⟨g, rfl, h⟩
  | cons o rest ih =>
    exact ih (h.absorb (hrest o (by simp))) fun x hx => hrest x (by simp [hx])

lemma led_of_leadOf (l : List StrictOccurrence) (hl : ∀ o ∈ l, P o.finding.confidence) :
    match leadOf l, l.foldl (fun group o => some (turnedStrict group o)) none with
    | none, none => True
    | some leader, some g => g.Led P leader
    | _, _ => False := by
  cases l with
  | nil => exact trivial
  | cons o rest =>
    obtain ⟨g, hg, hled⟩ :=
      (StrictGroup.Led.fresh (hl o (by simp))).run rest fun x hx => hl x (by simp [hx])
    rw [leadOf, foldl_cons]
    have hfresh : some (turnedStrict none o) = some (freshStrictGroup o.agentIndex o.finding) := rfl
    rw [hfresh, hg]
    exact hled

end Led

variable {f : StrictFinding}

section Merged

variable (host : NodeHost)

/-- The findings of a key, in the order of the agents. -/
def ofKey (agentVerdicts : List StrictAgentVerdict) (key : String) : List StrictOccurrence :=
  (strictOccurrences agentVerdicts).filter fun o => o.finding.key host = key

lemma get?_mergeStrictGroups (l : List StrictAgentVerdict) (key : String) :
    (mergeStrictGroups host l).get? key =
      (ofKey host l key).foldl (fun group o => some (turnedStrict group o)) none := by
  have hturn : (fun (groups : JsObject StrictGroup) (o : StrictOccurrence) =>
      mergeStrictFinding host o.agentIndex groups o.finding) =
      fun groups o => groups.set (o.finding.key host)
        (turnedStrict (groups.get? (o.finding.key host)) o) := by
    funext groups o
    unfold mergeStrictFinding turnedStrict
    cases hget : groups.get? (o.finding.key host) <;> simp [hget]
  have hgroups : mergeStrictGroups host l = (strictOccurrences l).foldl
      (fun groups o => mergeStrictFinding host o.agentIndex groups o.finding) .empty := by
    unfold mergeStrictGroups strictOccurrences
    rw [foldl_flatMap]
    congr 1
    funext groups a
    rw [foldl_map]
  rw [hgroups, hturn, JsObject.get?_foldl_turn fun o : StrictOccurrence => o.finding.key host]
  rfl

lemma mem_merged {l : List StrictAgentVerdict} : f ∈ (mergeStrictVerdicts host l).findings ↔
      ∃ key g, (mergeStrictGroups host l).get? key = some g ∧ g.winner = f := by
  unfold mergeStrictVerdicts
  simp only [mem_map, JsObject.mem_values]
  constructor
  · rintro ⟨g, ⟨key, hg⟩, rfl⟩
    exact ⟨key, g, hg, rfl⟩
  · rintro ⟨key, g, hg, rfl⟩
    exact ⟨g, ⟨key, hg⟩, rfl⟩

variable {host} {P : ℚ → Prop} {l : List StrictAgentVerdict}

lemma mem_ofKey {key : String} {o : StrictOccurrence} (h : o ∈ ofKey host l key) :
    ∃ a ∈ l, o.finding ∈ a.verdict.findings := by
  obtain ⟨a, ha, ho⟩ := mem_flatMap.1 (mem_of_mem_filter h)
  obtain ⟨f, hf, rfl⟩ := mem_map.1 ho
  exact ⟨a, ha, hf⟩

lemma leader_of_mem_merged (hl : ∀ a ∈ l, ∀ f ∈ a.verdict.findings, P f.confidence)
    (hf : f ∈ (mergeStrictVerdicts host l).findings) : ∃ key leader, leadOf (ofKey host l key) = some leader ∧
      f.lineStart = leader.finding.lineStart ∧ f.lineEnd = leader.finding.lineEnd ∧ P f.confidence := by
  obtain ⟨key, g, hget, rfl⟩ := (mem_merged host).1 hf
  have hled := led_of_leadOf (P := P) (ofKey host l key) fun o ho => by
    obtain ⟨a, ha, hmem⟩ := mem_ofKey ho
    exact hl a ha o.finding hmem
  rw [← get?_mergeStrictGroups, hget] at hled
  cases hleader : leadOf (ofKey host l key) with
  | none => simp [hleader] at hled
  | some leader =>
    rw [hleader] at hled
    refine ⟨key, leader, hleader, hled.lineStart, hled.lineEnd, ?_⟩
    rw [hled.confidence]
    exact hled.kept

lemma merged_of_leader {key : String} {leader : StrictOccurrence} (h : leadOf (ofKey host l key) = some leader) :
    ∃ f ∈ (mergeStrictVerdicts host l).findings,
      f.lineStart = leader.finding.lineStart ∧ f.lineEnd = leader.finding.lineEnd := by
  have hled := led_of_leadOf (P := fun _ => True) (ofKey host l key) fun _ _ => trivial
  rw [← get?_mergeStrictGroups, h] at hled
  cases hget : (mergeStrictGroups host l).get? key with
  | none => simp [hget] at hled
  | some g =>
    rw [hget] at hled
    exact ⟨g.winner, (mem_merged host).2 ⟨key, g, hget, rfl⟩, hled.lineStart, hled.lineEnd⟩

end Merged

/-! ## Verdicts of the strict parser -/

lemma confidence_of_strictFinding? {data : Json}
    (h : strictFinding? data = some f) : 0 ≤ f.confidence ∧ f.confidence ≤ 1 := by
  unfold strictFinding? at h
  obtain ⟨severity, -, h⟩ := Option.bind_eq_some_iff.1 h
  obtain ⟨title, -, h⟩ := Option.bind_eq_some_iff.1 h
  obtain ⟨body, -, h⟩ := Option.bind_eq_some_iff.1 h
  obtain ⟨confidence, hconfidence, h⟩ := Option.bind_eq_some_iff.1 h
  obtain ⟨recommendation, -, h⟩ := Option.bind_eq_some_iff.1 h
  obtain ⟨file, -, h⟩ := Option.bind_eq_some_iff.1 h
  obtain ⟨lineStart, -, h⟩ := Option.bind_eq_some_iff.1 h
  obtain ⟨lineEnd, -, h⟩ := Option.bind_eq_some_iff.1 h
  obtain ⟨category, -, h⟩ := Option.bind_eq_some_iff.1 h
  obtain ⟨direction, -, h⟩ := Option.bind_eq_some_iff.1 h
  obtain ⟨blocking, -, h⟩ := Option.bind_eq_some_iff.1 h
  obtain ⟨prior, -, h⟩ := Option.bind_eq_some_iff.1 h
  obtain ⟨rejected, -, h⟩ := Option.bind_eq_some_iff.1 h
  obtain rfl := Option.some.inj h
  simpa using (Option.filter_eq_some_iff.1 hconfidence).2

section Accepted

variable {host : NodeHost}

lemma confidence_of_strictVerdict {output : List Char} {v : StrictVerdict} (h : strictVerdict host output = some v) :
    ∀ f ∈ v.findings, 0 ≤ f.confidence ∧ f.confidence ≤ 1 := by
  unfold strictVerdict firstRead at h
  obtain ⟨candidate, -, hread⟩ := exists_of_findSome?_eq_some h
  obtain ⟨data, -, hdata⟩ := Option.bind_eq_some_iff.1 hread
  unfold strictVerdict? at hdata
  simp only [Option.bind_eq_bind, Option.bind_eq_some_iff] at hdata
  obtain ⟨token, -, summary, -, raw, -, findings, hfindings, nextSteps, -, hv⟩ := hdata
  obtain rfl := Option.some.inj hv
  intro f hf
  obtain ⟨value, -, hvalue⟩ := (Lists.mem_iff_of_mapM hfindings).1 hf
  exact confidence_of_strictFinding? hvalue

lemma wellFormed_mergeStrictVerdicts {l : List StrictAgentVerdict}
    (haccepted : ∀ a ∈ l, ∃ output, strictVerdict host output = some a.verdict) :
    (mergeStrictVerdicts host l).WellFormed where
  approve := by
    intro happrove
    have hempty := (merged_approvesEmpty (l.map (StrictAgentVerdict.toReview host)) "").1 happrove
    rw [← toReview_mergeStrictVerdicts] at hempty
    exact map_eq_nil_iff.1 hempty
  confidence := by
    intro f hf
    obtain ⟨key, leader, -, -, -, hconfidence⟩ :=
      leader_of_mem_merged (P := fun q => 0 ≤ q ∧ q ≤ 1) (fun a ha f hf => by
        obtain ⟨output, houtput⟩ := haccepted a ha
        exact confidence_of_strictVerdict houtput f hf) hf
    exact hconfidence

lemma numbersReadBack_merged {l : List StrictAgentVerdict}
    (hnumbers : ∀ a ∈ l, ∀ f ∈ a.verdict.findings, f.NumbersReadBack host) :
    ∀ f ∈ (mergeStrictVerdicts host l).findings, f.NumbersReadBack host := by
  intro f hf
  obtain ⟨key, leader, hleader, hstart, hend, hconfidence⟩ :=
    leader_of_mem_merged (P := NumberReadsBack host) (fun a ha f hf => (hnumbers a ha f hf).confidence)
      hf
  obtain ⟨a, ha, hmem⟩ := mem_ofKey (leadOf_mem hleader)
  have hread := hnumbers a ha leader.finding hmem
  exact ⟨hconfidence, fun q hq => hread.lineStart q (hstart ▸ hq), fun q hq => hread.lineEnd q (hend ▸ hq)⟩

/-- The merge of accepted verdicts is read back by both parsers, field by field, exactly when the
lines of the findings that lead their keys are finite numbers. The numbers of the verdicts are
written as numerals that are read as them. -/
theorem merged_roundTrips_iff (l : List StrictAgentVerdict)
    (haccepted : ∀ a ∈ l, ∃ output, strictVerdict host output = some a.verdict)
    (hnumbers : ∀ a ∈ l, ∀ f ∈ a.verdict.findings, f.NumbersReadBack host) :
    RoundTrips host (mergeStrictVerdicts host l) ↔
      ∀ key leader, leadOf (ofKey host l key) = some leader → leader.finding.LinesFinite := by
  rw [roundTrips_iff_lines (wellFormed_mergeStrictVerdicts haccepted)
    (numbersReadBack_merged hnumbers)]
  constructor
  · intro hlines key leader hleader
    obtain ⟨f, hf, hstart, hend⟩ := merged_of_leader hleader
    have hfinite := hlines f hf
    rw [StrictFinding.LinesFinite, hstart, hend] at hfinite
    exact hfinite
  · intro hlines f hf
    obtain ⟨key, leader, hleader, hstart, hend, -⟩ :=
      leader_of_mem_merged (P := fun _ => True) (fun _ _ _ _ => trivial) hf
    rw [StrictFinding.LinesFinite, hstart, hend]
    exact hlines key leader hleader

end Accepted

/-! ## A line that is too large for a number -/

/-- The host of three numerals, the last of which is too large. -/
def writingHost : NodeHost :=
  { NodeHost.onFirstDay [] [] with
    numberText := fun q => if q = 9 / 10 then "0.9" else "12"
    numberOf := fun text =>
      if text = "12" then .finite 12
      else if text = "0.9" then .finite (9 / 10)
      else if text = "1e999" then .infinity false else .nan }

lemma writingHost_reads : NumberReadsBack writingHost (9 / 10) ∧ NumberReadsBack writingHost 12 :=
  ⟨⟨by decide +kernel, all_eq_true.1 (by decide +kernel), by decide +kernel⟩,
    ⟨by decide +kernel, all_eq_true.1 (by decide +kernel), by decide +kernel⟩⟩

/-- A finding about a fence in the text, at some line. -/
def fenceFinding (line : JsNumber) : StrictFinding where
  severity := .high
  title := "Fence"
  body := "```json\n\x7b\x7d\n```"
  lineStart := some line
  confidence := 9 / 10
  recommendation := ""

def fenceVerdict (line : JsNumber) : StrictVerdict := ⟨.needsAttention, "", [fenceFinding line], []⟩

/-- What an agent writes of it. -/
def fenceOutput (numeral : String) : List Char :=
  ("\x7b\"verdict\":\"needs-attention\",\"summary\":\"\",\"findings\":[\x7b\"severity\":\"high\"," ++
    "\"title\":\"Fence\",\"body\":\"```json\\n\x7b\x7d\\n```\",\"line_start\":" ++ numeral ++
    ",\"confidence\":0.9,\"recommendation\":\"\"\x7d],\"next_steps\":[]\x7d").toList

/-- A finding that quotes a fence comes back with its text. -/
theorem quoted_fence_read_back :
    RoundTrips writingHost (mergeStrictVerdicts writingHost [⟨0, fenceVerdict (.finite 12)⟩]) := by
  have hnumbers : (fenceFinding (.finite 12)).NumbersReadBack writingHost := by
    refine ⟨writingHost_reads.1, fun q hq => ?_, fun q hq => by cases hq⟩
    obtain rfl : (12 : ℚ) = q := by simpa [fenceFinding] using hq
    exact writingHost_reads.2
  refine (merged_roundTrips_iff [⟨0, fenceVerdict (.finite 12)⟩] ?_ ?_).2 ?_
  · simp only [mem_singleton, forall_eq]
    exact ⟨fenceOutput "12", by decide +kernel⟩
  · simpa [fenceVerdict] using hnumbers
  · intro key leader hleader
    obtain ⟨a, ha, hmem⟩ := mem_ofKey (leadOf_mem hleader)
    obtain rfl := mem_singleton.1 ha
    rw [mem_singleton.1 hmem]
    exact ⟨fun n hn => ⟨12, (Option.some.inj hn).symm⟩, fun n hn => by cases hn⟩

/-- A line that is read as infinite is accepted, and the merged verdict is not. -/
theorem infinite_line_refused :
    ¬∀ (host : NodeHost) (l : List StrictAgentVerdict),
      (∀ a ∈ l, ∃ output, strictVerdict host output = some a.verdict) →
        (∀ a ∈ l, ∀ f ∈ a.verdict.findings, f.NumbersReadBack host) →
          RoundTrips host (mergeStrictVerdicts host l) := by
  intro h
  have hnumbers : (fenceFinding (.infinity false)).NumbersReadBack writingHost := by
    refine ⟨writingHost_reads.1, fun q hq => ?_, fun q hq => ?_⟩
    · cases hq
    · cases hq
  have hround := h writingHost [⟨0, fenceVerdict (.infinity false)⟩]
    (by
      simp only [mem_singleton, forall_eq]
      exact ⟨fenceOutput "1e999", by decide +kernel⟩)
    (by simpa [fenceVerdict] using hnumbers)
  have hrefused : strictVerdict writingHost (serializeMergedVerdict writingHost
      (mergeStrictVerdicts writingHost [⟨0, fenceVerdict (.infinity false)⟩])) = none := by
    decide +kernel
  rw [RoundTrips, hrefused] at hround
  cases hround.1

end AgentPipeline.Review
