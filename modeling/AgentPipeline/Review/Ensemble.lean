import AgentPipeline.Foundation.Selection
import AgentPipeline.Review.Partition

/-!
# Ensemble: merging the verdicts of several reviewers

`mergeEnsembleVerdicts` keeps one finding of every key: the one of the highest severity, then of
the highest confidence, then of the earliest agent. It is blocking if any finding of its key was
marked so.

The merge laws: no finding that blocks in one verdict is lost, every key stays exactly once, only
an empty union approves, and the order of the agents does not matter. The ranking does not look at
the mark `blocking: false`, which the partition looks at first, so a blocker is lost when the
leading finding of its key carries that mark (`HidesBlocker`). `mergeLaws_iff` says that this is
the only way.
-/

namespace AgentPipeline.Review

open List Selection

structure AgentVerdict where
  agentIndex : Nat
  verdict : ReviewVerdict
deriving DecidableEq, Repr

/-- `Group`; no confidence yet is `Number.NEGATIVE_INFINITY`. -/
structure Group where
  winner : ReviewFinding
  winnerAgentIndex : Nat
  maxSevRank : Nat
  maxConfidence : Option ℚ
  explicitBlocking : Bool
deriving DecidableEq, Repr

/-- A confidence that is a finite number. -/
def finiteConfidence (f : ReviewFinding) : Option ℚ :=
  match f.confidence with
  | some (.finite q) => some q
  | _ => none

/-- `Math.max`, where `none` is negative infinity. -/
def higherConfidence : Option ℚ → Option ℚ → Option ℚ
  | none, b => b
  | a, none => a
  | some a, some b => some (max a b)

/-- The severity of a rank. -/
def severityOfRank (rank : Nat) : Severity := severityOrder.getD (min 3 rank) .critical

def freshGroup (agentIndex : Nat) (f : ReviewFinding) : Group where
  winner := f
  winnerAgentIndex := agentIndex
  maxSevRank := severityRank f.severity
  maxConfidence := finiteConfidence f
  explicitBlocking := f.blocking = some true

/-- Whether a finding takes the place of the winner. -/
def Group.isBeatenBy (g : Group) (agentIndex : Nat) (f : ReviewFinding) : Bool :=
  let sevRank := severityRank f.severity
  let conf := finiteConfidence f
  let betterSev := g.maxSevRank < sevRank
  let sameSev := sevRank = g.maxSevRank
  let betterConf := sameSev ∧ conf.any fun c => g.maxConfidence.all fun m => m < c
  let sameConf := sameSev ∧ conf = g.maxConfidence
  betterSev ∨ betterConf ∨ (sameConf ∧ agentIndex < g.winnerAgentIndex)

/-- The winner with the highest severity and confidence of its group written into it. -/
def canonicalWinner (winner : ReviewFinding) (rank : Nat) (confidence : Option ℚ)
    (explicit : Bool) : ReviewFinding :=
  { winner with
    severity := .word (severityOfRank rank).name
    confidence :=
      match confidence with
      | some q => some (.finite q)
      | none => winner.confidence <|> some (.finite 0)
    blocking := if explicit then some true else winner.blocking }

/-- The turn of a finding whose key is there. -/
def Group.absorb (g : Group) (agentIndex : Nat) (f : ReviewFinding) : Group :=
  let beaten := g.isBeatenBy agentIndex f
  let rank := max g.maxSevRank (severityRank f.severity)
  let confidence := higherConfidence g.maxConfidence (finiteConfidence f)
  let explicit := g.explicitBlocking || f.blocking = some true
  { winner := canonicalWinner (if beaten then f else g.winner) rank confidence explicit
    winnerAgentIndex := if beaten then agentIndex else g.winnerAgentIndex
    maxSevRank := rank
    maxConfidence := confidence
    explicitBlocking := explicit }

section Merge

variable (host : NodeHost)

/-- One turn of the loop over the findings of an agent. -/
def mergeFinding (agentIndex : Nat) (groups : JsObject Group) (f : ReviewFinding) :
    JsObject Group :=
  let key := findingKey host f
  match groups.get? key with
  | none => groups.set key (freshGroup agentIndex f)
  | some g => groups.set key (g.absorb agentIndex f)

def mergeGroups (agentVerdicts : List AgentVerdict) : JsObject Group :=
  agentVerdicts.foldl
    (fun groups a => a.verdict.findings.foldl (mergeFinding host a.agentIndex) groups) .empty

/-- The next steps of all agents, each once. -/
def mergeNextSteps (agentVerdicts : List AgentVerdict) : List String :=
  (agentVerdicts.flatMap (·.verdict.nextSteps)).foldl
    (fun steps step => if JsText.nonBlank step && !steps.contains step then steps ++ [step] else steps)
    []

/-- `[agent i] summary`, numbered by the place of the summary among those that are not blank. -/
def mergeSummaries (agentVerdicts : List AgentVerdict) : List String :=
  let summaries := (agentVerdicts.map (·.verdict.summary)).filter JsText.nonBlank
  summaries.mapIdx fun i s =>
    let index := (agentVerdicts[i]?.map (·.agentIndex)).getD i
    "[agent " ++ toString index ++ "] " ++ JsText.trim s

def mergeEnsembleVerdicts (agentVerdicts : List AgentVerdict) (commitSha : String) :
    ReviewVerdict :=
  let findings := (mergeGroups host agentVerdicts).values.map (·.winner)
  let head := "Ensemble merge (union_blocking): " ++ toString agentVerdicts.length ++
    " usable agent(s), " ++ toString findings.length ++ " finding(s) after findingKey dedupe."
  let summaries := mergeSummaries agentVerdicts
  { verdict := if findings.isEmpty then .approve else .needsAttention
    summary := String.intercalate " "
      (head :: if summaries.isEmpty then [] else [String.intercalate " | " summaries])
    findings := findings
    nextSteps := mergeNextSteps agentVerdicts
    commitSha := commitSha }

end Merge

/-! ## The groups as folds -/

/-- A finding of an agent, with its place in the list of that agent. -/
structure Occurrence where
  agentIndex : Nat
  position : Nat
  finding : ReviewFinding
deriving DecidableEq, Repr

def occurrences (agentVerdicts : List AgentVerdict) : List Occurrence :=
  agentVerdicts.flatMap fun a => a.verdict.findings.zipIdx.map fun (f, i) => ⟨a.agentIndex, i, f⟩

variable {l : List AgentVerdict}

lemma mem_occurrences {o : Occurrence} : o ∈ occurrences l ↔
      ∃ a ∈ l, o.agentIndex = a.agentIndex ∧ a.verdict.findings[o.position]? = some o.finding := by
  obtain ⟨index, position, f⟩ := o
  simp only [occurrences, mem_flatMap, mem_map, Prod.exists, Occurrence.mk.injEq, mem_zipIdx_iff_getElem?]
  constructor
  · rintro ⟨a, ha, g, i, hget, hindex, rfl, rfl⟩
    exact ⟨a, ha, hindex.symm, hget⟩
  · rintro ⟨a, ha, rfl, hget⟩
    exact ⟨a, ha, f, position, hget, rfl, rfl, rfl⟩

variable {f : ReviewFinding}

lemma exists_occurrence_iff : (∃ o ∈ occurrences l, o.finding = f) ↔ ∃ a ∈ l, f ∈ a.verdict.findings := by
  constructor
  · rintro ⟨o, ho, rfl⟩
    obtain ⟨a, ha, _, hget⟩ := mem_occurrences.1 ho
    exact ⟨a, ha, mem_of_getElem? hget⟩
  · rintro ⟨a, ha, hf⟩
    obtain ⟨i, hget⟩ := getElem?_of_mem hf
    exact ⟨⟨a.agentIndex, i, f⟩, mem_occurrences.2 ⟨a, ha, rfl, hget⟩, rfl⟩

section Groups

variable (host : NodeHost)

lemma mergeGroups_eq_foldl (l : List AgentVerdict) :
    mergeGroups host l = (occurrences l).foldl (fun groups o => mergeFinding host o.agentIndex groups o.finding)
        .empty := by
  have hagent : ∀ (a : AgentVerdict) (groups : JsObject Group),
      a.verdict.findings.foldl (mergeFinding host a.agentIndex) groups =
        (a.verdict.findings.zipIdx.map fun (f, i) => Occurrence.mk a.agentIndex i f).foldl
          (fun groups o => mergeFinding host o.agentIndex groups o.finding) groups := by
    intro a groups
    rw [foldl_map]
    conv_lhs => rw [← zipIdx_map_fst 0 a.verdict.findings, foldl_map]
  simp only [mergeGroups, occurrences, foldl_flatMap, hagent]

/-- The group of a key after one more finding of it. -/
def turned (group : Option Group) (o : Occurrence) : Group :=
  match group with
  | none => freshGroup o.agentIndex o.finding
  | some g => g.absorb o.agentIndex o.finding

lemma mergeFinding_eq (groups : JsObject Group) (o : Occurrence) : mergeFinding host o.agentIndex groups o.finding =
      groups.set (findingKey host o.finding) (turned (groups.get? (findingKey host o.finding)) o) := by
  unfold mergeFinding turned
  cases hget : groups.get? (findingKey host o.finding) <;> simp [hget]

lemma get?_foldl_mergeFinding (key : String) (l : List Occurrence) (groups : JsObject Group) :
    (l.foldl (fun groups o => mergeFinding host o.agentIndex groups o.finding) groups).get? key =
      (l.filter fun o => findingKey host o.finding = key).foldl
        (fun group o => some (turned group o)) (groups.get? key) := by
  have hturn : (fun groups o => mergeFinding host o.agentIndex groups o.finding) =
      fun (groups : JsObject Group) (o : Occurrence) =>
        groups.set (findingKey host o.finding)
          (turned (groups.get? (findingKey host o.finding)) o) :=
    funext fun groups => funext (mergeFinding_eq host groups)
  rw [hturn, JsObject.get?_foldl_turn fun o : Occurrence => findingKey host o.finding]

end Groups

/-! ## The leading finding of a key -/

/-- The confidence of a typed finding. -/
def Occurrence.confidence (o : Occurrence) : ℚ := (finiteConfidence o.finding).getD 0

/-- The order in which the findings of one key and severity rank. -/
def Precedes (a b : Occurrence) : Prop :=
  b.confidence < a.confidence ∨ (a.confidence = b.confidence ∧
    (a.agentIndex < b.agentIndex ∨ (a.agentIndex = b.agentIndex ∧ a.position < b.position)))

instance : DecidableRel Precedes := fun a b =>
  inferInstanceAs (Decidable (b.confidence < a.confidence ∨ (a.confidence = b.confidence ∧
    (a.agentIndex < b.agentIndex ∨ (a.agentIndex = b.agentIndex ∧ a.position < b.position)))))

variable {a b : Occurrence}

lemma Precedes.asymm (h : Precedes a b) : ¬Precedes b a := by
  unfold Precedes at *
  grind

lemma not_precedes_trans {c : Occurrence} (h : ¬Precedes a b) (h' : ¬Precedes b c) : ¬Precedes a c := by
  unfold Precedes at *
  grind

/-- The place of an occurrence, which no other one has. -/
def SamePlace (a b : Occurrence) : Prop := a.agentIndex = b.agentIndex ∧ a.position = b.position

lemma precedes_total (h : ¬SamePlace a b) : Precedes a b ∨ Precedes b a := by
  unfold SamePlace Precedes at *
  grind

/-- The finding as the merge returns it. -/
def mergedFinding (f : ReviewFinding) (explicit : Bool) : ReviewFinding :=
  if explicit then { f with blocking := some true } else f

@[simp] lemma findingKey_mergedFinding (host : NodeHost) (f : ReviewFinding) (explicit : Bool) :
    findingKey host (mergedFinding f explicit) = findingKey host f := by
  unfold mergedFinding
  split <;> rfl

/-- The group whose leader and mark these are. -/
def Group.ofLeader (leader : Occurrence) (explicit : Bool) : Group where
  winner := mergedFinding leader.finding explicit
  winnerAgentIndex := leader.agentIndex
  maxSevRank := severityRank leader.finding.severity
  maxConfidence := finiteConfidence leader.finding
  explicitBlocking := explicit

def isExplicit (o : Occurrence) : Bool := o.finding.blocking = some true

lemma freshGroup_eq (o : Occurrence) : freshGroup o.agentIndex o.finding = .ofLeader o (isExplicit o) := by
  unfold freshGroup Group.ofLeader isExplicit mergedFinding
  by_cases hmark : o.finding.blocking = some true
  · cases hf : o.finding
    simp_all
  · simp [hmark]

section Lead

variable {leader o : Occurrence} {s : Severity} {p q : ℚ}

lemma isBeatenBy_ofLeader (explicit : Bool) (hleader : leader.finding.confidence = some (.finite p))
    (ho : o.finding.confidence = some (.finite q)) (hseverity : o.finding.severity = leader.finding.severity)
    (hlater : leader.agentIndex = o.agentIndex → leader.position < o.position) :
    (Group.ofLeader leader explicit).isBeatenBy o.agentIndex o.finding = decide (Precedes o leader) := by
  have hp : finiteConfidence leader.finding = some p := by simp [finiteConfidence, hleader]
  have hq : finiteConfidence o.finding = some q := by simp [finiteConfidence, ho]
  have hprecedes : Precedes o leader ↔ p < q ∨ q = p ∧ o.agentIndex < leader.agentIndex := by
    simp only [Precedes, Occurrence.confidence, hp, hq, Option.getD_some]
    constructor
    · rintro (hconf | ⟨hconf, hindex | ⟨hindex, hposition⟩⟩)
      · exact .inl hconf
      · exact .inr ⟨hconf, hindex⟩
      -- the leader was there before, so it has the earlier place
      · have := hlater hindex.symm
        omega
    · rintro (hconf | ⟨hconf, hindex⟩)
      · exact .inl hconf
      · exact .inr ⟨hconf, .inl hindex⟩
  simp [Group.isBeatenBy, Group.ofLeader, hp, hq, hseverity, hprecedes]

lemma severityOfRank_rank (s : Severity) : severityOfRank s.rank = s := by
  cases s <;> decide

lemma canonicalWinner_eq (hseverity : f.severity = .word s.name)
    (hconfidence : f.confidence = some (.finite q)) (explicit : Bool) :
    canonicalWinner f s.rank (some q) explicit = mergedFinding f explicit := by
  cases f
  simp_all only [canonicalWinner, severityOfRank_rank, mergedFinding]
  split <;> simp_all

lemma mergedFinding_mergedFinding (f : ReviewFinding) (explicit explicit' : Bool) :
    mergedFinding (mergedFinding f explicit) (explicit || explicit') = mergedFinding f (explicit || explicit') := by
  cases explicit <;> rfl

lemma absorb_ofLeader (explicit : Bool) (hleader : IsTyped leader.finding)
    (ho : IsTyped o.finding) (hseverity : o.finding.severity = leader.finding.severity)
    (hlater : leader.agentIndex = o.agentIndex → leader.position < o.position) :
    (Group.ofLeader leader explicit).absorb o.agentIndex o.finding =
      .ofLeader (keepBest Precedes leader o) (explicit || isExplicit o) := by
  obtain ⟨⟨s, hs⟩, p, hp⟩ := hleader
  obtain ⟨_, q, hq⟩ := ho
  have hos : o.finding.severity = .word s.name := hseverity.trans hs
  have hfp : finiteConfidence leader.finding = some p := by simp [finiteConfidence, hp]
  have hfq : finiteConfidence o.finding = some q := by simp [finiteConfidence, hq]
  unfold Group.absorb keepBest
  rw [isBeatenBy_ofLeader explicit hp hq hseverity hlater]
  by_cases hprecedes : Precedes o leader
  · have hle : p ≤ q := by
      rcases hprecedes with h | ⟨h, _⟩
      · simpa [Occurrence.confidence, hfp, hfq] using h.le
      · simpa [Occurrence.confidence, hfp, hfq] using h.ge
    have hwinner := canonicalWinner_eq hos hq (explicit || isExplicit o)
    simpa [hprecedes, Group.ofLeader, hfp, hfq, hs, hos, higherConfidence, hle, isExplicit]
      using hwinner
  · have hle : q ≤ p := by
      simpa [Occurrence.confidence, hfp, hfq] using (not_or.1 hprecedes).1
    have hseverity' : (mergedFinding leader.finding explicit).severity = .word s.name := by
      cases explicit <;> exact hs
    have hconfidence' : (mergedFinding leader.finding explicit).confidence = some (.finite p) := by
      cases explicit <;> exact hp
    have hwinner := canonicalWinner_eq hseverity' hconfidence' (explicit || isExplicit o)
    rw [mergedFinding_mergedFinding] at hwinner
    simpa [hprecedes, Group.ofLeader, hfp, hfq, hs, hos, higherConfidence, hle, isExplicit]
      using hwinner

end Lead

/-- One agent reports the earlier of two findings before the later one. -/
def InOrder (earlier later : Occurrence) : Prop :=
  earlier.agentIndex = later.agentIndex → earlier.position < later.position

lemma foldl_turned {first : Occurrence} {rest : List Occurrence} (explicit : Bool)
    (horder : (first :: rest).Pairwise InOrder) (htyped : ∀ o ∈ first :: rest, IsTyped o.finding)
    (hseverity : ∀ o ∈ rest, o.finding.severity = first.finding.severity) :
    rest.foldl (fun group o => some (turned group o)) (some (.ofLeader first explicit)) =
      some (.ofLeader (rest.foldl (keepBest Precedes) first) (explicit || rest.any isExplicit)) := by
  induction rest generalizing first explicit with
  | nil => simp
  | cons o rest ih =>
    obtain ⟨hfirst, hrest⟩ := pairwise_cons.1 horder
    have hturn : turned (some (.ofLeader first explicit)) o =
        .ofLeader (keepBest Precedes first o) (explicit || isExplicit o) :=
      absorb_ofLeader explicit (htyped first (by simp)) (htyped o (by simp))
        (hseverity o (by simp)) (hfirst o (by simp))
    -- the leader is one of the two, so it is still before the rest
    have hleader : keepBest Precedes first o = first ∨ keepBest Precedes first o = o := by
      unfold keepBest
      split <;> simp
    have hsame : o.finding.severity = first.finding.severity := hseverity o (by simp)
    rw [foldl_cons, hturn, ih]
    · simp [Bool.or_assoc]
    · rcases hleader with heq | heq
      · rw [heq]
        exact pairwise_cons.2
          ⟨fun x hx => hfirst x (mem_cons_of_mem _ hx), (pairwise_cons.1 hrest).2⟩
      · rwa [heq]
    · intro x hx
      rcases mem_cons.1 hx with rfl | hx
      · rcases hleader with heq | heq
        · rw [heq]
          exact htyped first (by simp)
        · rw [heq]
          exact htyped o (by simp)
      · exact htyped x (by simp [hx])
    · intro x hx
      rcases hleader with heq | heq
      · rw [heq]
        exact hseverity x (by simp [hx])
      · rw [heq, hsame]
        exact hseverity x (by simp [hx])

lemma isBest_leader (first : Occurrence) (rest : List Occurrence) :
    IsBest Precedes (first :: rest) (rest.foldl (keepBest Precedes) first) :=
  @isBest_foldl Occurrence Precedes _ (fun _ _ => Precedes.asymm) (fun _ _ _ => not_precedes_trans)
    first rest

/-! ## The merged findings -/

section Merged

variable (host : NodeHost)

/-- What the merge is given: agents of distinct indices, findings of the declared type, and keys
that are not shared by two severities. -/
structure MergeInput (l : List AgentVerdict) : Prop where
  distinct : (l.map (·.agentIndex)).Nodup
  typed : ∀ a ∈ l, ∀ f ∈ a.verdict.findings, IsTyped f
  keyed : ∀ o ∈ occurrences l, ∀ o' ∈ occurrences l, findingKey host o.finding = findingKey host o'.finding →
      o.finding.severity = o'.finding.severity

/-- The findings with the key of this one. -/
def sameKey (l : List AgentVerdict) (key : String) : List Occurrence :=
  (occurrences l).filter fun o => findingKey host o.finding = key

variable {key : String} {o : Occurrence}

lemma mem_sameKey : o ∈ sameKey host l key ↔ o ∈ occurrences l ∧ findingKey host o.finding = key := by
  simp [sameKey]

lemma occurrences_inOrder (h : (l.map (·.agentIndex)).Nodup) : (occurrences l).Pairwise InOrder := by
  unfold occurrences
  rw [pairwise_flatMap]
  constructor
  · intro a _
    rw [pairwise_map]
    have hpositions : (a.verdict.findings.zipIdx.map Prod.snd).Pairwise (· < ·) := by
      rw [zipIdx_map_snd]
      exact pairwise_lt_range'
    refine (pairwise_map.1 hpositions).imp ?_
    rintro ⟨_, i⟩ ⟨_, j⟩ hlt _
    exact hlt
  · refine (pairwise_map.1 h).imp ?_
    intro a b hne x hx y hy hsame
    -- findings of two agents are not compared
    simp only [mem_map] at hx hy
    obtain ⟨_, _, rfl⟩ := hx
    obtain ⟨_, _, rfl⟩ := hy
    exact absurd hsame hne

variable {host}

section

variable (h : MergeInput host l)
include h

lemma MergeInput.typed_of_mem (ho : o ∈ occurrences l) : IsTyped o.finding := by
  obtain ⟨a, ha, hf⟩ := exists_occurrence_iff.1 ⟨o, ho, rfl⟩
  exact h.typed a ha o.finding hf

lemma get?_mergeGroups (key : String) : ((mergeGroups host l).get? key = none ∧ sameKey host l key = []) ∨
      ∃ best, IsBest Precedes (sameKey host l key) best ∧ (mergeGroups host l).get? key =
          some (.ofLeader best ((sameKey host l key).any isExplicit)) := by
  have hfold : (mergeGroups host l).get? key =
      (sameKey host l key).foldl (fun group o => some (turned group o)) none := by
    rw [mergeGroups_eq_foldl, get?_foldl_mergeFinding]
    rfl
  cases hgroup : sameKey host l key with
  | nil => exact .inl ⟨by rw [hfold, hgroup]; rfl, rfl⟩
  | cons first rest =>
    right
    have hmem : ∀ o ∈ first :: rest, o ∈ occurrences l ∧ findingKey host o.finding = key := by
      rw [← hgroup]
      exact fun o ho => (mem_sameKey host).1 ho
    have horder : (first :: rest).Pairwise InOrder := by
      rw [← hgroup]
      exact (occurrences_inOrder h.distinct).filter _
    refine ⟨rest.foldl (keepBest Precedes) first, isBest_leader first rest, ?_⟩
    have hfirst : turned none first = .ofLeader first (isExplicit first) := freshGroup_eq first
    have htyped : ∀ o ∈ first :: rest, IsTyped o.finding := fun o ho => h.typed_of_mem (hmem o ho).1
    have hseverity : ∀ o ∈ rest, o.finding.severity = first.finding.severity := by
      intro o ho
      obtain ⟨ho, hkey⟩ := hmem o (mem_cons_of_mem _ ho)
      obtain ⟨hfirst, hkey'⟩ := hmem first mem_cons_self
      exact h.keyed o ho first hfirst (hkey.trans hkey'.symm)
    rw [hfold, hgroup, foldl_cons, hfirst, any_cons]
    exact foldl_turned (isExplicit first) horder htyped hseverity

lemma MergeInput.eq_of_samePlace (ha : a ∈ occurrences l) (hb : b ∈ occurrences l)
    (hplace : SamePlace a b) : a = b := by
  obtain ⟨v, hv, hindex, hget⟩ := mem_occurrences.1 ha
  obtain ⟨w, hw, hindex', hget'⟩ := mem_occurrences.1 hb
  have hagent : v = w := inj_on_of_nodup_map h.distinct hv hw
    (by rw [← hindex, ← hindex', hplace.1])
  subst hagent
  rw [hplace.2] at hget
  have hfinding : a.finding = b.finding := by simpa [hget] using hget'
  cases a
  cases b
  simp_all [SamePlace]

lemma MergeInput.best_unique (ha : IsBest Precedes (sameKey host l key) a)
    (hb : IsBest Precedes (sameKey host l key) b) : a = b := by
  refine ha.unique hb fun x hx y hy hne => precedes_total fun hplace => hne ?_
  exact h.eq_of_samePlace ((mem_sameKey host).1 hx).1 ((mem_sameKey host).1 hy).1 hplace

end

variable (host)

/-- The best finding of a key, marked blocking when one of the key is. -/
def IsMerged (l : List AgentVerdict) (m : ReviewFinding) : Prop :=
  ∃ best, IsBest Precedes (sameKey host l (findingKey host best.finding)) best ∧ m = mergedFinding best.finding
      ((sameKey host l (findingKey host best.finding)).any isExplicit)

variable {host} {best : Occurrence}

lemma key_of_isBest (h : IsBest Precedes (sameKey host l key) best) : findingKey host best.finding = key :=
  ((mem_sameKey host).1 h.mem).2

lemma mem_merged_iff (h : MergeInput host l) {commitSha : String} {m : ReviewFinding} :
    m ∈ (mergeEnsembleVerdicts host l commitSha).findings ↔ IsMerged host l m := by
  simp only [mergeEnsembleVerdicts, mem_map, JsObject.mem_values]
  constructor
  · rintro ⟨g, ⟨key, hget⟩, rfl⟩
    rcases get?_mergeGroups h key with ⟨hnone, _⟩ | ⟨best, hbest, hgroup⟩
    · simp [hget] at hnone
    · obtain rfl : Group.ofLeader best ((sameKey host l key).any isExplicit) = g := by
        simpa [hget] using hgroup.symm
      obtain rfl := key_of_isBest hbest
      exact ⟨best, hbest, rfl⟩
  · rintro ⟨best, hbest, rfl⟩
    rcases get?_mergeGroups h (findingKey host best.finding) with ⟨_, hnil⟩ |
      ⟨best', hbest', hgroup⟩
    · have hmem := hbest.mem
      simp [hnil] at hmem
    · obtain rfl := h.best_unique hbest hbest'
      exact ⟨_, ⟨_, hgroup⟩, rfl⟩

/-! ## The merge laws -/

variable (host)

/-- What an ensemble owes to the gate, under every policy and in every order of the agents. -/
structure MergeLaws (l : List AgentVerdict) (commitSha : String) : Prop where
  keepsBlockers : ∀ policy : ReviewPolicy, ∀ a ∈ l,
    ∀ f ∈ (partitionFindings host a.verdict.findings policy {}).blocking,
      ∃ m ∈ (partitionFindings host (mergeEnsembleVerdicts host l commitSha).findings policy
          {}).blocking, findingKey host m = findingKey host f
  keysOnce : ((mergeEnsembleVerdicts host l commitSha).findings.map (findingKey host)).Nodup
  keys : ∀ key, key ∈ (mergeEnsembleVerdicts host l commitSha).findings.map (findingKey host) ↔
    ∃ a ∈ l, ∃ f ∈ a.verdict.findings, findingKey host f = key
  approvesEmpty : (mergeEnsembleVerdicts host l commitSha).verdict = .approve ↔
    (mergeEnsembleVerdicts host l commitSha).findings = []
  orderFree : ∀ l', l.Perm l' → ∀ m, m ∈ (mergeEnsembleVerdicts host l' commitSha).findings ↔
    m ∈ (mergeEnsembleVerdicts host l commitSha).findings

/-- The leading finding of a key is marked non-blocking, while another finding of the key carries no
mark and none is marked blocking. -/
def HidesBlocker (l : List AgentVerdict) : Prop :=
  ∃ leader, IsBest Precedes (sameKey host l (findingKey host leader.finding)) leader ∧
    leader.finding.blocking = some false ∧
    (∀ o ∈ sameKey host l (findingKey host leader.finding), o.finding.blocking ≠ some true) ∧
    ∃ o ∈ sameKey host l (findingKey host leader.finding), o.finding.blocking = none

variable {host} {l' : List AgentVerdict}

variable (host) in
lemma mem_sameKey_perm (h : l.Perm l') (key : String)
    (o : Occurrence) : o ∈ sameKey host l key ↔ o ∈ sameKey host l' key := by
  simp only [mem_sameKey, mem_occurrences, h.mem_iff]

lemma IsMerged.perm (h : l.Perm l') {m : ReviewFinding} (hm : IsMerged host l m) : IsMerged host l' m := by
  obtain ⟨best, hbest, rfl⟩ := hm
  have hmem := mem_sameKey_perm host h (findingKey host best.finding)
  refine ⟨best, hbest.congr hmem, ?_⟩
  have hexplicit : (sameKey host l (findingKey host best.finding)).any isExplicit =
      (sameKey host l' (findingKey host best.finding)).any isExplicit := by
    rw [Bool.eq_iff_iff]
    simp only [any_eq_true, hmem]
  rw [hexplicit]

lemma MergeInput.perm (h : l.Perm l') (hl : MergeInput host l) : MergeInput host l' := by
  have hmem : ∀ o, o ∈ occurrences l' ↔ o ∈ occurrences l := by simp [mem_occurrences, h.mem_iff]
  exact ⟨(h.map _).nodup_iff.1 hl.distinct, fun a ha => hl.typed a (h.mem_iff.2 ha),
    fun o ho o' ho' => hl.keyed o ((hmem o).1 ho) o' ((hmem o').1 ho')⟩

variable (host) in
lemma exists_isBest (ho : o ∈ occurrences l) :
    ∃ best, IsBest Precedes (sameKey host l (findingKey host o.finding)) best := by
  cases hgroup : sameKey host l (findingKey host o.finding) with
  | nil =>
    have hmem := (mem_sameKey host).2 ⟨ho, rfl⟩
    simp [hgroup] at hmem
  | cons first rest => exact ⟨_, isBest_leader first rest⟩

section

variable (h : MergeInput host l)
include h

lemma merged_keysOnce (commitSha : String) :
    ((mergeEnsembleVerdicts host l commitSha).findings.map (findingKey host)).Nodup := by
  -- the merged findings have the keys of their groups
  have hkeys : (mergeEnsembleVerdicts host l commitSha).findings.map (findingKey host) =
      (mergeGroups host l).entries.map Prod.fst := by
    simp only [mergeEnsembleVerdicts, JsObject.values, map_map]
    refine map_congr_left ?_
    rintro ⟨key, g⟩ hentry
    have hget := JsObject.get?_eq_some_iff.2 hentry
    rcases get?_mergeGroups h key with ⟨hnone, _⟩ | ⟨best, hbest, hgroup⟩
    · simp [hget] at hnone
    · obtain rfl : Group.ofLeader best ((sameKey host l key).any isExplicit) = g := by
        simpa [hget] using hgroup.symm
      simpa [Group.ofLeader] using key_of_isBest hbest
  rw [hkeys]
  exact (mergeGroups host l).nodup

lemma merged_keys (commitSha key : String) :
    key ∈ (mergeEnsembleVerdicts host l commitSha).findings.map (findingKey host) ↔
      ∃ a ∈ l, ∃ f ∈ a.verdict.findings, findingKey host f = key := by
  simp only [mem_map, mem_merged_iff h]
  constructor
  · rintro ⟨m, ⟨best, hbest, rfl⟩, rfl⟩
    obtain ⟨a, ha, hf⟩ := exists_occurrence_iff.1 ⟨best, ((mem_sameKey host).1 hbest.mem).1, rfl⟩
    exact ⟨a, ha, best.finding, hf, by simp⟩
  · rintro ⟨a, ha, f, hf, rfl⟩
    obtain ⟨o, ho, rfl⟩ := exists_occurrence_iff.2 ⟨a, ha, hf⟩
    obtain ⟨best, hbest⟩ := exists_isBest host ho
    have hkey := key_of_isBest hbest
    rw [← hkey] at hbest
    exact ⟨_, ⟨best, hbest, rfl⟩, by simpa using hkey⟩

lemma belowConfidence_of_isBest (hbest : IsBest Precedes (sameKey host l key) best)
    (ho : o ∈ sameKey host l key) {policy : ReviewPolicy} (hconfidence : belowConfidence policy o.finding = false) :
    belowConfidence policy best.finding = false := by
  obtain ⟨_, p, hp⟩ := h.typed_of_mem ((mem_sameKey host).1 hbest.mem).1
  obtain ⟨_, q, hq⟩ := h.typed_of_mem ((mem_sameKey host).1 ho).1
  have hle : q ≤ p := by
    have hnot := (not_or.1 (hbest.unbeaten o ho)).1
    simpa [Occurrence.confidence, finiteConfidence, hp, hq] using hnot
  simp only [belowConfidence, hp, hq, Option.any_some, JsNumber.lt_finite,
    decide_eq_false_iff_not, not_lt] at hconfidence ⊢
  exact hconfidence.trans hle

lemma meetsPolicy_merged (hbest : IsBest Precedes (sameKey host l (findingKey host best.finding)) best)
    (ho : o ∈ sameKey host l (findingKey host best.finding)) {policy : ReviewPolicy}
    (hmeets : meetsPolicy policy o.finding = true) : meetsPolicy policy (mergedFinding best.finding
      ((sameKey host l (findingKey host best.finding)).any isExplicit)) = true := by
  simp only [meetsPolicy, Bool.and_eq_true, Bool.not_eq_true'] at hmeets ⊢
  obtain ⟨hseverity, hconfidence⟩ := hmeets
  have hbelow := belowConfidence_of_isBest h hbest ho hconfidence
  obtain ⟨hmem, hkey⟩ := (mem_sameKey host).1 ho
  have hsame := h.keyed o hmem best ((mem_sameKey host).1 hbest.mem).1 hkey
  unfold mergedFinding
  split
  · exact ⟨by simp [isAboveSeverity], hbelow⟩
  · next hnone =>
    refine ⟨?_, hbelow⟩
    -- no finding of the key is marked, so the severity was what counted
    have hmark : o.finding.blocking ≠ some true := by
      intro hmark
      exact hnone (any_eq_true.2 ⟨o, ho, by simpa [isExplicit] using hmark⟩)
    have hrank : policy.blockThreshold.rank ≤ severityRank o.finding.severity := by
      simpa [isAboveSeverity, hmark] using hseverity
    rw [hsame] at hrank
    simp [isAboveSeverity, hrank]

lemma keepsBlockers_of_not_hidesBlocker
    (commitSha : String) (hhides : ¬HidesBlocker host l) (policy : ReviewPolicy) {a : AgentVerdict} (ha : a ∈ l)
    (hf : f ∈ (partitionFindings host a.verdict.findings policy {}).blocking) :
    ∃ m ∈ (partitionFindings host (mergeEnsembleVerdicts host l commitSha).findings policy
        {}).blocking, findingKey host m = findingKey host f := by
  rw [mem_blocking_iff, place_default_eq_blocking_iff] at hf
  obtain ⟨hf, hmark, hmeets⟩ := hf
  obtain ⟨o, ho, rfl⟩ := exists_occurrence_iff.2 ⟨a, ha, hf⟩
  obtain ⟨best, hbest⟩ := exists_isBest host ho
  have hkey := key_of_isBest hbest
  rw [← hkey] at hbest
  have hgroup : o ∈ sameKey host l (findingKey host best.finding) := (mem_sameKey host).2 ⟨ho, hkey.symm⟩
  refine ⟨mergedFinding best.finding
    ((sameKey host l (findingKey host best.finding)).any isExplicit), ?_, by simpa using hkey⟩
  rw [mem_blocking_iff, place_default_eq_blocking_iff, mem_merged_iff h]
  refine ⟨⟨best, hbest, rfl⟩, ?_, meetsPolicy_merged h hbest hgroup hmeets⟩
  intro hfalse
  apply hhides
  -- a merged finding is marked non-blocking only as its leader was
  unfold mergedFinding at hfalse
  split at hfalse
  · simp at hfalse
  · next hnone =>
    have hunmarked : ∀ x ∈ sameKey host l (findingKey host best.finding), x.finding.blocking ≠ some true := by
      intro x hx hmark
      exact hnone (any_eq_true.2 ⟨x, hx, by simpa [isExplicit] using hmark⟩)
    refine ⟨best, hbest, hfalse, hunmarked, o, hgroup, ?_⟩
    have hno := hunmarked o hgroup
    cases hblocking : o.finding.blocking with
    | none => rfl
    | some mark => cases mark <;> simp_all

lemma not_keepsBlockers {commitSha : String} (hhides : HidesBlocker host l) : ¬MergeLaws host l commitSha := by
  obtain ⟨leader, hleader, hmark, hunmarked, o, ho, hnone⟩ := hhides
  obtain ⟨hmem, hkey⟩ := (mem_sameKey host).1 ho
  obtain ⟨a, ha, hf⟩ := exists_occurrence_iff.1 ⟨o, hmem, rfl⟩
  obtain ⟨⟨s, hs⟩, q, hq⟩ := h.typed_of_mem hmem
  intro hlaws
  -- every severity and the confidence of the other finding are enough
  obtain ⟨m, hm, hmkey⟩ := hlaws.keepsBlockers ⟨.low, q⟩ a ha o.finding (by
    rw [mem_blocking_iff, place_default_eq_blocking_iff]
    refine ⟨hf, by simp [hnone], ?_⟩
    simp [meetsPolicy, isAboveSeverity, belowConfidence, hq, show Severity.low.rank = 0 from rfl])
  rw [mem_blocking_iff, place_default_eq_blocking_iff, mem_merged_iff h] at hm
  obtain ⟨⟨best, hbest, rfl⟩, hnotmarked, _⟩ := hm
  have hsame : findingKey host best.finding = findingKey host leader.finding := by simpa [hkey] using hmkey
  rw [hsame] at hbest
  obtain rfl := h.best_unique hleader hbest
  have hexplicit : (sameKey host l (findingKey host leader.finding)).any isExplicit = false := by
    rw [any_eq_false]
    intro x hx
    simpa [isExplicit] using hunmarked x hx
  simp [mergedFinding, hexplicit, hmark] at hnotmarked

end

lemma merged_approvesEmpty (l : List AgentVerdict) (commitSha : String) :
    (mergeEnsembleVerdicts host l commitSha).verdict = .approve ↔
      (mergeEnsembleVerdicts host l commitSha).findings = [] := by
  simp [mergeEnsembleVerdicts]

/-- The merge obeys its laws exactly when no leading finding hides a blocker of its key. -/
theorem mergeLaws_iff {l : List AgentVerdict} (h : MergeInput host l) (commitSha : String) :
    MergeLaws host l commitSha ↔ ¬HidesBlocker host l := by
  constructor
  · exact fun hlaws hhides => not_keepsBlockers h hhides hlaws
  · intro hhides
    refine ⟨fun policy a ha f hf => keepsBlockers_of_not_hidesBlocker h commitSha hhides policy ha hf,
      merged_keysOnce h commitSha, merged_keys h commitSha, merged_approvesEmpty l commitSha, ?_⟩
    intro l' hperm m
    rw [mem_merged_iff h, mem_merged_iff (h.perm hperm)]
    exact ⟨IsMerged.perm hperm.symm, IsMerged.perm hperm⟩

end Merged

/-! ## Two reports of one line -/

def agentOf (agentIndex : Nat) (f : ReviewFinding) : AgentVerdict where
  agentIndex := agentIndex
  verdict := ⟨.needsAttention, "", [f], [], ""⟩

/-- The surer of two agents marks its finding non-blocking, and that of the other is gone. -/
theorem merge_hides_blocker :
    ¬∀ (host : NodeHost) (l : List AgentVerdict) (commitSha : String), l ≠ [] →
      (l.map (·.agentIndex)).Nodup → (∀ a ∈ l, ∀ f ∈ a.verdict.findings, IsTyped f) → MergeLaws host l commitSha := by
  intro h
  let advised : ReviewFinding := { uncheckedRead with blocking := some false }
  have htyped : ∀ a ∈ [agentOf 0 advised, agentOf 1 indexOutOfRange], ∀ f ∈ a.verdict.findings, IsTyped f := by
    simp only [mem_cons, not_mem_nil, or_false, forall_eq_or_imp, forall_eq, agentOf]
    exact ⟨⟨⟨.high, rfl⟩, _, rfl⟩, ⟨⟨.high, rfl⟩, _, rfl⟩⟩
  have hlaws := h sameLineHost [agentOf 0 advised, agentOf 1 indexOutOfRange] "" (by simp)
    (by decide) htyped
  obtain ⟨m, hm, _⟩ := hlaws.keepsBlockers ⟨.low, 0⟩ (agentOf 1 indexOutOfRange) (by simp)
    indexOutOfRange (by decide +kernel)
  have hempty : (partitionFindings sameLineHost (mergeEnsembleVerdicts sameLineHost
      [agentOf 0 advised, agentOf 1 indexOutOfRange] "").findings ⟨.low, 0⟩ {}).blocking = [] := by
    decide +kernel
  simp [hempty] at hm

/-- Without the mark both agents' blocker is kept, in either order. -/
theorem mergeLaws_sameLine :
    MergeLaws sameLineHost [agentOf 0 uncheckedRead, agentOf 1 indexOutOfRange] "" := by
  have hinput : MergeInput sameLineHost [agentOf 0 uncheckedRead, agentOf 1 indexOutOfRange] := by
    refine ⟨by decide, ?_, by decide +kernel⟩
    simp only [mem_cons, not_mem_nil, or_false, forall_eq_or_imp, forall_eq, agentOf]
    exact ⟨⟨⟨.high, rfl⟩, _, rfl⟩, ⟨⟨.high, rfl⟩, _, rfl⟩⟩
  refine (mergeLaws_iff hinput "").2 ?_
  rintro ⟨leader, hleader, hmark, _⟩
  -- neither finding is marked
  have hunmarked : ∀ o ∈ occurrences [agentOf 0 uncheckedRead, agentOf 1 indexOutOfRange],
      o.finding.blocking = none := by decide
  have hmem := hunmarked leader ((mem_sameKey sameLineHost).1 hleader.mem).1
  simp [hmem] at hmark

end AgentPipeline.Review
