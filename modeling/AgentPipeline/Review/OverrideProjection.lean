import AgentPipeline.Review.OverrideComments

/-!
# OverrideProjection: the overrides that a round passes to the partition

`projectOverridesForPartition` reads the decisions of the trusted comments, judges each against the
findings of the round, and hands the active ones to `partitionFindings`.
-/

namespace AgentPipeline.Review

variable (host : NodeHost)

def codeRegionFromFinding (f : ReviewFinding) : String :=
  shortDigest host 16 (normalizeFile host f.file ++ "|" ++ host.textOf (lineBucket f.lineStart))

/-- The live context of a finding. -/
def liveContextOf (f : ReviewFinding) : LiveOverrideContext where
  findingFingerprint := some (findingPayloadFingerprint host f)
  codeRegion := some (codeRegionFromFinding host f)

/-- `liveByTarget`: a later finding of the same key replaces an earlier one. -/
def liveByTarget (findings : List ReviewFinding) : JsObject LiveOverrideContext :=
  findings.foldl (fun live f => live.set ("key:" ++ findingKey host f) (liveContextOf host f)) .empty

/-- What decisions are judged against; without a policy, the implicit one. -/
def projectionContext (governance : Option OverrideGovernanceConfig) (pin : Option Json)
    (findings : List ReviewFinding) : OverrideContext where
  governance := governance.getD implicitOverrideGovernance
  pin := pin
  live := liveByTarget host findings

structure ProjectedOverrides where
  overrides : JsObject String
  scopes : List ScopedOverride
  decisions : List OverrideDecision
  active : JsObject ProjectedDecision

/-- The projection of the decisions that were read. -/
def projectDecisions (ctx : OverrideContext) (decisions : List OverrideDecision) (now : Int) :
    ProjectedOverrides :=
  let active := (projectActiveOverrides host ctx decisions now).activeByTarget
  let (overrides, scopes) := activeProjectionToPartitionInputs active
  { overrides, scopes, decisions, active }

def projectOverridesForPartition (comments : List TrustedComment)
    (governance : Option OverrideGovernanceConfig) (pin : Option Json) (now : Int)
    (findings : List ReviewFinding) : Except Json ProjectedOverrides := do
  let decisions ← extractOverrideDecisions host comments
  return projectDecisions host (projectionContext host governance pin findings) decisions now

lemma exists_ok_of_map_toOption {ε α β : Type} {x : Except ε α} {f : α → β} {b : β}
    (h : x.toOption.map f = some b) : ∃ a, x = .ok a ∧ f a = b := by
  cases x with
  | error e => simp [Except.toOption] at h
  | ok a => exact ⟨a, rfl, by simpa [Except.toOption] using h⟩

/-! ## What the projection hands over -/

variable {host} {ctx : OverrideContext} {decisions : List OverrideDecision} {now : Int}

lemma activeDecision_key {k : String} {d : OverrideDecision}
    (h : activeDecision host ctx decisions now k = some d) : targetKey d.target = k := by
  obtain ⟨_, _, _, hk, _⟩ := activeDecision_eq_some_iff.1 h
  exact hk

lemma mem_active_values {p : ProjectedDecision} :
    p ∈ (projectActiveOverrides host ctx decisions now).activeByTarget.values →
      activeDecision host ctx decisions now (targetKey p.decision.target) = some p.decision := by
  intro hp
  obtain ⟨k, hk⟩ := JsObject.mem_values.1 hp
  have hforce : activeDecision host ctx decisions now k = some p.decision := by simp [activeDecision, hk]
  rwa [activeDecision_key hforce]

lemma exists_active_value {k : String} {d : OverrideDecision} (h : activeDecision host ctx decisions now k = some d) :
    ∃ p ∈ (projectActiveOverrides host ctx decisions now).activeByTarget.values, p.decision = d := by
  obtain ⟨p, hp, rfl⟩ := Option.map_eq_some_iff.1 h
  exact ⟨p, JsObject.mem_values.2 ⟨k, hp⟩, rfl⟩

/-- The key override of a projection, if it is one. -/
def keyOverrideOf (p : ProjectedDecision) : Option (String × String) :=
  match p.decision.target with
  | .key key => some (key, p.decision.disposition)
  | .scope _ _ => none

/-- The scope override of a projection, if it is one. -/
def scopeOverrideOf (p : ProjectedDecision) : Option ScopedOverride :=
  match p.decision.target with
  | .key _ => none
  | .scope scopeType scopeValue =>
    some ⟨scopeType, scopeValue, p.decision.disposition, p.decision.explanation⟩

lemma activeProjectionToPartitionInputs_eq (active : JsObject ProjectedDecision) :
    activeProjectionToPartitionInputs active = ((active.values.filterMap keyOverrideOf).foldl
          (fun overrides entry => overrides.set entry.1 entry.2) .empty,
        active.values.filterMap scopeOverrideOf) := by
  have hfold : ∀ (l : List ProjectedDecision) (overrides : JsObject String)
      (scopes : List ScopedOverride),
      l.foldl
        (fun (overrides, scopes) p =>
          match p.decision.target with
          | .key key => (overrides.set key p.decision.disposition, scopes)
          | .scope scopeType scopeValue =>
            (overrides, scopes ++ [⟨scopeType, scopeValue, p.decision.disposition, p.decision.explanation⟩]))
        (overrides, scopes) =
      ((l.filterMap keyOverrideOf).foldl
          (fun overrides entry => overrides.set entry.1 entry.2) overrides,
        scopes ++ l.filterMap scopeOverrideOf) := by
    intro l
    induction l with
    | nil => simp
    | cons p l ih =>
      intro overrides scopes
      rw [List.foldl_cons]
      cases htarget : p.decision.target with
      | key key => simp [ih, keyOverrideOf, scopeOverrideOf, htarget]
      | scope scopeType scopeValue => simp [ih, keyOverrideOf, scopeOverrideOf, htarget]
  exact hfold active.values .empty []

lemma get?_overrides (key : String) : (projectDecisions host ctx decisions now).overrides.get? key =
      (activeDecision host ctx decisions now ("key:" ++ key)).map (·.disposition) := by
  have hentry : ∀ entry ∈ (projectActiveOverrides host ctx decisions now).activeByTarget.values.filterMap keyOverrideOf,
      (activeDecision host ctx decisions now ("key:" ++ entry.1)).map (·.disposition) = some entry.2 := by
    intro entry hmem
    obtain ⟨p, hp, hp'⟩ := List.mem_filterMap.1 hmem
    have hforce := mem_active_values hp
    cases htarget : p.decision.target with
    | scope scopeType scopeValue => simp [keyOverrideOf, htarget] at hp'
    | key k =>
      obtain rfl : (k, p.decision.disposition) = entry := by simpa [keyOverrideOf, htarget] using hp'
      rw [htarget] at hforce
      exact congrArg (Option.map (·.disposition)) hforce
  have hoverrides : (projectDecisions host ctx decisions now).overrides =
      ((projectActiveOverrides host ctx decisions now).activeByTarget.values.filterMap
        keyOverrideOf).foldl (fun overrides entry => overrides.set entry.1 entry.2) .empty := by
    simp [projectDecisions, activeProjectionToPartitionInputs_eq]
  rw [hoverrides, JsObject.get?_foldl_set, JsObject.get?_empty, Option.or_none]
  cases hfind : List.find? (fun entry => decide (entry.1 = key))
      ((projectActiveOverrides host ctx decisions now).activeByTarget.values.filterMap
        keyOverrideOf).reverse with
  | some entry =>
    obtain rfl : entry.1 = key := by simpa using List.find?_some hfind
    exact (hentry entry (List.mem_reverse.1 (List.mem_of_find?_eq_some hfind))).symm
  | none =>
    -- a decision in force would be an entry
    cases hforce : activeDecision host ctx decisions now ("key:" ++ key) with
    | none => rfl
    | some d =>
      obtain ⟨p, hp, rfl⟩ := exists_active_value hforce
      have htarget : p.decision.target = .key key := targetKey_injective (activeDecision_key hforce)
      have hnone := List.find?_eq_none.1 hfind (key, p.decision.disposition)
        (List.mem_reverse.2 (List.mem_filterMap.2 ⟨p, hp, by simp [keyOverrideOf, htarget]⟩))
      simp at hnone

lemma mem_scopes (s : ScopedOverride) : s ∈ (projectDecisions host ctx decisions now).scopes ↔
      ∃ d, activeDecision host ctx decisions now (targetKey (.scope s.type s.value)) = some d ∧
        d.disposition = s.disposition ∧ d.explanation = s.reason := by
  have hscopes : (projectDecisions host ctx decisions now).scopes =
      (projectActiveOverrides host ctx decisions now).activeByTarget.values.filterMap scopeOverrideOf := by
    simp [projectDecisions, activeProjectionToPartitionInputs_eq]
  rw [hscopes, List.mem_filterMap]
  constructor
  · rintro ⟨p, hp, hs⟩
    have hforce := mem_active_values hp
    cases htarget : p.decision.target with
    | key key => simp [scopeOverrideOf, htarget] at hs
    | scope scopeType scopeValue =>
      obtain rfl : (⟨scopeType, scopeValue, p.decision.disposition, p.decision.explanation⟩ : ScopedOverride) = s := by
        simpa [scopeOverrideOf, htarget] using hs
      exact ⟨p.decision, by rw [← htarget]; exact hforce, rfl, rfl⟩
  · rintro ⟨d, hd, hdisposition, hreason⟩
    obtain ⟨p, hp, rfl⟩ := exists_active_value hd
    have htarget := targetKey_injective (activeDecision_key hd)
    refine ⟨p, hp, ?_⟩
    simp [scopeOverrideOf, htarget, hdisposition, hreason]

end AgentPipeline.Review
