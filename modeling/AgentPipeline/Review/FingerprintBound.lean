import AgentPipeline.Review.OverrideProjection

/-!
# FingerprintBound: overrides of one payload

A decision for a finding key can be bound to the payload it was made for. The projection judges it
against one live payload of the key, that of the last finding in the list, while the partition
applies the key to every finding that could block.

* `FingerprintBound`: no finding is taken out by a decision that was bound to another payload;
* `fingerprintBound_iff`: that holds exactly when the last finding of the key stands for all that
  the key can take out.
-/

namespace AgentPipeline.Review

open Option

section FingerprintBound

variable (host : NodeHost)

/-- No key decision takes out a finding of another payload than the decision is bound to. -/
def FingerprintBound (findings : List ReviewFinding) (policy : ReviewPolicy)
    (inputs : PartitionInputs) (active : JsObject ProjectedDecision) : Prop :=
  ∀ f key disposition, .key f key disposition ∈ (partitionFindings host findings policy inputs).overridden →
      ∀ p, active.get? ("key:" ++ key) = some p → ∀ fingerprint, p.decision.findingFingerprint = some fingerprint →
          fingerprint = findingPayloadFingerprint host f

/-- A finding that an override of its key would take out. -/
structure KeyCandidate (findings : List ReviewFinding) (policy : ReviewPolicy)
    (scopes : List ScopedOverride) (f : ReviewFinding) : Prop where
  unmarked : f.blocking ≠ some false
  unscoped : scopedEntry host scopes f = none
  candidate : isBlockingCandidate policy f = true
  unambiguous : isAmbiguous host findings policy (findingKey host f) = false

/-- The finding whose payload the projection compares. -/
def lastOfKey (findings : List ReviewFinding) (key : String) : Option ReviewFinding :=
  (findings.filter fun f => findingKey host f = key).getLast?

/-- Where a bound decision is in force, it names a payload, and the last finding of its key has the
payload of every finding that the key takes out. -/
def LastStandsForAll (findings : List ReviewFinding) (policy : ReviewPolicy)
    (scopes : List ScopedOverride) (ctx : OverrideContext) (decisions : List OverrideDecision)
    (now : Int) : Prop :=
  ∀ f ∈ findings, KeyCandidate host findings policy scopes f →
    ∀ d, InForce host ctx decisions now ("key:" ++ findingKey host f) d →
      ∀ fingerprint, d.findingFingerprint = some fingerprint → fingerprint ≠ "" ∧
          ∀ g, lastOfKey host findings (findingKey host f) = some g →
            findingPayloadFingerprint host g = findingPayloadFingerprint host f

variable {host}

/-! ## The partition -/

lemma place_of_keyCandidate {findings : List ReviewFinding} {policy : ReviewPolicy}
    {inputs : PartitionInputs} {f : ReviewFinding} {disposition : String}
    (h : KeyCandidate host findings policy inputs.scopes f)
    (hkey : inputs.overrides.get? (findingKey host f) = some disposition) :
    place host findings policy inputs f = .overridden (.key f (findingKey host f) disposition) := by
  have hdisposed : disposedEntry host findings policy inputs f = some (.key f (findingKey host f) disposition) := by
    simp [disposedEntry, h.candidate, h.unambiguous, hkey]
  simp [place, h.unmarked, h.unscoped, hdisposed]

variable {findings : List ReviewFinding} {policy : ReviewPolicy} {inputs : PartitionInputs}
  {f : ReviewFinding} {entry : OverriddenEntry}

lemma classify_ne_overridden {settled : List SettledFinding} : classify host policy settled f ≠ .overridden entry := by
  unfold classify
  split
  · simp
  · split <;> simp

lemma keyCandidate_of_place {g : ReviewFinding} {key disposition : String}
    (h : place host findings policy inputs f = .overridden (.key g key disposition)) :
    KeyCandidate host findings policy inputs.scopes f ∧ g = f ∧ key = findingKey host f := by
  unfold place at h
  split at h
  · simp at h
  · next hmarked =>
    cases hscoped : scopedEntry host inputs.scopes f with
    | some entry =>
      -- a scope gives an entry of the other kind
      obtain ⟨s, _, rfl⟩ := map_eq_some_iff.1 hscoped
      simp [hscoped] at h
    | none =>
      cases hdisposed : disposedEntry host findings policy inputs f with
      | none =>
        simp only [hscoped, hdisposed] at h
        exact absurd h classify_ne_overridden
      | some entry =>
        obtain ⟨hcandidate, hunambiguous, disposition', rfl⟩ := disposedEntry_eq_some host hdisposed
        simp only [hscoped, hdisposed, Placement.overridden.injEq, OverriddenEntry.key.injEq] at h
        exact ⟨⟨hmarked, hscoped, hcandidate, hunambiguous⟩, h.1.symm, h.2.1.symm⟩

lemma mem_overridden_iff : entry ∈ (partitionFindings host findings policy inputs).overridden ↔
      ∃ f ∈ findings, place host findings policy inputs f = .overridden entry := by
  simp only [partitionFindings, List.mem_filterMap]
  refine exists_congr fun f => and_congr_right fun _ => ?_
  cases place host findings policy inputs f <;> simp [Placement.overridden?]

/-! ## The projection -/

variable {pin : Option Json}

lemma subjectFault_status {subject : Option Json} {fault : OverrideValidityResult}
    (h : subjectFault host subject pin = some fault) : fault.status = .invalidated := by
  unfold subjectFault at h
  split at h
  · dsimp only at h
    split at h
    · obtain rfl := some.inj h
      rfl
    · split at h
      · obtain rfl := some.inj h
        rfl
      · simp at h
  · simp at h

variable {d : OverrideDecision}

lemma driftFault_status {live : LiveOverrideContext}
    {fault : OverrideValidityResult} (h : driftFault d live = some fault) : fault.status = .invalidated := by
  unfold driftFault at h
  split at h
  · simp at h
  · split at h
    · obtain rfl := some.inj h
      rfl
    · split at h
      · obtain rfl := some.inj h
        rfl
      · simp at h

lemma driftFault_of_active {live : LiveOverrideContext} {classKnown : Bool} {now : Int} {succ : Successor}
    (h : (evaluateOverrideValidity host d pin live classKnown now succ).status = .active) :
    driftFault d live = none := by
  by_contra hdrift
  obtain ⟨fault, hfault⟩ := ne_none_iff_exists'.1 hdrift
  -- one of the two faults decides the status
  have hfaults : ∃ fault', (subjectFault host d.evidenceSubject pin <|> driftFault d live) =
      some fault' ∧ fault'.status = .invalidated := by
    cases hsubject : subjectFault host d.evidenceSubject pin with
    | none => exact ⟨fault, by simp [hfault], driftFault_status hfault⟩
    | some fault' => exact ⟨fault', by simp, subjectFault_status hsubject⟩
  obtain ⟨fault', hor, hstatus⟩ := hfaults
  unfold evaluateOverrideValidity at h
  rw [hor] at h
  split_ifs at h <;> simp_all

lemma get?_liveByTarget (findings : List ReviewFinding) (key : String) :
    (liveByTarget host findings).get? ("key:" ++ key) = (lastOfKey host findings key).map (liveContextOf host) := by
  have hkey : ∀ a b : String, "key:" ++ a = "key:" ++ b ↔ a = b := by simp
  unfold liveByTarget lastOfKey
  rw [JsObject.get?_foldl_set, JsObject.get?_empty, or_none, List.getLast?_filter]
  simp only [hkey]

variable (host) in
lemma findingPayloadFingerprint_ne_empty (f : ReviewFinding) : findingPayloadFingerprint host f ≠ "" := by
  intro hempty
  obtain ⟨hlength, _⟩ := isHexDigest_shortDigest host (by decide : 16 ≤ 40) _
  rw [← findingPayloadFingerprint, hempty] at hlength
  simp at hlength

lemma fingerprint_of_inForce {governance : Option OverrideGovernanceConfig}
    {decisions : List OverrideDecision} {now : Int} {key fingerprint : String} {g : ReviewFinding}
    (h : InForce host (projectionContext host governance pin findings) decisions now ("key:" ++ key) d)
    (hd : d.findingFingerprint = some fingerprint) (hne : fingerprint ≠ "")
    (hg : lastOfKey host findings key = some g) : fingerprint = findingPayloadFingerprint host g := by
  obtain ⟨_, _, _, hkey, hactive, _⟩ := h
  have htarget : d.target = .key key := targetKey_injective hkey
  have hdrift := driftFault_of_active hactive
  rw [hkey] at hdrift
  have hlive : ((projectionContext host governance pin findings).live.get? ("key:" ++ key)).getD {} =
      liveContextOf host g := by
    simp [projectionContext, get?_liveByTarget, hg]
  rw [hlive] at hdrift
  by_contra hne'
  have hgne : findingPayloadFingerprint host g ≠ "" := findingPayloadFingerprint_ne_empty host g
  have hdrifted : drifted d.findingFingerprint (liveContextOf host g).findingFingerprint = true := by
    simp [drifted, truthy, liveContextOf, hd, Option.filter, hne, hgne, hne']
  simp [driftFault, htarget, hdrifted] at hdrift

/-! ## When the two agree -/

/-- The overrides of the projection respect the payloads exactly when the last finding of a key
stands for all that the key takes out. -/
theorem fingerprintBound_iff {comments : List TrustedComment}
    {governance : Option OverrideGovernanceConfig} {pin : Option Json} {now : Int}
    {findings : List ReviewFinding} {projected : ProjectedOverrides}
    (h : projectOverridesForPartition host comments governance pin now findings = .ok projected)
    (policy : ReviewPolicy) (inputs : PartitionInputs) :
    FingerprintBound host findings policy { inputs with overrides := projected.overrides }
        projected.active ↔
      LastStandsForAll host findings policy inputs.scopes
        (projectionContext host governance pin findings) projected.decisions now := by
  obtain ⟨decisions, rfl⟩ : ∃ decisions,
      projectDecisions host (projectionContext host governance pin findings) decisions now = projected := by
    unfold projectOverridesForPartition at h
    cases hread : extractOverrideDecisions host comments with
    | error raw => simp [hread, bind, Except.bind] at h
    | ok decisions => exact ⟨decisions, by simpa [hread, bind, Except.bind, pure, Except.pure] using h⟩
  set ctx := projectionContext host governance pin findings with hctx
  have hactive : ∀ k, ((projectDecisions host ctx decisions now).active.get? k).map (·.decision) =
      activeDecision host ctx decisions now k := fun _ => rfl
  constructor
  · intro hbound f hf hcandidate d hd fingerprint hfingerprint
    have hforce : activeDecision host ctx decisions now ("key:" ++ findingKey host f) = some d :=
      activeDecision_eq_some_iff.2 hd
    obtain ⟨p, hp, rfl⟩ := map_eq_some_iff.1 ((hactive _).trans hforce)
    have hkey : (projectDecisions host ctx decisions now).overrides.get? (findingKey host f) =
        some p.decision.disposition := by
      rw [get?_overrides, hforce]
      rfl
    let projected : PartitionInputs :=
      { inputs with overrides := (projectDecisions host ctx decisions now).overrides }
    have hplace := @place_of_keyCandidate host findings policy projected f _ hcandidate hkey
    have hmem := mem_overridden_iff.2 ⟨f, hf, hplace⟩
    obtain rfl := hbound f _ _ hmem p hp fingerprint hfingerprint
    have hne := findingPayloadFingerprint_ne_empty host f
    exact ⟨hne, fun g hg => (fingerprint_of_inForce hd hfingerprint hne hg).symm⟩
  · rintro hlast f key disposition hmem p hp fingerprint hfingerprint
    obtain ⟨f', hf', hplace⟩ := mem_overridden_iff.1 hmem
    obtain ⟨hcandidate, rfl, rfl⟩ := keyCandidate_of_place hplace
    have hd : InForce host ctx decisions now ("key:" ++ findingKey host f) p.decision := by
      refine activeDecision_eq_some_iff.1 ((hactive _).symm.trans ?_)
      simp [hp]
    obtain ⟨hne, hsame⟩ := hlast f hf' hcandidate p.decision hd fingerprint hfingerprint
    -- the finding itself has the key, so the key has a last finding
    obtain ⟨g, hg⟩ : ∃ g, lastOfKey host findings (findingKey host f) = some g := by
      refine ne_none_iff_exists'.1 fun hnone => ?_
      have hmem : f ∈ findings.filter fun g => findingKey host g = findingKey host f := by simp [hf']
      rw [lastOfKey, List.getLast?_eq_none_iff] at hnone
      simp [hnone] at hmem
    rw [fingerprint_of_inForce hd hfingerprint hne hg, hsame g hg]

end FingerprintBound

/-! ## Two payloads of one key -/

/-- An override that is bound to the payload of the unchecked read, recorded on the first day. -/
def boundOverride : TrustedComment where
  body :=
    "## Pipeline: Finding override\n\n### Reason\ndeferred to the follow-up\n\n<!-- pipeline-override-gov: v1 \x7b\"decision_id\":\"d-1\",\"class\":\"low_risk_deferred\",\"disposition\":\"deferred\",\"target\":\x7b\"kind\":\"key\",\"key\":\"719072e4\"\x7d,\"actor\":\"octo\",\"identity_source\":\"actor\",\"authorization_matched_rule\":null,\"authorization_evidence\":\"allowed\",\"explanation\":\"deferred\",\"evidence_refs\":\x7b\x7d,\"finding_fingerprint\":\"346b867393792fc5\",\"code_region\":null,\"created_at\":\"1970-01-01T00:00:00Z\",\"expires_at\":\"1970-01-01T20:00:00Z\",\"supersedes\":null,\"renewed_from\":null,\"renewal_kind\":null\x7d -->\n\n<!-- pipeline-override: 719072e4 deferred -->".toList
  createdAt := some "1970-01-01T00:00:00Z"

set_option maxRecDepth 4000 in
/-- A remark that the reviewer marked non-blocking carries the override to the blocker before it. -/
theorem override_takes_other_payload :
    ¬∀ (host : NodeHost) (comments : List TrustedComment)
      (governance : Option OverrideGovernanceConfig) (pin : Option Json) (now : Int)
      (findings : List ReviewFinding) (projected : ProjectedOverrides),
      projectOverridesForPartition host comments governance pin now findings = .ok projected →
        ∀ (policy : ReviewPolicy) (inputs : PartitionInputs),
          FingerprintBound host findings policy { inputs with overrides := projected.overrides }
            projected.active := by
  intro h
  let remark : ReviewFinding := { uncheckedRead with blocking := some false }
  have hevaluated : (projectOverridesForPartition sameLineHost [boundOverride] none none 0
      [indexOutOfRange, remark]).toOption.map (fun projected =>
        (decide (.key indexOutOfRange "719072e4" "deferred" ∈ (partitionFindings sameLineHost
            [indexOutOfRange, remark] ⟨.low, 0⟩ { overrides := projected.overrides }).overridden),
          (projected.active.get? "key:719072e4").map (·.decision.findingFingerprint))) =
      some (true, some (some "346b867393792fc5")) := by
    unfold boundOverride
    rw [String.toList_ofList]
    decide +kernel
  obtain ⟨projected, hread, hprojected⟩ := exists_ok_of_map_toOption hevaluated
  simp only [Prod.mk.injEq, decide_eq_true_eq, map_eq_some_iff] at hprojected
  obtain ⟨htaken, p, hp, hfingerprint⟩ := hprojected
  have hsame := h _ _ none none 0 _ projected hread ⟨.low, 0⟩ {} indexOutOfRange "719072e4"
    "deferred" htaken p hp _ hfingerprint
  exact absurd hsame (by decide +kernel)

set_option maxRecDepth 4000 in
/-- Alone, the finding is taken out by the decision for its own payload. -/
theorem fingerprintBound_alone :
    ∃ projected, projectOverridesForPartition sameLineHost [boundOverride] none none 0 [uncheckedRead] =
          .ok projected ∧
        FingerprintBound sameLineHost [uncheckedRead] ⟨.low, 0⟩
          { overrides := projected.overrides } projected.active := by
  have hevaluated : (projectOverridesForPartition sameLineHost [boundOverride] none none 0
      [uncheckedRead]).toOption.map (fun projected =>
        projected.decisions.map (·.findingFingerprint)) = some [some "346b867393792fc5"] := by
    unfold boundOverride
    rw [String.toList_ofList]
    decide +kernel
  obtain ⟨projected, hread, hbound⟩ := exists_ok_of_map_toOption hevaluated
  refine ⟨projected, hread, (fingerprintBound_iff hread ⟨.low, 0⟩ {}).2 ?_⟩
  intro f hf _ d hd fingerprint hfingerprint
  obtain rfl : f = uncheckedRead := by simpa using hf
  obtain ⟨pre, suf, hdecisions, _⟩ := hd
  have hmem : some fingerprint ∈ projected.decisions.map (·.findingFingerprint) := by
    rw [hdecisions, ← hfingerprint]
    simp
  obtain rfl : fingerprint = "346b867393792fc5" := by simpa [hbound] using hmem
  refine ⟨by decide, fun g hg => ?_⟩
  obtain ⟨hg, _⟩ := List.mem_filter.1 (List.mem_of_getLast? hg)
  obtain rfl : g = uncheckedRead := by simpa using hg
  rfl

end AgentPipeline.Review
