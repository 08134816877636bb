import AgentPipeline.Review.Partition

/-!
# PartitionLaws: what `partitionFindings` keeps, and what moves a finding out of blocking

* `Divides`: every position of the verdict is in one of the three lists, in the order of the
  verdict;
* `place_blocking_mono`: a finding that blocks under a raised policy and more dispositions blocks
  under the lower ones, and it goes on blocking when findings are appended. The two move the
  ambiguity of a key the same way: what could block under the raised policy could block under the
  lower one, and among more findings (`isAmbiguous_mono`);
* `fingerprint_of_sameKey`: what one key takes out is one payload.
-/

namespace AgentPipeline.Review

open List

/-! ## Positions -/

/-- The three lists of a result. -/
inductive Side where
  | blocking | advisory | overridden
deriving DecidableEq, Repr

def Placement.side : Placement → Side
  | .blocking => .blocking
  | .advisory _ => .advisory
  | .overridden _ => .overridden

/-- The findings at the positions that went to a side, in order. -/
def atSide (findings : List ReviewFinding) (sides : List Side) (side : Side) : List ReviewFinding :=
  ((findings.zip sides).filter fun p => p.2 = side).map Prod.fst

/-- Each position has one side, and each list of the result holds the findings of its side. -/
def Divides (findings : List ReviewFinding) (r : PartitionResult) : Prop :=
  ∃ sides : List Side, sides.length = findings.length ∧ r.blocking = atSide findings sides .blocking ∧
    r.advisory.map (·.finding) = atSide findings sides .advisory ∧
    r.overridden.map (·.finding) = atSide findings sides .overridden

variable {entry : OverriddenEntry}

lemma Placement.overridden?_eq_some {p : Placement} : p.overridden? = some entry ↔ p = .overridden entry := by
  cases p <;> simp [Placement.overridden?]

lemma Placement.advisory?_eq_some {p : Placement} {entry : AdvisoryEntry} :
    p.advisory? = some entry ↔ p = .advisory entry := by
  cases p <;> simp [Placement.advisory?]

lemma atSide_map (side : ReviewFinding → Side) (findings : List ReviewFinding) (s : Side) :
    atSide findings (findings.map side) s = findings.filter fun f => side f = s := by
  unfold atSide
  induction findings with
  | nil => rfl
  | cons f rest ih =>
    rw [map_cons, zip_cons_cons, filter_cons, filter_cons]
    split <;> simp [ih]

/-! ## Raised policies and further dispositions -/

/-- Neither the threshold nor the floor is lower. -/
structure ReviewPolicy.RaisedTo (policy raised : ReviewPolicy) : Prop where
  threshold : policy.blockThreshold.rank ≤ raised.blockThreshold.rank
  confidence : policy.minConfidence ≤ raised.minConfidence

/-- The dispositions of one round are among those of another at the same commit. -/
structure PartitionInputs.Within (inputs further : PartitionInputs) : Prop where
  overrides : ∀ key, (inputs.overrides.get? key).isSome = true → (further.overrides.get? key).isSome = true
  scopes : inputs.scopes ⊆ further.scopes
  nonReproducing : ∀ key, (inputs.nonReproducing.get? key).getD [] ⊆ (further.nonReproducing.get? key).getD []
  reviewedSha : inputs.reviewedSha = further.reviewedSha
  settledFindings : inputs.settledFindings ⊆ further.settledFindings

lemma ReviewPolicy.RaisedTo.refl (policy : ReviewPolicy) : policy.RaisedTo policy := ⟨le_rfl, le_rfl⟩

lemma PartitionInputs.Within.refl (inputs : PartitionInputs) : inputs.Within inputs where
  overrides _ h := h
  scopes := List.Subset.refl _
  nonReproducing _ := List.Subset.refl _
  reviewedSha := rfl
  settledFindings := List.Subset.refl _

section Policy

variable {policy raised : ReviewPolicy} (hraised : policy.RaisedTo raised) {f : ReviewFinding}
include hraised

lemma isAboveSeverity_mono (h : isAboveSeverity raised f = true) : isAboveSeverity policy f = true := by
  unfold isAboveSeverity at h ⊢
  rw [Bool.or_eq_true, decide_eq_true_iff, decide_eq_true_iff] at h ⊢
  exact h.imp_right hraised.threshold.trans

lemma ge_mono {confidence : JsNumber} (h : confidence.ge (.finite raised.minConfidence) = true) :
    confidence.ge (.finite policy.minConfidence) = true := by
  cases confidence with
  | finite value =>
    rw [JsNumber.ge_finite, decide_eq_true_iff] at h ⊢
    exact hraised.confidence.trans h
  | infinity negative => exact h
  | nan => exact h

lemma lt_mono {confidence : JsNumber} (h : confidence.lt (.finite policy.minConfidence) = true) :
    confidence.lt (.finite raised.minConfidence) = true := by
  cases confidence with
  | finite value =>
    rw [JsNumber.lt_finite, decide_eq_true_iff] at h ⊢
    exact h.trans_le hraised.confidence
  | infinity negative => exact h
  | nan => exact h

lemma isBlockingCandidate_mono (h : isBlockingCandidate raised f = true) : isBlockingCandidate policy f = true := by
  unfold isBlockingCandidate at h ⊢
  rw [Bool.and_eq_true] at h ⊢
  refine h.imp (isAboveSeverity_mono hraised) fun hconf => ?_
  unfold isAboveConfidence at hconf ⊢
  rw [Option.all_eq_true] at hconf ⊢
  exact fun confidence hmem => ge_mono hraised (hconf confidence hmem)

lemma meetsPolicy_mono (h : meetsPolicy raised f = true) : meetsPolicy policy f = true := by
  unfold meetsPolicy at h ⊢
  rw [Bool.and_eq_true, Bool.not_eq_true'] at h ⊢
  refine h.imp (isAboveSeverity_mono hraised) fun hconf => ?_
  unfold belowConfidence at hconf ⊢
  rw [Option.any_eq_false] at hconf ⊢
  intro confidence hmem
  rw [Bool.eq_false_iff]
  exact fun hlt => Bool.eq_false_iff.1 (hconf confidence hmem) (lt_mono hraised hlt)

omit hraised in
/-- A candidate that the raised policy lets block is a candidate under it: no confidence is `NaN`
here, so not being below the floor is being at least the floor. -/
lemma isBlockingCandidate_of_meetsPolicy (h : isBlockingCandidate policy f = true)
    (hmeets : meetsPolicy raised f = true) : isBlockingCandidate raised f = true := by
  unfold meetsPolicy at hmeets
  unfold isBlockingCandidate at h ⊢
  rw [Bool.and_eq_true] at h hmeets ⊢
  refine ⟨hmeets.1, ?_⟩
  have hfloor := hmeets.2
  have hconf := h.2
  unfold belowConfidence at hfloor
  unfold isAboveConfidence at hconf ⊢
  cases hvalue : f.confidence with
  | none => rfl
  | some confidence =>
    rw [hvalue] at hfloor hconf
    rw [Option.all_some] at hconf ⊢
    rw [Option.any_some] at hfloor
    cases confidence with
    | finite value => simpa using hfloor
    | infinity negative => exact hconf
    | nan => exact hconf

end Policy

section Laws

variable {host : NodeHost} {policy raised : ReviewPolicy} {inputs further : PartitionInputs}
  {findings all : List ReviewFinding} {f : ReviewFinding}

/-! ## Ambiguity -/

variable {key : String}

lemma isAmbiguous_mono (hraised : policy.RaisedTo raised) (hall : findings ⊆ all)
    (h : isAmbiguous host findings raised key = true) : isAmbiguous host all policy key = true := by
  unfold isAmbiguous at h ⊢
  rw [decide_eq_true_iff] at h ⊢
  have hsub : blockingFingerprints host findings raised key ⊆ blockingFingerprints host all policy key := by
    intro fingerprint hmem
    unfold blockingFingerprints at hmem ⊢
    rw [mem_dedup, mem_map] at hmem ⊢
    obtain ⟨g, hg, rfl⟩ := hmem
    refine ⟨g, ?_, rfl⟩
    rw [mem_filter, Bool.and_eq_true, Bool.and_eq_true] at hg ⊢
    obtain ⟨hmem, ⟨hmarked, hcandidate⟩, hkey⟩ := hg
    exact ⟨hall hmem, ⟨hmarked, isBlockingCandidate_mono hraised hcandidate⟩, hkey⟩
  have hnodup : (blockingFingerprints host findings raised key).Nodup := nodup_dedup _
  exact h.trans_le (subperm_of_subset hnodup hsub).length_le

/-! ## The four tests of a finding that blocks -/

lemma scopedEntry_mono (h : scopedEntry host further.scopes f = none)
    (hwithin : inputs.Within further) : scopedEntry host inputs.scopes f = none := by
  unfold scopedEntry at h ⊢
  rw [Option.map_eq_none_iff, find?_eq_none] at h ⊢
  exact fun s hs => h s (hwithin.scopes hs)

lemma settledGuard_mono (h : settledGuard host further.settledFindings f = none)
    (hwithin : inputs.Within further) : settledGuard host inputs.settledFindings f = none := by
  unfold settledGuard at h ⊢
  split at h
  · next hack => rw [if_pos hack]
  · next hack =>
    rw [if_neg hack]
    cases hmatch : matchSettledFinding host f further.settledFindings with
    | some m => simp [hmatch] at h
    | none =>
      -- no settled finding matches on either axis, so none of the fewer does
      rw [matchSettledFinding_eq_none_iff] at hmatch
      have hnone : matchSettledFinding host f inputs.settledFindings = none := by
        rw [matchSettledFinding_eq_none_iff]
        exact fun entry hmem => hmatch entry (hwithin.settledFindings hmem)
      rw [(matchSettledFinding_eq_none_iff host).2 hmatch] at h
      rw [hnone]
      simp only [Option.map_eq_none_iff] at h ⊢
      unfold matchSettledAlternative at h ⊢
      cases hsurface : surfaceKey host f with
      | none => rfl
      | some surface =>
        rw [hsurface, Option.bind_some] at h
        rw [Option.bind_some]
        dsimp only at h ⊢
        split at h
        · next hempty => rw [if_pos hempty]
        · next hempty =>
          rw [if_neg hempty]
          rw [findSome?_eq_none_iff] at h ⊢
          exact fun entry hmem => h entry (hwithin.settledFindings hmem)

lemma declaredNonReproducing_mono (h : declaredNonReproducing host further f = none)
    (hwithin : inputs.Within further) : declaredNonReproducing host inputs f = none := by
  unfold declaredNonReproducing at h ⊢
  rw [hwithin.reviewedSha]
  cases hsha : further.reviewedSha.filter (· ≠ "") with
  | none => rfl
  | some sha =>
    rw [hsha, Option.filter_eq_none_iff] at h
    rw [Option.filter_eq_none_iff]
    intro sha' hsha' hany
    rw [any_eq_true] at hany
    obtain ⟨d, hd, hmatch⟩ := hany
    exact h sha' hsha' (any_eq_true.2 ⟨d, hwithin.nonReproducing _ hd, hmatch⟩)

lemma place_blocking_mono (hraised : policy.RaisedTo raised) (hwithin : inputs.Within further)
    (hall : findings ⊆ all) (h : place host findings raised further f = .blocking) :
    place host all policy inputs f = .blocking := by
  rw [place_eq_blocking_iff] at h ⊢
  obtain ⟨hmarked, hscope, hdisposed, hpolicy, hsettled⟩ := h
  refine ⟨hmarked, scopedEntry_mono hscope hwithin, ?_, meetsPolicy_mono hraised hpolicy,
    settledGuard_mono hsettled hwithin⟩
  rw [disposedEntry_eq_none_iff] at hdisposed ⊢
  intro hcandidate hclear
  have hraisedClear : isAmbiguous host findings raised (findingKey host f) = false := by
    rw [Bool.eq_false_iff] at hclear ⊢
    exact fun hambiguous => hclear (isAmbiguous_mono hraised hall hambiguous)
  obtain ⟨hoverride, hdeclared⟩ := hdisposed
    (isBlockingCandidate_of_meetsPolicy hcandidate hpolicy) hraisedClear
  refine ⟨?_, declaredNonReproducing_mono hdeclared hwithin⟩
  by_contra hsome
  have hfurther := hwithin.overrides _ (Option.isSome_iff_ne_none.2 hsome)
  rw [hoverride] at hfurther
  cases hfurther

lemma blocking_sublist (hraised : policy.RaisedTo raised) (hwithin : inputs.Within further) :
    (partitionFindings host findings raised further).blocking.Sublist
      (partitionFindings host findings policy inputs).blocking := by
  refine monotone_filter_right _ fun g hg => ?_
  rw [decide_eq_true_iff] at hg ⊢
  exact place_blocking_mono hraised hwithin (List.Subset.refl _) hg

lemma blocking_sublist_append (more : List ReviewFinding) :
    (partitionFindings host findings policy inputs).blocking.Sublist
      (partitionFindings host (findings ++ more) policy inputs).blocking := by
  have hkept : (findings.filter fun g => place host findings policy inputs g = .blocking).Sublist
      (findings.filter fun g => place host (findings ++ more) policy inputs g = .blocking) := by
    refine monotone_filter_right _ fun g hg => ?_
    rw [decide_eq_true_iff] at hg ⊢
    exact place_blocking_mono (.refl policy) (.refl inputs) (subset_append_left _ _) hg
  exact hkept.trans ((sublist_append_left findings more).filter _)

/-! ## One key, one payload -/

lemma place_eq_overridden (h : place host findings policy inputs f = .overridden entry) :
    f.blocking ≠ some false ∧ (scopedEntry host inputs.scopes f = some entry ∨
      disposedEntry host findings policy inputs f = some entry) := by
  unfold place at h
  split at h
  · cases h
  · next hmarked =>
    refine ⟨hmarked, ?_⟩
    split at h
    · next hscope =>
      cases h
      exact .inl hscope
    · split at h
      · next hdisposed =>
        cases h
        exact .inr hdisposed
      · unfold classify at h
        split at h
        · cases h
        · split at h
          · cases h
          · cases h

lemma of_scopedEntry {scopes : List ScopedOverride} (h : scopedEntry host scopes f = some entry) :
    ∃ s : ScopedOverride, entry = .scope f s.type s.value s.disposition s.reason := by
  obtain ⟨s, -, rfl⟩ := Option.map_eq_some_iff.1 h
  exact ⟨s, rfl⟩

lemma of_key_mem_overridden {disposition : String}
    (h : .key f key disposition ∈ (partitionFindings host findings policy inputs).overridden) :
    f ∈ findings ∧ f.blocking ≠ some false ∧ isBlockingCandidate policy f = true ∧
      findingKey host f = key ∧ isAmbiguous host findings policy key = false := by
  unfold partitionFindings at h
  dsimp only at h
  rw [mem_filterMap] at h
  obtain ⟨g, hg, hplaced⟩ := h
  obtain ⟨hmarked, hscope | hdisposed⟩ := place_eq_overridden (Placement.overridden?_eq_some.1 hplaced)
  · obtain ⟨s, heq⟩ := of_scopedEntry hscope
    cases heq
  · obtain ⟨hcandidate, hclear, _, heq⟩ := disposedEntry_eq_some host hdisposed
    cases heq
    exact ⟨hg, hmarked, hcandidate, rfl, hclear⟩

lemma fingerprint_of_sameKey {g : ReviewFinding} {disposition disposition' : String}
    (hf : .key f key disposition ∈ (partitionFindings host findings policy inputs).overridden)
    (hg : .key g key disposition' ∈ (partitionFindings host findings policy inputs).overridden) :
    findingPayloadFingerprint host f = findingPayloadFingerprint host g := by
  obtain ⟨hmem, hmarked, hcandidate, hkey, hclear⟩ := of_key_mem_overridden hf
  obtain ⟨hmem', hmarked', hcandidate', hkey', -⟩ := of_key_mem_overridden hg
  have hlisted (e : ReviewFinding) (he : e ∈ findings) (hm : e.blocking ≠ some false)
      (hc : isBlockingCandidate policy e = true) (hk : findingKey host e = key) :
      findingPayloadFingerprint host e ∈ blockingFingerprints host findings policy key := by
    unfold blockingFingerprints
    rw [mem_dedup]
    refine mem_map_of_mem (mem_filter.2 ⟨he, ?_⟩)
    simp [hm, hc, hk]
  have hlength : (blockingFingerprints host findings policy key).length ≤ 1 := by
    unfold isAmbiguous at hclear
    rw [decide_eq_false_iff_not] at hclear
    omega
  have hfirst := hlisted f hmem hmarked hcandidate hkey
  have hsecond := hlisted g hmem' hmarked' hcandidate' hkey'
  obtain ⟨fingerprint, hone⟩ := length_eq_one_iff.1
    (le_antisymm hlength (length_pos_of_mem hfirst))
  rw [hone, mem_singleton] at hfirst hsecond
  rw [hfirst, hsecond]

/-! ## The laws -/

lemma finding_of_place_overridden
    (h : place host findings policy inputs f = .overridden entry) : entry.finding = f := by
  obtain ⟨-, hscope | hdisposed⟩ := place_eq_overridden h
  · obtain ⟨s, rfl⟩ := of_scopedEntry hscope
    rfl
  · obtain ⟨-, -, disposition, rfl⟩ := disposedEntry_eq_some host hdisposed
    rfl

lemma map_filterMap_eq_filter {α β : Type} {entry : α → Option β} {source : β → α}
    {p : α → Bool} (hsource : ∀ a b, entry a = some b → source b = a) (hp : ∀ a, (entry a).isSome = p a) (l : List α) :
    (l.filterMap entry).map source = l.filter p := by
  induction l with
  | nil => rfl
  | cons a rest ih =>
    rw [filter_cons, ← hp]
    cases hentry : entry a with
    | none => simp [filterMap_cons_none hentry, ih]
    | some b => simp [filterMap_cons_some hentry, ih, hsource a b hentry]

lemma divides_partitionFindings : Divides findings (partitionFindings host findings policy inputs) := by
  refine ⟨findings.map fun f => (place host findings policy inputs f).side, by simp, ?_, ?_, ?_⟩
  · rw [atSide_map]
    refine filter_congr fun f _ => ?_
    cases place host findings policy inputs f <;> rfl
  · rw [atSide_map]
    refine map_filterMap_eq_filter (fun f entry h => ?_) (fun f => ?_) findings
    · exact finding_of_place_advisory host (Placement.advisory?_eq_some.1 h)
    · cases place host findings policy inputs f <;> rfl
  · rw [atSide_map]
    refine map_filterMap_eq_filter (fun f entry h => ?_) (fun f => ?_) findings
    · exact finding_of_place_overridden (Placement.overridden?_eq_some.1 h)
    · cases place host findings policy inputs f <;> rfl

end Laws

/-- The partition divides the verdict, raised policies and further dispositions only take findings
out of blocking, appended findings take none out, and what is overridden by one key is one
payload. -/
theorem partition_exact_and_monotone (host : NodeHost) :
    (∀ findings policy inputs, Divides findings (partitionFindings host findings policy inputs)) ∧
    (∀ findings policy raised inputs further,
      ReviewPolicy.RaisedTo policy raised → PartitionInputs.Within inputs further →
      (partitionFindings host findings raised further).blocking.Sublist
        (partitionFindings host findings policy inputs).blocking) ∧
    (∀ findings more policy inputs, (partitionFindings host findings policy inputs).blocking.Sublist
        (partitionFindings host (findings ++ more) policy inputs).blocking) ∧
    ∀ findings policy inputs f g key disposition disposition',
      .key f key disposition ∈ (partitionFindings host findings policy inputs).overridden →
      .key g key disposition' ∈ (partitionFindings host findings policy inputs).overridden →
      findingPayloadFingerprint host f = findingPayloadFingerprint host g := by
  refine ⟨?_, ?_, ?_, ?_⟩
  · intro findings policy inputs
    exact divides_partitionFindings
  · intro findings policy raised inputs further hraised hwithin
    exact blocking_sublist hraised hwithin
  · intro findings more policy inputs
    exact blocking_sublist_append more
  · intro findings policy inputs f g key disposition disposition' hf hg
    exact fingerprint_of_sameKey hf hg

end AgentPipeline.Review
