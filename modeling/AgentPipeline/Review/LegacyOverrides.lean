import Mathlib.Data.List.ReduceOption
import AgentPipeline.Review.OverrideProjection
import AgentPipeline.Review.OverrideTargets

/-!
# LegacyOverrides: comments without a governance line

A history of legacy sentinels can be read in two ways: `extractOverrides` and
`extractScopedOverrides` keep the last sentinel of every key and scope, and
`projectOverridesForPartition` turns each sentinel into a decision and projects the decisions.

* `projects_legacy_iff`: when both give the same overrides.

Two things set them apart. The id of a decision is made of its target and of the second it was
recorded in, so a decision that repeats the id of one with a successor is superseded itself. And
the sentinels alone are read under the heading for their kind, while a decision is read under
either heading.
-/

namespace AgentPipeline.Review

open List Option

section Legacy

variable (host : NodeHost)

/-- No line of an override comment is a governance line. -/
def LegacyOnly (comments : List TrustedComment) : Prop :=
  ∀ c ∈ comments, isOverrideComment c = true →
    ∀ line ∈ sentinelLines host c.body, (parseOverrideGovLine host line).isNone = true

instance (comments : List TrustedComment) : Decidable (LegacyOnly host comments) :=
  inferInstanceAs (Decidable (∀ _ ∈ _, _))

/-- The same keys and scopes with the same dispositions. -/
structure AgreesWithLegacy (comments : List TrustedComment) (projected : ProjectedOverrides) :
    Prop where
  keys : ∀ key, projected.overrides.get? key = (extractOverrides host comments).get? key
  scopes : ∀ s, s ∈ projected.scopes ↔ s ∈ extractScopedOverrides host comments

/-! ## The two readings as decisions -/

/-- The decision that a comment without a governance line is read as, under either heading. -/
def sentinelDecision (c : TrustedComment) : Option OverrideDecision :=
  if isOverrideComment c then
    legacyDecisionOf host c.createdAt (lastLine host c.body)
  else none

/-- The sentinel that stands under the heading for its kind, as a decision. -/
def headedDecision (c : TrustedComment) : Option OverrideDecision :=
  match headedKeySentinel host c with
  | some s => some (legacyKeyDecision host c.createdAt s)
  | none => (headedScopeSentinel host c).map (legacyScopeDecision host c.createdAt)

/-- The last sentinel for a target: what is read under either heading has an id that no succeeded
decision has, and says what the last one under its own heading says; where the id is repeated, no
comment has the heading. -/
def SameLast (read headed : List OverrideDecision) (k : String) : Prop :=
  match lastFor read k, lastFor headed k with
  | none, none => True
  | none, some _ => False
  | some d, none => IsSucceeded read d.decisionId
  | some d, some s =>
    ¬IsSucceeded read d.decisionId ∧ d.disposition = s.disposition ∧ d.explanation = s.explanation

variable {host}

/-! ## What is read -/

lemma legacyDecisionOf_nil (createdAt : Option String) : legacyDecisionOf host createdAt [] = none := by
  have hkey : readKeySentinel [] = none := by decide +kernel
  have hscope : readScopeSentinel [] = none := by decide +kernel
  simp [legacyDecisionOf, hkey, hscope]

variable {c : TrustedComment}

lemma readDecision_of_legacyOnly (h : isOverrideComment c = true →
      ∀ line ∈ sentinelLines host c.body, (parseOverrideGovLine host line).isNone = true) :
    readDecision host c = .ok (sentinelDecision host c) := by
  unfold readDecision sentinelDecision
  cases hheaded : isOverrideComment c with
  | false => rfl
  | true =>
    have hlines := h hheaded
    have hlast : lastLine host c.body = (sentinelLines host c.body).getLast?.getD [] := rfl
    rw [hlast]
    generalize sentinelLines host c.body = lines at hlines
    have hnone : lines.reverse.findSome? (parseOverrideGovLine host) = none := by
      refine findSome?_eq_none_iff.2 fun line hline => ?_
      simpa using hlines line (mem_reverse.1 hline)
    cases hempty : lines.getLast? with
    | none =>
      obtain rfl : lines = [] := getLast?_eq_none_iff.1 hempty
      simp [legacyDecisionOf_nil]
    | some last =>
      have hgov : parseOverrideGovLine host last = none := by simpa using hlines last (mem_of_getLast? hempty)
      have hne : lines.isEmpty = false := by
        cases lines with
        | nil => simp at hempty
        | cons line rest => rfl
      simp [hne, hnone, legacyLine, hempty, hgov]

variable {comments : List TrustedComment}

lemma extractOverrideDecisions_of_legacyOnly (h : LegacyOnly host comments) :
    extractOverrideDecisions host comments = .ok (comments.filterMap (sentinelDecision host)) := by
  have hread : comments.mapM (readDecision host) = .ok (comments.map (sentinelDecision host)) := by
    induction comments with
    | nil => rfl
    | cons c rest ih =>
      obtain ⟨hc, hrest⟩ := forall_mem_cons.1 h
      simp [readDecision_of_legacyOnly hc, ih hrest, bind, Except.bind, pure, Except.pure]
  simp [extractOverrideDecisions, hread, bind, Except.bind, pure, Except.pure, List.reduceOption]

/-! ## Legacy decisions -/

/-- A decision that was made of a sentinel. -/
def IsLegacy (host : NodeHost) (d : OverrideDecision) : Prop :=
  (∃ createdAt s, d = legacyKeyDecision host createdAt s) ∨ ∃ createdAt s, d = legacyScopeDecision host createdAt s

variable {d : OverrideDecision}

lemma isLegacy_of_legacyDecisionOf {createdAt : Option String} {line : List Char}
    (h : legacyDecisionOf host createdAt line = some d) : IsLegacy host d := by
  unfold legacyDecisionOf at h
  split at h
  · exact .inl ⟨_, _, (some.inj h).symm⟩
  · obtain ⟨s, _, rfl⟩ := map_eq_some_iff.1 h
    exact .inr ⟨_, s, rfl⟩

lemma isLegacy_of_mem (h : d ∈ comments.filterMap (sentinelDecision host)) : IsLegacy host d := by
  obtain ⟨c, _, hc⟩ := mem_filterMap.1 h
  unfold sentinelDecision at hc
  split at hc
  · exact isLegacy_of_legacyDecisionOf hc
  · simp at hc

lemma isLegacy_of_mem_headed (h : d ∈ comments.filterMap (headedDecision host)) : IsLegacy host d := by
  obtain ⟨c, _, hc⟩ := mem_filterMap.1 h
  unfold headedDecision at hc
  split at hc
  · exact .inl ⟨_, _, (some.inj hc).symm⟩
  · obtain ⟨s, _, rfl⟩ := map_eq_some_iff.1 hc
    exact .inr ⟨_, s, rfl⟩

lemma IsLegacy.named (h : IsLegacy host d) : d.decisionId ≠ "" := by
  rcases h with ⟨_, s, rfl⟩ | ⟨_, s, rfl⟩ <;>
    simp [legacyKeyDecision, legacyScopeDecision, legacyDecision]

lemma IsLegacy.unlinked (h : IsLegacy host d) : isUnlinked d = true := by
  rcases h with ⟨_, s, rfl⟩ | ⟨_, s, rfl⟩ <;> rfl

lemma IsLegacy.explanation_eq {key : String} (h : IsLegacy host d)
    (htarget : d.target = .key key) : d.explanation = d.disposition := by
  rcases h with ⟨_, s, rfl⟩ | ⟨_, s, rfl⟩
  · rfl
  · simp [legacyScopeDecision, legacyDecision] at htarget

lemma unlinked_legacyKeyDecision (createdAt : Option String) (s : KeySentinel) :
    isUnlinked (legacyKeyDecision host createdAt s) = true := rfl

lemma target_legacyKeyDecision (createdAt : Option String) (s : KeySentinel) :
    (legacyKeyDecision host createdAt s).target = .key s.key := rfl

variable (host) in
lemma scopeMatches_live (findings : List ReviewFinding) (k : String) :
    (((liveByTarget host findings).get? k).getD {}).scopeMatches = none := by
  unfold liveByTarget
  rw [JsObject.get?_foldl_set, JsObject.get?_empty, or_none]
  cases findings.reverse.find? fun f => decide ("key:" ++ findingKey host f = k) <;> rfl

variable {now : Int}

lemma IsLegacy.validAlone (h : IsLegacy host d) (hnow : hasExpired host now legacyExpiresAt = false)
    (governance : Option OverrideGovernanceConfig) (pin : Option Json) (findings : List ReviewFinding) :
    ValidAlone host (projectionContext host governance pin findings) now d := by
  have hlive := scopeMatches_live host findings (targetKey d.target)
  have hdrift : ∀ live, driftFault d live = none := by
    intro live
    rcases h with ⟨_, s, rfl⟩ | ⟨_, s, rfl⟩ <;>
      simp [driftFault, legacyKeyDecision, legacyScopeDecision, legacyDecision, drifted, truthy]
  have hsubject : subjectFault host d.evidenceSubject pin = none := by
    rcases h with ⟨_, s, rfl⟩ | ⟨_, s, rfl⟩ <;>
      simp [subjectFault, legacyKeyDecision, legacyScopeDecision, legacyDecision]
  have hexpires : d.expiresAt = legacyExpiresAt := by rcases h with ⟨_, s, rfl⟩ | ⟨_, s, rfl⟩ <;> rfl
  have hcompat : d.legacyCompat = true := by rcases h with ⟨_, s, rfl⟩ | ⟨_, s, rfl⟩ <;> rfl
  have hlifecycle : d.lifecycle = .active := by rcases h with ⟨_, s, rfl⟩ | ⟨_, s, rfl⟩ <;> rfl
  unfold ValidAlone
  simp [evaluateOverrideValidity, projectionContext, hlive, hdrift, hsubject, hexpires, hcompat,
    hlifecycle, hnow, truthy]

/-! ## The last sentinel of a key or scope -/

/-- What a decision says about its target. -/
def said (d : OverrideDecision) : String × String := (d.disposition, d.explanation)

variable {C : Type}

lemma lastFor_filterMap (f : C → Option OverrideDecision) (l : List C) (k : String) :
    (lastFor (l.filterMap f) k).map said =
      (l.filterMap fun c => ((f c).filter fun d => targetKey d.target = k).map said).getLast? := by
  rw [lastFor, ← getLast?_map, filter_filterMap, map_filterMap]

lemma find?_reverse_filterMap {A B : Type} (f : C → Option A) (p : A → Bool) (g : A → B)
    (l : List C) :
    ((l.filterMap f).reverse.find? p).map g = (l.filterMap fun c => ((f c).filter p).map g).getLast? := by
  rw [← getLast?_filter, ← getLast?_map, filter_filterMap, map_filterMap]

lemma headedScopeSentinel_of_key {s : KeySentinel}
    (h : headedKeySentinel host c = some s) : headedScopeSentinel host c = none := by
  have hkey : startsWith c.body overrideHeading = true := by
    by_contra hnot
    simp [headedKeySentinel, hnot] at h
  have hdistinct : scopeOverrideHeading.toList.isPrefixOf overrideHeading.toList = false := by decide +kernel
  have hscope : startsWith c.body scopeOverrideHeading = false := by
    by_contra hscope
    rw [Bool.not_eq_false] at hscope
    -- two beginnings of one text are comparable
    have hprefix := prefix_of_prefix_length_le (List.isPrefixOf_iff_prefix.1 hscope)
      (List.isPrefixOf_iff_prefix.1 hkey) (by decide +kernel)
    rw [← isPrefixOf_iff_prefix, hdistinct] at hprefix
    exact absurd hprefix (by decide)
  simp [headedScopeSentinel, hscope]

lemma get?_extractOverrides (comments : List TrustedComment) (key : String) :
    (extractOverrides host comments).get? key =
      ((lastFor (comments.filterMap (headedDecision host)) ("key:" ++ key)).map said).map Prod.fst := by
  rw [extractOverrides, JsObject.get?_foldl_set, JsObject.get?_empty, or_none,
    find?_reverse_filterMap, lastFor_filterMap, ← getLast?_map, map_filterMap]
  congr 1
  refine filterMap_congr fun c _ => ?_
  unfold headedDecision
  cases hkey : headedKeySentinel host c with
  | some s =>
    have htarget : targetKey (legacyKeyDecision host c.createdAt s).target = "key:" ++ s.key := rfl
    rw [filter_some, filter_some, htarget]
    by_cases hs : s.key = key
    · subst hs
      simp [said, legacyKeyDecision, legacyDecision]
    · simp [hs]
  | none =>
    cases headedScopeSentinel host c with
    | none => simp
    | some s =>
      have htarget : targetKey (legacyScopeDecision host c.createdAt s).target ≠ "key:" ++ key :=
        fun h => nomatch (targetKey_injective (u := .key key) h)
      simp [filter_some, htarget]

lemma scopeKey_eq_iff {t t' : ScopeType} {v v' : String} :
    t.name ++ ":" ++ v = t'.name ++ ":" ++ v' ↔ t = t' ∧ v = v' := by
  constructor
  · intro h
    have hkey : targetKey (.scope t v) = targetKey (.scope t' v') := by
      simp only [targetKey, String.append_assoc] at h ⊢
      rw [h]
    simpa using targetKey_injective hkey
  · rintro ⟨rfl, rfl⟩
    rfl

lemma mem_extractScopedOverrides (comments : List TrustedComment) (s : ScopedOverride) :
    s ∈ extractScopedOverrides host comments ↔ (lastFor (comments.filterMap (headedDecision host))
        (targetKey (.scope s.type s.value))).map said = some (s.disposition, s.reason) := by
  have htable : ∀ k, (scopeTable host comments).get? k =
      (comments.filterMap fun c => (headedScopeSentinel host c).filter fun s =>
        s.type.name ++ ":" ++ s.value = k).getLast? := by
    intro k
    have hfind := find?_reverse_filterMap (headedScopeSentinel host)
      (fun s => decide (s.type.name ++ ":" ++ s.value = k)) id comments
    rw [scopeTable, JsObject.get?_foldl_set, JsObject.get?_empty, or_none]
    simpa using hfind
  have hslot : s ∈ extractScopedOverrides host comments ↔
      (scopeTable host comments).get? (s.type.name ++ ":" ++ s.value) = some s := by
    rw [extractScopedOverrides, JsObject.mem_values]
    constructor
    · rintro ⟨k, hk⟩
      have hmem := mem_of_getLast? ((htable k).symm.trans hk)
      obtain ⟨c, _, hc⟩ := mem_filterMap.1 hmem
      obtain ⟨_, hkey⟩ := filter_eq_some_iff.1 hc
      rwa [of_decide_eq_true hkey]
    · exact fun h => ⟨_, h⟩
  rw [hslot, htable, lastFor_filterMap]
  -- the two lists correspond sentinel by sentinel
  have hpoint : (comments.filterMap fun c => ((headedDecision host c).filter fun d =>
      targetKey d.target = targetKey (.scope s.type s.value)).map said) =
      (comments.filterMap fun c => (headedScopeSentinel host c).filter fun s' =>
        s'.type.name ++ ":" ++ s'.value = s.type.name ++ ":" ++ s.value).map
        fun s' => (s'.disposition, s'.reason) := by
    rw [map_filterMap]
    refine filterMap_congr fun c _ => ?_
    unfold headedDecision
    cases hkey : headedKeySentinel host c with
    | some s' =>
      have htarget : targetKey (legacyKeyDecision host c.createdAt s').target ≠
          targetKey (.scope s.type s.value) := fun h => nomatch targetKey_injective h
      simp [headedScopeSentinel_of_key hkey, filter_some, htarget]
    | none =>
      cases headedScopeSentinel host c with
      | none => simp
      | some s' =>
        have htarget : targetKey (legacyScopeDecision host c.createdAt s').target = targetKey (.scope s.type s.value) ↔
            s'.type.name ++ ":" ++ s'.value = s.type.name ++ ":" ++ s.value := by
          rw [scopeKey_eq_iff]
          constructor
          · intro h
            have hscope : OverrideTarget.scope s'.type s'.value = .scope s.type s.value := targetKey_injective h
            simpa using hscope
          · rintro ⟨htype, hvalue⟩
            simp [legacyScopeDecision, legacyDecision, htype, hvalue]
        rw [map_some, filter_some, filter_some]
        simp only [htarget]
        split <;> rfl
  rw [hpoint, getLast?_map]
  constructor
  · intro h
    rw [h]
    rfl
  · intro h
    obtain ⟨s', hs', hsaid⟩ := map_eq_some_iff.1 h
    obtain ⟨c, _, hc⟩ := mem_filterMap.1 (mem_of_getLast? hs')
    obtain ⟨htype, hvalue⟩ :=
      scopeKey_eq_iff.1 (of_decide_eq_true (filter_eq_some_iff.1 hc).2)
    obtain ⟨hdisposition, hreason⟩ := Prod.mk.inj hsaid
    rw [hs']
    cases s'
    cases s
    simp_all

/-! ## What the projection keeps -/

lemma activeDecision_of_legacy (hnow : hasExpired host now legacyExpiresAt = false)
    (governance : Option OverrideGovernanceConfig) (pin : Option Json) (findings : List ReviewFinding) (k : String) :
    (activeDecision host (projectionContext host governance pin findings)
        (comments.filterMap (sentinelDecision host)) now k).map said =
      (lastFor (comments.filterMap (headedDecision host)) k).map said ↔
      SameLast (comments.filterMap (sentinelDecision host)) (comments.filterMap (headedDecision host)) k := by
  have hlegacy : ∀ d ∈ comments.filterMap (sentinelDecision host), IsLegacy host d := fun d hd => isLegacy_of_mem hd
  generalize comments.filterMap (sentinelDecision host) = read at *
  generalize comments.filterMap (headedDecision host) = headed at *
  have hids : ∀ d ∈ read, d.decisionId ≠ "" := fun d hd => (hlegacy d hd).named
  have hlast : LastOnly host (projectionContext host governance pin findings) read :=
    lastOnly_of_unlinked hids fun d hd => (hlegacy d hd).unlinked
  rw [hlast.activeDecision_eq]
  unfold SameLast
  cases hread : lastFor read k with
  | none => cases lastFor headed k <;> simp
  | some d =>
    have hd : d ∈ read := mem_of_mem_filter (mem_of_getLast? hread)
    have hactive := (isActive_iff_not_isSucceeded hids (d := d)).trans
      (and_iff_left ((hlegacy d hd).validAlone hnow governance pin findings))
    by_cases hsucceeded : IsSucceeded read d.decisionId
    · have hnot : ¬IsActive host (projectionContext host governance pin findings) read now d :=
        fun h => hactive.1 h hsucceeded
      cases lastFor headed k <;> simp [filter_some, hnot, hsucceeded]
    · have hyes := hactive.2 hsucceeded
      cases lastFor headed k <;> simp [filter_some, hyes, hsucceeded, said]

lemma explanation_of_activeDecision {comments : List TrustedComment} {ctx : OverrideContext}
    {now : Int} {key : String} {d : OverrideDecision}
    (h : activeDecision host ctx (comments.filterMap (sentinelDecision host)) now ("key:" ++ key) =
      some d) : d.explanation = d.disposition := by
  obtain ⟨pre, suf, hsplit, hk, _⟩ := activeDecision_eq_some_iff.1 h
  have hmem : d ∈ comments.filterMap (sentinelDecision host) := by
    rw [hsplit]
    simp
  exact (isLegacy_of_mem hmem).explanation_eq (targetKey_injective (u := .key key) hk)

lemma explanation_of_lastFor {comments : List TrustedComment} {key : String} {d : OverrideDecision}
    (h : lastFor (comments.filterMap (headedDecision host)) ("key:" ++ key) = some d) :
    d.explanation = d.disposition := by
  obtain ⟨hk, pre, suf, hsplit⟩ := lastFor_eq_some h
  have hmem : d ∈ comments.filterMap (headedDecision host) := by
    rw [hsplit]
    simp
  exact (isLegacy_of_mem_headed hmem).explanation_eq (targetKey_injective (u := .key key) hk)

lemma said_eq_of_agrees {ctx : OverrideContext} (h : AgreesWithLegacy host comments
      (projectDecisions host ctx (comments.filterMap (sentinelDecision host)) now)) (target : OverrideTarget) :
    (activeDecision host ctx (comments.filterMap (sentinelDecision host)) now (targetKey target)).map said =
      (lastFor (comments.filterMap (headedDecision host)) (targetKey target)).map said := by
  cases target with
  | key key =>
    have hactive := fun d => @explanation_of_activeDecision host comments ctx now key d
    have hlast := fun d => @explanation_of_lastFor host comments key d
    have hsame := h.keys key
    rw [get?_overrides, get?_extractOverrides] at hsame
    unfold targetKey
    -- a key decision says one thing twice
    generalize activeDecision host ctx (comments.filterMap (sentinelDecision host)) now
      ("key:" ++ key) = active at *
    generalize lastFor (comments.filterMap (headedDecision host)) ("key:" ++ key) = last at *
    cases active with
    | none => cases last <;> simp_all
    | some d =>
      cases last with
      | none => simp_all
      | some e => simp_all [said]
  | scope t v =>
    refine Option.ext fun entry => ?_
    have hsame := h.scopes ⟨t, v, entry.1, entry.2⟩
    rw [mem_scopes, mem_extractScopedOverrides] at hsame
    rw [← hsame, map_eq_some_iff]
    simp [said, Prod.ext_iff]

lemma sameLast_self_iff {read : List OverrideDecision} {k : String} :
    SameLast read read k ↔ ∀ d, lastFor read k = some d → ¬IsSucceeded read d.decisionId := by
  unfold SameLast
  cases lastFor read k <;> simp

lemma sameLast_pair {a b : OverrideDecision} (ha : isUnlinked a = true)
    (hb : isUnlinked b = true) (htarget : a.target = b.target) (hids : a.decisionId ≠ b.decisionId)
    (k : String) : SameLast [a, b] [a, b] k := by
  have hnames : ∀ d id, isUnlinked d = true → ∀ earlier,
      Succeeds earlier d id ↔ earlier.map (·.decisionId) = some id := by
    intro d id hd earlier
    have hlinks : truthy d.supersedes = none ∧ truthy d.renewedFrom = none := by simpa [isUnlinked] using hd
    simp [Succeeds, hlinks, hd]
  have hempty : ¬IsSucceeded [] b.decisionId := by
    rintro ⟨pre, e, suf, hsplit, _⟩
    simp at hsplit
  rw [sameLast_self_iff]
  intro d hd
  by_cases hk : targetKey b.target = k
  · obtain rfl : b = d := by simpa [lastFor, htarget, hk] using hd
    have hsplit : [a, b] = ([] ++ [a]) ++ [b] := rfl
    rw [hsplit, isSucceeded_append, isSucceeded_append, hnames a _ ha, hnames b _ hb]
    simp [hempty, lastFor, htarget, hids]
  · simp [lastFor, htarget, hk] at hd

lemma decisions_of_headedKey {c : TrustedComment} {s : KeySentinel} (h : headedKeySentinel host c = some s) :
    sentinelDecision host c = some (legacyKeyDecision host c.createdAt s) ∧
      headedDecision host c = some (legacyKeyDecision host c.createdAt s) := by
  refine ⟨?_, by simp [headedDecision, h]⟩
  unfold headedKeySentinel at h
  split at h
  · next hheading => simp [sentinelDecision, isOverrideComment, hheading, legacyDecisionOf, h]
  · simp at h

/-- The projection of a history of legacy sentinels agrees with the sentinels alone exactly when
every target has the same last sentinel in both readings. -/
theorem projects_legacy_iff {comments : List TrustedComment} (hlegacy : LegacyOnly host comments)
    {now : Int} (hnow : hasExpired host now legacyExpiresAt = false) (pin : Option Json)
    (findings : List ReviewFinding) :
    (∃ projected, projectOverridesForPartition host comments none pin now findings =
        .ok projected ∧ AgreesWithLegacy host comments projected) ↔
      ∀ k, SameLast (comments.filterMap (sentinelDecision host))
        (comments.filterMap (headedDecision host)) k := by
  have hproject : projectOverridesForPartition host comments none pin now findings =
      .ok (projectDecisions host (projectionContext host none pin findings)
        (comments.filterMap (sentinelDecision host)) now) := by
    simp [projectOverridesForPartition, extractOverrideDecisions_of_legacyOnly hlegacy, bind,
      Except.bind, pure, Except.pure]
  simp only [← activeDecision_of_legacy hnow none pin findings, hproject, Except.ok.injEq, exists_eq_left']
  constructor
  · intro hagrees k
    -- a string that is the key of no target has no decision in either reading
    cases hactive : activeDecision host (projectionContext host none pin findings)
        (comments.filterMap (sentinelDecision host)) now k with
    | some d =>
      obtain rfl := activeDecision_key hactive
      rw [← hactive, said_eq_of_agrees hagrees]
    | none =>
      cases hlast : lastFor (comments.filterMap (headedDecision host)) k with
      | none => rfl
      | some d =>
        obtain rfl := (lastFor_eq_some hlast).1
        rw [← hactive, ← hlast, said_eq_of_agrees hagrees]
  · intro hsame
    refine ⟨fun key => ?_, fun s => ?_⟩
    · rw [get?_overrides, get?_extractOverrides, ← hsame, Option.map_map]
      rfl
    · rw [mem_scopes, mem_extractScopedOverrides, ← hsame]
      simp [said]

end Legacy

/-! ## A disposition revised within a second -/

/-- A legacy override of one finding key, recorded on the first day. -/
def legacyComment (disposition createdAt : String) : TrustedComment where
  body :=
    "## Pipeline: Finding override\n\n### Reason\nsee the follow-up\n\n".toList ++
    "<!-- pipeline-override: 5f3a09c1 ".toList ++ disposition.toList ++ " -->".toList
  createdAt := some createdAt

/-- The second override has the id of the first, and none is in force. -/
theorem revised_within_second_lost :
    ¬∀ (host : NodeHost) (comments : List TrustedComment), LegacyOnly host comments →
      ∀ now, hasExpired host now legacyExpiresAt = false → ∀ (pin : Option Json) (findings : List ReviewFinding),
          ∃ projected, projectOverridesForPartition host comments none pin now findings =
            .ok projected ∧ AgreesWithLegacy host comments projected := by
  intro h
  have hlegacy : LegacyOnly (.onFirstDay [] []) [legacyComment "deferred" "1970-01-01T00:00:05Z",
      legacyComment "rejected" "1970-01-01T00:00:05Z"] := by
    decide +kernel
  obtain ⟨projected, hread, hagrees⟩ := h _ _ hlegacy 0 (by decide +kernel) none []
  have hevaluated : (projectOverridesForPartition (.onFirstDay [] [])
      [legacyComment "deferred" "1970-01-01T00:00:05Z",
        legacyComment "rejected" "1970-01-01T00:00:05Z"] none none 0 []).toOption.map
      (fun projected => projected.overrides.get? "5f3a09c1") = some none := by
    decide +kernel
  obtain ⟨projected', hread', hnone⟩ := exists_ok_of_map_toOption hevaluated
  obtain rfl : projected = projected' := Except.ok.inj (hread.symm.trans hread')
  have hlast : (extractOverrides (.onFirstDay [] [])
      [legacyComment "deferred" "1970-01-01T00:00:05Z",
        legacyComment "rejected" "1970-01-01T00:00:05Z"]).get? "5f3a09c1" = some "rejected" := by
    decide +kernel
  have hsame := hagrees.keys "5f3a09c1"
  rw [hnone, hlast] at hsame
  exact absurd hsame (by decide)

/-- A second later the revision replaces the first override in both readings. -/
theorem revised_later_agrees :
    ∃ projected, projectOverridesForPartition (.onFirstDay [] [])
        [legacyComment "deferred" "1970-01-01T00:00:05Z",
          legacyComment "rejected" "1970-01-01T00:00:06Z"] none none 0 [] = .ok projected ∧
      AgreesWithLegacy (.onFirstDay [] [])
        [legacyComment "deferred" "1970-01-01T00:00:05Z",
          legacyComment "rejected" "1970-01-01T00:00:06Z"] projected := by
  have hfirst := @decisions_of_headedKey (.onFirstDay [] [])
    (legacyComment "deferred" "1970-01-01T00:00:05Z") ⟨"5f3a09c1", "deferred"⟩ (by decide +kernel)
  have hsecond := @decisions_of_headedKey (.onFirstDay [] [])
    (legacyComment "rejected" "1970-01-01T00:00:06Z") ⟨"5f3a09c1", "rejected"⟩ (by decide +kernel)
  refine (projects_legacy_iff (by decide +kernel) (by decide +kernel) none []).2 fun k => ?_
  simp only [filterMap_cons, filterMap_nil, hfirst, hsecond]
  refine sameLast_pair (unlinked_legacyKeyDecision _ _) (unlinked_legacyKeyDecision _ _) ?_ ?_ k
  · simp only [target_legacyKeyDecision]
  · decide +kernel

end AgentPipeline.Review
