import AgentPipeline.Review.OverrideGovernance

/-!
# OverrideTargets: later decisions and other targets

The decisions are recorded one by one. The laws of the list, at every moment of it
(`TargetLaws`): a decision for one target does not change which decision is in force for another,
and a decision that was followed by one for the same target is never in force again.

Links are by id alone, so a decision can name one of another target, one that names anything else
than its predecessor leaves that predecessor without a successor, and one without an id clears the
link that it writes over. `keepsTargets_iff` says which lists obey the laws, by what each decision
does when it is recorded (`KeepsTargets`).
-/

namespace AgentPipeline.Review

open List

section Targets

variable (host : NodeHost) (ctx : OverrideContext)

/-- The laws of a list, at every moment of it. -/
structure TargetLaws (decisions : List OverrideDecision) : Prop where
  /-- A decision leaves the other targets as they are. -/
  isolated : ∀ pre d suf, decisions = pre ++ d :: suf → ∀ now k, k ≠ targetKey d.target →
    activeDecision host ctx (pre ++ [d]) now k = activeDecision host ctx pre now k
  /-- Once a later decision for the target was in force, an earlier one is never again. -/
  neverResurrected : ∀ moment moment', moment <+: moment' → moment' <+: decisions →
    ∀ t₁ t₂, t₁ ≤ t₂ → ∀ pre earlier mid later suf, moment = pre ++ earlier :: mid ++ later :: suf →
        targetKey earlier.target = targetKey later.target → IsActive host ctx moment t₁ later →
          ¬IsActive host ctx moment' t₂ earlier
  /-- Only the last decision for a target is ever active. -/
  lastOnly : ∀ moment, moment <+: decisions → ∀ now pre d suf, moment = pre ++ d :: suf →
    IsActive host ctx moment now d → ∀ e ∈ suf, targetKey e.target ≠ targetKey d.target

/-- A decision that is in force at some time, if nothing succeeds it. -/
def EverValid (d : OverrideDecision) : Prop :=
  ∃ now, ValidAlone host ctx now d

/-- What a decision does to those before it when it is recorded. -/
structure KeepsTargets (pre : List OverrideDecision) (d : OverrideDecision) : Prop where
  /-- What has a successor keeps one. -/
  keeps : ∀ p ∈ pre, EverValid host ctx p → HasStanding pre p.decisionId → HasStanding (pre ++ [d]) p.decisionId
  /-- The last decision for its target has a successor. -/
  succeedsOwn : ∀ p, lastFor pre (targetKey d.target) = some p → EverValid host ctx p →
    HasStanding (pre ++ [d]) p.decisionId
  /-- The last decision for another target gets none. -/
  sparesOthers : ∀ k p, k ≠ targetKey d.target → lastFor pre k = some p → EverValid host ctx p →
    HasStanding (pre ++ [d]) p.decisionId → HasStanding pre p.decisionId

end Targets

/-! ## The decision in force -/

variable {pre decisions : List OverrideDecision} {d : OverrideDecision} {k : String}

section InForce

lemma lastFor_eq_some_of_append {suf : List OverrideDecision}
    (hsuf : ∀ e ∈ suf, targetKey e.target ≠ targetKey d.target) :
    lastFor (pre ++ d :: suf) (targetKey d.target) = some d := by
  have hnone : (suf.filter fun e => targetKey e.target = targetKey d.target) = [] := by simpa using hsuf
  simp [lastFor, hnone]

lemma lastFor_eq_some (h : lastFor decisions k = some d) :
    targetKey d.target = k ∧ ∃ pre suf, decisions = pre ++ d :: suf := by
  have hmem := mem_of_getLast? h
  rw [mem_filter] at hmem
  exact ⟨by simpa using hmem.2, append_of_mem hmem.1⟩

lemma lastFor_append_of_ne (hk : k ≠ targetKey d.target) : lastFor (pre ++ [d]) k = lastFor pre k := by
  simp [lastFor, Ne.symm hk]

variable {host : NodeHost} {ctx : OverrideContext}

/-- Only the last decision for a target is active in this list. -/
def LastOnly (host : NodeHost) (ctx : OverrideContext) (decisions : List OverrideDecision) : Prop :=
  ∀ now pre d suf, decisions = pre ++ d :: suf → IsActive host ctx decisions now d →
    ∀ e ∈ suf, targetKey e.target ≠ targetKey d.target

lemma LastOnly.activeDecision_eq
    (h : LastOnly host ctx decisions) (now : Int) (k : String) :
    activeDecision host ctx decisions now k =
      (lastFor decisions k).filter fun d => IsActive host ctx decisions now d := by
  rw [Review.activeDecision_eq, lastFor]
  rcases eq_nil_or_concat (decisions.filter fun d => targetKey d.target = k) with hnil | ⟨init, p, hsplit⟩
  · simp [hnil]
  · -- those before the last one are not active
    have hinit : (init.filter fun d => IsActive host ctx decisions now d) = [] := by
      refine filter_eq_nil_iff.2 fun e he hactive => ?_
      obtain ⟨u, v, rfl⟩ := append_of_mem he
      have hplace : (decisions.filter fun d => targetKey d.target = k) = u ++ e :: (v ++ [p]) := by
        simpa using hsplit
      obtain ⟨pre, suf, rfl, hpre, hek⟩ := filter_eq_append_cons hplace
      have hp : p ∈ suf.filter fun d => targetKey d.target = k := by
        have hrest : (suf.filter fun d => targetKey d.target = k) = v ++ [p] := by
          have hek' : targetKey e.target = k := by simpa using hek
          simpa [hpre, hek'] using hplace
        simp [hrest]
      rw [mem_filter] at hp
      have hne := h now pre e suf rfl (by simpa using hactive) p hp.1
      exact hne (by simp_all)
    rw [hsplit]
    by_cases hactive : IsActive host ctx decisions now p <;>
      simp [hinit, hactive, Option.filter]

lemma isActive_iff_not_hasStanding {now : Int} : IsActive host ctx decisions now d ↔
      ¬HasStanding decisions d.decisionId ∧ ValidAlone host ctx now d := by
  rw [isActive_iff, hasSuccessor_iff_hasStanding]

lemma isActive_iff_not_isSucceeded {now : Int} (hids : ∀ e ∈ decisions, e.decisionId ≠ "") :
    IsActive host ctx decisions now d ↔ ¬IsSucceeded decisions d.decisionId ∧ ValidAlone host ctx now d := by
  rw [isActive_iff, hasSuccessor_iff hids]

end InForce

/-! ## The laws, decision by decision -/

section Laws

variable {host : NodeHost} {ctx : OverrideContext}

lemma KeepsTargets.lastOnly (hkeeps : KeepsTargets host ctx pre d)
    (hpre : LastOnly host ctx pre) : LastOnly host ctx (pre ++ [d]) := by
  intro now a p b hsplit hactive
  obtain ⟨hnot, hvalid⟩ := isActive_iff_not_hasStanding.1 hactive
  rcases eq_nil_or_concat b with rfl | ⟨b, x, rfl⟩
  · simp
  · have hsplit' : pre ++ [d] = (a ++ p :: b) ++ [x] := by simpa using hsplit
    obtain ⟨rfl, hx⟩ := append_inj' hsplit' rfl
    obtain rfl : d = x := by simpa using hx
    have hnotPre : ¬HasStanding (a ++ p :: b) p.decisionId := fun h =>
      hnot (hkeeps.keeps p (by simp) ⟨now, hvalid⟩ h)
    have hearlier := hpre now a p b rfl (isActive_iff_not_hasStanding.2 ⟨hnotPre, hvalid⟩)
    intro e he
    rcases (by simpa using he : e ∈ b ∨ e = d) with he | he
    · exact hearlier e he
    · obtain rfl : e = d := he
      -- the decision would be the successor of the last one for its target
      intro hsame
      have hlast : lastFor (a ++ p :: b) (targetKey e.target) = some p := by
        rw [hsame]
        exact lastFor_eq_some_of_append hearlier
      exact hnot (hkeeps.succeedsOwn p hlast ⟨now, hvalid⟩)

lemma KeepsTargets.isolated (hkeeps : KeepsTargets host ctx pre d)
    (hpre : LastOnly host ctx pre) (now : Int) (hk : k ≠ targetKey d.target) :
    activeDecision host ctx (pre ++ [d]) now k = activeDecision host ctx pre now k := by
  rw [(hkeeps.lastOnly hpre).activeDecision_eq, hpre.activeDecision_eq, lastFor_append_of_ne hk]
  cases hlast : lastFor pre k with
  | none => rfl
  | some p =>
    have hmem : p ∈ pre := by
      obtain ⟨-, a, b, rfl⟩ := lastFor_eq_some hlast
      simp
    have hsame : IsActive host ctx (pre ++ [d]) now p ↔ IsActive host ctx pre now p := by
      rw [isActive_iff_not_hasStanding, isActive_iff_not_hasStanding]
      refine and_congr_left fun hvalid => not_congr ⟨?_, ?_⟩
      · exact hkeeps.sparesOthers k p hk hlast ⟨now, hvalid⟩
      · exact hkeeps.keeps p hmem ⟨now, hvalid⟩
    simp only [Option.filter, hsame]

lemma lastOnly_of_keeps (hkeeps : ∀ pre d suf, decisions = pre ++ d :: suf → KeepsTargets host ctx pre d) :
    LastOnly host ctx decisions := by
  induction decisions using List.reverseRec with
  | nil => intro now pre d suf hsplit; simp at hsplit
  | append_singleton pre d ih =>
    refine (hkeeps pre d [] rfl).lastOnly (ih ?_)
    rintro a e b rfl
    exact hkeeps a e (b ++ [d]) (by simp)

lemma lastOnly_of_unlinked
    (hids : ∀ d ∈ decisions, d.decisionId ≠ "") (hunlinked : ∀ d ∈ decisions, isUnlinked d = true) :
    LastOnly host ctx decisions := by
  rintro now pre d suf rfl hactive e he hsame
  -- the first decision after it for the same target is its successor
  obtain ⟨next, hnext⟩ := Option.isSome_iff_exists.1
    (find?_isSome.2 ⟨e, he, decide_eq_true hsame⟩ :
      (suf.find? fun e => targetKey e.target = targetKey d.target).isSome = true)
  obtain ⟨hkey, mid, rest, rfl, hmid⟩ := find?_eq_some_iff_append.1 hnext
  have hlast : lastFor (pre ++ d :: mid) (targetKey next.target) = some d := by
    rw [of_decide_eq_true hkey]
    exact lastFor_eq_some_of_append fun e he => by simpa using hmid e he
  have hsucceeded : IsSucceeded (pre ++ d :: (mid ++ next :: rest)) d.decisionId := by
    refine ⟨pre ++ d :: mid, next, rest, by simp, .inr (.inr ⟨hunlinked next (by simp), ?_⟩)⟩
    rw [hlast]
    rfl
  exact ((isActive_iff_not_isSucceeded hids).1 hactive).1 hsucceeded

/-- The laws hold of a list exactly when each of its decisions keeps the targets. -/
theorem keepsTargets_iff (host : NodeHost) (ctx : OverrideContext)
    (decisions : List OverrideDecision) :
    (∀ pre d suf, decisions = pre ++ d :: suf → KeepsTargets host ctx pre d) ↔ TargetLaws host ctx decisions := by
  constructor
  · intro hkeeps
    have hmoment : ∀ moment, moment <+: decisions → LastOnly host ctx moment := by
      rintro moment ⟨rest, rfl⟩
      refine lastOnly_of_keeps ?_
      rintro pre d suf rfl
      exact hkeeps pre d (suf ++ rest) (by simp)
    refine ⟨?_, ?_, hmoment⟩
    · rintro pre d suf rfl now k hk
      exact (hkeeps pre d suf rfl).isolated (hmoment pre ⟨d :: suf, rfl⟩) now hk
    · rintro moment moment' ⟨rest, rfl⟩ hprefix t₁ t₂ _ pre earlier mid later suf rfl hsame _ hagain
      -- the later decision stands behind the earlier one at every later moment
      refine hmoment _ hprefix t₂ pre earlier (mid ++ later :: suf ++ rest) (by simp) hagain later
        (by simp) hsame.symm
  · rintro hlaws pre d suf rfl
    have hpreLast : LastOnly host ctx pre := hlaws.lastOnly pre ⟨d :: suf, rfl⟩
    have hlast : LastOnly host ctx (pre ++ [d]) := hlaws.lastOnly _ ⟨suf, by simp⟩
    -- in force for another target before the decision exactly when after it
    have hsame : ∀ now k p, k ≠ targetKey d.target → lastFor pre k = some p →
        (IsActive host ctx (pre ++ [d]) now p ↔ IsActive host ctx pre now p) := by
      intro now k p hk hp
      have hisolated := hlaws.isolated pre d suf rfl now k hk
      rw [hlast.activeDecision_eq, hpreLast.activeDecision_eq, lastFor_append_of_ne hk, hp] at hisolated
      by_cases hafter : IsActive host ctx (pre ++ [d]) now p <;>
        by_cases hbefore : IsActive host ctx pre now p <;> simp_all [Option.filter]
    refine ⟨?_, ?_, ?_⟩
    · rintro p hp ⟨now, hvalid⟩ hstanding
      by_contra hnot
      obtain ⟨a, b, rfl⟩ := append_of_mem hp
      -- freed of its successor, it would be active again
      have hactive := isActive_iff_not_hasStanding.2 ⟨hnot, hvalid⟩
      have halone := hlast now a p (b ++ [d]) (by simp) hactive
      have hpLast : lastFor (a ++ p :: b) (targetKey p.target) = some p :=
        lastFor_eq_some_of_append fun e he => halone e (by simp [he])
      have hother : targetKey p.target ≠ targetKey d.target := (halone d (by simp)).symm
      exact (isActive_iff_not_hasStanding.1 ((hsame now _ p hother hpLast).1 hactive)).1 hstanding
    · rintro p hp ⟨now, hvalid⟩
      obtain ⟨hkey, a, b, rfl⟩ := lastFor_eq_some hp
      by_contra hnot
      -- unsucceeded, it would still be active behind the new decision
      exact hlast now a p (b ++ [d]) (by simp) (isActive_iff_not_hasStanding.2 ⟨hnot, hvalid⟩) d (by simp) hkey.symm
    · rintro k p hk hp ⟨now, hvalid⟩ hstanding
      by_contra hnot
      have hactive := (hsame now k p hk hp).2 (isActive_iff_not_hasStanding.2 ⟨hnot, hvalid⟩)
      exact (isActive_iff_not_hasStanding.1 hactive).1 hstanding

end Laws

/-! ## What is not active stays so -/

section Antitone

variable {host : NodeHost} {ctx : OverrideContext} {appended : List OverrideDecision} {now later : Int}

lemma IsSucceeded.append {id : String} (h : IsSucceeded decisions id) : IsSucceeded (decisions ++ appended) id := by
  obtain ⟨pre, e, suf, rfl, hsucceeds⟩ := h
  exact ⟨pre, e, suf ++ appended, by simp, hsucceeds⟩

lemma ValidAlone.antitone (htime : now ≤ later) (h : ValidAlone host ctx later d) : ValidAlone host ctx now d := by
  unfold ValidAlone evaluateOverrideValidity at *
  cases hlater : hasExpired host later d.expiresAt with
  | true =>
    simp only [hlater, if_true] at h
    split_ifs at h
  | false =>
    have hnow : hasExpired host now d.expiresAt = false := by
      unfold hasExpired at *
      cases hdate : host.dateParse d.expiresAt with
      | none => rfl
      | some t => simpa using htime.trans_lt (by simpa [hdate] using hlater)
    simpa only [hlater, hnow] using h

/-- What is active was so at every moment before: a decision that is not active is never active again. -/
theorem isActive_antitone (hids : ∀ e ∈ decisions ++ appended, e.decisionId ≠ "") (htime : now ≤ later)
    (h : IsActive host ctx (decisions ++ appended) later d) : IsActive host ctx decisions now d := by
  obtain ⟨hsucceeded, hvalid⟩ := (isActive_iff_not_isSucceeded hids).1 h
  exact (isActive_iff_not_isSucceeded fun e he => hids e (mem_append_left _ he)).2
    ⟨fun hbefore => hsucceeded hbefore.append, hvalid.antitone htime⟩

end Antitone

/-! ## Two renewals of one decision -/

/-- An override of one finding key, recorded on the first day. -/
def recordedOverride (decisionId createdAt expiresAt : String) (renewedFrom : Option String)
    (renewalKind : Option RenewalKind) : OverrideDecision where
  decisionId := decisionId
  classId := implicitLowRiskClass
  disposition := "deferred"
  target := .key "5f3a09c1"
  explanation := "deferred to the follow-up"
  actor := "octo"
  identitySource := "actor"
  authorization := ⟨true, some "actors", "allowed", "actor"⟩
  findingFingerprint := none
  codeRegion := none
  createdAt := createdAt
  expiresAt := expiresAt
  renewedFrom := renewedFrom
  renewalKind := renewalKind

/-- A decision, its renewal, and a shorter renewal of the same decision. -/
def renewedTwice : List OverrideDecision :=
  [recordedOverride "d-1" "1970-01-01T00:00:00Z" "1970-01-01T05:00:00Z" none none,
    recordedOverride "d-2" "1970-01-01T01:00:00Z" "1970-01-01T20:00:00Z" (some "d-1") (some .lite),
    recordedOverride "d-3" "1970-01-01T02:00:00Z" "1970-01-01T10:00:00Z" (some "d-1")
      (some .human)]

theorem isActive_antitone_renewed : IsActive (.onFirstDay [] []) { governance := implicitOverrideGovernance }
    (renewedTwice.take 2) (2 * 3600000) renewedTwice[1] :=
  @isActive_antitone _ _ _ _ (renewedTwice.drop 2) _ (3 * 3600000) (by decide +kernel) (by decide) (by decide +kernel)

/-- The first renewal is in force again when the second has expired. -/
theorem renewal_resurrected :
    ¬∀ (host : NodeHost) (ctx : OverrideContext) (decisions : List OverrideDecision),
      TargetLaws host ctx decisions := by
  intro h
  have hlaws := h (.onFirstDay [] []) { governance := implicitOverrideGovernance } renewedTwice
  exact hlaws.neverResurrected renewedTwice renewedTwice (prefix_refl _) (prefix_refl _)
    (3 * 3600000) (11 * 3600000) (by decide)
    [recordedOverride "d-1" "1970-01-01T00:00:00Z" "1970-01-01T05:00:00Z" none none]
    (recordedOverride "d-2" "1970-01-01T01:00:00Z" "1970-01-01T20:00:00Z" (some "d-1") (some .lite))
    []
    (recordedOverride "d-3" "1970-01-01T02:00:00Z" "1970-01-01T10:00:00Z" (some "d-1")
      (some .human))
    [] rfl rfl (by decide +kernel) (by decide +kernel)

end AgentPipeline.Review
