import AgentPipeline.Claims.OperationClaim
import AgentPipeline.Integrity.Manifest

/-!
# Gate: which reviews the recorded transitions let stand

A completed mutation leaves a row from the old head to the new one. The gate compares each row with
the current head and with the reviewed head, and follows no chain of rows.

* `invalidationOf`: the row of a transition;
* `reviewBlockedByIntegrityInvalidation`: the row that blocks the review of a head;
* `Chain`: a candidate whose head moved through distinct SHAs, each move recorded;
* `blocks_iff`: along a chain only the first move after the review and the last move count.
-/

namespace AgentPipeline.Integrity

structure IntegrityInvalidationRecord where
  fromSha : String
  toSha : String
  mutationId : String
  classification : IntegrityClassification
  invalidatedReview : Bool
  invalidatedReadiness : Bool
  requiresFreshReview : Bool
  reason : String
  mutationMethod : MutationMethod
  recordedAt : String
deriving DecidableEq, Repr

/-- The row of a classified transition, if it invalidates anything. -/
def invalidationOf (beforeSha afterSha : Option String) (mutationId : String)
    (result : ClassificationResult) (disposition : IntegrityDisposition) (method : MutationMethod)
    (recordedAt : String) : Option IntegrityInvalidationRecord :=
  if disposition.invalidatedReview || disposition.invalidatedReadiness then
    some
      { fromSha := beforeSha.getD ""
        toSha := (afterSha.orElse fun _ => beforeSha).getD ""
        mutationId
        classification := result.classification
        invalidatedReview := disposition.invalidatedReview
        invalidatedReadiness := disposition.invalidatedReadiness
        requiresFreshReview := disposition.requiresFreshReview
        reason := disposition.invalidationReason.getD result.reason
        mutationMethod := method
        recordedAt }
  else none

/-! ## The gate -/

section Gate

variable (toLowerCase : String → String)

/-- What the loop returns at a row: the fresh review of the new head is let through first. -/
def IntegrityInvalidationRecord.blocks (r : IntegrityInvalidationRecord) (candidateSha : String)
    (reviewedSha : Option String) : Bool :=
  let head := toLowerCase candidateSha
  let reviewed := (reviewedSha.map toLowerCase).filter (· ≠ "")
  if !r.invalidatedReview && !r.requiresFreshReview then false
  else if reviewed = some head ∧ toLowerCase r.toSha = head then false
  else if toLowerCase r.toSha = head then true
  else
    reviewed = some (toLowerCase r.fromSha) && reviewed ≠ some head &&
      (r.classification = .scopeExpansion || r.classification = .unverified ||
        r.classification = .expectedScopedChange)

/-- `reviewBlockedByIntegrityInvalidation(records, candidateSha, reviewedSha)`: newest last wins. -/
def reviewBlockedByIntegrityInvalidation (records : List IntegrityInvalidationRecord)
    (candidateSha : String) (reviewedSha : Option String) : Option IntegrityInvalidationRecord :=
  records.reverse.find? (·.blocks toLowerCase candidateSha reviewedSha)

lemma reviewBlocked_isSome_iff {records : List IntegrityInvalidationRecord} {candidateSha : String}
    {reviewedSha : Option String} :
    (reviewBlockedByIntegrityInvalidation toLowerCase records candidateSha reviewedSha).isSome = true ↔
      ∃ r ∈ records, r.blocks toLowerCase candidateSha reviewedSha = true := by
  simp [reviewBlockedByIntegrityInvalidation]

end Gate

/-! ## Chains of mutations -/

/-- A mutation that completed between two heads. -/
structure Completed where
  mutationId : String
  result : ClassificationResult
  method : MutationMethod
  recordedAt : String
deriving DecidableEq, Repr

/-- The transition invalidates the review of the head before it. -/
def Completed.invalidates (m : Completed) : Bool := m.result.classification ≠ .semanticallyEquivalent

/-- The heads a candidate moved through, and the mutations that moved it. -/
structure Chain (toLowerCase : String → String) where
  length : Nat
  sha : Nat → String
  mutation : Nat → Completed
  distinct : ∀ i j, i ≤ length → j ≤ length → toLowerCase (sha i) = toLowerCase (sha j) → i = j
  nonempty : ∀ i, i ≤ length → toLowerCase (sha i) ≠ ""

namespace Chain

variable {toLowerCase : String → String} (c : Chain toLowerCase)

/-- What the mutation `i` records. -/
def row (i : Nat) : Option IntegrityInvalidationRecord :=
  let m := c.mutation i
  invalidationOf (some (c.sha i)) (some (c.sha (i + 1))) m.mutationId m.result
    (dispositionForClassification m.result.classification (c.sha i ≠ c.sha (i + 1)) m.result.reason)
    m.method m.recordedAt

/-- The rows of the chain, as they are appended. -/
def rows : List IntegrityInvalidationRecord := (List.range c.length).filterMap c.row

/-- The gate blocks the review of head `j` at the last head. -/
def Blocked (j : Nat) : Prop :=
  (reviewBlockedByIntegrityInvalidation toLowerCase c.rows (c.sha c.length)
    (some (c.sha j))).isSome = true

/-- The row of a move within the chain blocks the review of head `j` when it invalidates and is the
last move, or the move away from `j`; nothing blocks the last head itself. -/
lemma row_blocks_iff {i j : Nat} (hi : i < c.length) (hj : j ≤ c.length) :
    (∃ r, c.row i = some r ∧ r.blocks toLowerCase (c.sha c.length) (some (c.sha j)) = true) ↔
      (c.mutation i).invalidates = true ∧ j ≠ c.length ∧ (i + 1 = c.length ∨ i = j) := by
  have hhead : ∀ k, k ≤ c.length → (toLowerCase (c.sha k) = toLowerCase (c.sha c.length) ↔ k = c.length) := fun k hk =>
    ⟨c.distinct k c.length hk le_rfl, fun h => by rw [h]⟩
  have hfrom : toLowerCase (c.sha j) = toLowerCase (c.sha i) ↔ i = j :=
    ⟨fun h => (c.distinct j i hj hi.le h).symm, fun h => by rw [h]⟩
  have hreviewed : (some (toLowerCase (c.sha j))).filter (fun x => decide (x ≠ "")) =
      some (toLowerCase (c.sha j)) := by
    simp [c.nonempty j hj]
  cases hclass : (c.mutation i).result.classification with
  | semanticallyEquivalent =>
    have hinv : (c.mutation i).invalidates = false := by simp [Completed.invalidates, hclass]
    -- the row of an equivalent move says so and is passed over
    have hrow : ∀ r, c.row i = some r → r.invalidatedReview = false ∧ r.requiresFreshReview = false := by
      intro r hr
      simp only [row, invalidationOf, hclass, dispositionForClassification] at hr
      split at hr
      · cases hr
        exact ⟨rfl, rfl⟩
      · cases hr
    rw [hinv]
    constructor
    · rintro ⟨r, hr, hblocks⟩
      obtain ⟨hreview, hfresh⟩ := hrow r hr
      simp [IntegrityInvalidationRecord.blocks, hreview, hfresh] at hblocks
    · rintro ⟨h, -⟩
      cases h
  | expectedScopedChange | scopeExpansion | unverified =>
    have hinv : (c.mutation i).invalidates = true := by simp [Completed.invalidates, hclass]
    simp only [row, invalidationOf, hclass, dispositionForClassification, invalidating,
      Bool.or_self, if_true, Option.some.injEq, exists_eq_left', hinv, true_and,
      IntegrityInvalidationRecord.blocks, Option.map_some, hreviewed, Bool.not_true,
      Bool.and_self, Bool.false_eq_true, if_false, Option.getD_some, Option.orElse_some, hhead j hj, hhead (i + 1) hi]
    by_cases hlast : j = c.length
    · by_cases hmove : i + 1 = c.length <;> simp [hlast, hmove]
    · by_cases hmove : i + 1 = c.length
      · simp [hlast, hmove]
      · simp [hlast, hmove, hfrom, hhead j hj]

lemma blocked_iff {j : Nat} (hj : j ≤ c.length) : c.Blocked j ↔ j < c.length ∧
      ((c.mutation (c.length - 1)).invalidates = true ∨ (c.mutation j).invalidates = true) := by
  have hmem : c.Blocked j ↔ ∃ i, i < c.length ∧
      ∃ r, c.row i = some r ∧ r.blocks toLowerCase (c.sha c.length) (some (c.sha j)) = true := by
    rw [Blocked, reviewBlocked_isSome_iff]
    simp only [rows, List.mem_filterMap, List.mem_range]
    constructor
    · rintro ⟨r, ⟨i, hi, hr⟩, hblocks⟩
      exact ⟨i, hi, r, hr, hblocks⟩
    · rintro ⟨i, hi, r, hr, hblocks⟩
      exact ⟨r, ⟨i, hi, hr⟩, hblocks⟩
  rw [hmem]
  constructor
  · rintro ⟨i, hi, hrow⟩
    obtain ⟨hinv, hne, hlast | rfl⟩ := (c.row_blocks_iff hi hj).1 hrow
    · have hindex : c.length - 1 = i := by omega
      exact ⟨by omega, .inl (by rw [hindex]; exact hinv)⟩
    · exact ⟨hi, .inr hinv⟩
  · rintro ⟨hlt, hlast | hown⟩
    · exact ⟨c.length - 1, by omega, (c.row_blocks_iff (by omega) hj).2
        ⟨hlast, by omega, .inl (by omega)⟩⟩
    · exact ⟨j, hlt, (c.row_blocks_iff hlt hj).2 ⟨hown, by omega, .inr rfl⟩⟩

/-- A review from before an invalidating move is blocked at the last head, and the review of the last
head is not. -/
structure Transitive : Prop where
  earlier : ∀ i j, i < c.length → j ≤ i → (c.mutation i).invalidates = true → c.Blocked j
  current : ¬c.Blocked c.length

/-- The gate follows the chain exactly when the last move invalidates or the invalidating moves come
before all the others. -/
theorem transitive_iff :
    c.Transitive ↔ (0 < c.length ∧ (c.mutation (c.length - 1)).invalidates = true) ∨
        ∀ i j, i < c.length → j ≤ i → (c.mutation i).invalidates = true → (c.mutation j).invalidates = true := by
  constructor
  · intro h
    by_cases hlast : (c.mutation (c.length - 1)).invalidates = true
    · rcases Nat.eq_zero_or_pos c.length with hzero | hpos
      · exact .inr fun i j hi => by omega
      · exact .inl ⟨hpos, hlast⟩
    · refine .inr fun i j hi hj hinv => ?_
      obtain ⟨-, hblocked⟩ := (c.blocked_iff (by omega)).1 (h.earlier i j hi hj hinv)
      exact hblocked.resolve_left hlast
  · intro h
    refine ⟨fun i j hi hj hinv => ?_, fun hblocked => ?_⟩
    · refine (c.blocked_iff (by omega)).2 ⟨by omega, ?_⟩
      rcases h with ⟨-, hlast⟩ | hinitial
      · exact .inl hlast
      · exact .inr (hinitial i j hi hj hinv)
    · exact absurd ((c.blocked_iff le_rfl).1 hblocked).1 (by omega)

/-- Three moves, of which the middle one goes beyond its scope. -/
def equivalentAround : Chain Claims.asciiLower where
  length := 3
  sha i := ["a0", "b1", "c2", "d3"].getD i ""
  mutation i :=
    { mutationId := "m"
      result := { classification := if i = 1 then .scopeExpansion else .semanticallyEquivalent
                  reason := "" }
      method := .conflictRepair
      recordedAt := "2026-01-01T00:00:00.000Z" }
  distinct i j hi hj :=
    (by decide +kernel : ∀ i ≤ 3, ∀ j ≤ 3, Claims.asciiLower (["a0", "b1", "c2", "d3"].getD i "") =
      Claims.asciiLower (["a0", "b1", "c2", "d3"].getD j "") → i = j) i hi j hj
  nonempty := by decide +kernel

/-- The review of the first head stands although the second move invalidated it. -/
theorem review_survives_expansion :
    ¬∀ (toLowerCase : String → String) (c : Chain toLowerCase), c.Transitive := by
  intro h
  have hblocked := (h _ equivalentAround).earlier 1 0 (by decide) (by decide) (by decide)
  exact absurd hblocked (by unfold Blocked; decide +kernel)

end Chain

end AgentPipeline.Integrity
