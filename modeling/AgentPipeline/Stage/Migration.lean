import AgentPipeline.Stage.ProjectionLaws

/-!
# Migration: the heads of a legacy file, and the ledgers that are built from them

* `Marked`: the legacy file names a head for a class, in its list or in its scalar;
* `Filed`: the rows of a migration: one for each identity, in the order of the file;
* `reported_migrated`: a migration reports one spelling of each head of the file;
* `Built`: ledgers of migrations, synchronizations and claims that are bound to their head alone;
* `hasAttempted_built`: in such a ledger a head counts exactly when a spelling of it is reported.
-/

namespace AgentPipeline.Stage

open List
open JsText (trim)

/-! ## The markers of a legacy file -/

/-- `markers.ci…AttemptedShas`. -/
def CiClass.listKey : CiClass → String
  | .rebase => "ciRebaseAttemptedShas"
  | .rerun => "ciRerunAttemptedShas"
  | .archiveFail => "ciArchiveFailRecoveryAttemptedShas"
  | .assertionFix => "ciAssertionFixAttemptedShas"
  | .docsStaleHeal => "ciDocsStaleHealAttemptedShas"

/-- `markers.ci…AttemptedForSha`: the class of the docs has none. -/
def CiClass.scalarKey : CiClass → Option String
  | .rebase => some "ciRebaseAttemptedForSha"
  | .rerun => some "ciRerunAttemptedForSha"
  | .archiveFail => some "ciArchiveFailRecoveryAttemptedForSha"
  | .assertionFix => some "ciAssertionFixAttemptedForSha"
  | .docsStaleHeal => none

/-- The lists of the markers are lists, where they are there. -/
structure MarkerLists (markers : Json) : Prop where
  attempted : ∀ (c : CiClass) value, markers.get? c.listKey = some value → ∃ elems, value = .arr elems
  terminal : ∀ value, markers.get? "ciTerminalFailRecordedShas" = some value → ∃ elems, value = .arr elems

/-- The file names the head for the class. -/
def Marked (markers : Json) (c : CiClass) (sha : String) : Prop :=
  sha ≠ "" ∧ ((∃ elems, markers.get? c.listKey = some (.arr elems) ∧ Json.str sha ∈ elems) ∨
    ∃ key, c.scalarKey = some key ∧ markers.get? key = some (.str sha))

lemma mem_nonEmptyTexts {elems : List Json} {text : String} :
    text ∈ nonEmptyTexts elems ↔ text ≠ "" ∧ Json.str text ∈ elems := by
  simp only [nonEmptyTexts, mem_filter, mem_filterMap, decide_eq_true_eq]
  constructor
  · rintro ⟨⟨elem, helem, htext⟩, hne⟩
    cases elem <;> simp only [Json.text?, reduceCtorEq] at htext
    cases htext
    exact ⟨hne, helem⟩
  · rintro ⟨hne, helem⟩
    exact ⟨⟨_, helem, rfl⟩, hne⟩

variable {set : Option Json}

lemma asShaList_of_list (scalar : Option Json) (h : ∀ value, set = some value → ∃ elems, value = .arr elems) :
    ∃ shas, asShaList set scalar = some shas ∧ ∀ sha, sha ∈ shas ↔
      sha ≠ "" ∧ ((∃ elems, set = some (.arr elems) ∧ Json.str sha ∈ elems) ∨ scalar = some (.str sha)) := by
  have hscalar : ∀ sha, Json.str sha ∈ scalar.toList ↔ scalar = some (.str sha) := by
    intro sha
    rw [Option.mem_toList]
  cases set with
  | none =>
    refine ⟨_, rfl, fun sha => ?_⟩
    simp [mem_distinct, mem_nonEmptyTexts]
  | some value =>
    obtain ⟨elems, rfl⟩ := h value rfl
    refine ⟨_, rfl, fun sha => ?_⟩
    rw [mem_distinct, mem_append, mem_nonEmptyTexts, mem_nonEmptyTexts, hscalar, ← and_or_left]
    refine and_congr_right fun _ => or_congr_left ⟨fun hmem => ⟨elems, rfl, hmem⟩, ?_⟩
    rintro ⟨elems', heq, hmem⟩
    cases heq
    exact hmem

/-- The scalar of a class. -/
def CiClass.scalar (c : CiClass) (markers : Json) : Option Json := c.scalarKey.bind markers.get?

variable {markers : Json} {c : CiClass} {sha : String}

lemma marked_iff : Marked markers c sha ↔
    sha ≠ "" ∧ ((∃ elems, markers.get? c.listKey = some (.arr elems) ∧ Json.str sha ∈ elems) ∨
      c.scalar markers = some (.str sha)) := by
  simp [Marked, CiClass.scalar, Option.bind_eq_some_iff]

/-! ## The rows of a migration -/

variable {ledger : StageAttemptLedger}

section Rows

variable {host : NodeHost} (host) in
/-- The rows of the pairs that were pushed: one row for each identity. -/
structure Filed (pairs : List (StageAction × String)) (rows : List AttemptRow) : Prop where
  row : ∀ row ∈ rows, ∃ pair ∈ pairs, UnboundRow host pair.2 pair.1 row
  pair : ∀ pair ∈ pairs, ∃ row ∈ rows, row.attemptId = some (headId host pair.2 pair.1)
  once : (rows.map AttemptRow.attemptId).Nodup

lemma Filed.nil : Filed host [] [] where
  row := fun _ h => by cases h
  pair := fun _ h => by cases h
  once := nodup_nil

variable {pairs : List (StageAction × String)} {rows : List AttemptRow}

lemma Filed.push (h : Filed host pairs rows) (nowIso : String) (action : StageAction) (hne : sha ≠ "") :
    Filed host (pairs ++ [(action, sha)]) (pushLegacy host nowIso action rows sha) := by
  have hnew := @unboundRow_legacyRow host _ hne action nowIso rows.length
  have hold : ∀ row ∈ rows, ∃ pair ∈ pairs ++ [(action, sha)], UnboundRow host pair.2 pair.1 row := by
    intro row hrow
    obtain ⟨pair, hpair, hunbound⟩ := h.row row hrow
    exact ⟨pair, mem_append_left _ hpair, hunbound⟩
  simp only [pushLegacy]
  split
  · next hany =>
    obtain ⟨row, hrow, hid⟩ := any_eq_true.1 hany
    refine ⟨hold, fun pair hpair => ?_, h.once⟩
    rcases mem_append.1 hpair with hpair | hpair
    · exact h.pair pair hpair
    · rw [mem_singleton.1 hpair]
      exact ⟨row, hrow, (of_decide_eq_true hid).trans hnew.id⟩
  · next hany =>
    refine ⟨fun row hrow => ?_, fun pair hpair => ?_, ?_⟩
    · rcases mem_append.1 hrow with hrow | hrow
      · exact hold row hrow
      · rw [mem_singleton.1 hrow]
        exact ⟨(action, sha), by simp, hnew⟩
    · rcases mem_append.1 hpair with hpair | hpair
      · obtain ⟨row, hrow, hid⟩ := h.pair pair hpair
        exact ⟨row, mem_append_left _ hrow, hid⟩
      · rw [mem_singleton.1 hpair]
        exact ⟨_, mem_append_right _ (mem_singleton_self _), hnew.id⟩
    · rw [map_append, nodup_append]
      refine ⟨h.once, by simp, fun id hid id' hid' heq => hany ?_⟩
      obtain ⟨row, hrow, rfl⟩ := mem_map.1 hid
      simp only [map_cons, map_nil, mem_singleton] at hid'
      exact any_eq_true.2 ⟨row, hrow, decide_eq_true (heq.trans hid')⟩

lemma Filed.foldl {done : List (StageAction × String)}
    (h : Filed host done rows) (nowIso : String) (hne : ∀ pair ∈ pairs, pair.2 ≠ "") :
    Filed host (done ++ pairs)
      (pairs.foldl (fun rows pair => pushLegacy host nowIso pair.1 rows pair.2) rows) := by
  induction pairs generalizing done rows with
  | nil => simpa using h
  | cons pair pairs ih =>
    have hrest := ih (h.push nowIso pair.1 (hne pair (by simp))) fun p hp => hne p (by simp [hp])
    simpa using hrest

/-- The pairs of an action and a head that a migration pushes. -/
def pushes (sets : List (StageAction × List String)) : List (StageAction × String) :=
  sets.flatMap fun set => set.2.map fun sha => (set.1, sha)

lemma filed_sets (nowIso : String) {sets : List (StageAction × List String)}
    (hne : ∀ set ∈ sets, ∀ sha ∈ set.2, sha ≠ "") :
    Filed host (pushes sets)
      (sets.foldl (fun rows set => set.2.foldl (pushLegacy host nowIso set.1) rows) []) := by
  have hpairs : ∀ pair ∈ pushes sets, pair.2 ≠ "" := by
    intro pair hpair
    obtain ⟨set, hset, hmem⟩ := mem_flatMap.1 hpair
    obtain ⟨sha, hsha, rfl⟩ := mem_map.1 hmem
    exact hne set hset sha hsha
  have hfiled := (Filed.nil : Filed host [] []).foldl nowIso hpairs
  rw [nil_append, pushes, foldl_flatMap] at hfiled
  simp only [foldl_map] at hfiled
  exact hfiled

/-! ## Migration -/

/-- The heads of a class that a ledger reports are spellings of the heads of the file, one of each. -/
structure Reports (host : NodeHost) (markers : Json) (ledger : StageAttemptLedger) (c : CiClass) :
    Prop where
  marked : ∀ sha ∈ (projectCiRecoveryFromLedger host ledger).shas c, Marked markers c sha
  covers : ∀ sha, Marked markers c sha →
    ∃ sha' ∈ (projectCiRecoveryFromLedger host ledger).shas c, headForm host sha' = headForm host sha
  once : ∀ sha ∈ (projectCiRecoveryFromLedger host ledger).shas c,
    ∀ sha' ∈ (projectCiRecoveryFromLedger host ledger).shas c, headForm host sha = headForm host sha' → sha = sha'

lemma eq_of_attemptId (h : (rows.map AttemptRow.attemptId).Nodup)
    {row row' : AttemptRow} (hrow : row ∈ rows) (hrow' : row' ∈ rows)
    (heq : row.attemptId = row'.attemptId) : row = row' := inj_on_of_nodup_map h hrow hrow' heq

lemma reports_of_filed (hfiled : Filed host pairs ledger.attempts)
    (hpairs : ∀ (c : CiClass) sha, (c.action, sha) ∈ pairs ↔ Marked markers c sha)
    (hactions : ∀ pair ∈ pairs, ∃ c : CiClass, pair.1 = c.action)
    (hdigests : DigestsApart host fun sha action => ∃ c : CiClass, c.action = action ∧ Marked markers c sha)
    (c : CiClass) : Reports host markers ledger c where
  marked := by
    intro sha hsha
    rw [shas_project, mem_attemptedShasForAction] at hsha
    obtain ⟨row, hrow, hcounts⟩ := hsha
    obtain ⟨⟨action, sha'⟩, hpair, hunbound⟩ := hfiled.row row hrow
    obtain ⟨haction, rfl⟩ := hunbound.counts.unique hcounts
    rw [← hpairs, ← haction]
    exact hpair
  covers := by
    intro sha hsha
    obtain ⟨row, hrow, hid⟩ := hfiled.pair _ ((hpairs c sha).2 hsha)
    obtain ⟨⟨action, sha'⟩, hpair, hunbound⟩ := hfiled.row row hrow
    obtain ⟨c', rfl⟩ := hactions _ hpair
    have hids : headId host sha' c'.action = headId host sha c.action := Option.some.inj (hunbound.id.symm.trans hid)
    obtain ⟨hforms, haction⟩ := hdigests.eq host ⟨c', rfl, (hpairs c' sha').1 hpair⟩ ⟨c, rfl, hsha⟩ hids
    refine ⟨sha', ?_, hforms⟩
    rw [shas_project, mem_attemptedShasForAction, ← haction]
    exact ⟨row, hrow, hunbound.counts⟩
  once := by
    intro sha hsha sha' hsha' hforms
    rw [shas_project, mem_attemptedShasForAction] at hsha hsha'
    obtain ⟨row, hrow, hcounts⟩ := hsha
    obtain ⟨row', hrow', hcounts'⟩ := hsha'
    obtain ⟨pair, -, hunbound⟩ := hfiled.row row hrow
    obtain ⟨pair', -, hunbound'⟩ := hfiled.row row' hrow'
    obtain ⟨haction, hsame⟩ := hunbound.counts.unique hcounts
    obtain ⟨haction', hsame'⟩ := hunbound'.counts.unique hcounts'
    have hids : row.attemptId = row'.attemptId := by
      rw [hunbound.id, hunbound'.id, haction, haction', hsame, hsame', headId, headId, hforms]
    obtain rfl := eq_of_attemptId hfiled.once hrow hrow' hids
    exact (hcounts.unique hcounts').2

/-- The sets of a file, in the order of `migrateLegacyCiMarkersToAttempts`. -/
def markerSets (shas : CiClass → List String) : List (StageAction × List String) :=
  [(.ciRebase, shas .rebase), (.ciRerun, shas .rerun), (.ciArchiveFailRecovery, shas .archiveFail),
    (.ciAssertionFix, shas .assertionFix), (.ciDocsStaleHeal, shas .docsStaleHeal)]

variable {shas : CiClass → List String}

lemma mem_markerSets {set : StageAction × List String} :
    set ∈ markerSets shas ↔ ∃ c : CiClass, set = (c.action, shas c) := by
  constructor
  · intro h
    simp only [markerSets, mem_cons, not_mem_nil, or_false] at h
    rcases h with rfl | rfl | rfl | rfl | rfl
    · exact ⟨.rebase, rfl⟩
    · exact ⟨.rerun, rfl⟩
    · exact ⟨.archiveFail, rfl⟩
    · exact ⟨.assertionFix, rfl⟩
    · exact ⟨.docsStaleHeal, rfl⟩
  · rintro ⟨c, rfl⟩
    cases c <;> simp [markerSets, CiClass.action]

lemma mem_pushes_markerSets : (c.action, sha) ∈ pushes (markerSets shas) ↔ sha ∈ shas c := by
  simp only [pushes, mem_flatMap, mem_map, Prod.mk.injEq]
  constructor
  · rintro ⟨set, hset, sha', hsha', haction, rfl⟩
    obtain ⟨c', rfl⟩ := mem_markerSets.1 hset
    obtain rfl := CiClass.action_injective haction
    exact hsha'
  · intro hsha
    exact ⟨_, mem_markerSets.2 ⟨c, rfl⟩, sha, hsha, rfl, rfl⟩

/-- What `migrateLegacyCiMarkersToAttempts` makes of its sets. -/
lemma migrate_eq {nowIso : String} {terminal : List String}
    (hshas : ∀ c, asShaList (markers.get? c.listKey) (c.scalar markers) = some (shas c))
    (hterminal : asShaList (markers.get? "ciTerminalFailRecordedShas")
      (markers.get? "ciTerminalFailRecordedForSha") = some terminal) :
    migrateLegacyCiMarkersToAttempts host markers nowIso = some
      { attempts := (markerSets shas).foldl
          (fun rows set => set.2.foldl (pushLegacy host nowIso set.1) rows) []
        preArchiveSha := (markers.textAt "preArchiveSha").filter (· ≠ "")
        ciTerminalFailRecordedShas := if terminal = [] then none else some terminal } := by
  have hrebase := hshas .rebase
  have hrerun := hshas .rerun
  have harchive := hshas .archiveFail
  have hassertion := hshas .assertionFix
  have hdocs := hshas .docsStaleHeal
  simp only [CiClass.listKey, CiClass.scalar, CiClass.scalarKey, Option.bind_some, Option.bind_none]
    at hrebase hrerun harchive hassertion hdocs
  simp only [migrateLegacyCiMarkersToAttempts, hrebase, hrerun, harchive, hassertion, hdocs, hterminal,
    Option.bind_eq_bind, Option.bind_some, markerSets]
  rfl

lemma reported_migrated (hlists : MarkerLists markers)
    (hdigests : DigestsApart host fun sha action => ∃ c : CiClass, c.action = action ∧ Marked markers c sha)
    (nowIso : String) : ∃ ledger, migrateLegacyCiMarkersToAttempts host markers nowIso = some ledger ∧
      ∀ c, Reports host markers ledger c := by
  choose shas hshas hmem using fun c : CiClass =>
    asShaList_of_list (c.scalar markers) (hlists.attempted c)
  obtain ⟨terminal, hterminal, -⟩ := asShaList_of_list
    (markers.get? "ciTerminalFailRecordedForSha") hlists.terminal
  have hmarked : ∀ c sha, sha ∈ shas c ↔ Marked markers c sha := fun c sha =>
    (hmem c sha).trans marked_iff.symm
  have hne : ∀ set ∈ markerSets shas, ∀ sha ∈ set.2, sha ≠ "" := by
    intro set hset sha hsha
    obtain ⟨c, rfl⟩ := mem_markerSets.1 hset
    exact ((hmem c sha).1 hsha).1
  refine ⟨_, migrate_eq hshas hterminal, reports_of_filed (filed_sets nowIso hne) ?_ ?_ hdigests⟩
  · intro c sha
    rw [mem_pushes_markerSets, hmarked]
  · intro pair hpair
    obtain ⟨set, hset, hmem'⟩ := mem_flatMap.1 hpair
    obtain ⟨sha, -, rfl⟩ := mem_map.1 hmem'
    obtain ⟨c, rfl⟩ := mem_markerSets.1 hset
    exact ⟨c, rfl⟩

end Rows

/-! ## Ledgers that are built from migrations, synchronizations and claims -/

/-- A claim that is bound to its head alone. -/
structure ClaimStageAttemptInput.Unbound (input : ClaimStageAttemptInput) : Prop where
  item : ∀ item, input.itemId = some item → trim item = ""
  candidate : ∀ candidate, input.candidateIdentity = some candidate → trim candidate = ""
  evidence : ∀ evidence, input.evidenceFingerprint = some evidence → evidence = ""

section Ledgers

variable (host : NodeHost)

/-- Ledgers of migrations, synchronizations and unbound claims. -/
inductive Built : StageAttemptLedger → Prop
  | migrated {markers : Json} {nowIso : String} {ledger : StageAttemptLedger} :
      migrateLegacyCiMarkersToAttempts host markers nowIso = some ledger → Built ledger
  | synced {ledger : StageAttemptLedger} (p : CiProjection) (nowIso : String) :
      Built ledger → Built (syncCiProjectionIntoLedger host ledger p nowIso).2
  | claimed {ledger : StageAttemptLedger} {input : ClaimStageAttemptInput} (nowIso : String) :
      input.Unbound → Built ledger → Built (claimStageAttempt host ledger input nowIso).2

/-- Every row counts as the attempt that it has the identity of, and no terminal head is recorded
twice. -/
structure AllUnbound (ledger : StageAttemptLedger) : Prop where
  rows : ∀ row ∈ ledger.attempts, ∃ sha action, UnboundRow host sha action row
  terminal : (ledger.ciTerminalFailRecordedShas.getD []).Nodup

variable {host}

lemma nodup_distinct (texts : List String) : (distinct texts).Nodup := by
  suffices h : ∀ seen : List String, seen.Nodup →
      (texts.foldl (fun seen text => if seen.contains text then seen else seen ++ [text]) seen).Nodup from
    h [] nodup_nil
  induction texts with
  | nil => exact fun seen hseen => hseen
  | cons text texts ih =>
    intro seen hseen
    rw [foldl_cons]
    split
    · exact ih seen hseen
    · next hnot =>
      refine ih _ (nodup_append.2 ⟨hseen, by simp, fun a ha b hb heq => ?_⟩)
      rw [mem_singleton] at hb
      rw [heq, hb] at ha
      exact hnot (by simpa using ha)

lemma nodup_asShaList {scalar : Option Json} {shas : List String}
    (h : asShaList set scalar = some shas) : shas.Nodup := by
  unfold asShaList at h
  split at h
  · cases h
    exact nodup_distinct _
  · cases h
    exact nodup_distinct _
  · cases h
    exact nodup_distinct _
  · cases h
    exact nodup_distinct _
  · cases h

lemma ne_of_asShaList {scalar : Option Json} {shas : List String}
    (h : asShaList set scalar = some shas) : ∀ sha ∈ shas, sha ≠ "" := by
  intro sha hsha
  unfold asShaList at h
  split at h
  · cases h
    exact (mem_nonEmptyTexts.1 (mem_distinct.1 hsha)).1
  · cases h
    exact (mem_nonEmptyTexts.1 (mem_distinct.1 hsha)).1
  · cases h
    rcases mem_append.1 (mem_distinct.1 hsha) with hsha | hsha <;>
      exact (mem_nonEmptyTexts.1 hsha).1
  · cases h
    rcases mem_append.1 (mem_distinct.1 hsha) with hsha | hsha
    · obtain ⟨c, -, rfl⟩ := mem_map.1 hsha
      simp
    · exact (mem_nonEmptyTexts.1 hsha).1
  · cases h

lemma AllUnbound.migrated {nowIso : String}
    (h : migrateLegacyCiMarkersToAttempts host markers nowIso = some ledger) : AllUnbound host ledger := by
  simp only [migrateLegacyCiMarkersToAttempts, Option.bind_eq_bind, Option.bind_eq_some_iff] at h
  obtain ⟨rebase, hrebase, rerun, hrerun, archiveFail, harchive, assertionFix, hassertion, docsStale,
    hdocs, terminal, hterminal, hledger⟩ := h
  cases hledger
  refine ⟨fun row hrow => ?_, ?_⟩
  · have hne : ∀ set ∈ [(StageAction.ciRebase, rebase), (.ciRerun, rerun),
        (.ciArchiveFailRecovery, archiveFail), (.ciAssertionFix, assertionFix),
        (.ciDocsStaleHeal, docsStale)], ∀ sha ∈ set.2, sha ≠ "" := by
      simp only [forall_mem_cons]
      exact ⟨ne_of_asShaList hrebase, ne_of_asShaList hrerun, ne_of_asShaList harchive,
        ne_of_asShaList hassertion, ne_of_asShaList hdocs, fun _ h => by cases h⟩
    obtain ⟨pair, -, hunbound⟩ := (filed_sets nowIso hne).row row hrow
    exact ⟨_, _, hunbound⟩
  · change ((if terminal = [] then none else some terminal).getD []).Nodup
    split
    · exact nodup_nil
    · exact nodup_asShaList hterminal

variable {action : StageAction}

section

variable (h : AllUnbound host ledger)
include h

lemma AllUnbound.append {row : AttemptRow} (hrow : UnboundRow host sha action row) :
    AllUnbound host { ledger with attempts := ledger.attempts ++ [row] } where
  rows := fun row' hrow' => by
    rcases mem_append.1 hrow' with hrow' | hrow'
    · exact h.rows row' hrow'
    · rw [mem_singleton.1 hrow']
      exact ⟨sha, action, hrow⟩
  terminal := h.terminal

lemma AllUnbound.ensureOne (action : StageAction) (sha nowIso : String) :
    AllUnbound host (ensureOne host ledger action sha nowIso).2 := by
  rcases ensureOne_any host ledger action sha nowIso with ⟨-, hsame⟩ | ⟨⟨hne, -⟩, hadded⟩
  · rw [hsame]
    exact h
  · rw [hadded]
    exact h.append (unboundRow_ensuredRow ledger action nowIso hne)

lemma AllUnbound.ensure (nowIso : String) (action : StageAction) (shas : List String) :
    AllUnbound host (ensure host nowIso action shas ledger).2 := by
  induction shas generalizing ledger with
  | nil => exact h
  | cons sha shas ih => exact ih (h.ensureOne action sha nowIso)

lemma AllUnbound.ensureAll (nowIso : String) (sets : List (StageAction × List String)) :
    AllUnbound host (ensureAll host nowIso sets ledger).2 := by
  induction sets generalizing ledger with
  | nil => exact h
  | cons set sets ih => exact ih (h.ensure nowIso set.1 set.2)

lemma AllUnbound.synced (p : CiProjection)
    (nowIso : String) : AllUnbound host (syncCiProjectionIntoLedger host ledger p nowIso).2 := by
  obtain ⟨archive, hattempts⟩ := attempts_sync host ledger p nowIso
  have harchived : ∀ archive, AllUnbound host { ledger with preArchiveSha := archive } := fun _ =>
    ⟨h.rows, h.terminal⟩
  have hensured := (harchived archive).ensureAll nowIso p.sets
  refine ⟨fun row hrow => hensured.rows row (hattempts ▸ hrow), ?_⟩
  obtain ⟨archive', hterminal⟩ : ∃ archive', (syncCiProjectionIntoLedger host ledger p nowIso).2 =
      if p.ciTerminalFailRecordedShas = [] then
        (Stage.ensureAll host nowIso p.sets { ledger with preArchiveSha := archive' }).2
      else { (Stage.ensureAll host nowIso p.sets { ledger with preArchiveSha := archive' }).2 with
        ciTerminalFailRecordedShas := some (distinct (((Stage.ensureAll host nowIso p.sets
          { ledger with preArchiveSha := archive' }).2.ciTerminalFailRecordedShas.getD []) ++
            p.ciTerminalFailRecordedShas)) } := by
    refine ⟨(p.preArchiveSha.filter (· ≠ "")).or ledger.preArchiveSha, ?_⟩
    simp only [syncCiProjectionIntoLedger, CiProjection.sets]
    split <;> rfl
  rw [hterminal]
  split
  · exact ((harchived archive').ensureAll nowIso p.sets).terminal
  · exact nodup_distinct _

end

lemma stageAttemptId_ofUnbound {input : ClaimStageAttemptInput} (h : input.Unbound)
    (haction : input.action = action.name) :
    stageAttemptId host { input.toAttemptKey with headSha := trim input.headSha } =
      headId host input.headSha action := by
  have hitem : (input.itemId.map trim).filter (· ≠ "") = none ∧ (input.itemId.map trim).getD "" = "" := by
    cases hvalue : input.itemId with
    | none => exact ⟨rfl, rfl⟩
    | some item => simp [h.item item hvalue]
  have hcandidate : (input.candidateIdentity.map trim).filter (· ≠ "") = none := by
    cases hvalue : input.candidateIdentity with
    | none => rfl
    | some candidate => simp [h.candidate candidate hvalue]
  have hevidence : input.evidenceFingerprint.getD "" = "" := by
    cases hvalue : input.evidenceFingerprint with
    | none => rfl
    | some evidence => exact h.evidence evidence hvalue
  simp only [stageAttemptId, hitem.1, hitem.2, hcandidate, hevidence, haction, Option.getD_none]
  rw [← headId_trim]
  rfl

lemma exists_action {name : String} (h : stageActions.contains name = true) :
    ∃ action : StageAction, name = action.name := by
  rw [contains_iff_mem, stageActions, mem_map] at h
  obtain ⟨action, -, rfl⟩ := h
  exact ⟨action, rfl⟩

lemma AllUnbound.claimed (h : AllUnbound host ledger)
    {input : ClaimStageAttemptInput} (hinput : input.Unbound) (nowIso : String) :
    AllUnbound host (claimStageAttempt host ledger input nowIso).2 := by
  by_cases hne : trim input.headSha = ""
  · have hrefused : (claimStageAttempt host ledger input nowIso).2 = ledger := by
      simp only [claimStageAttempt, hne, if_true]
    rw [hrefused]
    exact h
  · rcases claim_cases host ledger input nowIso with ⟨reason, hclaim⟩ | ⟨row, -, hclaim⟩ |
      ⟨-, hknown, hclaim⟩
    · rw [hclaim]
      exact h
    · rw [hclaim]
      exact h
    · obtain ⟨action, haction⟩ := exists_action hknown
      have hid : stageAttemptId host input.toAttemptKey = headId host input.headSha action :=
        (stageAttemptId_trim host _).symm.trans (stageAttemptId_ofUnbound hinput haction)
      rw [hclaim, hid]
      exact h.append (unboundRow_claimRow hne haction)

lemma Built.allUnbound (h : Built host ledger) : AllUnbound host ledger := by
  induction h with
  | migrated hmigrated => exact .migrated hmigrated
  | synced p nowIso _ ih => exact ih.synced p nowIso
  | claimed nowIso hinput _ ih => exact ih.claimed hinput nowIso

lemma hasAttempted_built (h : Built host ledger)
    (hdigests : DigestsApart host fun sha' action' =>
      sha' ∈ attemptedShasForAction host ledger action' ∨ sha' = sha ∧ action' = action) :
    hasAttempted host ledger { headSha := sha, action := action.name } = true ↔
      ∃ sha' ∈ attemptedShasForAction host ledger action, headForm host sha' = headForm host sha := by
  have hrows := h.allUnbound.rows
  rw [hasAttempted_iff]
  constructor
  · rintro ⟨row, hfind, -⟩
    have hrow := mem_of_find?_eq_some hfind
    obtain ⟨sha', action', hunbound⟩ := hrows row hrow
    have hreported : sha' ∈ attemptedShasForAction host ledger action' :=
      mem_attemptedShasForAction.2 ⟨row, hrow, hunbound.counts⟩
    have hids : headId host sha' action' = headId host sha action :=
      Option.some.inj (hunbound.id.symm.trans (find_attemptId hfind))
    obtain ⟨hforms, rfl⟩ := hdigests.eq host (.inl hreported) (.inr ⟨rfl, rfl⟩) hids
    exact ⟨sha', hreported, hforms⟩
  · rintro ⟨sha', hreported, hforms⟩
    obtain ⟨row, hrow, hcounts⟩ := mem_attemptedShasForAction.1 hreported
    obtain ⟨sha'', action'', hunbound⟩ := hrows row hrow
    obtain ⟨rfl, rfl⟩ := hunbound.counts.unique hcounts
    have hid : row.attemptId = some (headId host sha action'') := by rw [hunbound.id, headId, headId, hforms]
    cases hfind : ledger.find (headId host sha action'') with
    | none => exact absurd hid (by simpa using find?_eq_none.1 hfind row hrow)
    | some found =>
      obtain ⟨sha₀, action₀, hfound⟩ := hrows found (mem_of_find?_eq_some hfind)
      exact ⟨found, hfind, hfound.counts.2.1⟩

lemma Built.reportsUnbound (h : Built host ledger) : ReportsUnbound host ledger := by
  intro c sha hsha
  obtain ⟨row, hrow, hcounts⟩ := mem_attemptedShasForAction.1 hsha
  obtain ⟨sha', action', hunbound⟩ := h.allUnbound.rows row hrow
  obtain ⟨rfl, rfl⟩ := hunbound.counts.unique hcounts
  right
  cases hfind : ledger.find (headId host sha' c.action) with
  | none => exact absurd hunbound.id (by simpa using find?_eq_none.1 hfind row hrow)
  | some found => exact ⟨found, rfl⟩

/-- Migration, the ledger's own projection, synchronization, and the ledgers that are built from them. -/
theorem ciProjection_laws (host : NodeHost) :
    (∀ (markers : Json) (nowIso : String), MarkerLists markers →
      DigestsApart host (fun sha action => ∃ c : CiClass, c.action = action ∧ Marked markers c sha) →
        ∃ ledger, migrateLegacyCiMarkersToAttempts host markers nowIso = some ledger ∧
          ∀ c, Reports host markers ledger c) ∧
    (∀ (ledger : StageAttemptLedger) (nowIso : String), ReportsUnbound host ledger →
      (ledger.ciTerminalFailRecordedShas.getD []).Nodup →
        syncCiProjectionIntoLedger host ledger (projectCiRecoveryFromLedger host ledger).toCache nowIso =
          ([], ledger)) ∧
    (∀ (ledger : StageAttemptLedger) (p : CiProjection) (nowIso : String) (action : StageAction)
      (shas : List String) (sha : String), (action, shas) ∈ p.sets → sha ∈ shas → trim sha ≠ "" →
        Free host ledger (headId host sha action) →
          hasAttempted host (syncCiProjectionIntoLedger host ledger p nowIso).2
            { headSha := sha, action := action.name } = true) ∧
    (∀ ledger : StageAttemptLedger, Built host ledger →
      (∀ nowIso, syncCiProjectionIntoLedger host ledger (projectCiRecoveryFromLedger host ledger).toCache
        nowIso = ([], ledger)) ∧
      ∀ (sha : String) (action : StageAction), DigestsApart host (fun sha' action' =>
          sha' ∈ attemptedShasForAction host ledger action' ∨ sha' = sha ∧ action' = action) →
        (hasAttempted host ledger { headSha := sha, action := action.name } = true ↔
          ∃ sha' ∈ attemptedShasForAction host ledger action, headForm host sha' = headForm host sha)) := by
  refine ⟨fun markers nowIso hlists hdigests => reported_migrated hlists hdigests nowIso,
    fun ledger nowIso hrows hterminal => sync_own hrows hterminal nowIso,
    fun ledger p nowIso action shas sha hset hsha hne hfree =>
      hasAttempted_synced nowIso hset hsha hne hfree,
    fun ledger hbuilt => ⟨fun nowIso => ?_, fun sha action hdigests => hasAttempted_built hbuilt hdigests⟩⟩
  exact sync_own hbuilt.reportsUnbound hbuilt.allUnbound.terminal nowIso

end Ledgers

/-! ## A head in two spellings -/

/-- The digests of the attempts of one head. -/
def spelledHost : NodeHost := .onFirstDay []
  [(attemptText "abc" .ciRebase, "4e93c6ec658a846280e3eb2a0c315db199f44866e377d99d47a0fb60ecbf8f90"),
    (attemptText "abc" .ciRerun, "08bf314288de34c6b85abaa99df160d9dad387e0e6f26aee4a418fc98d9a2c63")]

def spelledMarkers : Json := .obj [("ciRebaseAttemptedShas", .arr [.str "ABC", .str "abc"])]

def spelledLedger : StageAttemptLedger where
  attempts := [legacyRow spelledHost "1970-01-01T00:00:00.000Z" "ABC" .ciRebase 0]

lemma migrate_spelled : migrateLegacyCiMarkersToAttempts spelledHost spelledMarkers
    "1970-01-01T00:00:00.000Z" = some spelledLedger := by
  rfl

lemma markerLists_spelled : MarkerLists spelledMarkers where
  attempted c value h := by
    cases c with
    | rebase => exact ⟨_, (Option.some.inj h).symm⟩
    | _ => cases h
  terminal value h := by cases h

lemma marked_spelled (h : Marked spelledMarkers c sha) : c = .rebase ∧ headForm spelledHost sha = "abc" := by
  obtain ⟨-, ⟨elems, helems, hsha⟩ | ⟨key, hkey, hvalue⟩⟩ := h
  · cases c with
    | rebase =>
      obtain rfl := Json.arr.inj (Option.some.inj helems)
      simp only [mem_cons, Json.str.injEq, not_mem_nil, or_false] at hsha
      rcases hsha with rfl | rfl <;> exact ⟨rfl, by decide +kernel⟩
    | _ => cases helems
  · cases c <;> cases hkey <;> cases hvalue

lemma digests_spelled : DigestsApart spelledHost fun sha action =>
    ∃ c : CiClass, c.action = action ∧ Marked spelledMarkers c sha := by
  rintro sha action sha' action' ⟨c, rfl, hmarked⟩ ⟨c', rfl, hmarked'⟩ -
  obtain ⟨rfl, hform⟩ := marked_spelled hmarked
  obtain ⟨rfl, hform'⟩ := marked_spelled hmarked'
  rw [hform, hform']

/-- The laws at work. -/
theorem ciProjection_laws_spelled :
    (∃ ledger, migrateLegacyCiMarkersToAttempts spelledHost spelledMarkers "1970-01-01T00:00:00.000Z" =
        some ledger ∧ ∀ c, Reports spelledHost spelledMarkers ledger c) ∧
      syncCiProjectionIntoLedger spelledHost spelledLedger
        (projectCiRecoveryFromLedger spelledHost spelledLedger).toCache "1970-01-01T00:00:00.000Z" =
          ([], spelledLedger) ∧
      hasAttempted spelledHost (syncCiProjectionIntoLedger spelledHost {}
        { ciRerunAttemptedShas := ["abc"] } "1970-01-01T00:00:00.000Z").2
          { headSha := "abc", action := StageAction.ciRerun.name } = true ∧
      (hasAttempted spelledHost spelledLedger { headSha := "abc", action := StageAction.ciRebase.name } = true ↔
        ∃ sha' ∈ attemptedShasForAction spelledHost spelledLedger .ciRebase,
          headForm spelledHost sha' = headForm spelledHost "abc") := by
  obtain ⟨hmigrated, hown, hsynced, hbuilt⟩ := ciProjection_laws spelledHost
  have hspelled : Built spelledHost spelledLedger := .migrated migrate_spelled
  refine ⟨hmigrated _ _ markerLists_spelled digests_spelled,
    hown _ _ hspelled.reportsUnbound hspelled.allUnbound.terminal,
    hsynced {} _ _ .ciRerun ["abc"] "abc" (by simp [CiProjection.sets]) (by simp) (by decide +kernel)
      (fun row hrow => by cases hrow), (hbuilt _ hspelled).2 "abc" .ciRebase ?_⟩
  have hreported : ∀ sha action, sha ∈ attemptedShasForAction spelledHost spelledLedger action ∨
      sha = "abc" ∧ action = .ciRebase → headForm spelledHost sha = "abc" ∧ action = .ciRebase := by
    rintro sha action (hsha | ⟨rfl, rfl⟩)
    · obtain ⟨row, hrow, hcounts⟩ := mem_attemptedShasForAction.1 hsha
      rw [mem_singleton.1 hrow] at hcounts
      obtain ⟨rfl, rfl⟩ := hcounts.unique
        (unboundRow_legacyRow (by decide) .ciRebase "1970-01-01T00:00:00.000Z" 0).counts
      exact ⟨by decide +kernel, rfl⟩
    · exact ⟨by decide +kernel, rfl⟩
  intro sha action sha' action' hsha hsha' _
  obtain ⟨hform, rfl⟩ := hreported sha action hsha
  obtain ⟨hform', rfl⟩ := hreported sha' action' hsha'
  rw [hform, hform']

/-- A row of the head under an id. -/
def rebaseRow (attemptId status : String) : AttemptRow := .obj
  [("attempt_id", .str attemptId), ("head_sha", .str "abc"), ("action", .str "ci_rebase"), ("status", .str status),
    ("outcome", .str status)]

/-- The second spelling of a head is not reported; a row with the id of an item gets a second one and a terminal
head that is there twice loses one when the own projection is put back; a superseded row keeps its head from
counting. -/
theorem second_spelling_unreported :
    (∃ ledger, migrateLegacyCiMarkersToAttempts spelledHost spelledMarkers "1970-01-01T00:00:00.000Z" = some ledger ∧
      Marked spelledMarkers .rebase "abc" ∧ "abc" ∉ (projectCiRecoveryFromLedger spelledHost ledger).shas .rebase) ∧
    (syncCiProjectionIntoLedger spelledHost { attempts := [rebaseRow "bound" "completed"] }
      (projectCiRecoveryFromLedger spelledHost { attempts := [rebaseRow "bound" "completed"] }).toCache
      "1970-01-01T00:00:00.000Z").2.attempts.length = 2 ∧
    (syncCiProjectionIntoLedger spelledHost { ciTerminalFailRecordedShas := some ["abc", "abc"] }
      (projectCiRecoveryFromLedger spelledHost { ciTerminalFailRecordedShas := some ["abc", "abc"] }).toCache
      "1970-01-01T00:00:00.000Z").2.ciTerminalFailRecordedShas = some ["abc"] ∧
    hasAttempted spelledHost (syncCiProjectionIntoLedger spelledHost
      { attempts := [rebaseRow "4e93c6ec658a846280e3eb2a0c315db199f44866e377d99d47a0fb60ecbf8f90" "superseded"] }
      { ciRebaseAttemptedShas := ["abc"] } "1970-01-01T00:00:00.000Z").2
        { headSha := "abc", action := StageAction.ciRebase.name } = false := by
  refine ⟨⟨spelledLedger, migrate_spelled, ⟨by decide, .inl ⟨_, rfl, by simp⟩⟩, ?_⟩, ?_, ?_, ?_⟩ <;> decide +kernel

end AgentPipeline.Stage
