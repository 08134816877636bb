import Mathlib.Data.List.Dedup
import Mathlib.Data.List.Perm.Subperm
import AgentPipeline.Integrity.Manifest

/-!
# ManifestSound: when the comparison of two manifests is sound

A manifest means the content of every path on the candidate side: a blob, gone, or as in the base
(`contentOf`). The comparison goes by `sideValue`, in which the source of a copy is gone too, and
looks at the first record about a differing path only.

* `get?_candidateSideMap`: what the map says of a path, whatever the order of the entries;
* `soundPair_iff`: for which pairs of manifests every classification is right and does not depend
  on the order.
-/

namespace AgentPipeline.Integrity

open List
open CanonicalPatchRecord (touches isMove)

/-! ## What a manifest means -/

/-- The entries of a manifest: a set of changes, each path once as a destination, paths as the
producer normalizes them, a source for renames and copies only, and digests for blobs. -/
structure IsManifest (entries : List CanonicalPatchRecord) : Prop where
  destinations : (entries.map (·.path)).Nodup
  normalized : ∀ e ∈ entries, normalizeRepoPath e.path = e.path ∧ e.path ≠ ""
  sources : ∀ e ∈ entries, ∀ old, e.oldPath = some old → e.isMove = true ∧ normalizeRepoPath old = old ∧ old ≠ ""
  digests : ∀ e ∈ entries, e.candidateBlob ≠ some deleteMarker

inductive Content where
  | blob (digest : String)
  | gone
  | asInBase
deriving DecidableEq, Repr

def CanonicalPatchRecord.content (e : CanonicalPatchRecord) : Content :=
  if e.status = .deleted then .gone else .blob (e.candidateBlob.getD "")

/-- The content of a path on the candidate side: a rename takes its source away, a copy does not. -/
def contentOf (entries : List CanonicalPatchRecord) (p : String) : Content :=
  match entries.find? (·.path = p) with
  | some e => e.content
  | none =>
    if entries.any fun e => e.status = .renamed && e.oldPath = some p then .gone else .asInBase

/-- The ends of a record. -/
def CanonicalPatchRecord.ends (e : CanonicalPatchRecord) : List String := e.oldPath.toList ++ [e.path]

/-! ## The map -/

def CanonicalPatchRecord.value (e : CanonicalPatchRecord) : String :=
  if e.status = .deleted then deleteMarker else e.candidateBlob.getD ""

/-- What the map says of a path. -/
def sideValue (entries : List CanonicalPatchRecord) (p : String) : Option String :=
  match entries.find? (·.path = p) with
  | some e => some e.value
  | none => if entries.any (fun e => e.oldPath = some p) then some deleteMarker else none

lemma IsManifest.tail {e : CanonicalPatchRecord} {entries : List CanonicalPatchRecord}
    (h : IsManifest (e :: entries)) : IsManifest entries where
  destinations := (nodup_cons.1 h.destinations).2
  normalized e' he' := h.normalized e' (by simp [he'])
  sources e' he' := h.sources e' (by simp [he'])
  digests e' he' := h.digests e' (by simp [he'])

variable {entries entries' : List CanonicalPatchRecord}

lemma IsManifest.perm (h : IsManifest entries)
    (hperm : entries.Perm entries') : IsManifest entries' where
  destinations := (hperm.map _).nodup_iff.1 h.destinations
  normalized e he := h.normalized e (hperm.mem_iff.2 he)
  sources e he := h.sources e (hperm.mem_iff.2 he)
  digests e he := h.digests e (hperm.mem_iff.2 he)

variable {e : CanonicalPatchRecord}

lemma entryIncomplete_eq_false (h : entryIncomplete entries = false) (he : e ∈ entries)
    (hstatus : e.status ≠ .deleted) : e.incomplete = false ∧ ∃ blob, e.candidateBlob = some blob := by
  have hentry := any_eq_false.1 h e he
  cases hs : e.status with
  | deleted => exact absurd hs hstatus
  | added | modified | renamed | copied =>
    simp only [hs, Bool.or_eq_true, not_or, Bool.not_eq_true] at hentry
    refine ⟨hentry.1, Option.isSome_iff_exists.1 ?_⟩
    simp_all

lemma get?_addEntry {map : JsObject String} {e : CanonicalPatchRecord}
    (hmanifest : IsManifest [e]) (hcomplete : entryIncomplete [e] = false) :
    ∃ map', addEntry map e = some map' ∧ ∀ p, map'.get? p = if e.path = p then some e.value
      else (map.get? p).or (if e.oldPath = some p then some deleteMarker else none) := by
  obtain ⟨hpath, -⟩ := hmanifest.normalized e (by simp)
  by_cases hdeleted : e.status = .deleted
  · -- only a rename or a copy has a source
    have hsource : e.oldPath = none := by
      cases hold : e.oldPath with
      | none => rfl
      | some old =>
        have hmove := (hmanifest.sources e (by simp) old hold).1
        simp [isMove, hdeleted] at hmove
    refine ⟨map.set e.path deleteMarker, by simp [addEntry, hdeleted, hpath], fun p => ?_⟩
    simp [CanonicalPatchRecord.value, hdeleted, hsource, eq_comm]
  · obtain ⟨hinc, blob, hblob⟩ := entryIncomplete_eq_false hcomplete (by simp) hdeleted
    refine ⟨markSource (map.set e.path blob) e, by simp [addEntry, hdeleted, hblob, hinc, hpath], fun p => ?_⟩
    have hvalue : e.value = blob := by simp [CanonicalPatchRecord.value, hdeleted, hblob]
    cases hold : e.oldPath with
    | none => simp [markSource, hold, hvalue, eq_comm]
    | some old =>
      obtain ⟨hmove, hnorm, hne⟩ := hmanifest.sources e (by simp) old hold
      have hfilter : (some old).filter (fun x => decide (x ≠ "")) = some old := by simp [hne]
      simp only [markSource, hold, hfilter, hnorm, hmove, hvalue, true_and]
      rw [JsObject.get?_set]
      cases hset : (if old = e.path then some blob else map.get? old) with
      | none =>
        have holdPath : old ≠ e.path := by
          rintro rfl
          simp at hset
        simp only [holdPath, if_false] at hset
        by_cases hp : p = old
        · subst hp
          simp [hne, hset, Ne.symm holdPath]
        · simp [hne, hp, eq_comm]
      | some v =>
        by_cases hp : p = e.path
        · simp [hp]
        · by_cases hpold : old = p
          · subst hpold
            simp only [hp, if_false] at hset
            simp [hp, Ne.symm hp, hset]
          · simp [hp, Ne.symm hp, hpold]

lemma find?_path_cons (e : CanonicalPatchRecord) (entries : List CanonicalPatchRecord) (p : String) :
    (e :: entries).find? (·.path = p) = if e.path = p then some e else entries.find? (·.path = p) := by
  by_cases h : e.path = p <;> simp [h]

lemma get?_foldlM_addEntry (map : JsObject String)
    (hmanifest : IsManifest entries) (hcomplete : entryIncomplete entries = false) :
    ∃ map', entries.foldlM addEntry map = some map' ∧ ∀ p, map'.get? p = match entries.find? (·.path = p) with
      | some e => some e.value
      | none => (map.get? p).or
          (if entries.any (fun e => e.oldPath = some p) then some deleteMarker else none) := by
  induction entries generalizing map with
  | nil => exact ⟨map, rfl, fun p => by simp⟩
  | cons e entries ih =>
    have hone : IsManifest [e] := by
      refine ⟨by simp, ?_, ?_, ?_⟩
      · simpa using hmanifest.normalized e (by simp)
      · simpa using hmanifest.sources e (by simp)
      · simpa using hmanifest.digests e (by simp)
    have hcompletes : entryIncomplete [e] = false ∧ entryIncomplete entries = false := by
      simpa [entryIncomplete] using hcomplete
    obtain ⟨map₁, hadd, hget⟩ := @get?_addEntry map e hone hcompletes.1
    obtain ⟨map₂, hrest, hget'⟩ := ih map₁ hmanifest.tail hcompletes.2
    refine ⟨map₂, by simp [hadd, hrest], fun p => ?_⟩
    rw [hget', hget, find?_path_cons]
    by_cases hp : e.path = p
    · -- no later entry has the path again
      have hnone : entries.find? (·.path = p) = none := by
        rw [find?_eq_none]
        intro e' he' hpath
        have hnot := (nodup_cons.1 hmanifest.destinations).1
        exact hnot (mem_map.2 ⟨e', he', by simpa [hp] using hpath⟩)
      simp [hp, hnone]
    · cases hfind : entries.find? (·.path = p) with
      | some e' => simp [hp]
      | none =>
        by_cases hold : e.oldPath = some p
        · cases map.get? p <;> simp [hp, hold]
        · simp [hp, hold]

lemma get?_candidateSideMap (hmanifest : IsManifest entries) (hcomplete : entryIncomplete entries = false) :
    ∃ map, candidateSideMap entries = some map ∧ ∀ p, map.get? p = sideValue entries p := by
  obtain ⟨map, hmap, hget⟩ := get?_foldlM_addEntry .empty hmanifest hcomplete
  refine ⟨map, hmap, fun p => ?_⟩
  rw [hget, sideValue]
  simp

variable {p : String}

lemma mem_keys_iff {map : JsObject String} : p ∈ map.entries.map Prod.fst ↔ (map.get? p).isSome = true := by
  rw [Option.isSome_iff_exists]
  constructor
  · intro h
    obtain ⟨⟨k, v⟩, hmem, rfl⟩ := mem_map.1 h
    exact ⟨v, JsObject.get?_eq_some_iff.2 hmem⟩
  · rintro ⟨v, hv⟩
    exact mem_map.2 ⟨(p, v), JsObject.get?_eq_some_iff.1 hv, rfl⟩

lemma mapsEqual_iff {a b : JsObject String} : mapsEqual a b = true ↔ ∀ p, a.get? p = b.get? p := by
  have hlength : ∀ m : JsObject String, m.entries.length = (m.entries.map Prod.fst).length := by simp
  have hall : (a.entries.all fun e => b.get? e.1 = some e.2) = true ↔
      ∀ k v, a.get? k = some v → b.get? k = some v := by
    simp [JsObject.get?_eq_some_iff]
  refine (Bool.and_eq_true_iff.trans (and_congr decide_eq_true_iff hall)).trans ?_
  rw [hlength a, hlength b]
  constructor
  · rintro ⟨hsize, hsub⟩ p
    have hkeys : a.entries.map Prod.fst ⊆ b.entries.map Prod.fst := by
      intro k hk
      obtain ⟨v, hv⟩ := Option.isSome_iff_exists.1 (mem_keys_iff.1 hk)
      exact mem_keys_iff.2 (by simp [hsub k v hv])
    -- no key of the second map is missing from the first
    have hperm := (a.nodup.subperm hkeys).perm_of_length_le hsize.ge
    cases ha : a.get? p with
    | some v => exact (hsub p v ha).symm
    | none =>
      cases hb : b.get? p with
      | none => rfl
      | some v =>
        have hmem := hperm.mem_iff.2 (mem_keys_iff.2 (by simp [hb] : (b.get? p).isSome = true))
        simp [mem_keys_iff, ha] at hmem
  · intro h
    refine ⟨?_, fun k v hv => by rw [← h k, hv]⟩
    exact ((perm_ext_iff_of_nodup a.nodup b.nodup).2 fun k => by
      rw [mem_keys_iff, mem_keys_iff, h k]).length_eq

lemma mem_sortTexts {texts : List String} {t : String} : t ∈ sortTexts texts ↔ t ∈ texts :=
  (perm_insertionSort _ _).mem_iff

lemma mem_mapDiffPaths {pre post : JsObject String} : p ∈ mapDiffPaths pre post ↔ pre.get? p ≠ post.get? p := by
  simp only [mapDiffPaths, mem_sortTexts, mem_filter, mem_dedup, mem_append,
    mem_keys_iff, ne_eq, decide_not, Bool.not_eq_true', decide_eq_false_iff_not, and_iff_right_iff_imp]
  intro h
  cases hpre : pre.get? p with
  | some v => exact .inl rfl
  | none =>
    cases hpost : post.get? p with
    | some v => exact .inr rfl
    | none => exact absurd (hpre.trans hpost.symm) h

/-! ## The order of the entries -/

lemma find?_path_perm (hnodup : (entries.map (·.path)).Nodup) (hperm : entries.Perm entries') (p : String) :
    entries.find? (·.path = p) = entries'.find? (·.path = p) := by
  have hkey : ∀ {l : List CanonicalPatchRecord}, (l.map (·.path)).Nodup → ∀ {e},
      l.find? (·.path = p) = some e ↔ e ∈ l ∧ e.path = p := by
    intro l hl e
    constructor
    · intro h
      exact ⟨mem_of_find?_eq_some h, by simpa using find?_some h⟩
    · rintro ⟨hmem, hp⟩
      obtain ⟨e', he'⟩ : ∃ e', l.find? (·.path = p) = some e' := by
        cases hfind : l.find? (·.path = p) with
        | some e' => exact ⟨e', rfl⟩
        | none => exact absurd (by simpa using hp) (find?_eq_none.1 hfind e hmem)
      have hsame : e' = e := inj_on_of_nodup_map hl (mem_of_find?_eq_some he') hmem
        ((by simpa using find?_some he' : e'.path = p).trans hp.symm)
      rw [he', hsame]
  apply Option.ext
  intro e
  rw [hkey hnodup, hkey ((hperm.map _).nodup_iff.1 hnodup), hperm.mem_iff]

lemma any_perm {α : Type} {l l' : List α} (hperm : l.Perm l') (f : α → Bool) : l.any f = l'.any f := by
  rw [Bool.eq_iff_iff, any_eq_true, any_eq_true]
  simp [hperm.mem_iff]

lemma sideValue_perm (h : IsManifest entries)
    (hperm : entries.Perm entries') (p : String) : sideValue entries p = sideValue entries' p := by
  rw [sideValue, sideValue, find?_path_perm h.destinations hperm, any_perm hperm]

lemma entryIncomplete_perm (hperm : entries.Perm entries') : entryIncomplete entries = entryIncomplete entries' :=
  any_perm hperm _

/-! ## What is looked at for a differing path -/

/-- What may be looked at for a differing path: the ends of one record about it, or the path. -/
def looks (post : List CanonicalPatchRecord) (p : String) : List (List String) :=
  match post.filter (·.touches p) with
  | [] => [[p]]
  | e :: es => (e :: es).map (·.ends)

def allInScope (scope : DeclaredRepairScope) (paths : List String) : Bool :=
  paths.all (pathInScope · scope)

lemma touches_iff (h : IsManifest entries) (he : e ∈ entries) (hp : p ≠ "") : e.touches p = true ↔ p ∈ e.ends := by
  have hpath := (h.normalized e he).1
  cases hold : e.oldPath with
  | none =>
    have hempty : normalizeRepoPath "" ≠ p := by
      intro heq
      exact hp (heq.symm.trans (by decide +kernel))
    simp only [touches, CanonicalPatchRecord.ends, hpath, hold, Option.getD_none, hempty,
      decide_false, Bool.or_false, decide_eq_true_eq, Option.toList_none, nil_append, mem_singleton]
    exact eq_comm
  | some old =>
    have hnorm := (h.sources e he old hold).2.1
    simp only [touches, CanonicalPatchRecord.ends, hpath, hold, Option.getD_some, hnorm,
      Bool.or_eq_true, decide_eq_true_eq, Option.toList_some, mem_append, mem_singleton]
    rw [or_comm, eq_comm, eq_comm (a := e.path)]

lemma passes_record (h : IsManifest entries) (he : e ∈ entries) (hp : p ∈ e.ends)
    (scope : DeclaredRepairScope) :
    (if e.isMove then renameInScope e.oldPath e.path scope else pathInScope p scope) = allInScope scope e.ends := by
  cases hold : e.oldPath with
  | none =>
    have hpath : p = e.path := by simpa [CanonicalPatchRecord.ends, hold] using hp
    simp [renameInScope, allInScope, CanonicalPatchRecord.ends, hold, hpath]
  | some old =>
    obtain ⟨hmove, -, hne⟩ := h.sources e he old hold
    have hfilter : (some old).filter (fun x => decide (x ≠ "")) = some old := by simp [hne]
    simp only [renameInScope, hmove, if_true, hfilter]
    simp [allInScope, CanonicalPatchRecord.ends, hold]

lemma passesScope_eq {post : List CanonicalPatchRecord} (h : IsManifest post)
    (hp : p ≠ "") (scope : DeclaredRepairScope) :
    (looks post p).head?.map (allInScope scope) = some (passesScope post scope p) := by
  have hfind : post.find? (·.touches p) = (post.filter (·.touches p)).head? := by rw [head?_filter]
  cases hfilter : post.filter (·.touches p) with
  | nil => simp [looks, passesScope, hfind, hfilter, allInScope]
  | cons e es =>
    have hmem : e ∈ post.filter (·.touches p) := by simp [hfilter]
    obtain ⟨he, htouch⟩ := mem_filter.1 hmem
    have hcheck := passes_record h he ((touches_iff h he hp).1 htouch) scope
    simp [looks, passesScope, hfind, hfilter, ← hcheck]

variable {paths : List String}

lemma mem_looks {post : List CanonicalPatchRecord} : paths ∈ looks post p ↔
      (∃ e ∈ post, e.touches p = true ∧ e.ends = paths) ∨ (∀ e ∈ post, e.touches p = false) ∧ paths = [p] := by
  cases hfilter : post.filter (·.touches p) with
  | nil =>
    have hnone : ∀ e ∈ post, e.touches p = false := by simpa using hfilter
    simp only [looks, hfilter, mem_singleton]
    constructor
    · intro h
      exact .inr ⟨hnone, h⟩
    · rintro (⟨e, he, htouch, -⟩ | ⟨-, h⟩)
      · simp [hnone e he] at htouch
      · exact h
  | cons e es =>
    have hmem : e ∈ post.filter (·.touches p) := by simp [hfilter]
    obtain ⟨he, htouch⟩ := mem_filter.1 hmem
    simp only [looks, hfilter]
    rw [← hfilter, mem_map]
    constructor
    · rintro ⟨e', he', rfl⟩
      obtain ⟨hpost, htouch'⟩ := mem_filter.1 he'
      exact .inl ⟨e', hpost, htouch', rfl⟩
    · rintro (⟨e', hpost, htouch', rfl⟩ | ⟨hnone, -⟩)
      · exact ⟨e', mem_filter.2 ⟨hpost, htouch'⟩, rfl⟩
      · simp [hnone e he] at htouch

lemma mem_looks_perm {post post' : List CanonicalPatchRecord}
    (hperm : post.Perm post') : paths ∈ looks post p ↔ paths ∈ looks post' p := by
  simp only [mem_looks, hperm.mem_iff]

lemma passesScope_of_forall {post : List CanonicalPatchRecord} (h : IsManifest post)
    (hp : p ≠ "") {scope : DeclaredRepairScope} {b : Bool}
    (hall : ∀ paths ∈ looks post p, allInScope scope paths = b) : passesScope post scope p = b := by
  have heq := passesScope_eq h hp scope
  cases hhead : (looks post p).head? with
  | none => simp [hhead] at heq
  | some paths =>
    have hpass := hall paths (mem_of_mem_head? (by simp [hhead]))
    simpa [hhead, hpass, eq_comm] using heq

/-! ## What the map hides -/

/-- The path is marked as gone only because it was copied. -/
def copyOnly (entries : List CanonicalPatchRecord) (p : String) : Bool :=
  (entries.find? (·.path = p)).isNone && !(entries.any fun e => e.status = .renamed && e.oldPath = some p) &&
      entries.any fun e => e.oldPath = some p

def sideContent : Option String → Content
  | none => .asInBase
  | some v => if v = deleteMarker then .gone else .blob v

lemma sideValue_of_copyOnly (h : copyOnly entries p = true) : sideValue entries p = some deleteMarker := by
  simp only [copyOnly, Bool.and_eq_true, Option.isNone_iff_eq_none] at h
  obtain ⟨⟨hfind, -⟩, hany⟩ := h
  simp only [sideValue, hfind, hany, if_true]

lemma contentOf_eq (hmanifest : IsManifest entries)
    (hcomplete : entryIncomplete entries = false) (p : String) :
    contentOf entries p = if copyOnly entries p then .asInBase else sideContent (sideValue entries p) := by
  cases hfind : entries.find? (·.path = p) with
  | some e =>
    have he := mem_of_find?_eq_some hfind
    simp only [contentOf, copyOnly, sideValue, hfind]
    by_cases hdeleted : e.status = .deleted
    · simp [CanonicalPatchRecord.content, CanonicalPatchRecord.value, sideContent, hdeleted]
    · obtain ⟨-, blob, hblob⟩ := entryIncomplete_eq_false hcomplete he hdeleted
      have hmarker : blob ≠ deleteMarker := by
        rintro rfl
        exact hmanifest.digests e he hblob
      simp [CanonicalPatchRecord.content, CanonicalPatchRecord.value, sideContent, hdeleted, hblob, hmarker]
  | none =>
    simp only [contentOf, copyOnly, sideValue, hfind]
    cases hrenamed : entries.any fun e => e.status = .renamed && e.oldPath = some p with
    | true =>
      have hany : (entries.any fun e => e.oldPath = some p) = true := by
        obtain ⟨e, he, h⟩ := any_eq_true.1 hrenamed
        simp only [Bool.and_eq_true] at h
        exact any_eq_true.2 ⟨e, he, h.2⟩
      simp [hany, sideContent]
    | false =>
      cases hany : entries.any fun e => e.oldPath = some p with
      | true => simp
      | false => simp [sideContent]

lemma contentOf_ne_iff {pre post : List CanonicalPatchRecord} (hpre : IsManifest pre)
    (hpost : IsManifest post) (hcpre : entryIncomplete pre = false)
    (hcpost : entryIncomplete post = false) (h : sideValue pre p = sideValue post p) :
    contentOf pre p ≠ contentOf post p ↔ copyOnly pre p ≠ copyOnly post p := by
  rw [contentOf_eq hpre hcpre, contentOf_eq hpost hcpost]
  cases hp : copyOnly pre p with
  | true =>
    have hside := sideValue_of_copyOnly hp
    rw [hside] at h
    cases hq : copyOnly post p <;> simp [← h, sideContent]
  | false =>
    cases hq : copyOnly post p with
    | true => simp [h, sideValue_of_copyOnly hq, sideContent]
    | false => simp [h]

/-! ## The classification -/

/-- The scope of the repair is asked at all. -/
def Judged (scope : DeclaredRepairScope) (method : MutationMethod) : Prop :=
  method.hasEmptyScope = false ∧ ¬((freezeDeclaredScope (some scope)).paths = [] ∧
      (freezeDeclaredScope (some scope)).directories.getD [] = [])

def kind (pre post : CandidateIntegrityManifest) (scope : DeclaredRepairScope)
    (method : MutationMethod) : IntegrityClassification :=
  (classifyTransition (some pre) (some post) scope method).classification

lemma kind_of_incomplete {pre post : CandidateIntegrityManifest}
    (h : entryIncomplete pre.entries = true ∨ entryIncomplete post.entries = true)
    (scope : DeclaredRepairScope) (method : MutationMethod) : kind pre post scope method = .unverified := by
  simp [kind, classifyTransition, h]

open Classical in
lemma kind_eq {pre post : CandidateIntegrityManifest} (hpre : IsManifest pre.entries)
    (hpost : IsManifest post.entries) (hcpre : entryIncomplete pre.entries = false)
    (hcpost : entryIncomplete post.entries = false) (scope : DeclaredRepairScope)
    (method : MutationMethod) :
    kind pre post scope method =
      if ∀ p, sideValue pre.entries p = sideValue post.entries p then .semanticallyEquivalent
      else if Judged scope method ∧ ∀ p, sideValue pre.entries p ≠ sideValue post.entries p →
        passesScope post.entries (freezeDeclaredScope (some scope)) p = true
      then .expectedScopedChange else .scopeExpansion := by
  obtain ⟨preMap, hpreMap, hpreGet⟩ := get?_candidateSideMap hpre hcpre
  obtain ⟨postMap, hpostMap, hpostGet⟩ := get?_candidateSideMap hpost hcpost
  have hequal : mapsEqual preMap postMap = true ↔ ∀ p, sideValue pre.entries p = sideValue post.entries p := by
    rw [mapsEqual_iff]
    simp only [hpreGet, hpostGet]
  simp only [kind, classifyTransition, hcpre, hcpost, Bool.false_eq_true, or_self, if_false, hpreMap, hpostMap]
  by_cases hagree : ∀ p, sideValue pre.entries p = sideValue post.entries p
  · rw [if_pos (hequal.2 hagree), if_pos hagree]
  · rw [if_neg (fun h => hagree (hequal.1 h)), if_neg hagree]
    have hout : ((mapDiffPaths preMap postMap).filter fun p =>
          !passesScope post.entries (freezeDeclaredScope (some scope)) p) = [] ↔
        ∀ p, sideValue pre.entries p ≠ sideValue post.entries p →
          passesScope post.entries (freezeDeclaredScope (some scope)) p = true := by
      rw [filter_eq_nil_iff]
      simp [mem_mapDiffPaths, hpreGet, hpostGet]
    simp only [classifyDelta, Judged, ← hout, List.isEmpty_iff]
    split
    · simp_all
    · split
      · simp_all
      · split <;> simp_all

lemma differs_ne_empty {pre post : List CanonicalPatchRecord} (hpre : IsManifest pre)
    (hpost : IsManifest post) (h : sideValue pre p ≠ sideValue post p) : p ≠ "" := by
  have hempty : ∀ {entries : List CanonicalPatchRecord}, IsManifest entries → sideValue entries "" = none := by
    intro entries hm
    have hfind : entries.find? (·.path = "") = none := by
      rw [find?_eq_none]
      intro e he hp
      exact (hm.normalized e he).2 (by simpa using hp)
    have hany : (entries.any fun e => e.oldPath = some "") = false := by
      rw [any_eq_false]
      intro e he hold
      exact (hm.sources e he "" (by simpa using hold)).2.2 rfl
    simp only [sideValue, hfind, hany, Bool.false_eq_true, if_false]
  rintro rfl
  exact h ((hempty hpre).trans (hempty hpost).symm)

/-! ## Soundness -/

/-- A path that has to be in the scope: its content differs, or it is an end of a rename that has an
end whose content differs. -/
def Needed (pre post : List CanonicalPatchRecord) (q : String) : Prop :=
  contentOf pre q ≠ contentOf post q ∨ ∃ e ∈ pre ++ post, e.status = .renamed ∧ q ∈ e.ends ∧
      ∃ p ∈ e.ends, contentOf pre p ≠ contentOf post p

/-- The classification of two manifests is right, and the order of the entries does not matter. -/
structure SoundAt (pre post : CandidateIntegrityManifest) (scope : DeclaredRepairScope)
    (method : MutationMethod) : Prop where
  equivalent : (classifyTransition (some pre) (some post) scope method).classification = .semanticallyEquivalent →
    ∀ p, contentOf pre.entries p = contentOf post.entries p
  inScope : (classifyTransition (some pre) (some post) scope method).classification = .expectedScopedChange →
    ∀ q, Needed pre.entries post.entries q → pathInScope q (freezeDeclaredScope (some scope)) = true
  order : ∀ preEntries postEntries, pre.entries.Perm preEntries → post.entries.Perm postEntries →
    (classifyTransition (some { pre with entries := preEntries })
      (some { post with entries := postEntries }) scope method).classification =
    (classifyTransition (some pre) (some post) scope method).classification

/-- Every record about a differing path is within the scope, and so is what the check does not look
at: the sources of copies that the maps hide, and the renames with an end that differs. -/
structure WithinScope (pre post : List CanonicalPatchRecord) (scope : DeclaredRepairScope) : Prop where
  looked : ∀ p, sideValue pre p ≠ sideValue post p → ∀ paths ∈ looks post p, allInScope scope paths = true
  hidden : ∀ p, sideValue pre p = sideValue post p → copyOnly pre p ≠ copyOnly post p → pathInScope p scope = true
  renames : ∀ e ∈ pre ++ post, e.status = .renamed →
    (∃ p ∈ e.ends, contentOf pre p ≠ contentOf post p) → allInScope scope e.ends = true

/-- Some differing path has no record within the scope. -/
def Outside (pre post : List CanonicalPatchRecord) (scope : DeclaredRepairScope) : Prop :=
  ∃ p, sideValue pre p ≠ sideValue post p ∧ ∀ paths ∈ looks post p, allInScope scope paths = false

/-- The copies and the order of the records do not mislead the comparison. -/
def NotMisled (pre post : List CanonicalPatchRecord) (scope : DeclaredRepairScope)
    (method : MutationMethod) : Prop :=
  entryIncomplete pre = true ∨ entryIncomplete post = true ∨
    (∀ p, sideValue pre p = sideValue post p) ∧ (∀ p, copyOnly pre p = copyOnly post p) ∨
    (∃ p, sideValue pre p ≠ sideValue post p) ∧
      (¬Judged scope method ∨ Outside pre post (freezeDeclaredScope (some scope)) ∨
        WithinScope pre post (freezeDeclaredScope (some scope)))

section Pair

variable {pre post : CandidateIntegrityManifest} (hpre : IsManifest pre.entries)
  (hpost : IsManifest post.entries) (hcpre : entryIncomplete pre.entries = false)
  (hcpost : entryIncomplete post.entries = false) {scope : DeclaredRepairScope}
  {method : MutationMethod}

include hpre hpost

variable {postEntries : List CanonicalPatchRecord}

lemma passes_iff_of_perm (hrecords : Outside pre.entries post.entries (freezeDeclaredScope (some scope)) ∨
      ∀ p, sideValue pre.entries p ≠ sideValue post.entries p →
        ∀ paths ∈ looks post.entries p, allInScope (freezeDeclaredScope (some scope)) paths = true) (hperm : post.entries.Perm postEntries) :
    (∀ p, sideValue pre.entries p ≠ sideValue post.entries p →
        passesScope postEntries (freezeDeclaredScope (some scope)) p = true) ↔
      ∀ p, sideValue pre.entries p ≠ sideValue post.entries p →
        passesScope post.entries (freezeDeclaredScope (some scope)) p = true := by
  rcases hrecords with ⟨p, hdiffers, hall⟩ | hall
  · -- the path that fails in every order
    have hne := differs_ne_empty hpre hpost hdiffers
    have hfail := passesScope_of_forall hpost hne hall
    have hfail' := passesScope_of_forall (hpost.perm hperm) hne
      fun paths hpaths => hall paths ((mem_looks_perm hperm).2 hpaths)
    constructor
    · intro h
      exact absurd (h p hdiffers) (by simp [hfail'])
    · intro h
      exact absurd (h p hdiffers) (by simp [hfail])
  · constructor
    · intro _ p hdiffers
      exact passesScope_of_forall hpost (differs_ne_empty hpre hpost hdiffers) (hall p hdiffers)
    · intro _ p hdiffers
      exact passesScope_of_forall (hpost.perm hperm) (differs_ne_empty hpre hpost hdiffers)
        fun paths hpaths => hall p hdiffers paths ((mem_looks_perm hperm).2 hpaths)

omit hpre in
lemma exists_perm_passes (scope : DeclaredRepairScope) : ∃ postEntries, post.entries.Perm postEntries ∧ ∀ p, p ≠ "" →
      (∃ paths ∈ looks post.entries p, allInScope scope paths = true) → passesScope postEntries scope p = true := by
  let good (e : CanonicalPatchRecord) : Bool := allInScope scope e.ends
  refine ⟨post.entries.filter good ++ post.entries.filter (fun e => !good e), (filter_append_perm _ _).symm, ?_⟩
  intro p hp hexists
  have hperm := (filter_append_perm good post.entries).symm
  obtain ⟨paths, hpaths, hin⟩ := hexists
  rcases mem_looks.1 hpaths with ⟨e, he, htouch, rfl⟩ | ⟨hnone, rfl⟩
  · -- the first record about the path is one of the good ones
    have hhead : ∃ e', (post.entries.filter good).find? (·.touches p) = some e' := by
      have hsome : ((post.entries.filter good).find? (·.touches p)).isSome = true := by
        rw [find?_isSome]
        exact ⟨e, mem_filter.2 ⟨he, hin⟩, htouch⟩
      exact Option.isSome_iff_exists.1 hsome
    obtain ⟨e', hfind⟩ := hhead
    obtain ⟨hpost', hgood⟩ := mem_filter.1 (mem_of_find?_eq_some hfind)
    have htouch' : e'.touches p = true := by simpa using find?_some hfind
    have hcheck := passes_record hpost hpost' ((touches_iff hpost hpost' hp).1 htouch') scope
    rw [passesScope, find?_append, hfind]
    simpa [hgood, good] using hcheck
  · apply passesScope_of_forall (hpost.perm hperm) hp
    intro paths hpaths'
    rcases mem_looks.1 ((mem_looks_perm hperm).2 hpaths') with ⟨e, he, htouch, -⟩ | ⟨-, rfl⟩
    · simp [hnone e he] at htouch
    · exact hin

omit hpre in
lemma exists_perm_fails {scope : DeclaredRepairScope} (hp : p ≠ "") (hpaths : paths ∈ looks post.entries p)
    (hout : allInScope scope paths = false) :
    ∃ postEntries, post.entries.Perm postEntries ∧ passesScope postEntries scope p = false := by
  rcases mem_looks.1 hpaths with ⟨e, he, htouch, rfl⟩ | ⟨hnone, rfl⟩
  · refine ⟨e :: post.entries.erase e, perm_cons_erase he, ?_⟩
    have hcheck := passes_record hpost he ((touches_iff hpost he hp).1 htouch) scope
    have hfind : (e :: post.entries.erase e).find? (·.touches p) = some e := by simp [htouch]
    rw [passesScope, hfind]
    exact hcheck.trans hout
  · refine ⟨post.entries, .refl _, passesScope_of_forall hpost hp ?_⟩
    intro paths hpaths'
    rcases mem_looks.1 hpaths' with ⟨e, he, htouch, -⟩ | ⟨-, rfl⟩
    · simp [hnone e he] at htouch
    · exact hout

include hcpre hcpost

open Classical in
lemma kind_perm {preEntries : List CanonicalPatchRecord}
    (hperm : pre.entries.Perm preEntries) (hperm' : post.entries.Perm postEntries)
    (scope : DeclaredRepairScope) (method : MutationMethod) :
    kind { pre with entries := preEntries } { post with entries := postEntries } scope method =
      if ∀ p, sideValue pre.entries p = sideValue post.entries p then .semanticallyEquivalent
      else if Judged scope method ∧ ∀ p, sideValue pre.entries p ≠ sideValue post.entries p →
        passesScope postEntries (freezeDeclaredScope (some scope)) p = true
      then .expectedScopedChange else .scopeExpansion := by
  have hside : sideValue preEntries = sideValue pre.entries := funext fun p => (sideValue_perm hpre hperm p).symm
  have hside' : sideValue postEntries = sideValue post.entries := funext fun p => (sideValue_perm hpost hperm' p).symm
  rw [@kind_eq { pre with entries := preEntries } { post with entries := postEntries }
    (hpre.perm hperm) (hpost.perm hperm') ((entryIncomplete_perm hperm).symm.trans hcpre)
    ((entryIncomplete_perm hperm').symm.trans hcpost)]
  simp only [hside, hside']

lemma looks_inScope_of_order (hdiffers : ¬∀ p, sideValue pre.entries p = sideValue post.entries p)
    (hjudged : Judged scope method) (hnot : ¬Outside pre.entries post.entries (freezeDeclaredScope (some scope)))
    (horder : ∀ postEntries, post.entries.Perm postEntries →
      kind pre { post with entries := postEntries } scope method = kind pre post scope method) :
    ∀ p, sideValue pre.entries p ≠ sideValue post.entries p → ∀ paths ∈ looks post.entries p,
      allInScope (freezeDeclaredScope (some scope)) paths = true := by
  have hkind : ∀ postEntries, post.entries.Perm postEntries →
      (kind pre { post with entries := postEntries } scope method = .expectedScopedChange ↔
        ∀ p, sideValue pre.entries p ≠ sideValue post.entries p →
          passesScope postEntries (freezeDeclaredScope (some scope)) p = true) := by
    intro postEntries hperm
    rw [kind_perm hpre hpost hcpre hcpost (.refl _) hperm, if_neg hdiffers]
    simp [hjudged]
  intro p hp paths hpaths
  obtain ⟨good, hgoodPerm, hgood⟩ := exists_perm_passes hpost (freezeDeclaredScope (some scope))
  have hexpected : kind pre { post with entries := good } scope method = .expectedScopedChange := by
    refine (hkind good hgoodPerm).2 fun p' hp' => ?_
    refine hgood p' (differs_ne_empty hpre hpost hp') ?_
    by_contra hnone
    exact hnot ⟨p', hp', fun paths hpaths => by simpa using fun h => hnone ⟨paths, hpaths, h⟩⟩
  by_contra hout
  obtain ⟨bad, hbadPerm, hbad⟩ := exists_perm_fails hpost (differs_ne_empty hpre hpost hp) hpaths
    (by simpa using hout)
  have hbadKind : kind pre { post with entries := bad } scope method = .expectedScopedChange := by
    rw [horder bad hbadPerm, ← horder good hgoodPerm, hexpected]
  exact absurd ((hkind bad hbadPerm).1 hbadKind p hp) (by simp [hbad])

lemma needed_inScope_iff {frozen : DeclaredRepairScope}
    (hlooked : ∀ p, sideValue pre.entries p ≠ sideValue post.entries p →
      ∀ paths ∈ looks post.entries p, allInScope frozen paths = true) :
    (∀ q, Needed pre.entries post.entries q → pathInScope q frozen = true) ↔
      WithinScope pre.entries post.entries frozen := by
  constructor
  · intro h
    refine ⟨hlooked, fun p hagree hcopy => h p (.inl ?_), fun e he hstatus hends => ?_⟩
    · exact (contentOf_ne_iff hpre hpost hcpre hcpost hagree).2 hcopy
    · exact all_eq_true.2 fun q hq => h q (.inr ⟨e, he, hstatus, hq, hends⟩)
  · rintro ⟨-, hhidden, hrenames⟩ q (hq | ⟨e, he, hstatus, hq, hends⟩)
    · by_cases hagree : sideValue pre.entries q = sideValue post.entries q
      · exact hhidden q hagree ((contentOf_ne_iff hpre hpost hcpre hcpost hagree).1 hq)
      · -- whatever is looked at for a path contains the path
        obtain ⟨paths, hpaths, hmem⟩ : ∃ paths ∈ looks post.entries q, q ∈ paths := by
          by_cases hnone : ∀ e ∈ post.entries, e.touches q = false
          · exact ⟨[q], mem_looks.2 (.inr ⟨hnone, rfl⟩), by simp⟩
          · obtain ⟨e, he, htouch⟩ : ∃ e ∈ post.entries, e.touches q = true := by simpa using hnone
            exact ⟨e.ends, mem_looks.2 (.inl ⟨e, he, htouch, rfl⟩),
              (touches_iff hpost he (differs_ne_empty hpre hpost hagree)).1 htouch⟩
        exact all_eq_true.1 (hlooked q hagree paths hpaths) q hmem
    · exact all_eq_true.1 (hrenames e he hstatus hends) q hq

lemma soundAt_iff_of_complete : SoundAt pre post scope method ↔
      (∀ p, sideValue pre.entries p = sideValue post.entries p) ∧
        (∀ p, copyOnly pre.entries p = copyOnly post.entries p) ∨
      (∃ p, sideValue pre.entries p ≠ sideValue post.entries p) ∧
        (¬Judged scope method ∨ Outside pre.entries post.entries (freezeDeclaredScope (some scope)) ∨
          WithinScope pre.entries post.entries (freezeDeclaredScope (some scope))) := by
  classical
  have hkind := kind_eq hpre hpost hcpre hcpost scope method
  by_cases hagree : ∀ p, sideValue pre.entries p = sideValue post.entries p
  · rw [if_pos hagree] at hkind
    have hcontent : (∀ p, contentOf pre.entries p = contentOf post.entries p) ↔
        ∀ p, copyOnly pre.entries p = copyOnly post.entries p :=
      forall_congr' fun p =>
        not_iff_not.1 (contentOf_ne_iff hpre hpost hcpre hcpost (hagree p))
    constructor
    · intro h
      exact .inl ⟨hagree, hcontent.1 (h.equivalent hkind)⟩
    · rintro (⟨-, hcopy⟩ | ⟨⟨p, hp⟩, -⟩)
      · refine ⟨fun _ => hcontent.2 hcopy, fun h => ?_, fun preEntries postEntries hperm hperm' => ?_⟩
        · exact absurd (hkind.symm.trans h) (by decide)
        · refine (kind_perm hpre hpost hcpre hcpost hperm hperm' scope method).trans ?_
          rw [if_pos hagree]
          exact hkind.symm
      · exact absurd (hagree p) hp
  · rw [if_neg hagree] at hkind
    have hdiffers : ∃ p, sideValue pre.entries p ≠ sideValue post.entries p := by simpa using hagree
    constructor
    · intro h
      refine .inr ⟨hdiffers, ?_⟩
      by_cases hjudged : Judged scope method
      · by_cases hout : Outside pre.entries post.entries (freezeDeclaredScope (some scope))
        · exact .inr (.inl hout)
        · have hlooked := looks_inScope_of_order hpre hpost hcpre hcpost hagree hjudged hout
            fun postEntries hperm => h.order pre.entries postEntries (.refl _) hperm
          refine .inr (.inr ((needed_inScope_iff hpre hpost hcpre hcpost hlooked).1 ?_))
          refine h.inScope (hkind.trans (if_pos ⟨hjudged, fun p hp => ?_⟩))
          exact passesScope_of_forall hpost (differs_ne_empty hpre hpost hp) (hlooked p hp)
      · exact .inl hjudged
    · rintro (⟨h, -⟩ | ⟨-, hcases⟩)
      · exact absurd h hagree
      · refine ⟨fun h => ?_, fun h => ?_, fun preEntries postEntries hperm hperm' => ?_⟩
        · rw [show (classifyTransition (some pre) (some post) scope method).classification = _ from hkind] at h
          split at h <;> exact absurd h (by decide)
        · rw [show (classifyTransition (some pre) (some post) scope method).classification = _ from hkind] at h
          have hpass := of_not_not fun hn => absurd ((if_neg hn).symm.trans h) (by decide)
          rcases hcases with hjudged | ⟨p, hp, hall⟩ | hwithin
          · exact absurd hpass.1 hjudged
          · have hfail := passesScope_of_forall hpost (differs_ne_empty hpre hpost hp) hall
            exact absurd (hpass.2 p hp) (by simp [hfail])
          · exact (needed_inScope_iff hpre hpost hcpre hcpost hwithin.looked).2 hwithin
        · refine (kind_perm hpre hpost hcpre hcpost hperm hperm' scope method).trans ?_
          refine Eq.trans ?_ hkind.symm
          rw [if_neg hagree]
          rcases hcases with hjudged | hrecords
          · simp [hjudged]
          · have hsame := passes_iff_of_perm hpre hpost
              (hrecords.imp_right WithinScope.looked) hperm'
            exact if_congr (and_congr_right fun _ => hsame) rfl rfl

end Pair

/-- The classification is right and does not depend on the order exactly where neither a copy nor a
second record about a path misleads it. -/
theorem soundAt_iff {pre post : CandidateIntegrityManifest} (hpre : IsManifest pre.entries)
    (hpost : IsManifest post.entries) (scope : DeclaredRepairScope) (method : MutationMethod) :
    SoundAt pre post scope method ↔ NotMisled pre.entries post.entries scope method := by
  by_cases hincomplete : entryIncomplete pre.entries = true ∨ entryIncomplete post.entries = true
  · have hkind := kind_of_incomplete hincomplete scope method
    have hsound : SoundAt pre post scope method := by
      refine ⟨fun h => ?_, fun h => ?_, fun preEntries postEntries hperm hperm' => ?_⟩
      · exact absurd (hkind.symm.trans h) (by decide)
      · exact absurd (hkind.symm.trans h) (by decide)
      · refine (kind_of_incomplete ?_ scope method).trans hkind.symm
        rwa [← entryIncomplete_perm hperm, ← entryIncomplete_perm hperm']
    exact ⟨fun _ => hincomplete.imp_right .inl, fun _ => hsound⟩
  · simp only [not_or, Bool.not_eq_true] at hincomplete
    obtain ⟨hcpre, hcpost⟩ := hincomplete
    rw [soundAt_iff_of_complete hpre hpost hcpre hcpost]
    simp [NotMisled, hcpre, hcpost]

def copyOfA : CandidateIntegrityManifest where
  entries := [{ path := "b", status := .copied, oldPath := some "a", baseBlob := some "9daeafb9"
                candidateBlob := some "9daeafb9" }]

def moveOfA : CandidateIntegrityManifest where
  entries := [{ path := "a", status := .deleted, baseBlob := some "9daeafb9" },
    { path := "b", status := .added, candidateBlob := some "9daeafb9" }]

lemma IsManifest.of_bool
    (hnodup : (entries.map (·.path)).Nodup)
    (h : (entries.all fun e => normalizeRepoPath e.path = e.path && e.path ≠ "" &&
      e.candidateBlob ≠ some deleteMarker && e.oldPath.all fun old =>
        e.isMove && normalizeRepoPath old = old && old ≠ "") = true) : IsManifest entries := by
  simp only [all_eq_true, Bool.and_eq_true, decide_eq_true_eq] at h
  refine ⟨hnodup, fun e he => (h e he).1.1, fun e he old hold => ?_, fun e he => (h e he).1.2⟩
  have hsource := (h e he).2
  rw [hold] at hsource
  simpa [and_assoc] using hsource

lemma isManifest_copyOfA : IsManifest copyOfA.entries := .of_bool (by decide) (by decide +kernel)

lemma isManifest_moveOfA : IsManifest moveOfA.entries := .of_bool (by decide) (by decide +kernel)

/-- A change of `b` with only `a` declared is beyond the scope, in every order. -/
theorem change_outside_scope_sound :
    SoundAt moveOfA { entries := [{ path := "b", status := .added, candidateBlob := some "01" }] }
      { paths := ["a"] } .conflictRepair :=
  (soundAt_iff isManifest_moveOfA (.of_bool (by decide) (by decide +kernel)) _ _).2
    (.inr (.inr (.inr ⟨⟨"b", by decide +kernel⟩, .inr (.inl ⟨"b", by decide +kernel, by decide +kernel⟩)⟩)))

/-- A copy and a move are called equivalent, though the source stays in one and goes in the other. -/
theorem copy_then_move_equivalent :
    ¬∀ pre post : CandidateIntegrityManifest, IsManifest pre.entries → IsManifest post.entries →
      ∀ scope method, SoundAt pre post scope method := by
  intro h
  have hsound := (h copyOfA moveOfA isManifest_copyOfA isManifest_moveOfA {} .rebase).equivalent
    (by decide +kernel) "a"
  exact absurd hsound (by decide +kernel)

end AgentPipeline.Integrity
