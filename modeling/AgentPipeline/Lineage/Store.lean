import AgentPipeline.Lineage.Schema

/-!
# Store: one file for each record of the lineage graph

A record is written to a file that is named after its id. The characters that a file name cannot hold
become underscores, so two ids can share a file.

* `upsertNode`, `listLineage`: writing a record, and reading all of them back;
* `Keeps`: the records that are listed are the last ones of each id;
* `keeps_iff`: they are just when no two ids share a file and each of them is in normal form.
-/

namespace AgentPipeline.Lineage

open List JsText

/-! ## The store -/

def safeId (id : String) : String :=
  String.ofList (id.toList.map fun c => if c = '/' || c = '\\' || c = ':' then '_' else c)

/-- The file name of `nodeFilePath(repoDir, nodeId)`. -/
def nodeFileName (nodeId : String) : String := safeId nodeId ++ ".json"

/-- The node directory: what `JSON.parse` gives of each file. The index is a file of another directory,
and so are the edges. -/
structure LineageStore where
  nodes : JsObject Json

def LineageStore.empty : LineageStore where
  nodes := .empty

inductive UpsertAction where
  | written | replaced
deriving DecidableEq, Repr

structure UpsertResult where
  action : UpsertAction
  id : String
deriving DecidableEq, Repr

/-- `upsertNode(repoDir, node)`, when the file operations succeed. -/
def upsertNode (store : LineageStore) (node : LineageNode) : UpsertResult × LineageStore :=
  let fileName := nodeFileName node.nodeId
  (⟨if (store.nodes.get? fileName).isSome then .replaced else .written, node.nodeId⟩,
    ⟨store.nodes.set fileName node.toJson.printed⟩)

/-- The store after a sequence of calls. -/
def upsertAll (store : LineageStore) (nodes : List LineageNode) : LineageStore :=
  nodes.foldl (fun store node => (upsertNode store node).2) store

/-! ## Listing -/

structure ListLineageOpts where
  retentionDays : Option ℚ := none
  includeExpired : Bool := false
  now : Option Instant := none
  domain : Option String := none
  runId : Option String := none

def defaultLineageRetentionDays : ℚ := 365

structure StoreDiagnostic where
  code : String
  message : String
  fileName : String
deriving DecidableEq, Repr

structure ListLineageResult where
  nodes : List LineageNode
  diagnostics : List StoreDiagnostic

section Listing

variable (host : NodeHost) (env : Artifact.ProcessEnv)

/-- `isWithinRetention(record, retentionDays, now)`. -/
def isWithinRetention (observedAt : Option String) (retentionDays : ℚ) (now : Instant) : Bool :=
  retentionDays ≤ 0 || match (observedAt.filter (· ≠ "")).bind host.dateParse with
    | none => true
    | some t => (now.ms : ℚ) - retentionDays * 24 * 60 * 60 * 1000 ≤ t.ms

/-- The filters of a listing. -/
def isListed (opts : ListLineageOpts) (today : Instant) (node : LineageNode) : Bool :=
  (opts.includeExpired ||
      isWithinRetention host node.provenance.observedAt (opts.retentionDays.getD defaultLineageRetentionDays)
        (opts.now.getD today)) &&
    (opts.domain.filter (· ≠ "")).all (node.domain = ·) &&
    (opts.runId.filter (· ≠ "")).all fun runId =>
      !(((Json.obj node.identity).textAt "run_id" ≠ some runId) && node.nodeType = .run)

/-- One file of the listing; `none` is an exception. -/
def listFile (opts : ListLineageOpts) (today : Instant) (file : String × Json) : Option ListLineageResult :=
  match validateLineageNode host env file.2 with
  | .node node => some ⟨if isListed host opts today node then [node] else [], []⟩
  | .invalid _ => some ⟨[], [⟨"lineage_node_invalid", "failed schema validation", file.1⟩]⟩
  | .throws => none

/-- `listLineage(repoDir, opts)`, with the node directory in place. -/
def listLineage (store : LineageStore) (opts : ListLineageOpts) (today : Instant) :
    Option ListLineageResult := do
  let files := store.nodes.entries.filter fun file => ".json".toList.isSuffixOf file.1.toList
  let listed ← files.mapM (listFile host env opts today)
  return ⟨listed.flatMap (·.nodes), listed.flatMap (·.diagnostics)⟩

end Listing

/-! ## What is kept -/

/-- The last record that was upserted under its id. -/
def IsLast (nodes : List LineageNode) (node : LineageNode) : Prop :=
  nodes.reverse.find? (fun other => other.nodeId = node.nodeId) = some node

/-- The records that are listed are the last ones of each id, each of them once. -/
structure Keeps (nodes : List LineageNode) (listed : Option ListLineageResult) : Prop where
  listed : ∃ result, listed = some result ∧
    (∀ node, node ∈ result.nodes ↔ IsLast nodes node) ∧ (result.nodes.map (·.nodeId)).Nodup

/-- No two ids share a file, and the last record of each id is in normal form. -/
structure Separate (host : NodeHost) (env : Artifact.ProcessEnv) (nodes : List LineageNode) : Prop where
  apart : ∀ a ∈ nodes, ∀ b ∈ nodes, safeId a.nodeId = safeId b.nodeId → a.nodeId = b.nodeId
  normal : ∀ node, IsLast nodes node → NormalForm host env node

/-! ## Files -/

lemma get?_upsertAll (nodes : List LineageNode) (fileName : String) :
    (upsertAll .empty nodes).nodes.get? fileName =
      (nodes.reverse.find? fun node => nodeFileName node.nodeId = fileName).map
        fun node => node.toJson.printed := by
  have hfold : ∀ store : LineageStore, (upsertAll store nodes).nodes =
      nodes.foldl (fun files node => files.set (nodeFileName node.nodeId) node.toJson.printed)
        store.nodes := by
    induction nodes with
    | nil => exact fun _ => rfl
    | cons node nodes ih => exact fun store => ih (upsertNode store node).2
  rw [hfold, JsObject.get?_foldl_set (fun node : LineageNode => nodeFileName node.nodeId)
    fun node => node.toJson.printed]
  simp [LineageStore.empty]

lemma nodeFileName_inj {a b : String} : nodeFileName a = nodeFileName b ↔ safeId a = safeId b := by
  rw [nodeFileName, nodeFileName, ← String.toList_inj, ← String.toList_inj]
  simp

variable {file : String × Json}

lemma suffix_of_mem {nodes : List LineageNode} (h : file ∈ (upsertAll .empty nodes).nodes.entries) :
    ".json".toList.isSuffixOf file.1.toList = true := by
  have hget := get?_upsertAll nodes file.1
  rw [JsObject.get?_eq_some_iff.2 h] at hget
  obtain ⟨node, hnode, -⟩ := Option.map_eq_some_iff.1 hget.symm
  have hname : nodeFileName node.nodeId = file.1 := by simpa using find?_some hnode
  rw [← hname, nodeFileName, String.toList_append]
  exact isSuffixOf_iff_suffix.2 (suffix_append _ _)

/-! ## Listings -/

variable {node : LineageNode}

section Listing

variable {host : NodeHost} {env : Artifact.ProcessEnv} {today : Instant}

/-- The options of a listing of everything. -/
def everything : ListLineageOpts := { includeExpired := true }

lemma isListed_everything (node : LineageNode) : isListed host everything today node = true := rfl

variable {result : ListLineageResult}

lemma mem_listFile_iff (h : listFile host env everything today file = some result) (node : LineageNode) :
    node ∈ result.nodes ↔ validateLineageNode host env file.2 = .node node := by
  unfold listFile at h
  split at h
  · next found hfound =>
    rw [← Option.some.inj h, hfound, isListed_everything]
    simp [eq_comm]
  · next hfound =>
    rw [← Option.some.inj h, hfound]
    simp
  · cases h

lemma length_listFile_le {opts : ListLineageOpts}
    (h : listFile host env opts today file = some result) : result.nodes.length ≤ 1 := by
  unfold listFile at h
  split at h
  · rw [← Option.some.inj h]
    dsimp only
    split <;> simp
  · rw [← Option.some.inj h]
    simp
  · cases h

lemma listLineage_everything {nodes : List LineageNode} :
    listLineage host env (upsertAll .empty nodes) everything today = some result ↔ ∃ listed : List ListLineageResult,
        (upsertAll .empty nodes).nodes.entries.map (listFile host env everything today) = listed.map some ∧
        result = ⟨listed.flatMap (·.nodes), listed.flatMap (·.diagnostics)⟩ := by
  have hall : (upsertAll .empty nodes).nodes.entries.filter
      (fun file => ".json".toList.isSuffixOf file.1.toList) = (upsertAll .empty nodes).nodes.entries :=
    filter_eq_self.2 fun file hfile => suffix_of_mem hfile
  simp only [listLineage, hall, ← Lists.mapM_eq_some_iff]
  cases (upsertAll .empty nodes).nodes.entries.mapM (listFile host env everything today) with
  | none => simp
  | some listed => simp [eq_comm]

lemma mem_listed_iff {nodes : List LineageNode}
    (h : listLineage host env (upsertAll .empty nodes) everything today = some result) (node : LineageNode) :
    node ∈ result.nodes ↔ ∃ fileName content, (upsertAll .empty nodes).nodes.get? fileName = some content ∧
      validateLineageNode host env content = .node node := by
  obtain ⟨listed, hlisted, rfl⟩ := listLineage_everything.1 h
  simp only [mem_flatMap, JsObject.get?_eq_some_iff]
  constructor
  · rintro ⟨one, hone, hnode⟩
    have hmem : some one ∈ listed.map some := mem_map_of_mem hone
    rw [← hlisted] at hmem
    obtain ⟨file, hfile, hread⟩ := mem_map.1 hmem
    exact ⟨file.1, file.2, hfile, (mem_listFile_iff hread node).1 hnode⟩
  · rintro ⟨fileName, content, hfile, hnode⟩
    have hmem : listFile host env everything today (fileName, content) ∈ listed.map some := by
      rw [← hlisted]
      exact mem_map_of_mem hfile
    obtain ⟨one, hone, hread⟩ := mem_map.1 hmem
    exact ⟨one, hone, (mem_listFile_iff hread.symm node).2 hnode⟩

lemma nodup_listed {files : List (String × Json)} {listed : List ListLineageResult}
    (hlisted : files.map (listFile host env everything today) = listed.map some) (hfiles : (files.map Prod.fst).Nodup)
    (hnames : ∀ file ∈ files, ∀ node, validateLineageNode host env file.2 = .node node →
      nodeFileName node.nodeId = file.1) : ((listed.flatMap (·.nodes)).map (·.nodeId)).Nodup := by
  have hsub : ((listed.flatMap (·.nodes)).map fun node => nodeFileName node.nodeId).Sublist
      (files.map Prod.fst) := by
    clear hfiles
    induction files generalizing listed with
    | nil =>
      obtain rfl : listed = [] := by simpa using hlisted.symm
      exact List.Sublist.slnil
    | cons file files ih =>
      cases listed with
      | nil => simp at hlisted
      | cons one listed =>
        obtain ⟨hread, hrest⟩ := List.cons.inj hlisted
        have hsub := ih hrest fun file hfile => hnames file (mem_cons_of_mem _ hfile)
        rw [flatMap_cons, map_append, map_cons]
        match hnodes : one.nodes, length_listFile_le hread with
        | [], _ => exact hsub.cons _
        | [node], _ =>
          have hvalid := (mem_listFile_iff hread node).1 (by rw [hnodes]; simp)
          have hname := hnames file mem_cons_self node hvalid
          rw [map_singleton, hname]
          exact hsub.cons_cons _
        | _ :: _ :: _, hlength => simp at hlength
  have hnodup : (((listed.flatMap (·.nodes)).map (·.nodeId)).map nodeFileName).Nodup := by
    rw [map_map]
    exact hfiles.sublist hsub
  exact hnodup.of_map _

/-! ## Ids -/

lemma textAt_node_id (node : LineageNode) : node.toJson.printed.textAt "node_id" = some node.nodeId := by
  rw [Json.textAt_printed]
  rfl

lemma nodeId_of_read {read : LineageNode}
    (h : validateLineageNode host env node.toJson.printed = .node read) : read.nodeId = trim node.nodeId := by
  unfold validateLineageNode at h
  split at h
  · split at h
    · cases h
    split at h
    · next nodeType _ _ =>
      rw [← Reading.node.inj h]
      simp only [nodeOf]
      rw [textAt_node_id]
      rfl
    · cases h
  · cases h

end Listing

/-! ## Issued ids -/

variable {localKey : String}

section Issued

variable {host : NodeHost}

lemma assertDomain_ok {domain d : String} (h : assertDomain host domain = .ok d) : d ≠ "" ∧ trim d = d := by
  unfold assertDomain at h
  dsimp only at h
  split at h
  · cases h
  next hempty =>
    split at h
    · cases h
    · cases h
      simp only [Bool.or_eq_true, decide_eq_true_eq, not_or] at hempty
      exact ⟨hempty.1, trim_trim domain⟩

lemma assertLocalKey_ok {kind key : String} (h : assertLocalKey host localKey kind = .ok key) :
    key ≠ "" ∧ trim key = key := by
  unfold assertLocalKey at h
  dsimp only at h
  split at h
  · cases h
  · next hempty =>
    cases h
    simp only [Bool.or_eq_true, decide_eq_true_eq, not_or] at hempty
    exact ⟨hempty.1, trim_trim localKey⟩

lemma trim_append {d middle tail : String} (hd : d ≠ "") (htrim : trim d = d) (htail : tail ≠ "")
    (hlast : ∀ c ∈ tail.toList.getLast?, isSpace c = false) : trim (d ++ middle ++ tail) = d ++ middle ++ tail := by
  have hhead : d.toList ≠ [] := fun hnil => hd (String.toList_eq_nil_iff.1 hnil)
  have hend : tail.toList ≠ [] := fun hnil => htail (String.toList_eq_nil_iff.1 hnil)
  refine trim_eq_self_iff.2 ⟨fun c hc => ?_, fun c hc => ?_⟩
  · rw [String.toList_append, String.toList_append, append_assoc, head?_append_of_ne_nil _ hhead] at hc
    exact (trim_eq_self_iff.1 htrim).1 c hc
  · rw [String.toList_append, getLast?_append_of_ne_nil _ hend] at hc
    exact hlast c hc

lemma encodeLocalId_last (hne : localKey ≠ "") (htrim : trim localKey = localKey) :
    encodeLocalId localKey ≠ "" ∧ ∀ c ∈ (encodeLocalId localKey).toList.getLast?, isSpace c = false := by
  rcases eq_nil_or_concat localKey.toList with hnil | ⟨cs, last, hcs⟩
  · exact absurd (String.toList_eq_nil_iff.1 hnil) hne
  have hlast : isSpace last = false := (trim_eq_self_iff.1 htrim).2 last (by rw [hcs]; simp)
  have hsplit : ∃ front, ∃ c, (encodeLocalId localKey).toList = front ++ [c] ∧ isSpace c = false := by
    simp only [encodeLocalId, String.toList_ofList, hcs, concat_eq_append, flatMap_append, flatMap_singleton]
    split
    · exact ⟨_, '5', (append_assoc _ "%2".toList ['5']).symm, by decide⟩
    split
    · exact ⟨_, 'F', (append_assoc _ "%2".toList ['F']).symm, by decide⟩
    split
    · exact ⟨_, 'C', (append_assoc _ "%5".toList ['C']).symm, by decide⟩
    · exact ⟨_, last, rfl, hlast⟩
  obtain ⟨front, c, hfront, hc⟩ := hsplit
  refine ⟨fun hempty => ?_, fun c' hc' => ?_⟩
  · rw [hempty] at hfront
    simp at hfront
  · rw [hfront] at hc'
    obtain rfl : c = c' := by simpa using hc'
    exact hc

lemma trim_of_issued {id : String} (h : Issued host id) : trim id = id := by
  have hkind : ∀ {kind domain localKey : String}, resolveKindId host kind domain localKey = .ok id → trim id = id := by
    intro kind domain localKey h
    unfold resolveKindId at h
    cases hdomain : assertDomain host domain with
    | error e => simp [hdomain, bind, Except.bind] at h
    | ok d =>
      cases hkey : assertLocalKey host localKey kind with
      | error e => simp [hdomain, hkey, bind, Except.bind] at h
      | ok key =>
        obtain ⟨hd, htrim⟩ := assertDomain_ok hdomain
        obtain ⟨hne, hkeyTrim⟩ := assertLocalKey_ok hkey
        have hid : d ++ ("::" ++ kind ++ ":") ++ key = id := by
          simpa [hdomain, hkey, bind, Except.bind, pure, Except.pure, String.append_assoc] using h
        rw [← hid]
        exact trim_append hd htrim hne (trim_eq_self_iff.1 hkeyTrim).2
  cases h with
  | component h => exact hkind h
  | capability h => exact hkind h
  | artifact h =>
    next domain nodeType localId =>
    unfold makeDomainNodeId at h
    cases hdomain : assertDomain host domain with
    | error e => simp [hdomain, bind, Except.bind] at h
    | ok d =>
      obtain ⟨hd, htrim⟩ := assertDomain_ok hdomain
      simp only [hdomain, bind, Except.bind] at h
      split at h
      · cases h
      · next hempty =>
        simp only [Bool.or_eq_true, decide_eq_true_eq, not_or] at hempty
        obtain ⟨hne, hlast⟩ := encodeLocalId_last hempty.1 (trim_trim localId)
        have hid : d ++ ("::" ++ nodeType ++ ":") ++ encodeLocalId (trim localId) = id := by
          simpa [pure, Except.pure, String.append_assoc] using h
        rw [← hid]
        exact trim_append hd htrim hne hlast

end Issued

/-! ## Keeping every record -/

section Keeping

variable {host : NodeHost} {env : Artifact.ProcessEnv} {today : Instant} {nodes : List LineageNode}

lemma mem_of_isLast (h : IsLast nodes node) : node ∈ nodes := mem_reverse.1 (mem_of_find?_eq_some h)

lemma exists_isLast (h : node ∈ nodes) : ∃ last, IsLast nodes last ∧ last.nodeId = node.nodeId := by
  cases hfind : nodes.reverse.find? fun other => other.nodeId = node.nodeId with
  | none =>
    have hno := find?_eq_none.1 hfind node (mem_reverse.2 h)
    simp at hno
  | some last =>
    have hid : last.nodeId = node.nodeId := by simpa using find?_some hfind
    exact ⟨last, by rw [IsLast, hid]; exact hfind, hid⟩

lemma isLast_of_file {fileName : String}
    (h : nodes.reverse.find? (fun other => nodeFileName other.nodeId = fileName) = some node) :
    IsLast nodes node := by
  obtain ⟨hname, front, back, hsplit, hfirst⟩ := find?_eq_some_iff_append.1 h
  refine find?_eq_some_iff_append.2 ⟨by simp, front, back, hsplit, fun other hother => ?_⟩
  have hne := hfirst other hother
  simp only [decide_eq_true_eq] at hname
  simp only [Bool.not_eq_true', decide_eq_false_iff_not] at hne ⊢
  exact fun hid => hne (by rw [hid, hname])

lemma get?_file_of_isLast (hapart : ∀ a ∈ nodes, ∀ b ∈ nodes,
      safeId a.nodeId = safeId b.nodeId → a.nodeId = b.nodeId) (h : IsLast nodes node) :
    (upsertAll .empty nodes).nodes.get? (nodeFileName node.nodeId) = some node.toJson.printed := by
  have hfind : nodes.reverse.find? (fun other => nodeFileName other.nodeId = nodeFileName node.nodeId) =
      some node := by
    obtain ⟨-, front, back, hsplit, hfirst⟩ := find?_eq_some_iff_append.1 h
    refine find?_eq_some_iff_append.2 ⟨by simp, front, back, hsplit, fun other hother => ?_⟩
    have hmem : other ∈ nodes := by
      rw [← mem_reverse, hsplit]
      exact mem_append_left _ hother
    have hne := hfirst other hother
    simp only [Bool.not_eq_true', decide_eq_false_iff_not] at hne ⊢
    exact fun hname => hne (hapart other hmem node (mem_of_isLast h) (nodeFileName_inj.1 hname))
  rw [get?_upsertAll, hfind]
  rfl

lemma exists_isLast_of_get? {fileName : String} {content : Json}
    (h : (upsertAll .empty nodes).nodes.get? fileName = some content) :
    ∃ node, IsLast nodes node ∧ nodeFileName node.nodeId = fileName ∧ content = node.toJson.printed := by
  rw [get?_upsertAll] at h
  obtain ⟨node, hfind, rfl⟩ := Option.map_eq_some_iff.1 h
  exact ⟨node, isLast_of_file hfind, by simpa using find?_some hfind, rfl⟩

lemma keeps_of_separate (h : Separate host env nodes) :
    Keeps nodes (listLineage host env (upsertAll .empty nodes) everything today) := by
  have hfiles : ∀ file ∈ (upsertAll .empty nodes).nodes.entries, ∃ node, IsLast nodes node ∧
      nodeFileName node.nodeId = file.1 ∧ validateLineageNode host env file.2 = .node node := by
    intro file hfile
    obtain ⟨node, hlast, hname, hcontent⟩ := exists_isLast_of_get? (JsObject.get?_eq_some_iff.2 hfile)
    exact ⟨node, hlast, hname, by rw [hcontent]; exact (readsBack_iff host env node).2 (h.normal node hlast)⟩
  have hreads : ∀ file ∈ (upsertAll .empty nodes).nodes.entries,
      ∃ one, listFile host env everything today file = some one := by
    intro file hfile
    obtain ⟨node, -, -, hvalid⟩ := hfiles file hfile
    exact ⟨_, by rw [listFile, hvalid]⟩
  obtain ⟨listed, hlisted⟩ : ∃ listed : List ListLineageResult,
      (upsertAll .empty nodes).nodes.entries.map (listFile host env everything today) = listed.map some := by
    refine ⟨(upsertAll .empty nodes).nodes.entries.filterMap (listFile host env everything today), ?_⟩
    rw [map_filterMap]
    generalize (upsertAll .empty nodes).nodes.entries = files at hreads
    induction files with
    | nil => rfl
    | cons file files ih =>
      obtain ⟨one, hone⟩ := hreads file mem_cons_self
      have hrest := ih fun file hfile => hreads file (mem_cons_of_mem _ hfile)
      rw [map_cons, filterMap_cons_some (b := some one) (by rw [hone]; rfl), hrest, hone]
  have hlisting := listLineage_everything.2 ⟨listed, hlisted, rfl⟩
  refine ⟨_, hlisting, fun node => ?_, ?_⟩
  · rw [mem_listed_iff hlisting]
    constructor
    · rintro ⟨fileName, content, hget, hvalid⟩
      obtain ⟨last, hlast, -, hread⟩ := hfiles _ (JsObject.get?_eq_some_iff.1 hget)
      rw [hvalid] at hread
      rw [Reading.node.inj hread]
      exact hlast
    · intro hlast
      exact ⟨_, _, get?_file_of_isLast h.apart hlast, (readsBack_iff host env node).2 (h.normal node hlast)⟩
  · refine nodup_listed hlisted (upsertAll .empty nodes).nodes.nodup fun file hfile node hvalid => ?_
    obtain ⟨last, -, hname, hread⟩ := hfiles file hfile
    rw [hvalid] at hread
    rw [Reading.node.inj hread]
    exact hname

/-- The store keeps the last record of each id just when no two ids share a file and each of these records
is in normal form. -/
theorem keeps_iff (hissued : ∀ node ∈ nodes, Issued host node.nodeId) :
    Keeps nodes (listLineage host env (upsertAll .empty nodes) everything today) ↔ Separate host env nodes := by
  refine ⟨?_, keeps_of_separate⟩
  rintro ⟨result, hlisting, hmem, -⟩
  -- the record of an id is what its own file reads as
  have hown : ∀ node, IsLast nodes node → ∃ stored, IsLast nodes stored ∧ stored.nodeId = node.nodeId ∧
      (upsertAll .empty nodes).nodes.get? (nodeFileName node.nodeId) = some stored.toJson.printed ∧
      validateLineageNode host env stored.toJson.printed = .node node := by
    intro node hlast
    obtain ⟨fileName, content, hget, hvalid⟩ := (mem_listed_iff hlisting node).1 ((hmem node).2 hlast)
    obtain ⟨stored, hstored, hname, rfl⟩ := exists_isLast_of_get? hget
    have hid : node.nodeId = stored.nodeId :=
      (nodeId_of_read hvalid).trans (trim_of_issued (hissued stored (mem_of_isLast hstored)))
    exact ⟨stored, hstored, hid.symm, by rw [hid, hname]; exact hget, hvalid⟩
  constructor
  · intro a ha b hb hsafe
    obtain ⟨lastA, hlastA, hidA⟩ := exists_isLast ha
    obtain ⟨lastB, hlastB, hidB⟩ := exists_isLast hb
    obtain ⟨storedA, -, hstoredA, hgetA, -⟩ := hown lastA hlastA
    obtain ⟨storedB, -, hstoredB, hgetB, -⟩ := hown lastB hlastB
    have hname : nodeFileName lastA.nodeId = nodeFileName lastB.nodeId := by
      rw [hidA, hidB, nodeFileName_inj.2 hsafe]
    have hcontent : storedA.toJson.printed = storedB.toJson.printed := by
      rw [hname, hgetB] at hgetA
      exact (Option.some.inj hgetA).symm
    have htext := congrArg (·.textAt "node_id") hcontent
    have hstored : storedA.nodeId = storedB.nodeId := by
      simpa only [textAt_node_id, Option.some_inj] using htext
    rw [← hidA, ← hidB, ← hstoredA, ← hstoredB, hstored]
  · intro node hlast
    obtain ⟨stored, hstored, hid, -, hvalid⟩ := hown node hlast
    have heq : stored = node := by
      rw [IsLast, hid, hlast] at hstored
      exact (Option.some.inj hstored).symm
    rw [heq] at hvalid
    exact (readsBack_iff host env node).1 hvalid

end Keeping

/-! ## Paths that share a file -/

def firstDay : NodeHost := .onFirstDay [] []

/-- A component that nothing else is known of. -/
def componentAt (localKey : String) : LineageNode where
  nodeId := "shop::component:" ++ localKey
  nodeType := .component
  domain := "shop"
  revision := "1"
  contentHash := none
  componentId := .value ("shop::component:" ++ localKey)
  capabilityId := .null
  summary := none
  identity := [("local_key", .str localKey)]
  provenance := ⟨"lineage", none⟩
  ownership := .null
  decisionStatus := .absent

lemma issued_componentAt
    (h : (resolveComponentId firstDay "shop" localKey).toOption = some (componentAt localKey).nodeId) :
    Issued firstDay (componentAt localKey).nodeId := by
  cases hid : resolveComponentId firstDay "shop" localKey with
  | error e => simp [hid, Except.toOption] at h
  | ok id =>
    rw [hid] at h
    exact .component (hid.trans (congrArg Except.ok (Option.some.inj h)))

/-- Two components, and a second record of one of them. -/
def replacedComponents : List LineageNode :=
  [componentAt "core", componentAt "web", { componentAt "core" with revision := "2" }]

theorem keeps_component :
    Keeps replacedComponents (listLineage firstDay [] (upsertAll .empty replacedComponents) everything .epoch) := by
  have hissued : ∀ node ∈ replacedComponents, Issued firstDay node.nodeId := by
    intro node hnode
    simp only [replacedComponents, mem_cons, not_mem_nil, or_false] at hnode
    rcases hnode with rfl | rfl | rfl
    · exact issued_componentAt (by decide +kernel)
    · exact issued_componentAt (by decide +kernel)
    · exact issued_componentAt (by decide +kernel)
  have hlast : ∀ node, IsLast replacedComponents node →
      node = componentAt "web" ∨ node = { componentAt "core" with revision := "2" } := by
    intro node hnode
    have hmem := mem_of_isLast hnode
    simp only [replacedComponents, mem_cons, not_mem_nil, or_false] at hmem
    rcases hmem with rfl | hlater
    · -- the first record of the component was replaced
      have hrevision := congrArg (Option.map (·.revision)) hnode
      exact absurd hrevision (by decide +kernel)
    · exact hlater
  refine (keeps_iff hissued).2 ⟨by decide +kernel, fun node hnode => ?_⟩
  rcases hlast node hnode with rfl | rfl
  all_goals exact {
    nodeId := ⟨isTrimmed_iff.2 (by decide +kernel), by decide +kernel⟩
    domain := ⟨isTrimmed_iff.2 (by decide +kernel), by decide +kernel⟩
    revision := isTrimmed_iff.2 (by decide +kernel)
    componentId := isRead_iff.2 (by decide +kernel)
    capabilityId := isRead_iff.2 (by decide +kernel)
    summary := fun _ htext => by cases htext
    identity := by decide +kernel
    commit := fun htype => by cases htype
    run := fun htype => by cases htype
    producer := isTrimmed_iff.2 (by decide +kernel)
    ownership := isRead_isFinite_iff.2 rfl
    decisionStatus := by decide +kernel }

/-- The record of a path is lost when another path has an underscore where this one has a slash. -/
theorem path_overwritten :
    (∀ node ∈ [componentAt "core/scripts", componentAt "core_scripts"], Issued firstDay node.nodeId) ∧
      ¬Keeps [componentAt "core/scripts", componentAt "core_scripts"]
        (listLineage firstDay [] (upsertAll .empty [componentAt "core/scripts", componentAt "core_scripts"])
          everything .epoch) := by
  constructor
  · intro node hnode
    rcases mem_pair.1 hnode with rfl | rfl
    · exact issued_componentAt (by decide +kernel)
    · exact issued_componentAt (by decide +kernel)
  · rintro ⟨result, hlisting, hmem, -⟩
    have hids : (some result).map (fun result => result.nodes.map (·.nodeId)) =
        some ["shop::component:core_scripts"] :=
      (congrArg (Option.map fun result => result.nodes.map (·.nodeId)) hlisting).symm.trans
        (by decide +kernel)
    have hnodes : result.nodes.map (·.nodeId) = ["shop::component:core_scripts"] := Option.some.inj hids
    have hlast : IsLast [componentAt "core/scripts", componentAt "core_scripts"]
        (componentAt "core/scripts") := by
      have hother : (componentAt "core_scripts").nodeId ≠ (componentAt "core/scripts").nodeId := by
        decide +kernel
      simp only [IsLast, reverse_cons, reverse_nil, nil_append, cons_append,
        find?_cons, hother, decide_false, decide_true]
    have hlisted : (componentAt "core/scripts").nodeId ∈ result.nodes.map (·.nodeId) :=
      mem_map_of_mem ((hmem _).2 hlast)
    rw [hnodes] at hlisted
    exact absurd hlisted (by decide)

end AgentPipeline.Lineage
