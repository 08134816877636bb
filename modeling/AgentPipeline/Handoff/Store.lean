import AgentPipeline.Handoff.Answers

/-!
# Store: the handoffs of an issue over a sequence of calls

Handoffs are files, named by their id. A question is created, or a pending one with the same
declaration identity is reused; it is answered; it is superseded by another one.

* `joinPath`: an id is a path, so two ids may name one file;
* `createAndPersistHandoff`, `answerAndPersistHandoff`, `supersedeAndPersistHandoff`;
* `Admits`: a new record gets a file of its own, and a replacement is not taken from another
  question;
* `lifecycle`: what then holds over every sequence of calls.
-/

namespace AgentPipeline.Handoff

open List

/-! ## Files -/

abbrev Path := List String

/-- The segments of a relative path. -/
def segments (rel : List Char) : List (List Char) := rel.splitOn '/'

/-- `path.join(dir, rel)`. -/
def joinPath (dir : Path) (rel : String) : Path :=
  (segments rel.toList).foldl
    (fun path segment =>
      if segment = [] ∨ segment = ['.'] then path
      else if segment = ['.', '.'] then path.dropLast
      else path ++ [String.ofList segment])
    dir

/-- The handoff files. -/
structure Store where
  files : List (Path × HumanQuestionHandoff) := []

variable {path : Path} {store : Store} {h : HumanQuestionHandoff}

namespace Store

def get (store : Store) (path : Path) : Option HumanQuestionHandoff := store.files.lookup path

def set (store : Store) (path : Path) (h : HumanQuestionHandoff) : Store where
  files := (path, h) :: store.files.filter fun file => file.1 ≠ path

def readdir (store : Store) (dir : Path) : List String :=
  store.files.filterMap fun file => if file.1.dropLast = dir then file.1.getLast? else none

lemma lookup_filter_ne {files : List (Path × HumanQuestionHandoff)} {path' : Path}
    (hne : path' ≠ path) :
    (files.filter fun file => decide (file.1 ≠ path)).lookup path' = files.lookup path' := by
  induction files with
  | nil => rfl
  | cons file files ih =>
    obtain ⟨p, h⟩ := file
    by_cases hp : p = path
    · have hother : (path' == p) = false := by simpa [hp] using hne
      rw [filter_cons_of_neg (by simp [hp]), ih, lookup_cons, hother]
    · rw [filter_cons_of_pos (by simp [hp]), lookup_cons, lookup_cons, ih]

lemma get_set (store : Store) (path : Path) (h : HumanQuestionHandoff) (path' : Path) :
    (store.set path h).get path' = if path' = path then some h else store.get path' := by
  simp only [get, set, lookup_cons]
  by_cases hpath : path' = path
  · simp [hpath]
  · have hne : (path' == path) = false := by simpa using hpath
    simp only [hne, if_neg hpath]
    exact lookup_filter_ne hpath

lemma mem_readdir {dir : Path} {name : String}
    (hget : store.get (dir ++ [name]) = some h) : name ∈ store.readdir dir := by
  obtain ⟨before, after, hfiles, -⟩ := lookup_eq_some_iff.1 hget
  refine mem_filterMap.2 ⟨(dir ++ [name], h), ?_, by simp⟩
  rw [hfiles]
  exact mem_append_right _ (mem_cons_self)

end Store

section Calls

variable {ρ : Type} (host : NodeHost) (dir : Path) (issue : JsNumber) (localeLe : String → String → Bool)
  (resolveAuthorizedApprover : ApproverResolutionInput ρ → Except String ApproverResolutionResult)

/-- `handoffRecordPath(repoDir, issue, id)`. -/
def recordPath (id : String) : Path := joinPath dir (id ++ ".json")

/-- `loadHandoff(repoDir, issue, id)`. -/
def loadHandoff (store : Store) (id : String) : Except String HumanQuestionHandoff :=
  match store.get (recordPath dir id) with
  | none => .error ("handoff not found: " ++ id)
  | some h => parseHumanQuestionHandoff host h.toJson

/-- `saveHandoff(repoDir, handoff)`; `none` where it throws. -/
def saveHandoff (store : Store) (h : HumanQuestionHandoff) : Option Store :=
  match parseHumanQuestionHandoff host h.toJson with
  | .error _ => none
  | .ok parsed => some (store.set (recordPath dir h.handoffId) parsed)

/-- `name.replace(/\.json$/, "")` of a name that ends so. -/
def idOfName (name : String) : Option String :=
  if ".json".toList.isSuffixOf name.toList ∧ name ≠ "audit.json" then
    some (String.ofList (name.toList.take (name.toList.length - 5)))
  else none

/-- `listHandoffs(repoDir, { issue, status: "pending" })`. -/
def pendingHandoffs (store : Store) : List HumanQuestionHandoff :=
  let loaded := (store.readdir dir).filterMap fun name =>
    (idOfName name).bind fun id => (loadHandoff host dir store id).toOption
  (loaded.filter (·.status = .pending)).insertionSort fun a b => localeLe a.createdAt b.createdAt

inductive CreateResult where
  | created (h : HumanQuestionHandoff) (reused : Bool)
  | failed (failure : CreateFailure)
  /-- The record could not be written. -/
  | threw

/-- The pending handoff that a new one with this identity is answered with. -/
def reusable (store : Store) (identity : Option String) : Option HumanQuestionHandoff :=
  if (identity.filter (· ≠ "")).isSome then
    (pendingHandoffs host dir localeLe store).find? (·.declarationIdentity = identity)
  else none

def createAndPersistHandoff (store : Store) (input : CreateHandoffInput) (nowIso freshId : String) :
    CreateResult × Store :=
  match canCreateHandoff host input nowIso freshId with
  | .error failure => (.failed failure, store)
  | .ok h =>
    match reusable host dir localeLe store h.declarationIdentity with
    | some m => (.created m true, store)
    | none =>
      match saveHandoff host dir store h with
      | none => (.threw, store)
      | some store' => (.created h false, store')

/-- `answerAndPersistHandoff(repoDir, issue, id, input)`; the hook, where there is one, has answered. -/
def answerAndPersistHandoff (store : Store) (id : String) (input : AnswerHandoffInput ρ)
    (nowIso : String) (hook : Option (Except AnswerCode Unit)) : Store :=
  match loadHandoff host dir store id with
  | .error _ => store
  | .ok h =>
    match applyHandoffAnswer host resolveAuthorizedApprover h input nowIso with
    | .recorded next =>
      match isGrillAnswer input h, hook with
      | true, some (.error _) => store
      | _, _ => (saveHandoff host dir store next).getD store
    | _ => store

inductive SupersedeResult where
  | ok (prior replacement : HumanQuestionHandoff)
  | failed
  | threw

/-- The replacement that an earlier call left. -/
def earlierReplacement (store : Store) (prior : HumanQuestionHandoff) : Option HumanQuestionHandoff :=
  if prior.status = .superseded then
    (prior.supersededBy.filter (· ≠ "")).bind fun id => (loadHandoff host dir store id).toOption
  else none

/-- The replaced handoff and its replacement are written, one after the other. -/
def persistLinked (store : Store) (prior replacement : HumanQuestionHandoff) :
    SupersedeResult × Store :=
  let linked := supersedeHandoff prior replacement
  match saveHandoff host dir store linked.1 with
  | none => (.threw, store)
  | some first =>
    match saveHandoff host dir first linked.2 with
    | none => (.threw, first)
    | some second => (.ok linked.1 linked.2, second)

/-- `supersedeAndPersistHandoff(repoDir, issue, priorId, replacementInput)`. -/
def supersedeAndPersistHandoff (store : Store) (priorId : String) (input : CreateHandoffInput)
    (nowIso freshId : String) : SupersedeResult × Store :=
  match loadHandoff host dir store priorId with
  | .error _ => (.failed, store)
  | .ok prior =>
    match earlierReplacement host dir store prior with
    | some replacement => (.ok prior replacement, store)
    | none =>
      match createAndPersistHandoff host dir localeLe store
        { input with issueNumber := issue, supersedes := some priorId } nowIso freshId with
      | (.failed _, store) => (.failed, store)
      | (.threw, store) => (.threw, store)
      | (.created h _, store) => persistLinked host dir store prior h

/-! ## Sequences of calls -/

inductive HandoffCall (ρ : Type) where
  | create (input : CreateHandoffInput) (nowIso freshId : String)
  | answer (id : String) (input : AnswerHandoffInput ρ) (nowIso : String)
      (hook : Option (Except AnswerCode Unit))
  | supersede (priorId : String) (input : CreateHandoffInput) (nowIso freshId : String)

/-- One call on the issue: what it creates carries the number of the issue, so that every record is in
one directory. -/
def callStep (store : Store) : HandoffCall ρ → Option Store
  | .create input nowIso freshId =>
    some (createAndPersistHandoff host dir localeLe store { input with issueNumber := issue }
      nowIso freshId).2
  | .answer id input nowIso hook =>
    some (answerAndPersistHandoff host dir resolveAuthorizedApprover store id input nowIso hook)
  | .supersede priorId input nowIso freshId =>
    some (supersedeAndPersistHandoff host dir issue localeLe store priorId input nowIso freshId).2

/-! ## Ids and files -/

/-- An id that is a file name of its own, and not the name that listings pass over. -/
def PlainId (id : String) : Prop := '/' ∉ id.toList ∧ id ≠ "audit"

variable {id : String}

lemma recordPath_plain (h : PlainId id) : recordPath dir id = dir ++ [id ++ ".json"] := by
  have hsplit : segments (id ++ ".json").toList = [(id ++ ".json").toList] := by
    rw [segments, List.splitOn]
    apply splitOnP_eq_singleton
    intro c hc
    simp only [String.toList_append, mem_append] at hc
    rcases hc with hc | hc
    · simp only [beq_eq_false_iff_ne, ne_eq]
      rintro rfl
      exact h.1 hc
    · have hext : c = '.' ∨ c = 'j' ∨ c = 's' ∨ c = 'o' ∨ c = 'n' := by simpa using hc
      rcases hext with rfl | rfl | rfl | rfl | rfl <;> decide
  have hlength : 5 ≤ (id ++ ".json").toList.length := by simp
  have hone : (id ++ ".json").toList ≠ [] ∧ (id ++ ".json").toList ≠ ['.'] ∧ (id ++ ".json").toList ≠ ['.', '.'] := by
    refine ⟨?_, ?_, ?_⟩ <;>
    · intro heq
      rw [heq] at hlength
      simp at hlength
  simp only [recordPath, joinPath, hsplit, foldl_cons, foldl_nil, hone.1, hone.2.1,
    hone.2.2, or_self, if_false, String.ofList_toList]

lemma recordPath_inj {id' : String} (h : PlainId id) (h' : PlainId id')
    (heq : recordPath dir id = recordPath dir id') : id = id' := by
  rw [recordPath_plain dir h, recordPath_plain dir h'] at heq
  have hname : id ++ ".json" = id' ++ ".json" := by simpa using heq
  have hlist := congrArg String.toList hname
  simp only [String.toList_append, append_cancel_right_eq] at hlist
  exact String.toList_injective hlist

lemma idOfName_plain (h : PlainId id) : idOfName (id ++ ".json") = some id := by
  have hsuffix : ".json".toList.isSuffixOf (id ++ ".json").toList = true := by
    rw [isSuffixOf_iff_suffix, String.toList_append]
    exact suffix_append _ _
  have hname : id ++ ".json" ≠ "audit.json" := by
    intro heq
    have hlist := congrArg String.toList heq
    have hsplit : "audit.json".toList = "audit".toList ++ ".json".toList := by decide
    rw [hsplit, String.toList_append, append_cancel_right_eq] at hlist
    exact h.2 (String.toList_injective hlist)
  rw [idOfName, if_pos ⟨hsuffix, hname⟩]
  simp

/-! ## The invariant -/

/-- The handoff of a file. -/
structure StoredOk (path : Path) (h : HumanQuestionHandoff) : Prop where
  plain : PlainId h.handoffId
  path : path = recordPath dir h.handoffId
  readable : parseHumanQuestionHandoff host h.toJson = .ok h
  identity : h.declarationIdentity ≠ some ""
  unanswered : h.status = .pending → h.answer = none

/-- The handoff that replaced a superseded one. -/
def Replaces (store : Store) (h replacement : HumanQuestionHandoff) : Prop :=
  h.supersededBy = some replacement.handoffId ∧ store.get (recordPath dir replacement.handoffId) = some replacement ∧
    replacement.supersedes = some h.handoffId ∧ replacement.handoffId ≠ h.handoffId

structure StoreInv (store : Store) : Prop where
  stored : ∀ path h, store.get path = some h → StoredOk host dir path h
  pending : ∀ path path' h h' identity, store.get path = some h → store.get path' = some h' →
    h.status = .pending → h'.status = .pending → h.declarationIdentity = some identity →
    h'.declarationIdentity = some identity → path = path'
  superseded : ∀ path h, store.get path = some h → h.status = .superseded →
    ∃ replacement, Replaces dir store h replacement

/-- From one moment to a later one: answers stay, and what is settled is not pending again. -/
def Progresses (before after : Store) : Prop :=
  ∀ path h, before.get path = some h → ∃ h', after.get path = some h' ∧
    (∀ a, h.answer = some a → h'.answer = some a) ∧ (h.status ≠ .pending → h'.status ≠ .pending)

variable {host dir localeLe}

lemma Progresses.refl (store : Store) : Progresses store store := fun _ h hget =>
  ⟨h, hget, fun _ ha => ha, fun hs => hs⟩

variable {s t : Store}

lemma Progresses.trans {u : Store} (h : Progresses s t) (h' : Progresses t u) : Progresses s u := by
  intro path x hx
  obtain ⟨y, hy, hanswer, hstatus⟩ := h path x hx
  obtain ⟨z, hz, hanswer', hstatus'⟩ := h' path y hy
  exact ⟨z, hz, fun a ha => hanswer' a (hanswer a ha), fun hs => hstatus' (hstatus hs)⟩

lemma progresses_set (hkeeps : ∀ old, store.get path = some old → (∀ a, old.answer = some a → h.answer = some a) ∧
      (old.status ≠ .pending → h.status ≠ .pending)) : Progresses store (store.set path h) := by
  intro path' x hx
  rw [Store.get_set]
  by_cases hpath : path' = path
  · subst hpath
    exact ⟨h, by simp, hkeeps x hx⟩
  · exact ⟨x, by simp [hpath, hx], fun _ ha => ha, fun hs => hs⟩

lemma load_eq_ok (hinv : StoreInv host dir store) (hload : loadHandoff host dir store id = .ok h) :
    store.get (recordPath dir id) = some h := by
  simp only [loadHandoff] at hload
  split at hload
  · cases hload
  · next h' hget =>
    have hreadable := (hinv.stored _ h' hget).readable
    cases hreadable.symm.trans hload
    exact hget

lemma load_of_stored (hinv : StoreInv host dir store) (hget : store.get path = some h) :
    loadHandoff host dir store h.handoffId = .ok h := by
  have hok := hinv.stored path h hget
  rw [hok.path] at hget
  simp only [loadHandoff, hget, hok.readable]

variable (localeLe) in
lemma mem_pendingHandoffs (hinv : StoreInv host dir store) (hget : store.get path = some h)
    (hstatus : h.status = .pending) : h ∈ pendingHandoffs host dir localeLe store := by
  have hok := hinv.stored path h hget
  have hload := load_of_stored hinv hget
  rw [hok.path, recordPath_plain dir hok.plain] at hget
  have hname := Store.mem_readdir hget
  refine (perm_insertionSort _ _).mem_iff.2 (mem_filter.2 ⟨?_, by simp [hstatus]⟩)
  refine mem_filterMap.2 ⟨h.handoffId ++ ".json", hname, ?_⟩
  simp [idOfName_plain hok.plain, hload, Except.toOption]

lemma reusable_eq_some (hinv : StoreInv host dir store) {identity : Option String}
    {m : HumanQuestionHandoff} (h : reusable host dir localeLe store identity = some m) :
    store.get (recordPath dir m.handoffId) = some m ∧ m.status = .pending ∧ m.declarationIdentity = identity := by
  simp only [reusable] at h
  split at h
  · have hmem := mem_of_find?_eq_some h
    have hidentity : m.declarationIdentity = identity := by simpa using find?_some h
    obtain ⟨hloaded, hstatus⟩ := mem_filter.1 ((perm_insertionSort _ _).mem_iff.1 hmem)
    obtain ⟨name, -, hname⟩ := mem_filterMap.1 hloaded
    obtain ⟨id, -, hload⟩ := Option.bind_eq_some_iff.1 hname
    have hok : loadHandoff host dir store id = .ok m := by
      cases hcase : loadHandoff host dir store id with
      | error e => simp [hcase, Except.toOption] at hload
      | ok h' =>
        simp only [hcase, Except.toOption, Option.some.injEq] at hload
        rw [hload]
    have hget := load_eq_ok hinv hok
    rw [(hinv.stored _ m hget).path] at hget
    exact ⟨hget, by simpa using hstatus, hidentity⟩
  · cases h

lemma StoreInv.congr (h : StoreInv host dir s) (heq : ∀ path, t.get path = s.get path) :
    StoreInv host dir t where
  stored path x hx := h.stored path x (by rw [← heq]; exact hx)
  pending path path' x x' identity hx hx' :=
    h.pending path path' x x' identity (by rw [← heq]; exact hx) (by rw [← heq]; exact hx')
  superseded path x hx hstatus := by
    obtain ⟨r, hby, hget, hrest⟩ := h.superseded path x (by rw [← heq]; exact hx) hstatus
    exact ⟨r, hby, by rw [heq]; exact hget, hrest⟩

lemma StoreInv.set (hinv : StoreInv host dir store) (hok : StoredOk host dir path h)
    (hpending : h.status = .pending → ∀ identity path' h', h.declarationIdentity = some identity →
      path' ≠ path → store.get path' = some h' → h'.status = .pending →
      h'.declarationIdentity ≠ some identity)
    (hown : h.status = .superseded → ∃ r, Replaces dir store h r ∧ recordPath dir r.handoffId ≠ path)
    (hreplaced : ∀ old, store.get path = some old → ∀ path' h', path' ≠ path →
      store.get path' = some h' → h'.status = .superseded → Replaces dir store h' old →
      h.supersedes = old.supersedes) :
    StoreInv host dir (store.set path h) where
  stored path' x hx := by
    rw [Store.get_set] at hx
    split at hx
    · next hpath =>
      cases hx
      exact hpath ▸ hok
    · exact hinv.stored path' x hx
  pending p p' x x' identity hx hx' hs hs' hi hi' := by
    rw [Store.get_set] at hx hx'
    split at hx
    · next hp =>
      split at hx'
      · next hp' => exact hp.trans hp'.symm
      · next hp' =>
        cases hx
        exact absurd hi' (hpending hs identity p' x' hi hp' hx' hs')
    · next hp =>
      split at hx'
      · cases hx'
        exact absurd hi (hpending hs' identity p x hi' hp hx hs)
      · exact hinv.pending p p' x x' identity hx hx' hs hs' hi hi'
  superseded p x hx hstatus := by
    rw [Store.get_set] at hx
    split at hx
    · next hp =>
      cases hx
      obtain ⟨r, ⟨hby, hget, hrest⟩, helse⟩ := hown hstatus
      exact ⟨r, hby, by rw [Store.get_set, if_neg helse]; exact hget, hrest⟩
    · next hp =>
      obtain ⟨r, hby, hget, hsupersedes, hne⟩ := hinv.superseded p x hx hstatus
      by_cases hr : recordPath dir r.handoffId = path
      · -- the replacement itself is written again
        have hold : store.get path = some r := hr ▸ hget
        have hid : h.handoffId = r.handoffId := recordPath_inj dir hok.plain
          (hinv.stored _ r hget).plain (hok.path.symm.trans hr.symm)
        have hkeeps := hreplaced r hold p x hp hx hstatus ⟨hby, hget, hsupersedes, hne⟩
        refine ⟨h, by rw [hid]; exact hby, ?_, by rw [hkeeps]; exact hsupersedes, by rw [hid]; exact hne⟩
        rw [hid, hr, Store.get_set, if_pos rfl]
      · exact ⟨r, hby, by rw [Store.get_set, if_neg hr]; exact hget, hsupersedes, hne⟩

/-! ## Creation -/

variable {input : CreateHandoffInput} {nowIso freshId : String}

lemma canCreate_eq_ok (hcreate : canCreateHandoff host input nowIso freshId = .ok h) :
    h = (createdHandoff input.forced nowIso freshId).normal ∧ parseHumanQuestionHandoff host h.toJson = .ok h := by
  simp only [canCreateHandoff] at hcreate
  split at hcreate
  · cases hcreate
  · split at hcreate
    · cases hcreate
    · next h' hparse =>
      cases hcreate
      exact parse_toJson hparse

lemma forced_fields (input : CreateHandoffInput) : input.forced.handoffId = input.handoffId ∧
      input.forced.declarationIdentity = input.declarationIdentity ∧ input.forced.supersedes = input.supersedes := by
  simp only [CreateHandoffInput.forced]
  split <;> exact ⟨rfl, rfl, rfl⟩

lemma created_fields (hcreate : canCreateHandoff host input nowIso freshId = .ok h) :
    h.handoffId = input.handoffId.getD freshId ∧ h.declarationIdentity = input.declarationIdentity ∧
      h.supersedes = input.supersedes ∧ h.status = .pending ∧ h.answer = none := by
  obtain ⟨rfl, -⟩ := canCreate_eq_ok hcreate
  obtain ⟨hid, hidentity, hsupersedes⟩ := forced_fields input
  refine ⟨?_, hidentity, hsupersedes, rfl, rfl⟩
  rw [← hid]
  rfl

variable (host dir localeLe) in
/-- A new record either reuses a pending one or gets a file of its own, which listings show; its
identity is not the empty text, which is never looked for. -/
def AdmitsNew (store : Store) (input : CreateHandoffInput) (freshId : String) : Prop :=
  (reusable host dir localeLe store input.declarationIdentity).isSome = true ∨
    PlainId (input.handoffId.getD freshId) ∧ store.get (recordPath dir (input.handoffId.getD freshId)) = none ∧
      input.declarationIdentity ≠ some ""

/-- What a creation leaves: the record is stored and pending, and only a new file was written. -/
structure CreateLeaves (host : NodeHost) (dir : Path) (localeLe : String → String → Bool)
    (store : Store) (input : CreateHandoffInput) (result : CreateResult × Store) : Prop where
  inv : StoreInv host dir result.2
  progresses : Progresses store result.2
  created : ∀ h reused, result.1 = .created h reused →
    result.2.get (recordPath dir h.handoffId) = some h ∧ h.status = .pending ∧
      (reused = true ∧ reusable host dir localeLe store input.declarationIdentity = some h ∧ result.2 = store ∨
        store.get (recordPath dir h.handoffId) = none ∧ h.supersedes = input.supersedes ∧
          result.2 = store.set (recordPath dir h.handoffId) h)

lemma create_leaves (nowIso : String) (hinv : StoreInv host dir store)
    (hadmits : AdmitsNew host dir localeLe store input freshId) : CreateLeaves host dir localeLe store input
      (createAndPersistHandoff host dir localeLe store input nowIso freshId) := by
  simp only [createAndPersistHandoff]
  split
  · exact ⟨hinv, .refl _, fun h reused hcase => by cases hcase⟩
  · next h hcreate =>
    obtain ⟨hid, hidentity, hsupersedes, hstatus, hanswer⟩ := created_fields hcreate
    have hreadable := (canCreate_eq_ok hcreate).2
    split
    · next m hreuse =>
      obtain ⟨hget, hpending, -⟩ := reusable_eq_some hinv hreuse
      refine ⟨hinv, .refl _, fun h' reused hcase => ?_⟩
      cases hcase
      exact ⟨hget, hpending, .inl ⟨rfl, by rw [← hidentity]; exact hreuse, rfl⟩⟩
    · next hnone =>
      have hfresh : PlainId h.handoffId ∧ store.get (recordPath dir h.handoffId) = none ∧
          h.declarationIdentity ≠ some "" := by
        rw [hid, hidentity]
        rw [hidentity] at hnone
        refine hadmits.resolve_left ?_
        simp [hnone]
      obtain ⟨hplain, hfree, hnamed⟩ := hfresh
      have hsave : saveHandoff host dir store h = some (store.set (recordPath dir h.handoffId) h) := by
        simp only [saveHandoff, hreadable]
      rw [hsave]
      refine ⟨?_, ?_, ?_⟩
      · refine hinv.set ⟨hplain, rfl, hreadable, hnamed, fun _ => hanswer⟩ ?_ ?_ ?_
        · -- a pending record of the identity would have been reused
          intro _ identity path' h' hi hne hget hs hi'
          have hmem := mem_pendingHandoffs localeLe hinv hget hs
          have hne' : identity ≠ "" := fun hempty => hnamed (hempty ▸ hi)
          have hfilter : (some identity).filter (fun x => decide (x ≠ "")) = some identity := by simp [hne']
          simp only [reusable, hi, hfilter, Option.isSome_some, if_true] at hnone
          have hnot := find?_eq_none.1 hnone h' hmem
          simp [hi'] at hnot
        · intro hcontra
          rw [hstatus] at hcontra
          cases hcontra
        · intro old hold
          rw [hfree] at hold
          cases hold
      · apply progresses_set
        intro old hold
        rw [hfree] at hold
        cases hold
      · intro h' reused hcase
        cases hcase
        refine ⟨by rw [Store.get_set, if_pos rfl], hstatus, .inr ⟨hfree, hsupersedes, rfl⟩⟩

/-! ## Answers -/

lemma answered_leaves {saved : Store} (hinv : StoreInv host dir store)
    (hget : store.get (recordPath dir h.handoffId) = some h)
    (hpending : h.status = .pending) {input : AnswerHandoffInput ρ} {evidence : String}
    (hsave : saveHandoff host dir store (answeredHandoff host h input evidence nowIso) = some saved) :
    StoreInv host dir saved ∧ Progresses store saved := by
  have hok := hinv.stored _ h hget
  simp only [saveHandoff] at hsave
  split at hsave
  · cases hsave
  · next parsed hparse =>
    obtain ⟨rfl, hreadable⟩ := parse_toJson hparse
    cases hsave
    have hstatus : (answeredHandoff host h input evidence nowIso).normal.status ≠ .pending ∧
        (answeredHandoff host h input evidence nowIso).normal.status ≠ .superseded := by
      simp only [HumanQuestionHandoff.normal, answeredHandoff]
      cases input.decision <;> simp
    constructor
    · refine hinv.set ⟨hok.plain, rfl, hreadable, hok.identity, fun hs => absurd hs hstatus.1⟩
        (fun hs => absurd hs hstatus.1) (fun hs => absurd hs hstatus.2) ?_
      intro old hold _ _ _ _ _ _
      obtain rfl : old = h := Option.some.inj (hold.symm.trans hget)
      rfl
    · apply progresses_set
      intro old hold
      obtain rfl : old = h := Option.some.inj (hold.symm.trans hget)
      refine ⟨fun a ha => ?_, fun hs => absurd hpending hs⟩
      rw [hok.unanswered hpending] at ha
      cases ha

lemma answer_leaves (hinv : StoreInv host dir store)
    {input : AnswerHandoffInput ρ} {hook : Option (Except AnswerCode Unit)} :
    StoreInv host dir (answerAndPersistHandoff host dir resolveAuthorizedApprover store id input nowIso hook) ∧
      Progresses store (answerAndPersistHandoff host dir resolveAuthorizedApprover store id input nowIso hook) := by
  simp only [answerAndPersistHandoff]
  split
  · exact ⟨hinv, .refl _⟩
  · next h hload =>
    have hget := load_eq_ok hinv hload
    have hok := hinv.stored _ h hget
    rw [hok.path] at hget
    split
    · next next happly =>
      obtain ⟨hpending, evidence, rfl⟩ := recorded_pending host _ happly
      split
      · exact ⟨hinv, .refl _⟩
      · cases hsave : saveHandoff host dir store (answeredHandoff host h input evidence nowIso) with
        | none => exact ⟨hinv, .refl _⟩
        | some saved => exact answered_leaves hinv hget hpending hsave
    · exact ⟨hinv, .refl _⟩

/-! ## Supersession -/

lemma normal_of_readable (hparse : parseHumanQuestionHandoff host h.toJson = .ok h) : h.normal = h :=
  ((parse_toJson hparse).1).symm

lemma readable_supersedes (hparse : parseHumanQuestionHandoff host h.toJson = .ok h) (prior : Option String) :
    parseHumanQuestionHandoff host { h with supersedes := prior }.toJson = .ok { h with supersedes := prior } := by
  obtain ⟨-, hproblems, -⟩ := parse_eq_ok.1 hparse
  have hsame : problems host { h with supersedes := prior }.toJson = problems host h.toJson := rfl
  refine parse_eq_ok.2 ⟨rfl, by rw [hsame]; exact hproblems, ?_⟩
  have hnormal : { h with supersedes := prior }.normal = { h.normal with supersedes := prior } := rfl
  rw [handoffOf_toJson, hnormal, normal_of_readable hparse]

/-- A stored handoff is superseded by another one that names it. -/
def Superseded (dir : Path) (store : Store) (priorId : String) : Prop :=
  ∃ prior replacement, store.get (recordPath dir priorId) = some prior ∧
    prior.status = .superseded ∧ Replaces dir store prior replacement

variable {priorId : String}

lemma Superseded.congr (h : Superseded dir s priorId)
    (heq : ∀ path, t.get path = s.get path) : Superseded dir t priorId := by
  obtain ⟨prior, replacement, hget, hstatus, hby, hreplacement, hrest⟩ := h
  exact ⟨prior, replacement, by rw [heq]; exact hget, hstatus, hby, by rw [heq]; exact hreplacement, hrest⟩

variable {prior : HumanQuestionHandoff}

lemma link_leaves (hinv : StoreInv host dir store)
    {replacement : HumanQuestionHandoff}
    (hprior : store.get (recordPath dir prior.handoffId) = some prior)
    (hget : store.get (recordPath dir replacement.handoffId) = some replacement)
    (hpending : replacement.status = .pending) (hne : replacement.handoffId ≠ prior.handoffId)
    (hfree : ∀ path h, store.get path = some h → h.status = .superseded →
      Replaces dir store h replacement → h.handoffId = prior.handoffId)
    (hreadable : parseHumanQuestionHandoff host (supersedeHandoff prior replacement).1.toJson =
      .ok (supersedeHandoff prior replacement).1) :
    let linked := (store.set (recordPath dir replacement.handoffId)
      (supersedeHandoff prior replacement).2).set (recordPath dir prior.handoffId)
        (supersedeHandoff prior replacement).1
    StoreInv host dir linked ∧ Progresses store linked ∧ Superseded dir linked prior.handoffId := by
  have hokPrior := hinv.stored _ prior hprior
  have hok := hinv.stored _ replacement hget
  have hpaths : recordPath dir replacement.handoffId ≠ recordPath dir prior.handoffId :=
    fun heq => hne (recordPath_inj dir hok.plain hokPrior.plain heq)
  have hlinked : (supersedeHandoff prior replacement).2 = { replacement with supersedes := some prior.handoffId } := by
    rw [supersedeHandoff, ← hpending]
  rw [hlinked]
  -- the replacement first: it stays pending, and replaces only the prior one
  have hfirst : StoreInv host dir (store.set (recordPath dir replacement.handoffId)
      { replacement with supersedes := some prior.handoffId }) := by
    refine hinv.set ⟨hok.plain, rfl, readable_supersedes hok.readable _, hok.identity, hok.unanswered⟩ ?_ ?_ ?_
    · intro _ identity path' h' hi hne' hget' hs' hi'
      exact hne' (hinv.pending path' _ h' replacement identity hget' hget hs' hpending hi' hi)
    · intro hcontra
      exact absurd (hpending.symm.trans hcontra) (by decide)
    · intro old hold path' h' _ hget' hs' hreplaces
      obtain rfl : old = replacement := Option.some.inj (hold.symm.trans hget)
      have hid := hfree path' h' hget' hs' hreplaces
      rw [hreplaces.2.2.1, hid]
  have hreplaces : Replaces dir (store.set (recordPath dir replacement.handoffId)
      { replacement with supersedes := some prior.handoffId }) (supersedeHandoff prior replacement).1
        { replacement with supersedes := some prior.handoffId } :=
    ⟨rfl, by rw [Store.get_set, if_pos rfl], rfl, hne⟩
  have hsame : (store.set (recordPath dir replacement.handoffId)
      { replacement with supersedes := some prior.handoffId }).get (recordPath dir prior.handoffId) = some prior := by
    rw [Store.get_set, if_neg (Ne.symm hpaths)]
    exact hprior
  refine ⟨?_, ?_, ?_⟩
  · refine hfirst.set ⟨hokPrior.plain, rfl, hreadable, hokPrior.identity, fun hs => by cases hs⟩
      (fun hs => by cases hs) (fun _ => ⟨_, hreplaces, hpaths⟩) ?_
    intro old hold _ _ _ _ _ _
    obtain rfl : old = prior := Option.some.inj (hold.symm.trans hsame)
    rfl
  · refine (progresses_set (h := { replacement with supersedes := some prior.handoffId }) ?_).trans
      (progresses_set ?_)
    · intro old hold
      obtain rfl : old = replacement := Option.some.inj (hold.symm.trans hget)
      exact ⟨fun _ ha => ha, fun hs => hs⟩
    · intro old hold
      obtain rfl : old = prior := Option.some.inj (hold.symm.trans hsame)
      exact ⟨fun _ ha => ha, fun _ hs => by cases hs⟩
  · refine ⟨_, _, by rw [Store.get_set, if_pos rfl], rfl, hreplaces.1, ?_, hreplaces.2.2⟩
    rw [Store.get_set, if_neg hpaths]
    exact hreplaces.2.1

variable (host dir localeLe) in
/-- The calls that give each new record a file of its own, and replace a question by a new one or by a
pending one that replaces no other. -/
def Admits (store : Store) : HandoffCall ρ → Prop
  | .create input _ freshId => AdmitsNew host dir localeLe store input freshId
  | .answer _ _ _ _ => True
  | .supersede priorId input _ freshId =>
    ∀ prior, loadHandoff host dir store priorId = .ok prior → earlierReplacement host dir store prior = none →
      AdmitsNew host dir localeLe store input freshId ∧
      ∀ m, reusable host dir localeLe store input.declarationIdentity = some m →
        m.handoffId ≠ prior.handoffId ∧ (m.supersedes = none ∨ m.supersedes = some prior.handoffId)

section

variable (hinv : StoreInv host dir store)
include hinv

section

variable (hprior : store.get (recordPath dir prior.handoffId) = some prior)
include hprior

lemma replacement_free {reused : Bool} {result : CreateResult × Store}
    (hleaves : CreateLeaves host dir localeLe store { input with issueNumber := issue, supersedes := some priorId } result)
    (hcreated : result.1 = .created h reused)
    (hreuse : ∀ m, reusable host dir localeLe store input.declarationIdentity = some m →
      m.handoffId ≠ prior.handoffId ∧ (m.supersedes = none ∨ m.supersedes = some prior.handoffId)) :
    h.handoffId ≠ prior.handoffId ∧ result.2.get (recordPath dir prior.handoffId) = some prior ∧
      ∀ path x, result.2.get path = some x → x.status = .superseded → Replaces dir result.2 x h →
        x.handoffId = prior.handoffId := by
  obtain ⟨-, hpending, ⟨-, hm, hstore⟩ | ⟨hnone, -, hstore⟩⟩ := hleaves.created h reused hcreated
  · obtain ⟨hne, hfree⟩ := hreuse h hm
    rw [hstore]
    refine ⟨hne, hprior, fun path x _ _ hreplaces => ?_⟩
    rcases hfree with hfree | hfree
    · exact absurd (hfree.symm.trans hreplaces.2.2.1) (by simp)
    · exact Option.some.inj (hreplaces.2.2.1.symm.trans hfree)
  · have hpath : recordPath dir prior.handoffId ≠ recordPath dir h.handoffId := by
      intro heq
      rw [heq, hnone] at hprior
      cases hprior
    refine ⟨fun heq => hpath (by rw [heq]), ?_, ?_⟩
    · rw [hstore, Store.get_set, if_neg hpath]
      exact hprior
    · -- no handoff of before names the new one
      intro path x hx hstatus hreplaces
      rw [hstore, Store.get_set] at hx
      split at hx
      · cases hx
        exact absurd (hpending.symm.trans hstatus) (by decide)
      · obtain ⟨r, hby, hget, -⟩ := hinv.superseded path x hx hstatus
        have hid : r.handoffId = h.handoffId := Option.some.inj (hby.symm.trans hreplaces.1)
        rw [hid, hnone] at hget
        cases hget

lemma persistLinked_leaves (hget : store.get (recordPath dir h.handoffId) = some h)
    (hpending : h.status = .pending) (hne : h.handoffId ≠ prior.handoffId)
    (hfree : ∀ path x, store.get path = some x → x.status = .superseded → Replaces dir store x h →
      x.handoffId = prior.handoffId) : StoreInv host dir (persistLinked host dir store prior h).2 ∧
      Progresses store (persistLinked host dir store prior h).2 ∧
      ∀ p q, (persistLinked host dir store prior h).1 = .ok p q →
        Superseded dir (persistLinked host dir store prior h).2 prior.handoffId := by
  have hokPrior := hinv.stored _ prior hprior
  have hok := hinv.stored _ h hget
  cases hfirst : parseHumanQuestionHandoff host (supersedeHandoff prior h).1.toJson with
  | error e =>
    simp only [persistLinked, saveHandoff, hfirst]
    exact ⟨hinv, .refl _, fun _ _ hcase => by cases hcase⟩
  | ok parsed =>
    have hnormal : (supersedeHandoff prior h).1.normal = (supersedeHandoff prior h).1 :=
      congrArg (fun x : HumanQuestionHandoff =>
        { x with status := .superseded, supersededBy := some h.handoffId })
        (normal_of_readable hokPrior.readable)
    obtain rfl : parsed = (supersedeHandoff prior h).1 := (parse_toJson hfirst).1.trans hnormal
    have hsecond : parseHumanQuestionHandoff host (supersedeHandoff prior h).2.toJson =
        .ok (supersedeHandoff prior h).2 := by
      have hlinked : (supersedeHandoff prior h).2 = { h with supersedes := some prior.handoffId } := by
        rw [supersedeHandoff, ← hpending]
      rw [hlinked]
      exact readable_supersedes hok.readable _
    simp only [persistLinked, saveHandoff, hfirst, hsecond]
    obtain ⟨hinv', hprogress, hsuperseded⟩ :=
      link_leaves hinv hprior hget hpending hne hfree hfirst
    -- the two files are written the other way round
    have hpaths : recordPath dir h.handoffId ≠ recordPath dir prior.handoffId :=
      fun heq => hne (recordPath_inj dir hok.plain hokPrior.plain heq)
    have hsame : ∀ path, ((store.set (recordPath dir prior.handoffId)
        (supersedeHandoff prior h).1).set (recordPath dir h.handoffId) (supersedeHandoff prior h).2).get path =
        ((store.set (recordPath dir h.handoffId) (supersedeHandoff prior h).2).set
          (recordPath dir prior.handoffId) (supersedeHandoff prior h).1).get path := by
      intro path
      simp only [Store.get_set]
      by_cases hp : path = recordPath dir h.handoffId
      · simp [hp, hpaths]
      · simp [hp]
    refine ⟨hinv'.congr hsame, ?_, fun _ _ _ => hsuperseded.congr hsame⟩
    intro path x hx
    obtain ⟨y, hy, hkeeps⟩ := hprogress path x hx
    exact ⟨y, (hsame path).trans hy, hkeeps⟩

end

lemma supersede_leaves (hadmits : Admits (ρ := ρ) host dir localeLe store (.supersede priorId input nowIso freshId)) :
    let result := supersedeAndPersistHandoff host dir issue localeLe store priorId input nowIso freshId
    StoreInv host dir result.2 ∧ Progresses store result.2 ∧
      ∀ prior replacement, result.1 = .ok prior replacement → Superseded dir result.2 priorId := by
  intro result
  simp only [result, supersedeAndPersistHandoff]
  split
  · exact ⟨hinv, .refl _, fun _ _ hcase => by cases hcase⟩
  · next prior hload =>
    have hgetPath := load_eq_ok hinv hload
    have hpath := (hinv.stored _ prior hgetPath).path
    have hprior : store.get (recordPath dir prior.handoffId) = some prior := by
      rw [← hpath]
      exact hgetPath
    split
    · next replacement hearlier =>
      refine ⟨hinv, .refl _, fun _ _ _ => ?_⟩
      have hstatus : prior.status = .superseded := by
        by_contra hnot
        simp [earlierReplacement, hnot] at hearlier
      obtain ⟨r, hr⟩ := hinv.superseded _ prior hgetPath hstatus
      exact ⟨prior, r, hgetPath, hstatus, hr⟩
    · next hearlier =>
      obtain ⟨hnew, hreuse⟩ := hadmits prior hload hearlier
      let linked : CreateHandoffInput :=
        { input with issueNumber := issue, supersedes := some priorId }
      have hlinked : AdmitsNew host dir localeLe store linked freshId := hnew
      have hleaves := create_leaves nowIso hinv hlinked
      split
      · next after hresult =>
        rw [hresult] at hleaves
        exact ⟨hleaves.inv, hleaves.progresses, fun _ _ hcase => by cases hcase⟩
      · next after hresult =>
        rw [hresult] at hleaves
        exact ⟨hleaves.inv, hleaves.progresses, fun _ _ hcase => by cases hcase⟩
      · next h reused after hresult =>
        rw [hresult] at hleaves
        obtain ⟨hget, hpending, -⟩ := hleaves.created h reused rfl
        obtain ⟨hne, hstill, hfree⟩ := replacement_free issue hinv hprior hleaves rfl hreuse
        obtain ⟨hinv', hprogress, hsuperseded⟩ :=
          persistLinked_leaves hleaves.inv hstill hget hpending hne hfree
        refine ⟨hinv', hleaves.progresses.trans hprogress, fun p q hcase => ?_⟩
        obtain ⟨x, y, hx, hrest⟩ := hsuperseded p q hcase
        exact ⟨x, y, by rw [hpath]; exact hx, hrest⟩

end

lemma callStep_leaves {store' : Store} {call : HandoffCall ρ}
    (hadmits : Admits host dir localeLe store call) (hinv : StoreInv host dir store)
    (hstep : callStep host dir issue localeLe resolveAuthorizedApprover store call = some store') :
    StoreInv host dir store' ∧ Progresses store store' := by
  cases call with
  | create input nowIso freshId =>
    cases hstep
    have hnew : AdmitsNew host dir localeLe store { input with issueNumber := issue } freshId := hadmits
    have hleaves := create_leaves nowIso hinv hnew
    exact ⟨hleaves.inv, hleaves.progresses⟩
  | answer id input nowIso hook =>
    cases hstep
    exact answer_leaves resolveAuthorizedApprover hinv
  | supersede priorId input nowIso freshId =>
    cases hstep
    have hleaves := supersede_leaves issue hinv hadmits
    exact ⟨hleaves.1, hleaves.2.1⟩

lemma storeInv_empty : StoreInv host dir {} where
  stored _ _ h := by cases h
  pending _ _ _ _ _ h := by cases h
  superseded _ _ h := by cases h

/-- In every sequence of admitted calls a recorded answer stays, what is settled is not pending again, no
two pending handoffs share a declaration identity, and a supersession that returns ok leaves the prior
superseded by another stored handoff that names it. -/
theorem lifecycle {before after : List (HandoffCall ρ)} {s t : Store}
    (hs : Transition.Run (callStep host dir issue localeLe resolveAuthorizedApprover)
      (Admits host dir localeLe) {} before s)
    (ht : Transition.Run (callStep host dir issue localeLe resolveAuthorizedApprover)
      (Admits host dir localeLe) s after t) :
    Progresses s t ∧ (∀ path path' h h' identity, t.get path = some h → t.get path' = some h' →
        h.status = .pending → h'.status = .pending → h.declarationIdentity = some identity →
        h'.declarationIdentity = some identity → path = path') ∧
      ∀ priorId input nowIso freshId prior replacement,
        Admits (ρ := ρ) host dir localeLe t (.supersede priorId input nowIso freshId) →
        (supersedeAndPersistHandoff host dir issue localeLe t priorId input nowIso freshId).1 = .ok prior replacement →
        Superseded dir (supersedeAndPersistHandoff host dir issue localeLe t priorId input nowIso freshId).2
          priorId := by
  have hstep : ∀ (s : Store) (call : HandoffCall ρ) (t : Store), Admits host dir localeLe s call →
      StoreInv host dir s →
      callStep host dir issue localeLe resolveAuthorizedApprover s call = some t →
      StoreInv host dir t ∧ Progresses s t :=
    fun _ _ _ hadmits h hcall => callStep_leaves issue resolveAuthorizedApprover hadmits h hcall
  have hkeeps := fun s call t hadmits h hcall => (hstep s call t hadmits h hcall).1
  have hinv : StoreInv host dir s := hs.invariant (I := StoreInv host dir) hkeeps storeInv_empty
  have hinv' : StoreInv host dir t := ht.invariant (I := StoreInv host dir) hkeeps hinv
  have hprogress : Progresses s t :=
    ht.relation (I := StoreInv host dir) (R := Progresses) Progresses.refl
      (fun _ _ _ h h' => h.trans h') hkeeps
      (fun s call t hadmits h hcall => (hstep s call t hadmits h hcall).2) hinv
  refine ⟨hprogress, hinv'.pending, ?_⟩
  intro priorId input nowIso freshId prior replacement hadmits hok
  exact (supersede_leaves issue hinv' hadmits).2.2 prior replacement hok

end Calls

/-! ## Concrete calls -/

def directionInput : CreateHandoffInput where
  domain := "d"
  repo := "o/r"
  issueNumber := .finite 7
  blockedStage := "plan"
  question := "Which one?"
  reason := ""
  handoffClass := .missingContext
  authorityMode := some .nonAuthority
  requiredCapability := ["context"]
  resumeTarget := "plan"
  declarationIdentity := some "direction"
  handoffId := some "hqh_1"

/-- One question, asked twice: it is pending once. -/
theorem question_asked_twice_pending_once :
    ∃ t : Store, (t.get ["hqh_1.json"]).isSome ∧
      ∀ path path' h h', t.get path = some h → t.get path' = some h' → h.status = .pending →
        h'.status = .pending → h.declarationIdentity = some "direction" →
        h'.declarationIdentity = some "direction" → path = path' := by
  let host := NodeHost.onFirstDay [] []
  let first := (createAndPersistHandoff host [] (fun _ _ => true) {} directionInput
    "2026-01-01T00:00:00Z" "hqh_2").2
  have hfirst : Admits (ρ := Unit) host [] (fun _ _ => true) {}
      (.create directionInput "2026-01-01T00:00:00Z" "hqh_2") :=
    .inr ⟨⟨by decide, by decide⟩, rfl, by decide⟩
  have hsecond : Admits (ρ := Unit) host [] (fun _ _ => true) first
      (.create { directionInput with handoffId := none } "2026-01-01T00:00:01Z" "hqh_2") :=
    .inl (by decide +kernel)
  obtain ⟨t, hrun, hstored⟩ : ∃ t, Transition.Run
      (callStep host [] (.finite 7) (fun _ _ => true) noApprovers) (Admits host [] (fun _ _ => true)) {}
        [.create directionInput "2026-01-01T00:00:00Z" "hqh_2",
          .create { directionInput with handoffId := none } "2026-01-01T00:00:01Z" "hqh_2"] t ∧
        (t.get ["hqh_1.json"]).isSome :=
    ⟨_, .cons hfirst rfl (.cons hsecond rfl (.nil _)), by decide +kernel⟩
  refine ⟨t, hstored, fun path path' h h' hget hget' hs hs' hi hi' => ?_⟩
  exact (lifecycle _ noApprovers hrun (.nil t)).2.1 path path' h h' "direction" hget hget' hs hs' hi hi'

/-- A question is asked and answered. -/
def answeredQuestion : List (HandoffCall Unit) :=
  [.create directionInput "2026-01-01T00:00:00Z" "hqh_2",
    .answer "hqh_1" (operatorAnswer "the first") "2026-01-01T00:00:01Z" none]

/-- The id of an answered handoff is supplied again: the answer is gone and the handoff is pending. -/
theorem supplied_id_replaces_answer :
    ¬∀ (before after : List (HandoffCall Unit)) (s t : Store),
      Transition.Run (callStep (NodeHost.onFirstDay [] []) [] (.finite 7) (fun _ _ => true) noApprovers)
        (fun _ _ => True) {} before s →
      Transition.Run (callStep (NodeHost.onFirstDay [] []) [] (.finite 7) (fun _ _ => true) noApprovers)
        (fun _ _ => True) s after t →
      Progresses s t := by
  intro h
  let step := callStep (NodeHost.onFirstDay [] []) [] (.finite 7) (fun _ _ => true) noApprovers
  let again : HandoffCall Unit := .create { directionInput with declarationIdentity := none }
    "2026-01-01T00:00:02Z" "hqh_2"
  let statusAt (store : Store) := (store.get ["hqh_1.json"]).map (·.status)
  obtain ⟨s, hs, hanswered⟩ : ∃ s, Transition.Run step (fun _ _ => True) {} answeredQuestion s ∧
      statusAt s = some .answered ∧ (step s again).map statusAt = some (some .pending) :=
    Transition.Run.exists_of_exec
      (fun s : Store => statusAt s = some .answered ∧ (step s again).map statusAt = some (some .pending))
      (by decide +kernel)
  obtain ⟨t, ht⟩ : ∃ t, step s again = some t := ⟨_, rfl⟩
  have hprogress := h answeredQuestion [again] s t hs (.cons trivial ht (.nil t))
  have hpending : statusAt t = some .pending := by simpa [ht] using hanswered.2
  obtain ⟨x, hx, hstatus⟩ := Option.map_eq_some_iff.1 hanswered.1
  obtain ⟨y, hy, -, hsettled⟩ := hprogress _ x hx
  have hystatus : y.status = .pending := by simpa [statusAt, hy] using hpending
  exact hsettled (by simp [hstatus]) hystatus

end AgentPipeline.Handoff
