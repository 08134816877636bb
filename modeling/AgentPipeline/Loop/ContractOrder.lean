import AgentPipeline.Loop.ContractItems

/-!
# ContractOrder: compiling is a stable topological sort

A visit appends items whose ids are not on its path, each after the items it depends on.

* `FollowsDependencies`: every item comes after the items it depends on, and no id occurs twice;
* `Appends`, `visitItem_appends`: what a visit that returns has appended;
* `compileContractItems_exact`: the compiled items, and when there are none.
-/

namespace AgentPipeline.Loop

open List

structure FollowsDependencies (items : List LoopContractItem) : Prop where
  distinct : (items.map LoopContractItem.id).Nodup
  before : ∀ l item r, items = l ++ item :: r → ∀ dep ∈ item.dependsOn, dep ∈ l.map LoopContractItem.id

lemma FollowsDependencies.nil : FollowsDependencies [] where
  distinct := by simp
  before l item r h := by simp at h

variable {items : List LoopContractItem}

lemma FollowsDependencies.snoc {item : LoopContractItem}
    (h : FollowsDependencies items) (hid : item.id ∉ items.map LoopContractItem.id)
    (hdeps : ∀ dep ∈ item.dependsOn, dep ∈ items.map LoopContractItem.id) :
    FollowsDependencies (items ++ [item]) where
  distinct := by
    rw [map_append, nodup_append]
    refine ⟨h.distinct, by simp, ?_⟩
    intro a ha b hb heq
    obtain rfl : b = item.id := by simpa using hb
    exact hid (heq ▸ ha)
  before l item' r heq dep hdep := by
    rcases eq_nil_or_concat r with rfl | ⟨r', last, rfl⟩
    · -- the last item
      obtain ⟨rfl, hlast⟩ := append_inj' heq rfl
      obtain rfl : item = item' := by simpa using hlast
      exact hdeps dep hdep
    · have hsplit : items ++ [item] = (l ++ item' :: r') ++ [last] := by simpa using heq
      obtain ⟨rfl, -⟩ := append_inj' hsplit rfl
      exact h.before l item' r' rfl dep hdep

/-! ## What a visit appends -/

variable {path targets : List String} {v : Visited} {id : String}

variable {visit : String → Visited → Except LoopError Visited} {fuel : Nat}

section Visit

variable {partitioned : JsObject LoopContractItem} {ids : List String}

/-- A visit of some ids from a path: what it appends is not on the path, and follows its dependencies. -/
structure Appends (path targets : List String) (v v' : Visited) : Prop where
  apart : ∃ new, v'.ordered = v.ordered ++ new ∧ ∀ item ∈ new, item.id ∉ path
  follows : FollowsDependencies v.ordered → FollowsDependencies v'.ordered
  reached : ∀ id ∈ targets, id ∈ v'.permanent

lemma Appends.refl (h : ∀ id ∈ targets, id ∈ v.permanent) : Appends path targets v v where
  apart := ⟨[], by simp, by simp⟩
  follows hv := hv
  reached := h

variable {v' : Visited}

lemma Appends.permanent (h : Appends path targets v v') (hid : id ∈ v.permanent) : id ∈ v'.permanent := by
  obtain ⟨new, hnew, -⟩ := h.apart
  rw [Visited.permanent, hnew, map_append]
  exact mem_append_left _ hid

lemma Appends.permanent_or (h : Appends path targets v v') (hid : id ∈ v'.permanent)
    (hpath : id ∈ path) : id ∈ v.permanent := by
  obtain ⟨new, hnew, hapart⟩ := h.apart
  rw [Visited.permanent, hnew, map_append] at hid
  rcases mem_append.1 hid with hold | hadded
  · exact hold
  · obtain ⟨item, hitem, rfl⟩ := mem_map.1 hadded
    exact absurd hpath (hapart item hitem)

lemma Appends.trans {targets' : List String} {v₁ v₂ v₃ : Visited}
    (h : Appends path targets v₁ v₂) (h' : Appends path targets' v₂ v₃) :
    Appends path (targets ++ targets') v₁ v₃ where
  apart := by
    obtain ⟨new, hnew, hapart⟩ := h.apart
    obtain ⟨new', hnew', hapart'⟩ := h'.apart
    refine ⟨new ++ new', by rw [hnew', hnew, append_assoc], fun item hitem => ?_⟩
    exact (mem_append.1 hitem).elim (hapart item) (hapart' item)
  follows hv := h'.follows (h.follows hv)
  reached id hid := by
    rcases mem_append.1 hid with hfirst | hsecond
    · exact h'.permanent (h.reached id hfirst)
    · exact h'.reached id hsecond

lemma appends_foldlM
    (h : ∀ id ∈ targets, ∀ v v', visit id v = .ok v' → Appends path [id] v v')
    (hfold : targets.foldlM (fun v id => visit id v) v = .ok v') : Appends path targets v v' := by
  induction targets generalizing v with
  | nil =>
    obtain rfl : v = v' := Except.ok.inj hfold
    exact .refl (by simp)
  | cons id targets ih =>
    rw [foldlM_cons] at hfold
    cases hvisit : visit id v with
    | error e => simp [hvisit, Bind.bind, Except.bind] at hfold
    | ok v₁ =>
      simp only [hvisit, Bind.bind, Except.bind] at hfold
      have hfirst := h id (by simp) v v₁ hvisit
      exact hfirst.trans (ih (fun id' hid' => h id' (by simp [hid'])) hfold)

lemma visitItem_appends (hsnap : Snapshot partitioned ids)
    (hid : id ∈ ids) (h : visitItem partitioned fuel path id v = .ok v') : Appends path [id] v v' := by
  induction fuel generalizing path id v v' with
  | zero => simp [visitItem] at h
  | succ fuel ih =>
    unfold visitItem at h
    split at h
    · next hperm =>
      obtain rfl : v = v' := Except.ok.inj h
      exact .refl (by simpa using hperm)
    · next hnot =>
      split at h
      · cases h
      · next hpath =>
        obtain ⟨item, hitem, rfl⟩ := hsnap.item id hid
        simp only [hitem] at h
        cases hfold : item.dependsOn.foldlM
            (fun v dep => visitItem partitioned fuel (path ++ [item.id]) dep v) v with
        | error e => simp [hfold, Bind.bind, Except.bind] at h
        | ok v₁ =>
          simp only [hfold, Bind.bind, Except.bind] at h
          obtain rfl : { ordered := v₁.ordered ++ [item] } = v' := Except.ok.inj h
          have hdeps : Appends (path ++ [item.id]) item.dependsOn v v₁ :=
            appends_foldlM (fun dep hdep v v' hvisit =>
              ih (hsnap.closed item.id item dep hitem hdep) hvisit) hfold
          -- the item was on the path of its dependencies, so no visit has added it
          have hfresh : item.id ∉ v₁.permanent := fun hmem =>
            hnot (hdeps.permanent_or hmem (by simp))
          refine ⟨?_, fun hv => (hdeps.follows hv).snoc hfresh hdeps.reached, by simp [Visited.permanent]⟩
          obtain ⟨new, hnew, hapart⟩ := hdeps.apart
          refine ⟨new ++ [item], by rw [hnew, append_assoc], fun item' hitem' => ?_⟩
          rcases mem_append.1 hitem' with hadded | hlast
          · exact fun hmem => hapart item' hadded (mem_append_left _ hmem)
          · rw [mem_singleton.1 hlast]
            exact hpath

end Visit

/-! ## The compiled items -/

/-- A declared dependency between items of the snapshot. -/
def Declares (rawItems : List RawContractItem) (id dep : String) : Prop :=
  ∃ raw ∈ rawItems, raw.id = id ∧ dep ∈ raw.dependsOn ∧ dep ∈ rawItems.map RawContractItem.id

/-- Every item of the input comes after the items of the snapshot that it declares. -/
def DeclaredInOrder (rawItems : List RawContractItem) : Prop :=
  ∀ l raw r, rawItems = l ++ raw :: r →
    ∀ dep ∈ raw.dependsOn, dep ∈ rawItems.map RawContractItem.id → dep ∈ l.map RawContractItem.id

/-- The declared dependencies in two lists by membership, with their order, and none dropped. -/
structure SplitsDeclared (ids declared inRun external : List String) : Prop where
  member : ∀ dep ∈ inRun, dep ∈ ids
  foreign : ∀ dep ∈ external, dep ∉ ids
  memberOrder : inRun.Sublist declared
  foreignOrder : external.Sublist declared
  complete : (inRun ++ external).Perm declared

lemma splitsDeclared (ids : List String) (raw : RawContractItem) :
    SplitsDeclared ids raw.dependsOn (partitionDeclared ids raw).dependsOn
      (partitionDeclared ids raw).externalDependsOn where
  member dep hdep := by simpa using (mem_filter.1 hdep).2
  foreign dep hdep := by simpa using (mem_filter.1 hdep).2
  memberOrder := filter_sublist
  foreignOrder := filter_sublist
  complete := by
    have hperm := filter_append_perm (fun dep => decide (dep ∈ ids)) raw.dependsOn
    simpa [partitionDeclared] using hperm

/-- What a list of raw items is compiled to. -/
structure CompiledFrom (rawItems : List RawContractItem) (items : List LoopContractItem) : Prop where
  permuted : items.Perm (rawItems.map (partitionDeclared (rawItems.map RawContractItem.id)))
  split : ∀ raw ∈ rawItems, SplitsDeclared (rawItems.map RawContractItem.id) raw.dependsOn
    (partitionDeclared (rawItems.map RawContractItem.id) raw).dependsOn
    (partitionDeclared (rawItems.map RawContractItem.id) raw).externalDependsOn
  follows : FollowsDependencies items
  stable : DeclaredInOrder rawItems → items = rawItems.map (partitionDeclared (rawItems.map RawContractItem.id))

variable {rawItems : List RawContractItem} {dep : String}

lemma declares_of_dependsOn (h : DependsOn (partitionAll rawItems) id dep) : Declares rawItems id dep := by
  obtain ⟨item, hget, hdep⟩ := h
  obtain ⟨raw, hraw, hid, rfl⟩ := get?_partitionAll hget
  obtain ⟨hdeclared, hmem⟩ := mem_filter.1 hdep
  exact ⟨raw, hraw, hid, hdeclared, by simpa using hmem⟩

lemma get?_partitionAll_of_mem (hnd : (rawItems.map RawContractItem.id).Nodup) {raw : RawContractItem}
    (hraw : raw ∈ rawItems) : (partitionAll rawItems).get? raw.id =
      some (partitionDeclared (rawItems.map RawContractItem.id) raw) := by
  obtain ⟨item, hget, -⟩ := (@snapshot_partitionAll rawItems).item raw.id (mem_map_of_mem hraw)
  obtain ⟨raw', hraw', hid, rfl⟩ := get?_partitionAll hget
  rw [hget, inj_on_of_nodup_map hnd hraw' hraw hid]

lemma visitAll_follows (h : visitAll rawItems = .ok v) : FollowsDependencies v.ordered := by
  have happends : Appends [] (rawItems.map RawContractItem.id) {} v :=
    appends_foldlM (fun id hid _ _ hvisit => visitItem_appends snapshot_partitionAll hid hvisit) h
  exact happends.follows .nil

lemma idxOf_lt_of_declares (hfollows : FollowsDependencies items)
    (hmem : ∀ raw ∈ rawItems, partitionDeclared (rawItems.map RawContractItem.id) raw ∈ items)
    (h : Declares rawItems id dep) :
    (items.map LoopContractItem.id).idxOf dep < (items.map LoopContractItem.id).idxOf id := by
  obtain ⟨raw, hraw, rfl, hdeclared, hdep⟩ := h
  obtain ⟨l, r, rfl⟩ := append_of_mem (hmem raw hraw)
  have hbefore := hfollows.before l _ r rfl dep (mem_filter.2 ⟨hdeclared, by simpa using hdep⟩)
  have hdistinct := hfollows.distinct
  rw [map_append, map_cons, nodup_append] at hdistinct
  have hnot : raw.id ∉ l.map LoopContractItem.id := fun hin =>
    hdistinct.2.2 raw.id hin raw.id (by simp [partitionDeclared]) rfl
  rw [map_append, map_cons, idxOf_append_of_mem hbefore, idxOf_append_of_notMem hnot]
  have hlt := idxOf_lt_length_iff.2 hbefore
  omega

lemma not_cyclic_of_follows (hfollows : FollowsDependencies items)
    (hmem : ∀ raw ∈ rawItems, partitionDeclared (rawItems.map RawContractItem.id) raw ∈ items) (id : String) :
    ¬ Relation.TransGen (Declares rawItems) id id := by
  intro hcycle
  have hlt : ∀ {a b : String}, Relation.TransGen (Declares rawItems) a b →
      (items.map LoopContractItem.id).idxOf b < (items.map LoopContractItem.id).idxOf a := by
    intro a b hchain
    induction hchain with
    | single hstep => exact idxOf_lt_of_declares hfollows hmem hstep
    | tail _ hstep ih => exact (idxOf_lt_of_declares hfollows hmem hstep).trans ih
  exact lt_irrefl _ (hlt hcycle)

lemma foldlM_fixed
    (h : ∀ id ∈ targets, visit id v = .ok v) : targets.foldlM (fun v id => visit id v) v = .ok v := by
  induction targets with
  | nil => rfl
  | cons id targets ih =>
    rw [foldlM_cons, h id (by simp)]
    exact ih fun id' hid' => h id' (by simp [hid'])

lemma visitItem_permanent {partitioned : JsObject LoopContractItem} (hfuel : 0 < fuel) (h : id ∈ v.permanent) :
    visitItem partitioned fuel path id v = .ok v := by
  obtain ⟨fuel, rfl⟩ := Nat.exists_eq_succ_of_ne_zero hfuel.ne'
  rw [visitItem, if_pos h]

lemma visitAll_stable (hnd : (rawItems.map RawContractItem.id).Nodup) (horder : DeclaredInOrder rawItems) :
    visitAll rawItems = .ok ⟨rawItems.map (partitionDeclared (rawItems.map RawContractItem.id))⟩ := by
  have hids : ∀ l : List RawContractItem,
      (⟨l.map (partitionDeclared (rawItems.map RawContractItem.id))⟩ : Visited).permanent =
        l.map RawContractItem.id := by
    intro l
    rw [Visited.permanent, map_map]
    rfl
  suffices hrest : ∀ r l, rawItems = l ++ r → (r.map RawContractItem.id).foldlM
      (fun v id => visitItem (partitionAll rawItems) ((rawItems.map RawContractItem.id).length + 1) [] id v)
      ⟨l.map (partitionDeclared (rawItems.map RawContractItem.id))⟩ =
        .ok ⟨(l ++ r).map (partitionDeclared (rawItems.map RawContractItem.id))⟩ from hrest rawItems [] rfl
  intro r
  induction r with
  | nil =>
    intro l _
    rw [append_nil]
    rfl
  | cons raw r ih =>
    intro l hsplit
    have hraw : raw ∈ rawItems := by simp [hsplit]
    have hnot : raw.id ∉ l.map RawContractItem.id := by
      have hdistinct := hnd
      rw [hsplit, map_append, nodup_append] at hdistinct
      exact fun hin => hdistinct.2.2 raw.id hin raw.id (by simp) rfl
    have hpos : 0 < (rawItems.map RawContractItem.id).length := by simp [hsplit]
    have hdeps : (partitionDeclared (rawItems.map RawContractItem.id) raw).dependsOn.foldlM
        (fun v dep => visitItem (partitionAll rawItems) (rawItems.map RawContractItem.id).length [raw.id] dep v)
        ⟨l.map (partitionDeclared (rawItems.map RawContractItem.id))⟩ =
          .ok ⟨l.map (partitionDeclared (rawItems.map RawContractItem.id))⟩ := by
      refine foldlM_fixed fun dep hdep => visitItem_permanent hpos ?_
      obtain ⟨hdeclared, hmem⟩ := mem_filter.1 hdep
      rw [hids]
      exact horder l raw r hsplit dep hdeclared (by simpa using hmem)
    have hvisit : visitItem (partitionAll rawItems) ((rawItems.map RawContractItem.id).length + 1) [] raw.id
        ⟨l.map (partitionDeclared (rawItems.map RawContractItem.id))⟩ =
          .ok ⟨(l ++ [raw]).map (partitionDeclared (rawItems.map RawContractItem.id))⟩ := by
      rw [visitItem, hids, if_neg hnot, if_neg not_mem_nil, get?_partitionAll_of_mem hnd hraw]
      simp only [nil_append, hdeps, Bind.bind, Except.bind, map_append]
      rfl
    rw [map_cons, foldlM_cons, hvisit]
    simp only [Bind.bind, Except.bind]
    rw [ih (l ++ [raw]) (by simp [hsplit])]
    simp

lemma nodup_of_compiled (h : compileContractItems rawItems = .ok items) : (rawItems.map RawContractItem.id).Nodup := by
  unfold compileContractItems at h
  split at h
  · cases h
  · next hnone => exact (firstDuplicate_eq_none.1 hnone).1

lemma compiledFrom_of_ok (h : compileContractItems rawItems = .ok items) : CompiledFrom rawItems items := by
  have hnd := nodup_of_compiled h
  obtain ⟨hfrom, hall⟩ := compileContractItems_eq_ok hnd h
  rw [compile_eq_visitAll hnd] at h
  cases hvisit : visitAll rawItems with
  | error e => simp [hvisit, Except.map] at h
  | ok v =>
    obtain rfl : v.ordered = items := by simpa [hvisit, Except.map] using h
    have hfollows := visitAll_follows hvisit
    refine ⟨?_, fun raw _ => splitsDeclared _ raw, hfollows, fun horder => ?_⟩
    · rw [perm_ext_iff_of_nodup (List.Nodup.of_map _ hfollows.distinct)
        (List.Nodup.of_map LoopContractItem.id (by rw [map_map]; exact hnd))]
      intro item
      constructor
      · intro hitem
        obtain ⟨raw, hraw, rfl⟩ := hfrom item hitem
        exact mem_map_of_mem hraw
      · intro hitem
        obtain ⟨raw, hraw, rfl⟩ := mem_map.1 hitem
        obtain ⟨item, hitem, hid⟩ := hall raw hraw
        obtain ⟨raw', hraw', rfl⟩ := hfrom item hitem
        rwa [inj_on_of_nodup_map hnd hraw' hraw hid] at hitem
    · rw [visitAll_stable hnd horder] at hvisit
      rw [← Except.ok.inj hvisit]

lemma compile_refuses_iff (rawItems : List RawContractItem) : (∃ e, compileContractItems rawItems = .error e) ↔
      ¬ (rawItems.map RawContractItem.id).Nodup ∨ ∃ id, Relation.TransGen (Declares rawItems) id id := by
  constructor
  · rintro ⟨e, h⟩
    by_cases hnd : (rawItems.map RawContractItem.id).Nodup
    · obtain ⟨id, hcycle⟩ := compileContractItems_eq_error hnd h
      exact .inr ⟨id, Relation.TransGen.mono (fun _ _ => declares_of_dependsOn) _ _ hcycle⟩
    · exact .inl hnd
  · intro hbad
    cases hresult : compileContractItems rawItems with
    | error e => exact ⟨e, rfl⟩
    | ok items =>
      have h := compiledFrom_of_ok hresult
      rcases hbad with hrepeated | ⟨id, hcycle⟩
      · exact absurd (nodup_of_compiled hresult) hrepeated
      · refine absurd hcycle (not_cyclic_of_follows h.follows (fun raw hraw => ?_) id)
        exact h.permuted.mem_iff.2 (mem_map_of_mem hraw)

/-- `compileContractItems` refuses a duplicate id and a cycle, and nothing else; otherwise the items come after their
dependencies, in the order of the input where that order is one. -/
theorem compileContractItems_exact (rawItems : List RawContractItem) :
    ((∃ e, compileContractItems rawItems = .error e) ↔
      ¬ (rawItems.map RawContractItem.id).Nodup ∨ ∃ id, Relation.TransGen (Declares rawItems) id id) ∧
    ∀ items, compileContractItems rawItems = .ok items → CompiledFrom rawItems items :=
  ⟨compile_refuses_iff rawItems, fun _ => compiledFrom_of_ok⟩

end AgentPipeline.Loop
