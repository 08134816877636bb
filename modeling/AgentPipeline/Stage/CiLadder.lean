import AgentPipeline.Stage.CiBudget

/-!
# CiLadder: every recovery once for a head, and only after its charge is durable

* `Sound`: what holds of the files, the context and the trace between two steps of the ladder;
* `At`: what holds inside of a call: the classes that are done, and those whose budget is open;
* `charge_at`, `handle_at`: one charge, and one call.
-/

namespace AgentPipeline.Stage

open List

/-! ## What was called -/

def CiEvent.effect : CiEvent → Option (CiClass × String)
  | .sideEffect c head => some (c, head)
  | _ => none

/-- The side effects of a trace. -/
def effects (trace : List CiStep) : List (CiClass × String) := trace.filterMap (·.event.effect)

lemma effects_append (trace steps : List CiStep) : effects (trace ++ steps) = effects trace ++ effects steps :=
  filterMap_append

lemma quiet_append {t t' t'' : List CiStep} (h : ∃ steps, t' = t ++ steps ∧ effects steps = [])
    (h' : ∃ steps, t'' = t' ++ steps ∧ effects steps = []) : ∃ steps, t'' = t ++ steps ∧ effects steps = [] := by
  obtain ⟨steps, rfl, hquiet⟩ := h
  obtain ⟨steps', rfl, hquiet'⟩ := h'
  exact ⟨steps ++ steps', append_assoc .., by rw [effects_append, hquiet, hquiet', append_nil]⟩

/-- Between two worlds nothing changed but the trace, which has no new side effect. -/
structure Quiet (w w' : World) : Prop where
  primary : w'.primary = w.primary
  legacy : w'.legacy = w.legacy
  ctx : w'.ctx = w.ctx
  trace : ∃ steps, w'.trace = w.trace ++ steps ∧ effects steps = []

variable {c : CiClass} {head : String}

namespace Quiet

lemma refl (w : World) : Quiet w w := ⟨rfl, rfl, rfl, [], by simp, rfl⟩

lemma trans {w₁ w₂ w₃ : World} (h : Quiet w₁ w₂) (h' : Quiet w₂ w₃) : Quiet w₁ w₃ where
  primary := h'.primary.trans h.primary
  legacy := h'.legacy.trans h.legacy
  ctx := h'.ctx.trans h.ctx
  trace := quiet_append h.trace h'.trace

lemma push (w : World) {event : CiEvent} (h : event.effect = none) : Quiet w (w.push event) where
  primary := rfl
  legacy := rfl
  ctx := rfl
  trace := ⟨_, rfl, by simp [effects, h]⟩

lemma effects_eq {w w' : World} (h : Quiet w w') : effects w'.trace = effects w.trace := by
  obtain ⟨steps, htrace, hquiet⟩ := h.trace
  rw [htrace, effects_append, hquiet, append_nil]

lemma mem_trace {w w' : World} (h : Quiet w w') {step : CiStep} (hstep : step ∈ w'.trace)
    (heffect : step.event.effect = some (c, head)) : step ∈ w.trace := by
  obtain ⟨steps, htrace, hquiet⟩ := h.trace
  rw [htrace, mem_append] at hstep
  refine hstep.resolve_right fun hnew => ?_
  have hmem : (c, head) ∈ effects steps := mem_filterMap.2 ⟨step, hnew, heffect⟩
  rw [hquiet] at hmem
  cases hmem

end Quiet

/-! ## What the files hold -/

variable {nowIso : String} {ledger : StageAttemptLedger}

section Files

variable (host : NodeHost)

/-- A ledger that the files of the run directory are read as. -/
def World.Loads (w : World) (ledger : StageAttemptLedger) : Prop :=
  ∃ nowIso migrated, loadLedger host true w.primary w.legacy nowIso = .ok (ledger, migrated)

/-- The files say that the budget of a class is spent for a head. -/
def World.Spends (w : World) (c : CiClass) (head : String) : Prop :=
  ∃ ledger, w.Loads host ledger ∧ Spent host ledger.attempts c head

/-- The ledger file says so. -/
def Durable (primary : LedgerText) (c : CiClass) (head : String) : Prop :=
  ∃ ledger, parseLedgerJson primary = some ledger ∧ Spent host ledger.attempts c head

variable {host}

/-- What the budgets are read from in a row. -/
def rowKey (host : NodeHost) (row : AttemptRow) : Option String × Option String × Option String × Bool :=
  (row.attemptId, row.textAt "action", row.textAt "head_sha", isConsumed host row)

lemma countsFor_congr {row row' : AttemptRow} (h : rowKey host row = rowKey host row')
    {action : StageAction} : CountsFor host action head row ↔ CountsFor host action head row' := by
  simp only [rowKey, Prod.mk.injEq] at h
  simp only [CountsFor, h.2.1, h.2.2.1, h.2.2.2]

lemma spent_congr {rows rows' : List AttemptRow} (h : rows.map (rowKey host) = rows'.map (rowKey host))
    (hspent : Spent host rows c head) : Spent host rows' c head := by
  obtain ⟨row, hrow, hcounts⟩ := hspent
  have hmem : rowKey host row ∈ rows'.map (rowKey host) := by
    rw [← h]
    exact mem_map_of_mem hrow
  obtain ⟨row', hrow', heq⟩ := mem_map.1 hmem
  exact ⟨row', hrow', (countsFor_congr heq).2 hcounts⟩

lemma foldl_congr_of {α β γ : Type} {f g : β → α → β} {k : β → γ}
    (h : ∀ b b' a, k b = k b' → k (f b a) = k (g b' a)) (as : List α) {b b' : β} (hb : k b = k b') :
    k (as.foldl f b) = k (as.foldl g b') := by
  induction as generalizing b b' with
  | nil => exact hb
  | cons a as ih => exact ih (h b b' a hb)

lemma pushLegacy_keys {rows rows' : List AttemptRow} (h : rows.map (rowKey host) = rows'.map (rowKey host))
    (nowIso nowIso' : String) (action : StageAction) (head : String) :
    (pushLegacy host nowIso action rows head).map (rowKey host) =
      (pushLegacy host nowIso' action rows' head).map (rowKey host) := by
  have hlength : rows.length = rows'.length := by simpa using congrArg List.length h
  have hids : rows.map AttemptRow.attemptId = rows'.map AttemptRow.attemptId := by
    simpa [Function.comp_def, rowKey] using congrArg (List.map Prod.fst) h
  have hkey : rowKey host (legacyRow host nowIso head action rows.length) =
      rowKey host (legacyRow host nowIso' head action rows'.length) := by
    simp [rowKey, legacyRow, AttemptRow.attemptId, Json.textAt, Json.get?, lookup_cons, isConsumed,
      AttemptRow.status, outcomeText, hlength]
  have hid : AttemptRow.attemptId (legacyRow host nowIso head action rows.length) =
      AttemptRow.attemptId (legacyRow host nowIso' head action rows'.length) := congrArg Prod.fst hkey
  have hany : ∀ (rows : List AttemptRow) (id : Option String),
      (rows.any fun a => a.attemptId = id) = (rows.map AttemptRow.attemptId).any fun a => a = id := by
    intro rows id
    rw [any_map]
    rfl
  simp only [pushLegacy]
  rw [hany, hany, hids, hid]
  split
  · exact h
  · rw [map_append, map_append, h]
    simp [hkey]

lemma migrate_keys {markers : Json} {nowIso' : String} {ledger' : StageAttemptLedger}
    (h : migrateLegacyCiMarkersToAttempts host markers nowIso = some ledger)
    (h' : migrateLegacyCiMarkersToAttempts host markers nowIso' = some ledger') :
    ledger.attempts.map (rowKey host) = ledger'.attempts.map (rowKey host) := by
  simp only [migrateLegacyCiMarkersToAttempts, Option.bind_eq_bind, Option.bind_eq_some_iff] at h h'
  obtain ⟨rebase, h₁, rerun, h₂, archiveFail, h₃, fix, h₄, docs, h₅, terminal, -, hledger⟩ := h
  obtain ⟨rebase', h₁', rerun', h₂', archiveFail', h₃', fix', h₄', docs', h₅', terminal', -, hledger'⟩ := h'
  cases hledger
  cases hledger'
  cases h₁.symm.trans h₁'
  cases h₂.symm.trans h₂'
  cases h₃.symm.trans h₃'
  cases h₄.symm.trans h₄'
  cases h₅.symm.trans h₅'
  refine foldl_congr_of (f := fun rows (set : StageAction × List String) => set.2.foldl (pushLegacy host nowIso set.1) rows)
    (g := fun rows (set : StageAction × List String) => set.2.foldl (pushLegacy host nowIso' set.1) rows) (k := List.map (rowKey host))
    (fun rows rows' set hrows => ?_) _ rfl
  exact foldl_congr_of (f := pushLegacy host nowIso set.1) (g := pushLegacy host nowIso' set.1)
    (k := List.map (rowKey host))
    (fun rows rows' head hrows => pushLegacy_keys hrows nowIso nowIso' set.1 head) _ hrows

lemma loadLedger_ok {primary legacy : LedgerText}
    {migrated : Bool} (h : loadLedger host true primary legacy nowIso = .ok (ledger, migrated)) :
    parseLedgerJson primary = some ledger ∨ primary = .absent ∧ (legacy = .absent ∧ ledger = {} ∨
        ∃ markers, legacy = .json markers ∧ migrateLegacyCiMarkersToAttempts host markers nowIso = some ledger) := by
  unfold loadLedger at h
  rw [if_neg (by decide)] at h
  split at h
  · cases h
  · split at h
    · cases h
      exact .inr ⟨rfl, .inl ⟨rfl, rfl⟩⟩
    · cases h
    · cases h
    · split at h
      · cases h
      · split at h
        · next hmigrate =>
          cases h
          exact .inr ⟨rfl, .inr ⟨_, rfl, hmigrate⟩⟩
        · cases h
  · split at h
    · next hparse =>
      cases h
      exact .inl hparse
    · cases h

lemma loads_spent {w : World} {ledger' : StageAttemptLedger} (h : w.Loads host ledger)
    (h' : w.Loads host ledger') (hspent : Spent host ledger.attempts c head) : Spent host ledger'.attempts c head := by
  obtain ⟨nowIso, migrated, hload⟩ := h
  obtain ⟨nowIso', migrated', hload'⟩ := h'
  have hkeys : ledger.attempts.map (rowKey host) = ledger'.attempts.map (rowKey host) := by
    rcases loadLedger_ok hload with hparse | ⟨habsent, hlegacy⟩
    · rcases loadLedger_ok hload' with hparse' | ⟨habsent', -⟩
      · rw [Option.some.inj (hparse.symm.trans hparse')]
      · rw [habsent'] at hparse
        cases hparse
    · rcases loadLedger_ok hload' with hparse' | ⟨-, hlegacy'⟩
      · rw [habsent] at hparse'
        cases hparse'
      · rcases hlegacy with ⟨hnone, rfl⟩ | ⟨markers, hmarkers, hmigrate⟩
        · rcases hlegacy' with ⟨-, rfl⟩ | ⟨markers, hmarkers, -⟩
          · rfl
          · cases hnone.symm.trans hmarkers
        · rcases hlegacy' with ⟨hnone, -⟩ | ⟨markers', hmarkers', hmigrate'⟩
          · cases hnone.symm.trans hmarkers
          · cases hmarkers.symm.trans hmarkers'
            exact migrate_keys hmigrate hmigrate'
  exact spent_congr hkeys hspent

lemma loads_of_parse {w : World} (h : parseLedgerJson w.primary = some ledger) : w.Loads host ledger := by
  refine ⟨"", false, ?_⟩
  cases hcase : w.primary with
  | json value =>
    rw [hcase] at h
    simp [loadLedger, h]
  | _ =>
    rw [hcase] at h
    cases h

lemma Durable.spends {w : World} (h : Durable host w.primary c head) : w.Spends host c head := by
  obtain ⟨ledger, hparse, hspent⟩ := h
  exact ⟨ledger, loads_of_parse hparse, hspent⟩

lemma World.Spends.spent {w : World} (h : w.Spends host c head)
    (hload : w.Loads host ledger) : Spent host ledger.attempts c head := by
  obtain ⟨ledger', hload', hspent⟩ := h
  exact loads_spent hload' hload hspent

lemma loads_valid {w : World} (h : w.Loads host ledger) : AllValid ledger.attempts := by
  obtain ⟨nowIso, migrated, hload⟩ := h
  exact load_valid host hload

/-- The ledger file was replaced, and nothing else changed but the trace. -/
structure Replaced (w w' : World) (ledger : StageAttemptLedger) : Prop where
  primary : w'.primary = persistStageAttemptLedger ledger
  legacy : w'.legacy = w.legacy
  ctx : w'.ctx = w.ctx
  trace : ∃ steps, w'.trace = w.trace ++ steps ∧ effects steps = []

lemma Replaced.loads {w w' : World} (h : Replaced w w' ledger)
    (hvalid : AllValid ledger.attempts) (hfinite : ∀ row ∈ ledger.attempts, row.isFinite = true) :
    (∃ loaded, parseLedgerJson w'.primary = some loaded ∧ loaded.attempts = ledger.attempts) ∧
      ∀ loaded, w'.Loads host loaded → loaded.attempts = ledger.attempts := by
  have hread : ∀ nowIso loaded migrated, loadLedger host true w'.primary w'.legacy nowIso = .ok (loaded, migrated) →
        parseLedgerJson w'.primary = some loaded := by
    intro nowIso loaded migrated hload
    refine (loadLedger_ok hload).resolve_right fun habsent => ?_
    cases h.primary.symm.trans habsent.1
  have hload := fun nowIso => load_persist host ledger hvalid hfinite w'.legacy nowIso
  rw [← h.primary] at hload
  obtain ⟨loaded, hok, hsame⟩ := hload ""
  refine ⟨⟨loaded, hread "" loaded false hok, hsame⟩, ?_⟩
  rintro loaded' ⟨nowIso, migrated, hok'⟩
  have heq := (hread "" loaded false hok).symm.trans (hread nowIso loaded' migrated hok')
  cases heq
  exact hsame

variable (host) in
/-- What the files and the trace say, whatever the context holds. -/
structure Books (heads : List String) (w : World) : Prop where
  accounts : ∀ ledger, w.Loads host ledger → Accounts host heads ledger.attempts
  once : (effects w.trace).Nodup
  durable : ∀ step ∈ w.trace, ∀ c head, step.event.effect = some (c, head) → Durable host step.primary c head
  spent : ∀ c head, (c, head) ∈ effects w.trace → w.Spends host c head

namespace Books

variable {heads : List String} {w w' : World}

lemma of_files (h : Books host heads w) (hprimary : w'.primary = w.primary) (hlegacy : w'.legacy = w.legacy)
    (htrace : ∃ steps, w'.trace = w.trace ++ steps ∧ effects steps = []) : Books host heads w' := by
  have hloads : ∀ ledger, w'.Loads host ledger ↔ w.Loads host ledger := fun ledger => by
    simp only [World.Loads, hprimary, hlegacy]
  have hquiet : Quiet w { w with trace := w'.trace } := ⟨rfl, rfl, rfl, htrace⟩
  refine ⟨fun ledger hload => h.accounts ledger ((hloads ledger).1 hload), ?_,
    fun step hstep c head heffect => h.durable step (hquiet.mem_trace hstep heffect) c head heffect,
    fun c head hmem => ?_⟩
  · rw [show effects w'.trace = effects w.trace from hquiet.effects_eq]
    exact h.once
  · rw [show effects w'.trace = effects w.trace from hquiet.effects_eq] at hmem
    obtain ⟨ledger, hload, hspent⟩ := h.spent c head hmem
    exact ⟨ledger, (hloads ledger).2 hload, hspent⟩

lemma replaced (h : Books host heads w) {synced : StageAttemptLedger} (hload : w.Loads host ledger)
    (hvalid : AllValid synced.attempts) (haccounts : Accounts host heads synced.attempts)
    (hgrows : ∀ c head, Spent host ledger.attempts c head → Spent host synced.attempts c head)
    (hreplaced : Replaced w w' synced) :
    Books host heads w' ∧ (∀ c head, w'.Spends host c head ↔ Spent host synced.attempts c head) ∧
      ∀ c head, Spent host synced.attempts c head → Durable host w'.primary c head := by
  have hread : (∃ loaded, parseLedgerJson w'.primary = some loaded ∧ loaded.attempts = synced.attempts) ∧
      ∀ loaded, w'.Loads host loaded → loaded.attempts = synced.attempts :=
    hreplaced.loads hvalid haccounts.finite
  obtain ⟨⟨loaded, hparse, hsame⟩, hloads⟩ := hread
  have hquiet : Quiet w { w with trace := w'.trace } := ⟨rfl, rfl, rfl, hreplaced.trace⟩
  have hdurable : ∀ c head, Spent host synced.attempts c head → Durable host w'.primary c head :=
    fun c head hspent => ⟨loaded, hparse, by rwa [hsame]⟩
  have hspends : ∀ c head, w'.Spends host c head ↔ Spent host synced.attempts c head := by
    refine fun c head => ⟨?_, fun hspent => (hdurable c head hspent).spends⟩
    rintro ⟨ledger', hload', hspent⟩
    rwa [hloads ledger' hload'] at hspent
  refine ⟨⟨fun ledger' hload' => ?_, ?_,
    fun step hstep c head heffect => h.durable step (hquiet.mem_trace hstep heffect) c head heffect,
    fun c head hmem => ?_⟩, hspends, hdurable⟩
  · rw [hloads ledger' hload']
    exact haccounts
  · rw [show effects w'.trace = effects w.trace from hquiet.effects_eq]
    exact h.once
  · rw [show effects w'.trace = effects w.trace from hquiet.effects_eq] at hmem
    rw [hspends]
    exact hgrows c head ((h.spent c head hmem).spent hload)

end Books

end Files

/-! ## Reading and writing the ledger -/

variable {host : NodeHost} {call : CiCall}

open Effect (Meets)

lemma mergeAttestations_nil (ledger : StageAttemptLedger) : mergeAttestations ledger [] = ledger := rfl

lemma readLedger_meets (w : World) : Meets (· = w) (readLedger host call)
    (fun result w' => Quiet w w' ∧ ∀ ledger migrated, result = .ok (ledger, migrated) →
      (call.runDir = true → w.Loads host ledger) ∧ (call.runDir = false → ledger = {} ∧ migrated = false))
    (fun _ w' => Quiet w w') := by
  intro start hstart w'
  subst hstart
  unfold readLedger Effect.call
  dsimp only
  split
  · refine ⟨fun a ha => (by cases ha), fun e he => ?_⟩
    cases he
    exact .refl _
  · refine ⟨fun result hresult => ?_, fun e he => (by cases he)⟩
    cases hresult
    refine ⟨.push _ rfl, fun ledger migrated hok => ?_⟩
    obtain ⟨loaded, hload, rfl⟩ := hydrate_eq_ok host hok
    rw [mergeAttestations_nil]
    refine ⟨fun hrunDir => ?_, fun hrunDir => ?_⟩
    · rw [hrunDir] at hload
      cases hdamaged : call.deps.damagedLedger start.events with
      | some damaged =>
        rw [hdamaged] at hload
        rcases loadLedger_ok hload with hparse | ⟨habsent, -⟩
        · cases hparse.symm.trans damaged.noLedger
        · exact absurd habsent damaged.present
      | none =>
        rw [hdamaged] at hload
        cases hlegacy : call.deps.legacyError start.events with
        | none =>
          rw [hlegacy] at hload
          exact ⟨_, migrated, hload⟩
        | some message =>
          rw [hlegacy] at hload
          rcases loadLedger_ok hload with hparse | ⟨-, ⟨hnone, -⟩ | ⟨markers, hmarkers, -⟩⟩
          · exact loads_of_parse hparse
          · cases hnone
          · cases hmarkers
    · rw [hrunDir] at hload
      simp only [loadLedger, if_true] at hload
      cases hload
      exact ⟨rfl, rfl⟩

lemma writeLedger_meets (w : World) (ledger : StageAttemptLedger) : Meets (· = w) (writeLedger call ledger)
    (fun result w' => (∃ reason, result = .error reason) ∧ Quiet w w' ∨ call.runDir = true ∧ Replaced w w' ledger)
    (fun _ w' => Quiet w w') := by
  rintro _ rfl w'
  unfold writeLedger Effect.call
  dsimp only
  split
  · refine ⟨fun result hresult => ?_, fun e he => (by cases he)⟩
    cases hresult
    exact .inl ⟨⟨_, rfl⟩, .refl _⟩
  · next hrunDir =>
    have hrunDir : call.runDir = true := by simpa using hrunDir
    split
    · refine ⟨fun a ha => (by cases ha), fun e he => ?_⟩
      cases he
      exact .refl _
    · split
      · refine ⟨fun result hresult => ?_, fun e he => (by cases he)⟩
        cases hresult
        exact .inr ⟨hrunDir, rfl, rfl, rfl, _, rfl, rfl⟩
      · next renamed reason _ =>
        refine ⟨fun result hresult => ?_, fun e he => (by cases he)⟩
        cases hresult
        cases renamed with
        | true => exact .inr ⟨hrunDir, rfl, rfl, rfl, _, rfl, rfl⟩
        | false => exact .inl ⟨⟨_, rfl⟩, .push _ rfl⟩

variable {pre : World → Prop} {thrown : CiStop → World → Prop}

lemma meets_of_each {α : Type} {m : CiM α} {post : α → World → Prop} (h : ∀ w, pre w → Meets (· = w) m post thrown) :
    Meets pre m post thrown := fun w hw => h w hw w rfl

variable (host) in
/-- The ledger that `persistCtxCiMarkers` writes. -/
def syncedLedger (w : World) (ledger : StageAttemptLedger) (nowIso : String) : StageAttemptLedger :=
  (syncCiProjectionIntoLedger host ledger w.ctx.projection nowIso).2

variable (host call) in
/-- What `persistCtxCiMarkers` does: nothing, or the synchronized ledger is in the file; only in the last case
is it reported. -/
inductive Persisted (w : World) : Except String Unit → World → Prop where
  | refused (reason : String) {w' : World} : Quiet w w' → Persisted w (.error reason) w'
  | unreported (reason : String) {ledger : StageAttemptLedger} {nowIso : String} {w' : World} :
      call.runDir = true → w.Loads host ledger → Replaced w w' (syncedLedger host w ledger nowIso) →
      Persisted w (.error reason) w'
  | persisted {ledger : StageAttemptLedger} {nowIso : String} {w' : World} :
      call.runDir = true → w.Loads host ledger → Replaced w w' (syncedLedger host w ledger nowIso) →
      Persisted w (.ok ()) { w' with ctx := w.ctx.projected host (syncedLedger host w ledger nowIso) }

lemma Quiet.replaced {w w₁ w' : World} (h : Quiet w w₁)
    (h' : Replaced w₁ w' ledger) : Replaced w w' ledger where
  primary := h'.primary
  legacy := h'.legacy.trans h.legacy
  ctx := h'.ctx.trans h.ctx
  trace := quiet_append h.trace h'.trace

lemma persist_meets (w : World) : Meets (· = w) (persistCtxCiMarkers host call)
    (Persisted host call w) (fun _ w' => Quiet w w') := by
  unfold persistCtxCiMarkers
  refine Meets.bind (readLedger_meets w) fun result => ?_
  cases result with
  | error reason => exact .ret fun w' hw' => .refused reason hw'.1
  | ok hydrated =>
    obtain ⟨ledger, migrated⟩ := hydrated
    refine meets_of_each fun w₁ hw₁ => ?_
    obtain ⟨hquiet, hloads⟩ := hw₁
    obtain ⟨hload, hnoDir⟩ := hloads ledger migrated rfl
    have hread : Meets (· = w₁) (Effect.call fun w => (.ok w, w) : CiM World)
        (fun a w' => a = w₁ ∧ w' = w₁) (fun _ w' => Quiet w w') := by
      intro start hstart w'
      subst hstart
      refine ⟨fun a ha => ?_, fun e he => (by cases he)⟩
      cases ha
      exact ⟨rfl, rfl⟩
    refine Meets.bind hread fun a => meets_of_each fun w₂ hw₂ => ?_
    obtain ⟨rfl, rfl⟩ := hw₂
    dsimp only
    have hsynced : (syncCiProjectionIntoLedger host ledger w₂.ctx.projection (call.deps.now w₂.events)).2 =
        syncedLedger host w ledger (call.deps.now w₂.events) := by
      rw [syncedLedger, hquiet.ctx]
    rw [hsynced]
    refine Meets.bind ((writeLedger_meets w₂ _).mono (fun _ h => h) (fun _ _ h => h)
      fun _ _ h => hquiet.trans h) fun result => ?_
    cases result with
    | error reason =>
      refine .ret fun w' hw' => ?_
      rcases hw' with ⟨-, hquiet'⟩ | ⟨hrunDir, hreplaced⟩
      · exact .refused reason (hquiet.trans hquiet')
      · exact .unreported reason hrunDir (hload hrunDir) (hquiet.replaced hreplaced)
    | ok done =>
      refine meets_of_each fun w₃ hw₃ => ?_
      rcases hw₃ with ⟨⟨reason, hreason⟩, -⟩ | ⟨hrunDir, hreplaced⟩
      · cases hreason
      · intro start hstart w'
        subst hstart
        rw [hquiet.ctx]
        refine ⟨fun a ha => ?_, fun e he => (by cases he)⟩
        cases ha
        exact .persisted hrunDir (hload hrunDir) (hquiet.replaced hreplaced)

/-! ## Inside of a call -/

variable (host) in
/-- What holds between two steps of the ladder. -/
structure Sound (heads : List String) (w : World) : Prop extends Books host heads w where
  context : w.ctx.Within heads

variable (host) in
/-- What was spent before a call is still spent. -/
structure Kept (heads : List String) (known : CiClass → String → Prop) (w : World) : Prop
    extends Sound host heads w where
  keeps : ∀ c head, known c head → w.Spends host c head

variable (host call) in
/-- Inside of a call: the context knows what the files say about the head, for the classes that are not done. -/
structure At (heads : List String) (known : CiClass → String → Prop) (done : List CiClass)
    (opened : CiClass → Bool) (w : World) : Prop extends Kept host heads known w where
  agrees : ∀ c ∉ done, call.runDir = true → w.Spends host c call.headSha → call.headSha ∈ w.ctx.attemptedShas c
  isOpen : ∀ c ∉ done, opened c = true → call.headSha ∉ w.ctx.attemptedShas c

variable {heads : List String} {known : CiClass → String → Prop} {done : List CiClass} {opened : CiClass → Bool}
  {w : World}

lemma Quiet.spends_iff {w w' : World} (h : Quiet w w') (c : CiClass) (head : String) :
    w'.Spends host c head ↔ w.Spends host c head := by
  simp only [World.Spends, World.Loads, h.primary, h.legacy]

lemma Sound.quiet {w w' : World} (h : Sound host heads w) (hquiet : Quiet w w') : Sound host heads w' where
  toBooks := h.toBooks.of_files hquiet.primary hquiet.legacy hquiet.trace
  context := by
    rw [hquiet.ctx]
    exact h.context

lemma Kept.quiet {w w' : World} (h : Kept host heads known w) (hquiet : Quiet w w') :
    Kept host heads known w' where
  toSound := h.toSound.quiet hquiet
  keeps c head hknown := (hquiet.spends_iff c head).2 (h.keeps c head hknown)

lemma At.quiet {w w' : World} (h : At host call heads known done opened w) (hquiet : Quiet w w') :
    At host call heads known done opened w' where
  toKept := h.toKept.quiet hquiet
  agrees c hc hrunDir hspends := by
    rw [hquiet.ctx]
    exact h.agrees c hc hrunDir ((hquiet.spends_iff c _).1 hspends)
  isOpen c hc hopened := by
    rw [hquiet.ctx]
    exact h.isOpen c hc hopened

variable {ctx : PreMergePollingContext}

lemma within_withShas (h : ctx.Within heads) (c : CiClass) {shas : List String}
    (hshas : ∀ head ∈ shas, head ∈ heads) : (ctx.withShas c shas).Within heads where
  attempted c' head hhead := by
    by_cases hc : c' = c
    · subst hc
      simp only [PreMergePollingContext.withShas, Function.update_self] at hhead
      exact hshas head hhead
    · simp only [PreMergePollingContext.withShas, Function.update_of_ne hc] at hhead
      exact h.attempted c' head hhead
  noRun := h.noRun

lemma within_projected (h : ctx.Within heads)
    (haccounts : Accounts host heads ledger.attempts) : (ctx.projected host ledger).Within heads where
  attempted c head hhead := by
    obtain ⟨row, hrow, hcounts⟩ := mem_attemptedShasForAction.1 hhead
    exact haccounts.known row hrow c.action c.action_mem head hcounts
  noRun := h.noRun

lemma synced_spent (hheads : Heads host heads) {w : World} (hw : Sound host heads w)
    (hload : w.Loads host ledger) (nowIso : String) : AllValid (syncedLedger host w ledger nowIso).attempts ∧
      Accounts host heads (syncedLedger host w ledger nowIso).attempts ∧
      ∀ c head, Spent host (syncedLedger host w ledger nowIso).attempts c head ↔
        w.Spends host c head ∨ head ∈ w.ctx.attemptedShas c := by
  obtain ⟨haccounts, hspent⟩ := sync_spent hheads (hw.accounts ledger hload) hw.context nowIso
  refine ⟨(sync_leaves host ledger _ nowIso).valid (loads_valid hload), haccounts, fun c head => ?_⟩
  rw [syncedLedger, hspent]
  exact ⟨Or.imp_left fun h => ⟨ledger, hload, h⟩, Or.imp_left fun h => h.spent hload⟩

lemma Sound.replaced (hheads : Heads host heads) {w w' : World} (hw : Sound host heads w)
    (hload : w.Loads host ledger) (hreplaced : Replaced w w' (syncedLedger host w ledger nowIso)) :
    Sound host heads w' ∧ (∀ c head, w'.Spends host c head ↔ w.Spends host c head ∨ head ∈ w.ctx.attemptedShas c) ∧
      ∀ c, ∀ head ∈ w.ctx.attemptedShas c, Durable host w'.primary c head := by
  obtain ⟨hvalid, haccounts, hspent⟩ := synced_spent hheads hw hload nowIso
  obtain ⟨hbooks, hspends, hdurable⟩ := hw.toBooks.replaced hload hvalid haccounts
    (fun c head h => (hspent c head).2 (.inl ⟨ledger, hload, h⟩)) hreplaced
  refine ⟨⟨hbooks, ?_⟩, fun c head => (hspends c head).trans (hspent c head),
    fun c head hhead => hdurable c head ((hspent c head).2 (.inr hhead))⟩
  rw [hreplaced.ctx]
  exact hw.context

lemma getCtx_meets : Meets pre getCtx (fun ctx w => pre w ∧ ctx = w.ctx) thrown := by
  intro w hw w'
  refine ⟨fun ctx hctx => ?_, fun e he => (by cases he)⟩
  cases hctx
  exact ⟨hw, rfl⟩

lemma setCtx_meets {post : Unit → World → Prop} (h : ∀ w, pre w → post () { w with ctx := ctx }) :
    Meets pre (setCtx ctx) post thrown := by
  intro w hw w'
  refine ⟨fun a ha => ?_, fun e he => (by cases he)⟩
  cases ha
  exact h w hw

lemma setCtx_then_ret {α : Type} {post : α → World → Prop} {a : α} (h : ∀ w, pre w → post a { w with ctx := ctx }) :
    Meets pre (setCtx ctx >>= fun _ => pure a) post thrown := by
  have hset : Meets pre (setCtx ctx) (fun _ w => post a w) thrown := setCtx_meets h
  exact Meets.bind hset fun _ => .ret fun _ hw => hw

lemma attemptedShas_withShas_self (ctx : PreMergePollingContext) (c : CiClass) (shas : List String) :
    (ctx.withShas c shas).attemptedShas c = shas := by simp [PreMergePollingContext.withShas]

lemma attemptedShas_withShas_of_ne (ctx : PreMergePollingContext) {c' : CiClass} (h : c' ≠ c)
    (shas : List String) : (ctx.withShas c shas).attemptedShas c' = ctx.attemptedShas c' := by
  simp [PreMergePollingContext.withShas, h]

variable (call) in
/-- The world between the extension of a set and its persistence. -/
def charging (w : World) (c : CiClass) : World :=
  { w with ctx := w.ctx.withShas c (ciRecoveryShaSetAdd (w.ctx.attemptedShas c) call.headSha) }

lemma Sound.charging (h : Sound host heads w) (hhead : call.headSha ∈ heads) (c : CiClass) :
    Sound host heads (charging call w c) where
  toBooks := h.toBooks.of_files rfl rfl ⟨[], by simp [Stage.charging], rfl⟩
  context := by
    refine within_withShas h.context c fun head hmem => ?_
    rcases mem_ciRecoveryShaSetAdd.1 hmem with hmem | rfl
    · exact h.context.attempted c head hmem
    · exact hhead

lemma At.rolledBack (h : At host call heads known done opened w) {w' : World} (hsound : Sound host heads w')
    (hspends : ∀ c' head, w'.Spends host c' head →
      w.Spends host c' head ∨ head ∈ (charging call w c).ctx.attemptedShas c')
    (hgrows : ∀ c' head, w.Spends host c' head → w'.Spends host c' head) (hctx : w'.ctx = (charging call w c).ctx) :
    At host call heads known (c :: done) opened { w' with ctx := w'.ctx.withShas c (w.ctx.attemptedShas c) } where
  toBooks := hsound.toBooks.of_files rfl rfl ⟨[], by simp, rfl⟩
  context := within_withShas hsound.context c fun head hhead => h.context.attempted c head hhead
  keeps c' head hknown := hgrows c' head (h.keeps c' head hknown)
  agrees c' hc' hrunDir hspent := by
    obtain ⟨hne, hnot⟩ := ne_and_not_mem_of_not_mem_cons hc'
    have hset : (charging call w c).ctx.attemptedShas c' = w.ctx.attemptedShas c' :=
      attemptedShas_withShas_of_ne _ hne _
    rw [attemptedShas_withShas_of_ne _ hne, hctx, hset]
    rcases hspends c' call.headSha hspent with hspent | hmem
    · exact h.agrees c' hnot hrunDir hspent
    · rwa [hset] at hmem
  isOpen c' hc' hopened := by
    obtain ⟨hne, hnot⟩ := ne_and_not_mem_of_not_mem_cons hc'
    rw [attemptedShas_withShas_of_ne _ hne, hctx]
    exact (attemptedShas_withShas_of_ne _ hne _).symm ▸ h.isOpen c' hnot hopened

variable (host call) in
/-- The charge of a class, as a side effect finds it: it is in the ledger file, the class had not been spent
before the call, and its side effect has not been performed. -/
structure Charged (known : CiClass → String → Prop) (c : CiClass) (w : World) : Prop where
  durable : Durable host w.primary c call.headSha
  fresh : ¬ known c call.headSha
  notPerformed : (c, call.headSha) ∉ effects w.trace

lemma charge_meets (hheads : Heads host heads) (hhead : call.headSha ∈ heads) (hc : c ∉ done) :
    Meets (fun w => At host call heads known done opened w ∧ call.headSha ∉ w.ctx.attemptedShas c)
      (charge host call c)
      (fun charged w => At host call heads known (c :: done) opened w ∧ (charged = true → Charged host call known c w))
      (fun _ w => Kept host heads known w) := by
  refine meets_of_each fun w hw => ?_
  obtain ⟨hat, hfree⟩ := hw
  have hcharging := hat.toSound.charging hhead c
  have hkept : Kept host heads known (charging call w c) := ⟨hcharging, hat.keeps⟩
  have hselfSet : (charging call w c).ctx.attemptedShas c =
      ciRecoveryShaSetAdd (w.ctx.attemptedShas c) call.headSha := attemptedShas_withShas_self _ _ _
  unfold charge
  refine Meets.bind getCtx_meets fun before => meets_of_each fun w₁ hw₁ => ?_
  obtain ⟨rfl, rfl⟩ := hw₁
  have hset : Meets (· = w₁)
      (setCtx (w₁.ctx.withShas c (ciRecoveryShaSetAdd (w₁.ctx.attemptedShas c) call.headSha)))
      (fun _ w' => w' = charging call w₁ c) (fun _ w => Kept host heads known w) := by
    refine setCtx_meets ?_
    rintro _ rfl
    rfl
  refine Meets.bind hset fun _ => ?_
  refine Meets.bind ((persist_meets (charging call w₁ c)).mono (fun _ h => h) (fun _ _ h => h)
    fun _ w' hquiet => hkept.quiet hquiet) fun result => ?_
  cases result with
  | ok done' =>
    refine .ret fun w' hw' => ?_
    cases hw' with
    | @persisted ledger nowIso w' hrunDir hload hreplaced =>
      obtain ⟨hsound, hspends, hdurable⟩ := hcharging.replaced hheads hload hreplaced
      obtain ⟨-, haccounts, hspent⟩ := synced_spent hheads hcharging hload nowIso
      have hbefore : ∀ c' head, (charging call w₁ c).Spends host c' head ↔ w₁.Spends host c' head := fun _ _ => Iff.rfl
      have hset : ∀ c' head, head ∈ ((charging call w₁ c).ctx.projected host
          (syncedLedger host (charging call w₁ c) ledger nowIso)).attemptedShas c' ↔
            w₁.Spends host c' head ∨ head ∈ (charging call w₁ c).ctx.attemptedShas c' := by
        intro c' head
        rw [← hbefore, ← hspent]
        exact mem_attemptedShasForAction
      have hunspent : ¬ w₁.Spends host c call.headSha := fun hspends => hfree (hat.agrees c hc hrunDir hspends)
      refine ⟨⟨⟨⟨hsound.toBooks.of_files rfl rfl ⟨[], by simp, rfl⟩,
        within_projected hcharging.context haccounts⟩, fun c' head hknown => ?_⟩,
        fun c' hc' _ hspent' => ?_, fun c' hc' hopened => ?_⟩, fun _ => ⟨?_, ?_, ?_⟩⟩
      · exact (hspends c' head).2 (.inl (hat.keeps c' head hknown))
      · exact (hset c' _).2 ((hspends c' _).1 hspent')
      · obtain ⟨hne, hnot⟩ := ne_and_not_mem_of_not_mem_cons hc'
        rw [hset, not_or]
        have hother : (charging call w₁ c).ctx.attemptedShas c' = w₁.ctx.attemptedShas c' :=
          attemptedShas_withShas_of_ne _ hne _
        rw [hother]
        have hfree' := hat.isOpen c' hnot hopened
        exact ⟨fun hspends' => hfree' (hat.agrees c' hnot hrunDir hspends'), hfree'⟩
      · refine hdurable c call.headSha ?_
        rw [hselfSet]
        exact mem_ciRecoveryShaSetAdd.2 (.inr rfl)
      · exact fun hknown => hunspent (hat.keeps c _ hknown)
      · intro hmem
        have hquiet : Quiet (charging call w₁ c) { charging call w₁ c with trace := w'.trace } :=
          ⟨rfl, rfl, rfl, hreplaced.trace⟩
        have heffects : effects w'.trace = effects w₁.trace := hquiet.effects_eq
        exact hunspent (hat.spent c _ (heffects ▸ hmem))
  | error reason =>
    refine Meets.bind getCtx_meets fun ctx => setCtx_then_ret ?_
    rintro w' ⟨hw', rfl⟩
    refine ⟨?_, fun h => by cases h⟩
    cases hw' with
    | refused _ hquiet =>
      exact hat.rolledBack (hcharging.quiet hquiet)
        (fun c' head hspends => .inl ((hquiet.spends_iff c' head).1 hspends))
        (fun c' head hspends => (hquiet.spends_iff c' head).2 hspends) hquiet.ctx
    | unreported _ hrunDir hload hreplaced =>
      obtain ⟨hsound, hspends, -⟩ := hcharging.replaced hheads hload hreplaced
      exact hat.rolledBack hsound (fun c' head h => (hspends c' head).1 h)
        (fun c' head h => (hspends c' head).2 (.inl h)) hreplaced.ctx

/-! ## Calls without a side effect -/

/-- From every world, a computation leaves all but the trace as it is, and performs nothing. -/
def Quietly {α : Type} (m : CiM α) : Prop :=
  ∀ w, Meets (· = w) m (fun _ w' => Quiet w w') (fun _ w' => Quiet w w')

namespace Quietly

variable {α β : Type}

lemma ret (a : α) : Quietly (pure a : CiM α) := fun w => .ret fun _ h => h ▸ .refl w

lemma bind {m : CiM α} {k : α → CiM β} (hm : Quietly m) (hk : ∀ a, Quietly (k a)) : Quietly (m >>= k) := by
  intro w
  refine Meets.bind (hm w) fun a => meets_of_each fun w₁ hquiet => ?_
  exact (hk a w₁).mono (fun _ h => h) (fun _ _ h => hquiet.trans h) fun _ _ h => hquiet.trans h

lemma recovered {m : CiM α} (hm : Quietly m) : Quietly (recovered m) := by
  intro w
  refine Meets.attempt ((hm w).mono (fun _ h => h) (fun _ _ h => h) fun e w' h => ?_)
  cases hcaught : CiStop.caught e <;> exact h

lemma getCtx : Quietly getCtx := fun w =>
  getCtx_meets.mono (fun _ h => h) (fun _ _ h => h.1 ▸ .refl w) fun _ _ h => h

lemma ask {answer : List CiEvent → Except String α} {event : CiEvent} (h : event.effect = none) :
    Quietly (ask call answer event) := by
  intro w start hstart w'
  subst hstart
  unfold Stage.ask Effect.call
  dsimp only
  split
  · refine ⟨fun a ha => (by cases ha), fun e he => ?_⟩
    cases he
    exact .refl _
  · split
    · refine ⟨fun a ha => ?_, fun e he => (by cases he)⟩
      cases ha
      exact .push _ h
    · refine ⟨fun a ha => (by cases ha), fun e he => ?_⟩
      cases he
      exact .push _ h

lemma meets {m : CiM α} (hm : Quietly m) {P : World → Prop} (hP : ∀ w w', Quiet w w' → P w → P w') :
    Meets P m (fun _ => P) (fun _ => P) :=
  meets_of_each fun w hw => (hm w).mono (fun _ h => h) (fun _ w' h => hP w w' h hw) fun _ w' h => hP w w' h hw

end Quietly

lemma quietly_fetchLogExcerpt (last : Option String) (checks : List CheckRun) :
    Quietly (fetchLogExcerpt call last checks) := by
  induction checks generalizing last with
  | nil => exact .ret last
  | cons check checks ih =>
    refine .bind (.recovered (.ask rfl)) fun answer => ?_
    dsimp only
    split
    · exact .ret _
    · exact ih _

lemma quietly_inspectArchive : Quietly (inspectArchive call) := by
  refine .bind (.ask rfl) fun diffPaths => ?_
  split
  · exact .ret _
  · exact .bind (.ask rfl) fun _ => .ret _

lemma quietly_evaluateArchiveOnlyPriorGreen : Quietly (evaluateArchiveOnlyPriorGreen call) := by
  refine .bind .getCtx fun ctx => ?_
  split
  · exact .ret _
  · refine .bind (.recovered quietly_inspectArchive) fun result => ?_
    cases result <;> exact .ret _

end AgentPipeline.Stage
