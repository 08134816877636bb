import AgentPipeline.Loop.Lifecycle
import AgentPipeline.Loop.RecoveryEpisodes

/-!
# Store: the ledger document, its shape check and the quarantine

`loop/store.ts` on one run directory. A directory holds the contract, the published ledger, the
last valid generation, the lock and the quarantined generations:

* `isLoopLedgerShape`: the check that makes a document live authority;
* `readLedger`: returns the published ledger when it passes; otherwise keeps a copy of it as
  evidence and restores the last valid generation, or persists an owned wait;
* `writeLedger`: refuses a foreign token and a mutation of an unreconciled owned wait, publishes
  the ledger and, when it passes the check, records it as the last valid generation;
* `transact`: the read, decide, write of every engine operation.

`itemsInForce` is the table of items that a read returns. The last section shows that a read
does not change it, and that a write changes it to the written table or not at all.
-/

namespace AgentPipeline.Loop

/-! ## Shape -/

section Shape

variable (rt : JsRuntime)

def isIsoTimestamp (text : String) : Bool :=
  text ≠ "" && (rt.dateParse text).isSome

lemma isIsoTimestamp_toISOString (t : Instant) : isIsoTimestamp rt (rt.toISOString t) = true := by
  simp [isIsoTimestamp, rt.toISOString_ne_empty, rt.dateParse_toISOString]

variable (policy : RecoveryPolicy)

/-- `attemptCarriesEpisodeState`: one of the episode fields is there. -/
def attemptCarriesEpisodeState (a : LoopRecoveryAttempt) : Bool :=
  a.episodeId.isSome || a.operation.isSome || a.invariant.isSome || a.candidateEpoch.isSome ||
    a.evidenceIdentity.isSome || a.attemptsPerStrategy.isSome || a.strategyCursor.isSome ||
    a.nextEligibleAt.isSome

/-- `isCompleteEpisodeState(value, policy)`. -/
def isCompleteEpisodeState (a : LoopRecoveryAttempt) : Bool :=
  a.nextEligibleAt.any (isIsoTimestamp rt) && isAuthoritativeEpisodeState rt policy a []

/-- `isLoopRecoveryAttemptShape(value, policy)`. -/
def isLoopRecoveryAttemptShape (a : LoopRecoveryAttempt) : Bool :=
  a.itemId ≠ "" && a.time ≠ "" && (a.action.isSome || a.actions.any (!·.isEmpty)) &&
    (!attemptCarriesEpisodeState a || isCompleteEpisodeState rt policy a)

def isCoolingRecordShape (cooling : LoopCoolingRecord) : Bool :=
  isIsoTimestamp rt cooling.time && cooling.nextEligibleAt.any (isIsoTimestamp rt)

/-- `isLoopLedgerShape(value, policy)`. -/
def isLoopLedgerShape (ledger : LoopLedger) : Bool :=
  ledger.runId ≠ "" && ledger.recoveryAttempts.all (isLoopRecoveryAttemptShape rt policy) &&
    ledgerEpisodesAreAuthoritative rt policy ledger.recoveryAttempts &&
    ledger.cooling.all (isCoolingRecordShape rt) &&
    ledger.itemCooling.values.all (isCoolingRecordShape rt)

end Shape

/-! ## The run directory -/

/-- A published run: `initRun` creates the directory with contract, ledger and last valid
generation in one rename, so none of them is missing. -/
structure RunDir where
  path : String
  runId : String
  contract : LoopContract
  ledger : LoopLedger
  lastValid : Option LoopLedger
  lock : Option LoopLockRecord
  /-- The generations moved aside by `quarantinePublished`, oldest first. -/
  quarantined : List LoopLedger

namespace RunDir

def ledgerPath (d : RunDir) : String := d.path ++ "/ledger.json"

end RunDir

/-- The contract of a run `r`, under the default policy. -/
def contractOf (items : List LoopContractItem) : LoopContract where
  runId := "r"
  engine := .claude
  logicalOperationId := none
  authorityGrants := []
  recoveryPolicy := defaultRecoveryPolicy
  items := items

/-- A run of one item, as it is published, under the lock of its supervisor. -/
def runOf (entry : LoopItemLedgerEntry) : RunDir where
  path := "runs/r"
  runId := "r"
  contract := contractOf [⟨entry.id, [], []⟩]
  ledger := { runId := "r", items := JsObject.empty.set entry.id entry }
  lastValid := none
  lock := some { engine := .claude, pid := 1, hostname := "host", token := "t" }
  quarantined := []

def quarantinePathFor (publishedPath nowIso : String) : String :=
  publishedPath ++ ".quarantine." ++ String.ofList (nowIso.toList.map fun c => if c = ':' ∨ c = '.' then '-' else c)

/-- `DURABLE_GENERATION_QUARANTINE_THEME`. -/
def durableGenerationQuarantineTheme : String := "durable_generation_quarantine"

def isQuarantineOwnedWait (ledger : LoopLedger) : Bool :=
  ledger.cooling.any (fun c => c.theme = some durableGenerationQuarantineTheme) && ledger.lastReconciliation.isNone

def quarantineWaitBlocksMutation (current next : LoopLedger) : Bool :=
  isQuarantineOwnedWait current && next.lastReconciliation.isNone &&
    (current.items ≠ next.items || current.recoveryAttempts ≠ next.recoveryAttempts)

def pendingItemEntry (id : String) : LoopItemLedgerEntry where
  id := id
  state := .pending
  recoveryBudgetsRemaining := JsObject.empty.set "default" 0

def salvageItemsFromContract (contract : LoopContract) : JsObject LoopItemLedgerEntry :=
  contract.items.foldl
    (fun items item => if item.id = "" then items else items.set item.id (pendingItemEntry item.id))
    .empty

/-- The items of the rejected generation, or pending items when it had none. -/
def salvageItems (contract : LoopContract) (items : JsObject LoopItemLedgerEntry) :
    JsObject LoopItemLedgerEntry :=
  if items.entries.isEmpty then salvageItemsFromContract contract else items

/-- `requireToken(runId, token)`, with what the lock file holds. -/
def requireLockToken (runId : String) (lock : Option LoopLockRecord) (token : String) :
    Except LoopError LoopLockRecord :=
  let refuse (holder : String) : Except LoopError LoopLockRecord :=
    .error ⟨.lock, "loop run \"" ++ runId ++
      "\": mutating operation requires the current lock holder's token (" ++ holder ++ ")"⟩
  match lock with
  | none => refuse "no holder"
  | some lock =>
    if lock.token = token then .ok lock
    else refuse (lock.engine.name ++ " pid " ++ toString lock.pid ++ " on " ++ lock.hostname)

/-- `requireToken(runId, token)`. -/
def requireToken (d : RunDir) (token : String) : Except LoopError LoopLockRecord :=
  requireLockToken d.runId d.lock token

variable {d : RunDir}

lemma requireToken_eq_ok {token : String} {lock : LoopLockRecord} :
    requireToken d token = .ok lock ↔ d.lock = some lock ∧ lock.token = token := by
  unfold requireToken requireLockToken
  cases hl : d.lock with
  | none => simp
  | some l =>
    by_cases ht : l.token = token
    · simp only [ht, if_true, Except.ok.injEq, Option.some.injEq]
      constructor
      · rintro rfl
        exact ⟨rfl, ht⟩
      · exact And.left
    · simp only [ht, if_false, reduceCtorEq, Option.some.injEq, false_iff]
      rintro ⟨rfl, h⟩
      exact ht h

variable {e : LoopError}

lemma requireToken_eq_error {token : String} (h : requireToken d token = .error e) : e.loopFailureClass = .lock := by
  unfold requireToken requireLockToken at h
  dsimp only at h
  split at h
  · simp only [Except.error.injEq] at h
    simp [← h]
  · split at h
    · simp at h
    · simp only [Except.error.injEq] at h
      simp [← h]

variable (rt : JsRuntime) (now : Instant)

/-- The policy that validation reads from the contract on disk. -/
def LoopContract.validationPolicy (contract : LoopContract) : RecoveryPolicy :=
  effectivePolicy contract.recoveryPolicy

/-- `normalizeRecoveryLedgerCompatibility` under the contract on disk. -/
def LoopContract.normalize (contract : LoopContract) (ledger : LoopLedger) : LoopLedger :=
  normalizeRecoveryLedgerCompatibility rt contract.recoveryPolicy ledger

/-- The normalized document passes the shape check under the contract on disk. -/
def LoopContract.accepts (contract : LoopContract) (ledger : LoopLedger) : Bool :=
  isLoopLedgerShape rt contract.validationPolicy (contract.normalize rt ledger)

/-- The owned wait that `persistUnreconstructableOwnedWait` builds for a rejected ledger. -/
def ownedWait (d : RunDir) (rejected : LoopLedger) (evidence : String) (wakeAt : String) :
    LoopLedger where
  runId := d.runId
  items := salvageItems d.contract rejected.items
  cooling := some (buildCoolingRecord
    { reason := .mechanicalExhaustion, time := rt.toISOString now, nextEligibleAt := wakeAt
      theme := some durableGenerationQuarantineTheme, quarantinePath := some evidence })
  recoveryAttempts :=
    rejected.recoveryAttempts.filter (isLoopRecoveryAttemptShape rt d.contract.validationPolicy)

/-- `readPublishedDocument` after the shape check failed and the last valid generation did not
help: without a token the read refuses, with one it persists an owned wait. -/
def persistUnreconstructableOwnedWait (token : Option String) (evidence : String) (d : RunDir)
    (rejected : LoopLedger) : Except LoopError LoopLedger × RunDir :=
  match token with
  | none =>
    (.error ⟨.lock, "quarantined invalid ledger generation at " ++ d.ledgerPath ++
      " (schema_failure); reconstructed=false; evidence=" ++ evidence ++
      "; persist requires the current lock holder's token"⟩, d)
  | some token =>
    match requireToken d token with
    | .error e => (.error e, d)
    | .ok _ =>
      match now.addSeconds 60 with
      | none => (.error ⟨.unclassified, "Invalid time value"⟩, d)
      | some wake =>
        let wait := ownedWait rt now d rejected evidence (rt.toISOString wake)
        (.ok wait, { d with ledger := wait, lastValid := some wait })

/-- `readLedger(runId, token)`. A restored generation is read back and normalized once more,
which by `normalizeLedger_idem` changes nothing. -/
def readLedger (token : Option String) (d : RunDir) : Except LoopError LoopLedger × RunDir :=
  if d.contract.accepts rt d.ledger then (.ok (d.contract.normalize rt d.ledger), d)
  else
    -- the rejected generation is copied aside before anything is written over it
    let evidence := quarantinePathFor d.ledgerPath (rt.toISOString now)
    let aside := { d with quarantined := d.quarantined ++ [d.ledger] }
    let rejected := d.contract.normalize rt d.ledger
    match d.lastValid with
    | some last =>
      if d.contract.accepts rt last then
        (.ok (d.contract.normalize rt last), { aside with ledger := d.contract.normalize rt last })
      else persistUnreconstructableOwnedWait rt now token evidence aside rejected
    | none => persistUnreconstructableOwnedWait rt now token evidence aside rejected

def writeLedger (token : String) (ledger : LoopLedger) (d : RunDir) :
    Except LoopError Unit × RunDir :=
  match requireToken d token with
  | .error e => (.error e, d)
  | .ok _ =>
    let next := d.contract.normalize rt ledger
    let current := d.contract.normalize rt d.ledger
    if d.contract.accepts rt d.ledger && quarantineWaitBlocksMutation current next then
      (.error ⟨.validation, "quarantined generation wait requires live reconciliation before mutation; evidence=" ++
          ((current.cooling.bind (·.quarantinePath)).getD "missing")⟩, d)
    else
      -- the generation that is written over becomes the last valid one if it passes
      let kept := if d.contract.accepts rt d.ledger then some current else d.lastValid
      (.ok (), { d with
        ledger := next
        lastValid := if d.contract.accepts rt ledger then some next else kept })

/-- The shape of every operation on a run: read the ledger, decide, and write what was decided.
The decision may refuse, or find nothing to write. -/
def transact {α : Type} (readToken : Option String) (token : String)
    (decide : LoopLedger → Except LoopError (α × Option LoopLedger)) (d : RunDir) :
    Except LoopError α × RunDir :=
  match readLedger rt now readToken d with
  | (.error e, d₁) => (.error e, d₁)
  | (.ok ledger, d₁) =>
    match decide ledger with
    | .error e => (.error e, d₁)
    | .ok (a, none) => (.ok a, d₁)
    | .ok (a, some next) =>
      match writeLedger rt token next d₁ with
      | (.error e, d₂) => (.error e, d₂)
      | (.ok (), d₂) => (.ok a, d₂)

/-! ## Reads and writes keep the rest of the directory -/

@[simp] lemma normalize_items (contract : LoopContract) (ledger : LoopLedger) :
    (contract.normalize rt ledger).items = ledger.items := rfl

@[simp] lemma normalize_normalize (contract : LoopContract) (ledger : LoopLedger) :
    contract.normalize rt (contract.normalize rt ledger) = contract.normalize rt ledger :=
  normalizeLedger_idem rt contract.recoveryPolicy ledger

@[simp] lemma accepts_normalize (contract : LoopContract) (ledger : LoopLedger) :
    contract.accepts rt (contract.normalize rt ledger) = contract.accepts rt ledger := by
  simp [LoopContract.accepts]

/-- Contract, lock and name of the directory stay. -/
structure SameRun (d d' : RunDir) : Prop where
  contract : d'.contract = d.contract
  lock : d'.lock = d.lock
  runId : d'.runId = d.runId

lemma SameRun.refl (d : RunDir) : SameRun d d := ⟨rfl, rfl, rfl⟩

variable {d₁ : RunDir}

lemma SameRun.trans {d₂ d₃ : RunDir} (h : SameRun d₁ d₂) (h' : SameRun d₂ d₃) : SameRun d₁ d₃ :=
  ⟨h'.contract.trans h.contract, h'.lock.trans h.lock, h'.runId.trans h.runId⟩

lemma sameRun_ownedWait (token : Option String) (evidence : String) (d : RunDir) (rejected : LoopLedger) :
    SameRun d (persistUnreconstructableOwnedWait rt now token evidence d rejected).2 := by
  unfold persistUnreconstructableOwnedWait
  repeat' split
  all_goals exact ⟨rfl, rfl, rfl⟩

lemma sameRun_readLedger (token : Option String) (d : RunDir) : SameRun d (readLedger rt now token d).2 := by
  have haside : SameRun d { d with quarantined := d.quarantined ++ [d.ledger] } := ⟨rfl, rfl, rfl⟩
  unfold readLedger
  dsimp only
  split
  · exact SameRun.refl d
  · split
    · split
      · exact ⟨rfl, rfl, rfl⟩
      · exact haside.trans (sameRun_ownedWait rt now token _ _ _)
    · exact haside.trans (sameRun_ownedWait rt now token _ _ _)

lemma sameRun_writeLedger (token : String) (ledger : LoopLedger) (d : RunDir) :
    SameRun d (writeLedger rt token ledger d).2 := by
  unfold writeLedger
  dsimp only
  repeat' split
  all_goals exact ⟨rfl, rfl, rfl⟩

variable {α : Type}

lemma sameRun_transact (readToken : Option String) (token : String)
    (decide : LoopLedger → Except LoopError (α × Option LoopLedger)) (d : RunDir) :
    SameRun d (transact rt now readToken token decide d).2 := by
  have hread := sameRun_readLedger rt now readToken d
  unfold transact
  split
  · next h => simpa [h] using hread
  · next ledger d₁ h =>
    have hread : SameRun d d₁ := by simpa [h] using hread
    split
    · exact hread
    · exact hread
    · next a next hdecide =>
      have hwrite := sameRun_writeLedger rt token next d₁
      split
      · next hw => exact hread.trans (by simpa [hw] using hwrite)
      · next hw => exact hread.trans (by simpa [hw] using hwrite)

/-! ## Refusals -/

lemma readLedger_none_eq_error (h : readLedger rt now none d = (.error e, d₁)) : e.loopFailureClass = .lock := by
  unfold readLedger at h
  dsimp only [persistUnreconstructableOwnedWait] at h
  split at h
  · simp at h
  · split at h
    · split at h
      · simp at h
      · simp only [Prod.mk.injEq, Except.error.injEq] at h
        simp [← h.1]
    · simp only [Prod.mk.injEq, Except.error.injEq] at h
      simp [← h.1]

variable {ledger : LoopLedger}

lemma writeLedger_eq_ok {token : String} (h : writeLedger rt token ledger d = (.ok (), d₁)) :
    (∃ lock, requireToken d token = .ok lock) ∧ d₁.ledger = d.contract.normalize rt ledger ∧
      (d.contract.accepts rt ledger = true → d₁.lastValid = some (d.contract.normalize rt ledger)) := by
  unfold writeLedger at h
  dsimp only at h
  split at h
  · simp at h
  · next lock htoken =>
    split at h
    · simp at h
    · simp only [Prod.mk.injEq, true_and] at h
      subst h
      exact ⟨⟨lock, htoken⟩, rfl, fun hacc => by simp [hacc]⟩

variable {contract : LoopContract}

lemma not_quarantineWaitBlocksMutation (h : ledger.lastReconciliation.isSome = true) (current : LoopLedger) :
    quarantineWaitBlocksMutation current (contract.normalize rt ledger) = false := by
  have hnone : (contract.normalize rt ledger).lastReconciliation.isNone = false := by
    simpa [LoopContract.normalize, normalizeRecoveryLedgerCompatibility] using h
  simp [quarantineWaitBlocksMutation, hnone]

lemma writeLedger_eq_error {token : String} (hreconciled : ledger.lastReconciliation.isSome = true)
    (h : writeLedger rt token ledger d = (.error e, d₁)) : requireToken d token = .error e := by
  unfold writeLedger at h
  dsimp only at h
  split at h
  · next htoken =>
    simp only [Prod.mk.injEq, Except.error.injEq] at h
    rw [htoken, h.1]
  · simp [not_quarantineWaitBlocksMutation rt hreconciled] at h

/-! ## The items in force -/

/-- The table of items that a read returns. -/
def itemsInForce (d : RunDir) : JsObject LoopItemLedgerEntry :=
  if d.contract.accepts rt d.ledger then d.ledger.items
  else
    match d.lastValid with
    | some last =>
      if d.contract.accepts rt last then last.items else salvageItems d.contract d.ledger.items
    | none => salvageItems d.contract d.ledger.items

lemma salvageItems_salvageItems (contract : LoopContract) (items : JsObject LoopItemLedgerEntry) :
    salvageItems contract (salvageItems contract items) = salvageItems contract items := by
  -- the contract's items are salvaged once, and salvaging them again finds them
  by_cases h : items.entries.isEmpty
  · by_cases h' : (salvageItemsFromContract contract).entries.isEmpty <;>
      simp [salvageItems, h, h']
  · simp [salvageItems, h]

variable {token : Option String} {evidence : String} {rejected : LoopLedger}

lemma ownedWait_eq_ok (h : persistUnreconstructableOwnedWait rt now token evidence d rejected = (.ok ledger, d₁)) :
    token ≠ none ∧ d₁.ledger = ledger ∧ d₁.lastValid = some ledger ∧
      ledger.items = salvageItems d.contract rejected.items := by
  unfold persistUnreconstructableOwnedWait at h
  cases token with
  | none => simp at h
  | some token =>
    dsimp only at h
    split at h
    · simp at h
    · split at h
      · simp at h
      · simp only [Prod.mk.injEq, Except.ok.injEq] at h
        obtain ⟨rfl, rfl⟩ := h
        exact ⟨by simp, rfl, rfl, rfl⟩

lemma readLedger_cases (h : readLedger rt now token d = (.ok ledger, d₁)) :
    (d₁.contract.accepts rt d₁.ledger = true ∧ ledger = d₁.contract.normalize rt d₁.ledger ∧
        d₁.ledger.items = itemsInForce rt d) ∨ (token ≠ none ∧ d₁.ledger = ledger ∧ d₁.lastValid = some ledger ∧
        ledger.items = salvageItems d.contract d.ledger.items ∧ ledger.items = itemsInForce rt d) := by
  unfold readLedger at h
  dsimp only at h
  split at h
  · next hacc =>
    simp only [Prod.mk.injEq, Except.ok.injEq] at h
    obtain ⟨rfl, rfl⟩ := h
    exact .inl ⟨hacc, rfl, by simp [itemsInForce, hacc]⟩
  · next hacc =>
    split at h
    · next last hlast =>
      split at h
      · next hl =>
        simp only [Prod.mk.injEq, Except.ok.injEq] at h
        obtain ⟨rfl, rfl⟩ := h
        exact .inl ⟨by simp [hl], by simp, by simp [itemsInForce, hacc, hlast, hl]⟩
      -- neither generation passes: the read took over the items in a wait
      · next hl =>
        obtain ⟨htoken, hledger, hvalid, hitems⟩ := ownedWait_eq_ok rt now h
        exact .inr ⟨htoken, hledger, hvalid, hitems, by simpa [itemsInForce, hacc, hlast, hl] using hitems⟩
    · next hlast =>
      obtain ⟨htoken, hledger, hvalid, hitems⟩ := ownedWait_eq_ok rt now h
      exact .inr ⟨htoken, hledger, hvalid, hitems, by simpa [itemsInForce, hacc, hlast] using hitems⟩

lemma itemsInForce_of_accepts (h : d.contract.accepts rt d.ledger = true) : itemsInForce rt d = d.ledger.items := by
  simp [itemsInForce, h]

lemma accepts_congr {ledger' : LoopLedger} (hrun : ledger'.runId = ledger.runId)
    (hattempts : ledger'.recoveryAttempts = ledger.recoveryAttempts) (hcooling : ledger'.cooling = ledger.cooling)
    (hitemCooling : ledger'.itemCooling = ledger.itemCooling) :
    contract.accepts rt ledger' = contract.accepts rt ledger := by
  cases ledger
  cases ledger'
  dsimp only at hrun hattempts hcooling hitemCooling
  subst hrun hattempts hcooling hitemCooling
  rfl

lemma readLedger_of_accepts (h : d.contract.accepts rt d.ledger = true) :
    readLedger rt now token d = (.ok (d.contract.normalize rt d.ledger), d) := by
  simp [readLedger, h]

lemma ownedWait_eq_error (h : persistUnreconstructableOwnedWait rt now token evidence d rejected = (.error e, d₁)) :
    d₁ = d := by
  unfold persistUnreconstructableOwnedWait at h
  cases token with
  | none =>
    simp only [Prod.mk.injEq] at h
    exact h.2.symm
  | some token =>
    dsimp only at h
    split at h
    · simp only [Prod.mk.injEq] at h
      exact h.2.symm
    · split at h
      · simp only [Prod.mk.injEq] at h
        exact h.2.symm
      · simp at h

lemma readLedger_eq_error (h : readLedger rt now token d = (.error e, d₁)) :
    d₁ = { d with quarantined := d.quarantined ++ [d.ledger] } := by
  unfold readLedger at h
  dsimp only at h
  split at h
  · simp at h
  · split at h
    · split at h
      · simp at h
      · exact ownedWait_eq_error rt now h
    · exact ownedWait_eq_error rt now h

lemma itemsInForce_readLedger (token : Option String) (d : RunDir) :
    itemsInForce rt (readLedger rt now token d).2 = itemsInForce rt d := by
  have hsame := sameRun_readLedger rt now token d
  cases hread : readLedger rt now token d with
  | mk result d₁ =>
    rw [hread] at hsame
    cases result with
    -- a refused read only adds to the quarantine
    | error e =>
      rw [readLedger_eq_error rt now hread]
      rfl
    | ok ledger =>
      rcases readLedger_cases rt now hread with ⟨hacc, _, hitems⟩ |
        ⟨_, hledger, hlast, hsalvage, hforce⟩
      · rw [itemsInForce_of_accepts rt hacc, hitems]
      · -- published and last valid are the same owned wait
        have hcontract : d₁.contract = d.contract := hsame.contract
        unfold itemsInForce at hforce ⊢
        simp only [hledger, hlast, hcontract]
        rw [← hforce]
        split
        · rfl
        · rw [hsalvage, salvageItems_salvageItems]

variable {readToken : Option String}

lemma itemsInForce_writeLedger (token : String) (next : LoopLedger)
    (hread : readLedger rt now readToken d = (.ok ledger, d₁)) :
    itemsInForce rt (writeLedger rt token next d₁).2 = itemsInForce rt d ∨
      itemsInForce rt (writeLedger rt token next d₁).2 = next.items ∨ next.items.entries.isEmpty = true := by
  have hforce : itemsInForce rt d₁ = itemsInForce rt d := by
    have h := itemsInForce_readLedger rt now readToken d
    rwa [hread] at h
  unfold writeLedger
  dsimp only
  split
  · exact .inl hforce
  · split
    · exact .inl hforce
    · by_cases hnext : d₁.contract.accepts rt next
      · -- the written generation passes and is in force
        exact .inr (.inl (by simp [itemsInForce, hnext]))
      · by_cases hacc : d₁.contract.accepts rt d₁.ledger
        · -- it is rejected, and the generation it was written over is restored
          rw [itemsInForce_of_accepts rt hacc] at hforce
          exact .inl (by rw [← hforce]; simp [itemsInForce, hnext, hacc])
        · -- it is rejected over an owned wait that is rejected itself
          have hlast : d₁.lastValid = some d₁.ledger := by
            rcases readLedger_cases rt now hread with ⟨h, _⟩ | ⟨_, hledger, hlast, _⟩
            · exact absurd h hacc
            · rw [hlast, hledger]
          by_cases hempty : next.items.entries.isEmpty
          · exact .inr (.inr hempty)
          · exact .inr (.inl (by simp [itemsInForce, hnext, hacc, hlast, salvageItems, hempty]))

/-! ## What an operation keeps -/

/-- Every item with the property keeps it. -/
def Keeps (p : LoopItemLedgerEntry → Prop) (items items' : JsObject LoopItemLedgerEntry) : Prop :=
  ∀ id entry, items.get? id = some entry → p entry → ∃ entry', items'.get? id = some entry' ∧ p entry'

omit rt now in
lemma Keeps.refl (p : LoopItemLedgerEntry → Prop) (items : JsObject LoopItemLedgerEntry) : Keeps p items items :=
  fun _ entry hentry hp => ⟨entry, hentry, hp⟩

variable {p : LoopItemLedgerEntry → Prop}

omit rt now in
lemma Keeps.trans {items₁ items₂ items₃ : JsObject LoopItemLedgerEntry} (h : Keeps p items₁ items₂)
    (h' : Keeps p items₂ items₃) : Keeps p items₁ items₃ := by
  intro id entry hentry hp
  obtain ⟨entry₂, hentry₂, hp₂⟩ := h id entry hentry hp
  exact h' id entry₂ hentry₂ hp₂

lemma readLedger_items (h : (readLedger rt now token d).1 = .ok ledger) : ledger.items = itemsInForce rt d := by
  cases hread : readLedger rt now token d with
  | mk result d₁ =>
    rw [hread] at h
    obtain rfl : result = .ok ledger := h
    rcases readLedger_cases rt now hread with ⟨_, rfl, hitems⟩ | ⟨_, _, _, _, hitems⟩
    · simpa using hitems
    · exact hitems

lemma keeps_transact {token : String} {decide : LoopLedger → Except LoopError (α × Option LoopLedger)}
    (h : ∀ ledger a next, (readLedger rt now readToken d).1 = .ok ledger →
      decide ledger = .ok (a, some next) → Keeps p ledger.items next.items) :
    Keeps p (itemsInForce rt d) (itemsInForce rt (transact rt now readToken token decide d).2) := by
  have hforce := itemsInForce_readLedger rt now readToken d
  unfold transact
  split
  · next hread =>
    rw [hread] at hforce
    exact hforce ▸ Keeps.refl p _
  · next ledger d₁ hread =>
    rw [hread] at hforce
    split
    · exact hforce ▸ Keeps.refl p _
    · exact hforce ▸ Keeps.refl p _
    · next a next hdecide =>
      have hkeeps : Keeps p (itemsInForce rt d) next.items := by
        rw [← readLedger_items rt now (by rw [hread])]
        exact h ledger a next (by rw [hread]) hdecide
      have hwrite : Keeps p (itemsInForce rt d) (itemsInForce rt (writeLedger rt token next d₁).2) := by
        rcases itemsInForce_writeLedger rt now token next hread with heq | heq | hempty
        · exact heq ▸ Keeps.refl p _
        · exact heq ▸ hkeeps
        · -- an empty table keeps nothing, so there was nothing to keep
          intro id entry hentry hp
          obtain ⟨entry', hentry', _⟩ := hkeeps id entry hentry hp
          have hnil : next.items.entries = [] := by simpa using hempty
          simp [JsObject.get?, hnil] at hentry'
      split
      · next hw => simpa [hw] using hwrite
      · next hw => simpa [hw] using hwrite

end AgentPipeline.Loop
