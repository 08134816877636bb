import Mathlib.Data.List.Infix
import AgentPipeline.Loop.Documents

/-!
# Quarantine: reading a run whose files hold anything

The read path of `loop/store.ts` on the files of a run directory, whatever their texts are:

* `readPublishedDocument`: returns a document that passes its check; otherwise it keeps a copy of
  the text, restores the last valid generation, or persists an owned wait;
* `persistUnreconstructableOwnedWait`: the wait, assembled from what can be salvaged;
* `readLedger`.

A quarantine settles when the next read finds what this one returned and quarantines nothing more.
`quarantine_settles_iff` says when: a restored generation always settles, and an owned wait does when
the attempts it salvaged one by one also stand together.
-/

namespace AgentPipeline.Loop

open List Option
namespace Documents

open Json

/-! ## The files of a run -/

/-- What a file holds: the value its text parses to, or `none` when it is no JSON. -/
abbrev FileText := Option Json

/-- The files of a run directory; `none` where there is no such file. `quarantined` lists the copies
that were moved aside, oldest first. -/
structure RunFiles where
  runId : String
  path : String
  contract : Option FileText
  contractLastValid : Option FileText
  ledger : Option FileText
  ledgerLastValid : Option FileText
  lock : Option LoopLockRecord
  quarantined : List (String × FileText)

inductive DocumentKind where
  | ledger | contract
deriving DecidableEq, Repr

def DocumentKind.name : DocumentKind → String
  | .ledger => "ledger"
  | .contract => "contract"

/-- The schema id that the store supports. -/
def DocumentKind.schema : DocumentKind → String
  | .ledger => loopLedgerSchema
  | .contract => loopContractSchema

namespace RunFiles

def published (files : RunFiles) : DocumentKind → Option FileText
  | .ledger => files.ledger
  | .contract => files.contract

def publishedPath (files : RunFiles) (kind : DocumentKind) : String :=
  files.path ++ "/" ++ kind.name ++ ".json"

def lastValid (files : RunFiles) : DocumentKind → Option FileText
  | .ledger => files.ledgerLastValid
  | .contract => files.contractLastValid

def publish (files : RunFiles) (kind : DocumentKind) (value : Json) : RunFiles :=
  match kind with
  | .ledger => { files with ledger := some (some value) }
  | .contract => { files with contract := some (some value) }

/-- The parsed contract, when it is one. -/
def validContract (files : RunFiles) : Option Json :=
  files.contract.join.filter isLoopContractShape

/-- The policy as the contract on disk states it. -/
def rawPolicy (files : RunFiles) : Option Json :=
  files.validContract.bind (·.get? "recovery_policy")

/-- The policy that ledgers are validated under; without a contract there is none. -/
def policy (files : RunFiles) : Option Json :=
  match files.validContract with
  | none => none
  | some _ => effectiveRecoveryPolicyForLedgerValidation files.rawPolicy <|> files.rawPolicy

end RunFiles

/-- `SAFE_RUN_ID`. -/
def isSafeRunId (runId : String) : Bool :=
  runId ≠ "" && runId.toList.all fun c => c.isAlphanum || c = '.' || c = '_' || c = '-'

def assertSafeRunId (runId : String) : Except LoopError Unit :=
  if isSafeRunId runId && runId ≠ "." && !decide (['.', '.'] <:+: runId.toList) then .ok ()
  else
    .error (invalid ("invalid run id \"" ++ runId ++ "\": must be a bare name with no path separators or \"..\""))

section Read

variable (rt : JsRuntime)

def documentShapeOk (kind : DocumentKind) (policy : Option Json) (value : Json) : Bool :=
  match kind with
  | .ledger => isLoopLedgerShape rt policy value
  | .contract => isLoopContractShape value

/-- `normalizeValue`: only ledgers are normalized. -/
def normalizeDocument (kind : DocumentKind) (rawPolicy : Option Json) (value : Json) : Json :=
  match kind with
  | .ledger => normalizeRecoveryLedgerCompatibility rt rawPolicy value
  | .contract => value

/-- The text that restoring a generation publishes: its own, unless it was normalized. -/
def restoredText (kind : DocumentKind) (rawPolicy : Option Json) (last : Json) : Json :=
  match kind with
  | .ledger =>
    if ledgerChanges rt rawPolicy last then
      (normalizeRecoveryLedgerCompatibility rt rawPolicy last).printed
    else last
  | .contract => last

/-- `quarantinePublished`: the text is copied aside, and a last valid generation that passes is
published again. -/
def quarantinePublished (kind : DocumentKind) (policy rawPolicy : Option Json) (evidence : String)
    (text : FileText) (files : RunFiles) : RunFiles × Bool :=
  let aside := { files with quarantined := files.quarantined ++ [(evidence, text)] }
  match (files.lastValid kind).join with
  -- there is no last valid generation, or it is no JSON
  | none => (aside, false)
  | some last =>
    if documentShapeOk rt kind policy (normalizeDocument rt kind rawPolicy last) then
      (aside.publish kind (restoredText rt kind rawPolicy last), true)
    else (aside, false)

/-! ## Salvage -/

/-- `pendingItemEntry(id)`. -/
def pendingItem (id : String) : Json :=
  .obj [("id", .str id), ("state", .str "pending"), ("history", .arr []),
    ("recovery_budgets_remaining", .obj [("default", .num (.finite 0))])]

def salvageItemsFromContract (contract : Option Json) : Json :=
  match contract with
  | none => .obj []
  | some contract =>
    (((contract.get? "items").bind elems?).getD []).foldl
      (fun items item =>
        match item.textAt "id" with
        | some id => if id = "" then items else items.assign id (pendingItem id)
        | none => items)
      (.obj [])

/-- An entry that is worth keeping: an object with an id and a state. -/
def isItemEntry (entry : Json) : Bool :=
  entry.isPlainObject && (entry.textAt "id").isSome && (entry.textAt "state").isSome

def salvageItemsFromParsed (parsed : Option Json) : Option Json :=
  match (parsed.bind (·.get? "items")).bind fields? with
  | none => none
  | some fields =>
    let kept := fields.filter fun field => isItemEntry field.2
    if kept.isEmpty then none
    else some (kept.foldl (fun items field => items.assign field.1 field.2) (.obj []))

/-- The items of an owned wait. -/
def salvagedItems (files : RunFiles) (parsed : Option Json) : Json :=
  (salvageItemsFromParsed parsed).getD (salvageItemsFromContract files.validContract)

/-- `salvageRecoveryAttempts(value, policy)`: the rows that pass one by one. -/
def salvageRecoveryAttempts (policy : Option Json) (parsed : Option Json) : List Json :=
  (((parsed.bind (·.get? "recovery_attempts")).bind elems?).getD []).filter
    (isLoopRecoveryAttemptShape rt policy)

/-- The Cooling record of an owned wait. -/
def waitCooling (time wakeAt evidence : String) : Json :=
  .obj [("reason", .str "mechanical_exhaustion"), ("time", .str time),
    ("next_eligible_at", .str wakeAt), ("theme", .str durableGenerationQuarantineTheme),
    ("quarantine_path", .str evidence)]

/-- The ledger of an owned wait that keeps nothing but salvaged items and attempts. -/
def waitLedger (runId : String) (items cooling : Json) (attempts : List Json) : Json :=
  .obj [("schema", .str loopLedgerSchema), ("run_id", .str runId), ("items", items),
    ("consecutive_blocked", .num (.finite 0)), ("merge_barrier", .null), ("stop", .null),
    ("cooling", cooling), ("last_native_goal_check", .null), ("last_reconciliation", .null),
    ("reconciliation_sequence", .num (.finite 0)), ("recovery_attempts", .arr attempts),
    ("authority_amendments", .arr [])]

variable (now : Instant)

/-- `persistUnreconstructableOwnedWait`: the ledger it wrote for a quarantined ledger. For a
quarantined contract it keeps a ledger that passes, under its new Cooling, and returns nothing. -/
def persistUnreconstructableOwnedWait (kind : DocumentKind) (evidence token : String)
    (parsed policy : Option Json) (files : RunFiles) :
    Except LoopError (Option Json) × RunFiles :=
  if isSafeRunId files.runId then
    match requireLockToken files.runId files.lock token with
    | .error e => (.error e, files)
    | .ok _ =>
      match now.addSeconds 60 with
      | none => (.error ⟨.unclassified, "Invalid time value"⟩, files)
      | some wake =>
        let cooling := waitCooling (rt.toISOString now) (rt.toISOString wake) evidence
        let existing := match kind with
          | .ledger => none
          -- only a rejected contract leaves a ledger that may be kept
          | .contract => files.ledger.join.filter (isLoopLedgerShape rt policy)
        let wait := match existing with
          -- the ledger is kept, under its new Cooling
          | some ledger =>
            (ledger.set "cooling" cooling).set "stop" ((ledger.get? "stop").getD .null)
          | none =>
            waitLedger files.runId (salvagedItems files parsed) cooling
              (salvageRecoveryAttempts rt policy parsed)
        let written := { files with
          ledger := some (some wait.printed)
          ledgerLastValid := some (some wait.printed) }
        match kind with
        | .ledger => (.ok (some wait), written)
        | .contract => (.ok none, written)
  else (.ok none, files)

def readPublishedDocument (kind : DocumentKind) (token : Option String)
    (policy rawPolicy : Option Json) (files : RunFiles) : Except LoopError Json × RunFiles :=
  let path := files.publishedPath kind
  match files.published kind with
  | none => (.error (invalid ("loop run document not found under " ++ path)), files)
  | some text =>
    let parsed := text.map (normalizeDocument rt kind rawPolicy)
    match parsed.filter (documentShapeOk rt kind policy) with
    -- the document was repaired between two reads
    | some value => (.ok value, files)
    | none =>
      match (parsed.bind (·.textAt "schema")).filter (· ≠ kind.schema) with
      -- a document of another version is refused and stays where it is
      | some schema =>
        (.error (invalid ("loop " ++ kind.name ++ " schema id \"" ++ schema ++
          "\" is outside the store's supported set")), files)
      | none =>
        let evidence := quarantinePathFor path (rt.toISOString now)
        let (aside, reconstructed) :=
          quarantinePublished rt kind policy rawPolicy evidence text files
        -- what was published again is read and judged once more
        let restored := if reconstructed then
            ((aside.published kind).join.map (normalizeDocument rt kind rawPolicy)).filter
              (documentShapeOk rt kind policy)
          else none
        let report := "quarantined invalid " ++ kind.name ++ " generation at " ++ path ++
          " (" ++ (if parsed.isNone then "truncated_or_invalid_json" else "schema_failure") ++
          "); reconstructed=" ++ toString reconstructed ++ "; evidence=" ++ evidence
        match restored with
        | some value => (.ok value, aside)
        | none =>
          match token.filter (· ≠ "") with
          -- only the lock holder may write a wait
          | none =>
            (.error ⟨.lock, report ++ "; persist requires the current lock holder's token"⟩, aside)
          | some token =>
            match persistUnreconstructableOwnedWait rt now kind evidence token parsed
                policy aside with
            | (.error e, after) => (.error e, after)
            | (.ok (some wait), after) => (.ok wait, after)
            | (.ok none, after) => (.error (invalid report), after)

/-- `readLedger(runId, token)`. -/
def readLedger (token : Option String) (files : RunFiles) : Except LoopError Json × RunFiles :=
  match assertSafeRunId files.runId with
  | .error e => (.error e, files)
  | .ok () =>
    match files.ledger with
    | none =>
      (.error (invalid ("loop run \"" ++ files.runId ++ "\" ledger not found under " ++ files.path)), files)
    | some text =>
      match (text.map (normalizeRecoveryLedgerCompatibility rt files.rawPolicy)).filter
          (isLoopLedgerShape rt files.policy) with
      | some value => (.ok value, files)
      | none => readPublishedDocument rt now .ledger token files.policy files.rawPolicy files

end Read

/-! ## The next read -/

section Settling

variable (rt : JsRuntime)

/-- The check that a read makes of a ledger, under the contract on disk. -/
def RunFiles.accepts (files : RunFiles) (value : Json) : Bool :=
  isLoopLedgerShape rt files.policy (normalizeRecoveryLedgerCompatibility rt files.rawPolicy value)

/-- There is a ledger, and a read rejects it. -/
def RunFiles.LedgerRejected (files : RunFiles) : Prop :=
  ∃ text, files.ledger = some text ∧ text.any (files.accepts rt) = false

/-- The ledger on disk passes, and every later read returns this value and changes nothing. -/
structure Settled (files : RunFiles) (value : Json) : Prop where
  accepted : ∃ document, files.ledger = some (some document) ∧ files.accepts rt document = true
  again : ∀ now token, readLedger rt now token files = (.ok value, files)

variable {rt} {now : Instant} {token : Option String} {files files' : RunFiles} {value : Json}

lemma policy_congr (h : files'.contract = files.contract) :
    files'.rawPolicy = files.rawPolicy ∧ files'.policy = files.policy := by
  simp [RunFiles.policy, RunFiles.rawPolicy, RunFiles.validContract, h]

lemma accepts_congr (h : files'.contract = files.contract) : files'.accepts rt = files.accepts rt := by
  obtain ⟨hraw, hpolicy⟩ := policy_congr h
  funext value
  simp [RunFiles.accepts, hraw, hpolicy]

lemma readLedger_of_accepts {document : Json} (hsafe : assertSafeRunId files.runId = .ok ())
    (hledger : files.ledger = some (some document)) (haccepts : files.accepts rt document = true) :
    readLedger rt now token files =
      (.ok (normalizeRecoveryLedgerCompatibility rt files.rawPolicy document), files) := by
  have hshape : isLoopLedgerShape rt files.policy
      (normalizeRecoveryLedgerCompatibility rt files.rawPolicy document) = true := haccepts
  simp [readLedger, hsafe, hledger, Option.filter, hshape]

lemma settled_iff {document : Json} (hsafe : assertSafeRunId files.runId = .ok ())
    (hledger : files.ledger = some (some document)) : Settled rt files value ↔ files.accepts rt document = true ∧
      normalizeRecoveryLedgerCompatibility rt files.rawPolicy document = value := by
  constructor
  · rintro ⟨⟨found, hfound, haccepts⟩, hagain⟩
    obtain rfl : document = found := by simpa using hledger.symm.trans hfound
    refine ⟨haccepts, ?_⟩
    have hread := hagain .epoch none
    rw [readLedger_of_accepts hsafe hledger haccepts] at hread
    simpa using hread
  · rintro ⟨haccepts, rfl⟩
    exact ⟨⟨document, hledger, haccepts⟩, fun now token => readLedger_of_accepts hsafe hledger haccepts⟩

/-! ## The owned wait -/

lemma isPlainObject_assign (object : Json) (key : String) (value : Json) :
    (object.assign key value).isPlainObject = object.isPlainObject := by
  unfold assign
  split
  · rfl
  · simp

lemma isPlainObject_foldl {α : Type} {f : Json → α → Json}
    (hf : ∀ object a, (f object a).isPlainObject = object.isPlainObject) (l : List α)
    (object : Json) : (l.foldl f object).isPlainObject = object.isPlainObject := by
  induction l generalizing object with
  | nil => rfl
  | cons a l ih => rw [foldl_cons, ih, hf]

lemma isPlainObject_salvagedItems (files : RunFiles) (parsed : Option Json) :
    (salvagedItems files parsed).isPlainObject = true := by
  unfold salvagedItems
  cases hparsed : salvageItemsFromParsed parsed with
  | some items =>
    unfold salvageItemsFromParsed at hparsed
    split at hparsed
    · simp at hparsed
    · dsimp only at hparsed
      split at hparsed
      · simp at hparsed
      · obtain rfl := some.inj hparsed
        exact isPlainObject_foldl (fun object field => isPlainObject_assign object _ _) _ _
  | none =>
    simp only [getD_none]
    unfold salvageItemsFromContract
    split
    · rfl
    · refine isPlainObject_foldl (fun object item => ?_) _ _
      split
      · split
        · rfl
        · exact isPlainObject_assign _ _ _
      · rfl

lemma normal_of_normalized {rawPolicy : Option Json} {document : Json} {rows : List Json}
    (h : (normalizeRecoveryLedgerCompatibility rt rawPolicy document).get? "recovery_attempts" =
      some (.arr rows)) : ∀ row ∈ rows, normalizeAttempt rt rawPolicy row = row := by
  unfold normalizeRecoveryLedgerCompatibility at h
  split at h
  · next old hold =>
    split at h
    · have hobject : document.isPlainObject = true := by
        cases document with
        | obj fields => rfl
        | _ => simp [get?] at hold
      rw [get?_set_self hobject] at h
      obtain rfl : old.map (normalizeAttempt rt rawPolicy) = rows := by simpa using h
      intro row hrow
      obtain ⟨source, _, rfl⟩ := mem_map.1 hrow
      exact normalizeAttempt_idem rawPolicy source
    · next hsame =>
      obtain rfl : old = rows := by simpa [hold] using h
      intro row hrow
      refine normalizeAttempt_of_unchanged ?_
      simpa using any_eq_false.1 (by simpa using hsame) row hrow
  · next hother => exact absurd h (hother rows)

lemma mem_salvageRecoveryAttempts {policy rawPolicy : Option Json} {text : FileText}
    {row : Json} (h : row ∈ salvageRecoveryAttempts rt policy
      (text.map (normalizeRecoveryLedgerCompatibility rt rawPolicy))) :
    isLoopRecoveryAttemptShape rt policy row = true ∧ normalizeAttempt rt rawPolicy row = row := by
  unfold salvageRecoveryAttempts at h
  obtain ⟨hrow, hshape⟩ := mem_filter.1 h
  refine ⟨hshape, ?_⟩
  cases text with
  | none => simp at hrow
  | some document =>
    simp only [map_some, bind_some] at hrow
    cases hget : (normalizeRecoveryLedgerCompatibility rt rawPolicy document).get?
        "recovery_attempts" with
    | none => simp [hget] at hrow
    | some attempts =>
      cases attempts with
      | arr rows =>
        have hmem : row ∈ rows := by simpa [hget, elems?] using hrow
        exact normal_of_normalized hget row hmem
      | _ => simp [hget, elems?] at hrow

section Wait

variable {runId evidence : String} {items : Json} {rows : List Json} {policy rawPolicy : Option Json}
  {wake : Instant}

lemma get?_waitLedger (runId : String) (items cooling : Json) (rows : List Json) :
    (waitLedger runId items cooling rows).get? "schema" = some (.str loopLedgerSchema) ∧
      (waitLedger runId items cooling rows).get? "run_id" = some (.str runId) ∧
      (waitLedger runId items cooling rows).get? "items" = some items ∧
      (waitLedger runId items cooling rows).get? "consecutive_blocked" = some (.num (.finite 0)) ∧
      (waitLedger runId items cooling rows).get? "stop" = some .null ∧
      (waitLedger runId items cooling rows).get? "merge_barrier" = some .null ∧
      (waitLedger runId items cooling rows).get? "last_reconciliation" = some .null ∧
      (waitLedger runId items cooling rows).get? "recovery_attempts" = some (.arr rows) ∧
      (waitLedger runId items cooling rows).get? "cooling" = some cooling ∧
      (waitLedger runId items cooling rows).get? "item_cooling" = none := by
  simp [waitLedger, get?, lookup_cons]

lemma normalize_waitLedger {cooling : Json} (hnormal : ∀ row ∈ rows, normalizeAttempt rt rawPolicy row = row) :
    normalizeRecoveryLedgerCompatibility rt rawPolicy (waitLedger runId items cooling rows) =
      waitLedger runId items cooling rows := by
  obtain ⟨_, _, _, _, _, _, _, hget, _⟩ := get?_waitLedger runId items cooling rows
  have hrows : rows.map (normalizeAttempt rt rawPolicy) = rows := by
    calc rows.map (normalizeAttempt rt rawPolicy) = rows.map id := map_congr_left hnormal
      _ = rows := map_id rows
  unfold normalizeRecoveryLedgerCompatibility
  rw [hget]
  dsimp only
  split
  · rw [hrows]
    exact set_of_get? hget
  · rfl

lemma isCoolingRecordShape_waitCooling : isCoolingRecordShape rt
      (waitCooling (rt.toISOString now) (rt.toISOString wake) evidence) = true := by
  have hget : ∀ time wakeAt, (waitCooling time wakeAt evidence).get? "reason" = some (.str "mechanical_exhaustion") ∧
      (waitCooling time wakeAt evidence).get? "time" = some (.str time) ∧
      (waitCooling time wakeAt evidence).get? "next_eligible_at" = some (.str wakeAt) ∧
      (waitCooling time wakeAt evidence).get? "candidate_epoch" = none := by
    simp [waitCooling, get?, lookup_cons]
  obtain ⟨hreason, htime, hwake, hepoch⟩ := hget (rt.toISOString now) (rt.toISOString wake)
  have hplain : (waitCooling (rt.toISOString now) (rt.toISOString wake) evidence).isPlainObject = true := rfl
  simp [isCoolingRecordShape, isIsoTimestampAt, textAt, absentOr, hplain, hreason, htime, hwake,
    hepoch, text?, isIsoTimestamp_toISOString]

lemma isLoopLedgerShape_waitLedger (hrun : runId ≠ "") (hitems : items.isPlainObject = true)
    (hshape : ∀ row ∈ rows, isLoopRecoveryAttemptShape rt policy row = true) : isLoopLedgerShape rt policy
        (waitLedger runId items (waitCooling (rt.toISOString now) (rt.toISOString wake) evidence)
          rows) = ledgerEpisodesAreAuthoritative rt policy rows := by
  obtain ⟨hschema, hid, hitem, hblocked, hstop, hbarrier, hlast, hattempts, hcooling,
    hitemCooling⟩ := get?_waitLedger runId items
      (waitCooling (rt.toISOString now) (rt.toISOString wake) evidence) rows
  have hobject : (waitLedger runId items
      (waitCooling (rt.toISOString now) (rt.toISOString wake) evidence) rows).isPlainObject = true := rfl
  have hplain : rows.filter isPlainObject = rows := by
    refine filter_eq_self.2 fun row hrow => ?_
    have h := hshape row hrow
    simp only [isLoopRecoveryAttemptShape, Bool.and_eq_true] at h
    tauto
  have hall : rows.all (isLoopRecoveryAttemptShape rt policy) = true := all_eq_true.2 hshape
  have hcool : coolingInShape rt (waitCooling (rt.toISOString now) (rt.toISOString wake) evidence) = true :=
    isCoolingRecordShape_waitCooling
  simp only [isLoopLedgerShape, hobject, textAt, hschema, isNonEmptyStringAt, hid, hitem,
    hblocked, hstop, hbarrier, hlast, absentOr, hattempts, hcooling, hitemCooling,
    bind_some, text?, number?, any_some, all_some, all_none,
    isSome_some, hitems, hcool, attemptsInShape, hall, hplain, decide_true, hrun, ne_eq,
    not_false_eq_true, Bool.true_and, Bool.and_true]

lemma isFinite_waitLedger {time wakeAt : String} :
    (waitLedger runId items (waitCooling time wakeAt evidence) rows).isFinite = true ↔
      items.isFinite = true ∧ rows.all isFinite = true := by
  simp [waitLedger, waitCooling, isFinite, isFiniteFields, isFiniteField, isFiniteElems, isFiniteElems_eq_all]

end Wait

/-! ## What a read makes of a rejected ledger -/

variable (rt)

/-- The last valid generation passes, and still does as it is published again. -/
def RunFiles.restores (files : RunFiles) : Bool :=
  files.ledgerLastValid.join.any fun last =>
    files.accepts rt last && files.accepts rt (restoredText rt .ledger files.rawPolicy last)

/-- The value of the ledger on disk, normalized. -/
def RunFiles.parsedLedger (files : RunFiles) : Option Json :=
  files.ledger.join.map (normalizeRecoveryLedgerCompatibility rt files.rawPolicy)

/-- The attempts that an owned wait keeps. -/
def RunFiles.salvagedAttempts (files : RunFiles) : List Json :=
  salvageRecoveryAttempts rt files.policy (files.parsedLedger rt)

variable {rt}

lemma quarantinePublished_ledger (rt : JsRuntime) (files : RunFiles) (evidence : String) (text : FileText) :
    (quarantinePublished rt .ledger files.policy files.rawPolicy evidence text files).1.contract = files.contract ∧
      (quarantinePublished rt .ledger files.policy files.rawPolicy evidence text files).1.runId = files.runId ∧
      ((quarantinePublished rt .ledger files.policy files.rawPolicy evidence text files).2 =
          false → files.restores rt = false) ∧
      ((quarantinePublished rt .ledger files.policy files.rawPolicy evidence text files).2 =
          true → ∃ last, files.ledgerLastValid.join = some last ∧ files.accepts rt last = true ∧
            (quarantinePublished rt .ledger files.policy files.rawPolicy evidence text
              files).1.ledger = some (some (restoredText rt .ledger files.rawPolicy last))) := by
  unfold quarantinePublished
  dsimp only [RunFiles.lastValid, documentShapeOk, normalizeDocument]
  cases hlast : files.ledgerLastValid.join with
  | none => simp [RunFiles.restores, hlast]
  | some last =>
    by_cases hok : files.accepts rt last = true
    · have hshape : isLoopLedgerShape rt files.policy
          (normalizeRecoveryLedgerCompatibility rt files.rawPolicy last) = true := hok
      simp [hshape, RunFiles.publish, hok]
    · have hshape : isLoopLedgerShape rt files.policy
          (normalizeRecoveryLedgerCompatibility rt files.rawPolicy last) = false := by
        simpa [RunFiles.accepts] using hok
      simp [hshape, RunFiles.restores, hlast, hok]

lemma persistWait_eq_some {evidence token : String} {parsed policy : Option Json}
    (h : persistUnreconstructableOwnedWait rt now .ledger evidence token parsed policy files =
      (.ok (some value), files')) : files'.contract = files.contract ∧ files'.runId = files.runId ∧
      files'.ledger = some (some value.printed) ∧ ∃ wake, value = waitLedger files.runId (salvagedItems files parsed)
        (waitCooling (rt.toISOString now) (rt.toISOString wake) evidence)
        (salvageRecoveryAttempts rt policy parsed) := by
  unfold persistUnreconstructableOwnedWait at h
  split at h
  · split at h
    · simp at h
    · split at h
      · simp at h
      · next wake _ =>
        dsimp only at h
        simp only [Prod.mk.injEq, Except.ok.injEq, Option.some.injEq] at h
        obtain ⟨rfl, rfl⟩ := h
        exact ⟨rfl, rfl, rfl, wake, rfl⟩
  · simp at h

lemma reread_quarantined (rt : JsRuntime) (files : RunFiles) (evidence : String)
    (text : FileText) {aside : RunFiles} {reconstructed : Bool} {restored : Option Json}
    (hquarantine : quarantinePublished rt .ledger files.policy files.rawPolicy evidence text files =
      (aside, reconstructed))
    (hrestored : restored = if reconstructed = true then
        (aside.ledger.join.map (normalizeRecoveryLedgerCompatibility rt files.rawPolicy)).filter
          (isLoopLedgerShape rt files.policy)
      else none) :
    restored.isSome = files.restores rt ∧ ∀ value, restored = some value →
      ∃ document, aside.ledger = some (some document) ∧ files.accepts rt document = true ∧
        normalizeRecoveryLedgerCompatibility rt files.rawPolicy document = value := by
  obtain ⟨_, _, hgone, hback⟩ := quarantinePublished_ledger rt files evidence text
  rw [hquarantine] at hgone hback
  cases reconstructed with
  | false =>
    subst hrestored
    exact ⟨by simp [hgone rfl], by simp⟩
  | true =>
    obtain ⟨last, hlast, haccepts, haside⟩ := hback rfl
    dsimp only at haside
    -- the generation as it was printed is judged again
    have hrestores : files.restores rt = files.accepts rt (restoredText rt .ledger files.rawPolicy last) := by
      simp [RunFiles.restores, hlast, haccepts]
    simp only [haside, join_some, map_some, if_true] at hrestored
    constructor
    · rw [hrestores, hrestored]
      simp [RunFiles.accepts]
    · intro value hvalue
      obtain ⟨hnormal, hok⟩ := filter_eq_some_iff.1 (hrestored.symm.trans hvalue)
      obtain rfl := some.inj hnormal
      exact ⟨_, haside, hok, rfl⟩

lemma readLedger_of_rejected (hrejected : files.LedgerRejected rt)
    (h : readLedger rt now token files = (.ok value, files')) :
    assertSafeRunId files.runId = .ok () ∧ files'.contract = files.contract ∧ files'.runId = files.runId ∧
      ((files.restores rt = true ∧ ∃ document, files'.ledger = some (some document) ∧ files.accepts rt document = true ∧
          normalizeRecoveryLedgerCompatibility rt files.rawPolicy document = value) ∨
        (files.restores rt = false ∧ files'.ledger = some (some value.printed) ∧
          ∃ wake evidence, value = waitLedger files.runId (salvagedItems files (files.parsedLedger rt))
            (waitCooling (rt.toISOString now) (rt.toISOString wake) evidence) (files.salvagedAttempts rt))) := by
  obtain ⟨text, hledger, hnone⟩ := hrejected
  have hparsed : files.parsedLedger rt = text.map (normalizeRecoveryLedgerCompatibility rt files.rawPolicy) := by
    simp [RunFiles.parsedLedger, hledger]
  have hfilter : (files.parsedLedger rt).filter (isLoopLedgerShape rt files.policy) = none := by
    rw [hparsed]
    cases text with
    | none => rfl
    | some document => simpa [RunFiles.accepts] using hnone
  unfold readLedger at h
  split at h
  · simp at h
  · next hsafe =>
    refine ⟨hsafe, ?_⟩
    simp only [hledger, ← hparsed, hfilter] at h
    have hshape : documentShapeOk rt .ledger files.policy = isLoopLedgerShape rt files.policy := rfl
    have hnormalize : normalizeDocument rt .ledger files.rawPolicy =
      normalizeRecoveryLedgerCompatibility rt files.rawPolicy := rfl
    dsimp only [readPublishedDocument, RunFiles.published] at h
    simp only [hledger, hshape, hnormalize, ← hparsed, hfilter] at h
    split at h
    · simp at h
    · generalize hpath : quarantinePathFor (files.publishedPath .ledger) (rt.toISOString now) = evidence at h
      obtain ⟨hcontract, hrunId, _, _⟩ := quarantinePublished_ledger rt files evidence text
      generalize hquarantine : quarantinePublished rt .ledger files.policy files.rawPolicy evidence
        text files = quarantine at h hcontract hrunId
      obtain ⟨aside, reconstructed⟩ := quarantine
      dsimp only at h hcontract hrunId
      generalize hreread : ite (reconstructed = true) _ _ = restored at h
      obtain ⟨hrestores, hdocument⟩ :=
        reread_quarantined rt files evidence text hquarantine hreread.symm
      cases restored with
      | some restored =>
        simp only [Prod.mk.injEq, Except.ok.injEq] at h
        obtain ⟨rfl, rfl⟩ := h
        exact ⟨hcontract, hrunId, .inl ⟨hrestores.symm, hdocument _ rfl⟩⟩
      | none =>
        dsimp only at h
        split at h
        · simp at h
        · next token' _ =>
          split at h
          · simp at h
          · next wait after hwait =>
            simp only [Prod.mk.injEq, Except.ok.injEq] at h
            obtain ⟨rfl, rfl⟩ := h
            obtain ⟨hcontract', hrunId', hledger', wake, hvalue⟩ :=
              persistWait_eq_some hwait
            refine ⟨hcontract'.trans hcontract, hrunId'.trans hrunId,
              .inr ⟨hrestores.symm, hledger', wake, evidence, ?_⟩⟩
            rw [hvalue, hrunId]
            simp [RunFiles.salvagedAttempts, salvagedItems, RunFiles.validContract, hcontract]
          · simp at h

/-- A quarantine settles in one step exactly when the last valid generation was restored, or the
salvaged attempts stand together and no salvaged number is lost in print. -/
theorem quarantine_settles_iff (hrejected : files.LedgerRejected rt)
    (h : readLedger rt now token files = (.ok value, files')) :
    Settled rt files' value ↔ files.restores rt = true ∨
      (ledgerEpisodesAreAuthoritative rt files.policy (files.salvagedAttempts rt) = true ∧
        (salvagedItems files (files.parsedLedger rt)).isFinite = true ∧
        (files.salvagedAttempts rt).all isFinite = true) := by
  obtain ⟨hsafe, hcontract, hrunId, hcases⟩ := readLedger_of_rejected hrejected h
  have hsafe' : assertSafeRunId files'.runId = .ok () := by rw [hrunId, hsafe]
  obtain ⟨hraw, hpolicy⟩ := policy_congr hcontract
  rcases hcases with ⟨hrestores, document, hledger, haccepts, rfl⟩ |
    ⟨hrestores, hledger, wake, evidence, hvalue⟩
  · rw [settled_iff hsafe' hledger, accepts_congr hcontract, hraw]
    simp [hrestores, haccepts]
  · -- the wait is its own normal form, and its check asks for the agreement of the attempts
    have hrows : ∀ row ∈ files.salvagedAttempts rt, isLoopRecoveryAttemptShape rt files.policy row = true ∧
          normalizeAttempt rt files.rawPolicy row = row :=
      fun row hrow => mem_salvageRecoveryAttempts hrow
    have hrun : files.runId ≠ "" := by
      intro hempty
      rw [hempty] at hsafe
      exact absurd hsafe (by decide)
    have hnormal : normalizeRecoveryLedgerCompatibility rt files.rawPolicy value = value := by
      rw [hvalue]
      exact normalize_waitLedger fun row hrow => (hrows row hrow).2
    have hcheck : files.accepts rt value =
        ledgerEpisodesAreAuthoritative rt files.policy (files.salvagedAttempts rt) := by
      rw [RunFiles.accepts, hnormal, hvalue]
      exact isLoopLedgerShape_waitLedger hrun (isPlainObject_salvagedItems files _)
        fun row hrow => (hrows row hrow).1
    have hfinite : value.isFinite = true ↔ (salvagedItems files (files.parsedLedger rt)).isFinite = true ∧
          (files.salvagedAttempts rt).all isFinite = true := by
      rw [hvalue]
      exact isFinite_waitLedger
    rw [settled_iff hsafe' hledger, accepts_congr hcontract, hraw, ← hfinite]
    -- a number that is lost in print makes the wait differ from what was returned
    constructor
    · rintro ⟨haccepts, hsame⟩
      have hprint : value.isFinite = true := by
        rw [← hsame]
        exact isFinite_normalizeLedger _ (isFinite_printed value)
      rw [(printed_eq_self_iff value).2 hprint, hcheck] at haccepts
      exact .inr ⟨haccepts, hprint⟩
    · rintro (hback | ⟨hagree, hprint⟩)
      · simp [hrestores] at hback
      · rw [(printed_eq_self_iff value).2 hprint, hcheck]
        exact ⟨hagree, hnormal⟩

end Settling

/-! ## Two claims of one login -/

def loginDigests : List (String × String) :=
  [("\x00".intercalate
      ["pipeline-recovery-episode@1", "loop_recovery", "environment-auth", "a1b2c3", "5f1e"],
    "5a7b8140f5c09d51825b87662dcdc7b0fab5a79182547098b2a6376db2313ab6")]

/-- The first claim of a login, as it is written. -/
def loginAttempt (seq : ℚ) : Json :=
  .obj [("item_id", .str "12"), ("seq", .num (.finite seq)),
    ("time", .str "1970-01-01T00:00:00.000Z"), ("class", .str "environment-auth"),
    ("action", .str "verify_authentication"), ("outcome", .str "started"),
    ("operation", .str "loop_recovery"), ("invariant", .str "environment-auth"),
    ("candidate_epoch", .str "a1b2c3"), ("evidence_identity", .str "5f1e"),
    ("episode_id", .str "5a7b8140f5c09d51825b87662dcdc7b0fab5a79182547098b2a6376db2313ab6"),
    ("attempts_per_strategy", .obj [("verify_authentication", .num (.finite 1))]),
    ("strategy_cursor", .num (.finite 0)),
    ("next_eligible_at", .str "1970-01-01T00:00:10.000Z")]

/-- A run without a last valid generation, whose ledger lost its `stop` field. -/
def loginFiles (attempts : List Json) : RunFiles where
  runId := "r"
  path := "runs/r"
  contract := some (some (.obj [("schema", .str loopContractSchema), ("run_id", .str "r"),
    ("engine", .str "claude"), ("repo", .obj []), ("items", .arr [.obj [("id", .str "12")]])]))
  contractLastValid := none
  ledger := some (some (.obj [("schema", .str loopLedgerSchema), ("run_id", .str "r"),
    ("items", .obj [("12", .obj [("id", .str "12"), ("state", .str "blocked")])]),
    ("consecutive_blocked", .num (.finite 0)), ("merge_barrier", .null),
    ("last_reconciliation", .null), ("recovery_attempts", .arr attempts)]))
  ledgerLastValid := none
  lock := some { engine := .claude, pid := 1, hostname := "host", token := "t" }
  quarantined := []

/-- With one claim, the wait settles. -/
theorem login_settles :
    ∃ value, (readLedger (.onFirstDay loginDigests) .epoch (some "t")
        (loginFiles [loginAttempt 0])).1 = .ok value ∧
      Settled (.onFirstDay loginDigests) (readLedger (.onFirstDay loginDigests) .epoch (some "t")
        (loginFiles [loginAttempt 0])).2 value := by
  have hok : (readLedger (.onFirstDay loginDigests) .epoch (some "t")
      (loginFiles [loginAttempt 0])).1.toOption.isSome = true := by decide +kernel
  cases hread : (readLedger (.onFirstDay loginDigests) .epoch (some "t")
      (loginFiles [loginAttempt 0])).1 with
  | error e => simp [hread, Except.toOption] at hok
  | ok value =>
    have hrejected : (loginFiles [loginAttempt 0]).LedgerRejected (.onFirstDay loginDigests) :=
      ⟨_, rfl, by decide +kernel⟩
    refine ⟨value, rfl, (quarantine_settles_iff hrejected (Prod.ext hread rfl)).2 (.inr ?_)⟩
    exact ⟨by decide +kernel, by decide +kernel, by decide +kernel⟩

/-- With the same claim twice, each row passes alone, but not the two together: the wait that
salvaged them is rejected itself. -/
theorem disagreeing_claims_requarantined :
    ¬∀ (rt : JsRuntime) (now : Instant) (token : String) (files files' : RunFiles) (value : Json),
      files.LedgerRejected rt → readLedger rt now (some token) files = (.ok value, files') →
        Settled rt files' value := by
  intro h
  have hok : (readLedger (.onFirstDay loginDigests) .epoch (some "t")
      (loginFiles [loginAttempt 0, loginAttempt 1])).1.toOption.isSome = true := by decide +kernel
  cases hread : (readLedger (.onFirstDay loginDigests) .epoch (some "t")
      (loginFiles [loginAttempt 0, loginAttempt 1])).1 with
  | error e => simp [hread, Except.toOption] at hok
  | ok value =>
    have hsettled := h (.onFirstDay loginDigests) .epoch "t"
      (loginFiles [loginAttempt 0, loginAttempt 1]) _ value ⟨_, rfl, by decide +kernel⟩
      (Prod.ext hread rfl)
    obtain ⟨document, hledger, haccepts⟩ := hsettled.accepted
    have hnot : (readLedger (.onFirstDay loginDigests) .epoch (some "t")
        (loginFiles [loginAttempt 0, loginAttempt 1])).2.ledger.join.any
          ((readLedger (.onFirstDay loginDigests) .epoch (some "t")
            (loginFiles [loginAttempt 0, loginAttempt 1])).2.accepts
              (.onFirstDay loginDigests)) = false := by decide +kernel
    simp [hledger, haccepts] at hnot

end Documents
end AgentPipeline.Loop
