import AgentPipeline.Pin.Undo

/-!
# Pin.Target: a rollback writes what was authorised

A rollback restores a snapshot of the current pin, or rebuilds the pin of another version from the evidence of an
FRG pass. Either way an envelope is checked against a retained target first.

* `checkedTarget`: the target that the envelope is checked against;
* `Grants`, `mac_determines`: what a check that passes says of the envelope;
* `rollback_lands_iff`: when the pin that is written is that of the target.
-/

namespace AgentPipeline.Pin

open Option
open JsText (trim nonBlank)
open JsRegExp (isHexDigit)

/-! ## The target -/

/-- The snapshot that a rollback restores; without one it rebuilds. -/
def restoredSnapshot (opts : RollbackOpts) (current : ProductionEnginePin) : Option ProductionEnginePinPrevious :=
  match opts.toVersion.filter nonBlank with
  | none => current.previous.join
  | some toVersion =>
    match normalizeFrgVersion toVersion with
    | .error _ => none
    | .ok target => current.previous.join.filter fun snapshot => versionsMatch snapshot.version.text target.text

/-- The retained target that a rollback is authorised for. -/
def checkedTarget (opts : RollbackOpts) (env : PinEnv) (current : ProductionEnginePin) :
    Option RollbackRetainedTarget :=
  match restoredSnapshot opts current with
  | some snapshot => some (retainedTargetOf snapshot.version snapshot.tag snapshot.gitSha.join)
  | none =>
    match (opts.toVersion.filter nonBlank).map normalizeFrgVersion with
    | some (.ok target) =>
      match env.lookupFrg target with
      | .ok (.pass evidence) => some (retainedTargetOf target (tagForVersion target) evidence.candidateGitSha)
      | _ => none
    | _ => none

/-! ## The envelope -/

variable {target : RollbackRetainedTarget}

section Envelopes

variable (host : NodeHost) (hmacSha256Hex : String → String → String)

/-- `signRollbackEnvelope(unsigned, key)`. -/
def signRollbackEnvelope (envelope : RollbackAuthorityEnvelope) (key : String) : RollbackAuthorityEnvelope :=
  { envelope with
    mac := some (rollbackEnvelopeMacPrefix ++ hmacSha256Hex key (Grill.canonicalJson host envelope.unsigned)) }

/-- What an envelope says that passes its check. -/
structure Grants (opts : RollbackOpts) (now : Option Instant) (envelope : RollbackAuthorityEnvelope)
    (target : RollbackRetainedTarget) : Prop where
  operation : envelope.kind = rollbackEnvelopeKind ∧ envelope.operation = rollbackOperation
  version : dropLetterV envelope.retainedTarget.version = dropLetterV target.version
  tag : ∀ tag ∈ target.tag, nonBlank tag = true →
    normalizeRollbackTag (trim (envelope.retainedTarget.tag.getD "")) = normalizeRollbackTag tag
  digest : ∀ sha ∈ normalizeRollbackOid host target.gitSha.join,
    normalizeRollbackOid host envelope.retainedTarget.gitSha.join = some sha
  repository : trim envelope.repository = trim (opts.repository.getD opts.repoDir)
  unexpired : ∃ expires ∈ host.dateParse envelope.expiresAt, ∀ t ∈ now, t.ms < expires.ms
  signed : opts.automatic = true → ∃ mac ∈ envelope.mac,
    rollbackEnvelopeMacPrefix.toList.isPrefixOf mac.toList = true ∧ trim (opts.key.getD "") ≠ "" ∧
      hmacEqual (hmacSha256Hex (trim (opts.key.getD "")) (Grill.canonicalJson host envelope.unsigned))
        (String.ofList (mac.toList.drop rollbackEnvelopeMacPrefix.length)) = true

variable {host hmacSha256Hex} {presented retained : RollbackRetainedTarget}

lemma target_of_assertTarget (h : assertTarget presented retained = none) :
    dropLetterV presented.version = dropLetterV retained.version ∧ ∀ tag ∈ retained.tag, nonBlank tag = true →
        normalizeRollbackTag (trim (presented.tag.getD "")) = normalizeRollbackTag tag := by
  unfold assertTarget at h
  split at h
  · cases h
  · split at h
    · cases h
    · next hversion =>
      refine ⟨not_not.1 hversion, fun tag htag hblank => ?_⟩
      have hfilter : retained.tag.filter nonBlank = some tag := by
        rw [mem_def.1 htag, filter_some, if_pos hblank]
      rw [hfilter] at h
      split at h
      · cases h
      · next tag' presentedTag _ htag' hpresented =>
        obtain rfl := some.inj htag'
        split at h
        · cases h
        · next hsame => exact not_not.1 hsame
      · next hnone => cases hnone

lemma digest_of_assertDigest (h : assertDigest host presented retained = none) :
    ∀ sha ∈ normalizeRollbackOid host retained.gitSha.join,
      normalizeRollbackOid host presented.gitSha.join = some sha := by
  intro sha hsha
  unfold assertDigest at h
  rw [mem_def.1 hsha] at h
  split at h
  · next hnone => cases hnone
  · cases h
  · next expected sha' hexpected hpresented =>
    obtain rfl := some.inj hexpected
    split at h
    · cases h
    · next hsame => rw [hpresented, not_not.1 hsame]

variable {envelope : RollbackAuthorityEnvelope}

lemma validity_of_assertValidity {opts : AssertRollbackEnvelopeOpts} (h : assertValidity host envelope opts = none) :
    trim envelope.repository = trim opts.repository ∧
      ∃ expires ∈ host.dateParse envelope.expiresAt, ∀ now ∈ opts.nowMs, now < expires.ms := by
  unfold assertValidity at h
  split at h
  · cases h
  · split at h
    · cases h
    · split at h
      · cases h
      · next hrepository =>
        refine ⟨not_not.1 hrepository, ?_⟩
        split at h
        · cases h
        · cases h
        · next expires _ hexpires =>
          split at h
          · cases h
          · next hlive =>
            refine ⟨expires, hexpires, fun now hnow => ?_⟩
            rw [mem_def.1 hnow] at hlive
            simpa using hlive

lemma mac_of_assertMac {hmacKey : Option String} (h : assertMac host hmacSha256Hex envelope hmacKey = none) :
    ∃ mac ∈ envelope.mac, rollbackEnvelopeMacPrefix.toList.isPrefixOf mac.toList = true ∧ trim (hmacKey.getD "") ≠ "" ∧
        hmacEqual (hmacSha256Hex (trim (hmacKey.getD "")) (Grill.canonicalJson host envelope.unsigned))
          (String.ofList (mac.toList.drop rollbackEnvelopeMacPrefix.length)) = true := by
  unfold assertMac at h
  dsimp only at h
  split at h
  · cases h
  · next hkey =>
    split at h
    · cases h
    · next mac hmac =>
      obtain ⟨hpresent, hstarts⟩ := filter_eq_some_iff.1 hmac
      split at h
      · next hequal => exact ⟨mac, hpresent, hstarts, hkey, hequal⟩
      · cases h

/-- The check of an envelope, passed. -/
lemma grants_of_assert {opts : RollbackOpts} {now : Option Instant}
    (h : assertRollbackEnvelope host hmacSha256Hex (some envelope) target
      { repository := opts.repository.getD opts.repoDir, nowMs := now.map Instant.ms, hmacKey := opts.key
        requireMac := opts.automatic } = none) : Grants host hmacSha256Hex opts now envelope target := by
  unfold assertRollbackEnvelope at h
  dsimp only at h
  split at h
  · cases h
  · next hkind =>
    split at h
    · cases h
    · next hoperation =>
      simp only [or_eq_none_iff] at h
      obtain ⟨htarget, hdigest, hvalid, hmac⟩ := h
      obtain ⟨hversion, htag⟩ := target_of_assertTarget htarget
      obtain ⟨hrepository, expires, hexpires, hlive⟩ := validity_of_assertValidity hvalid
      refine ⟨⟨not_not.1 hkind, not_not.1 hoperation⟩, hversion, htag, digest_of_assertDigest hdigest,
        hrepository, ⟨expires, hexpires, fun t ht => hlive t.ms (mem_map_of_mem _ ht)⟩, ?_⟩
      intro hautomatic
      rw [if_pos hautomatic] at hmac
      exact mac_of_assertMac hmac

/-! ## What the MAC covers -/

lemma hexValue_of_isHexDigit {c : Char} (h : isHexDigit c = true) :
    ∃ n, JsonText.hexValue c = some n ∧ n < 16 ∧ c.toNat = if n < 10 then n + 48 else n + 87 := by
  have hbounds := toNat_of_isHexDigit h
  unfold JsonText.hexValue
  rcases hbounds with ⟨hlow, hhigh⟩ | ⟨hlow, hhigh⟩
  · have hdigit : c.isDigit = true := by
      simpa [Char.isDigit, Char.le_def, UInt32.le_iff_toNat_le] using And.intro hlow hhigh
    refine ⟨c.toNat - 48, by rw [if_pos hdigit], by omega, ?_⟩
    rw [if_pos (by omega)]
    omega
  · have hdigit : ¬ c.isDigit = true := by
      simp only [Char.isDigit, UInt32.le_iff_toNat_le, Bool.and_eq_true, decide_eq_true_eq, not_and]
      intro _ hno
      have : c.toNat ≤ 57 := hno
      omega
    have hletter : 'a' ≤ c ∧ c ≤ 'f' := by
      simpa [Char.le_def, UInt32.le_iff_toNat_le] using And.intro hlow hhigh
    refine ⟨c.toNat - 87, by rw [if_neg hdigit, if_pos hletter], by omega, ?_⟩
    rw [if_neg (by omega)]
    omega

/-- A text of pairs of hex digits. -/
def IsHexText (cs : List Char) : Prop := (∀ c ∈ cs, isHexDigit c = true) ∧ 2 ∣ cs.length

/-- A text of hex digits is its bytes. -/
lemma hexBytes_inj : ∀ {a b : List Char}, IsHexText a → IsHexText b → hexBytes a = hexBytes b → a = b
  | [], [], _, _, _ => rfl
  | [x], _, ha, _, _ => absurd ha.2 (by simp)
  | _, [z], _, hb, _ => absurd hb.2 (by simp)
  | [], z :: t :: b, _, ⟨hb, _⟩, h => by
      obtain ⟨nz, hz, -⟩ := hexValue_of_isHexDigit (hb z (by simp))
      obtain ⟨nt, ht, -⟩ := hexValue_of_isHexDigit (hb t (by simp))
      simp [hexBytes, hz, ht] at h
  | x :: y :: a, [], ⟨ha, _⟩, _, h => by
      obtain ⟨nx, hx, -⟩ := hexValue_of_isHexDigit (ha x (by simp))
      obtain ⟨ny, hy, -⟩ := hexValue_of_isHexDigit (ha y (by simp))
      simp [hexBytes, hx, hy] at h
  | x :: y :: a, z :: t :: b, ⟨ha, haEven⟩, ⟨hb, hbEven⟩, h => by
      obtain ⟨nx, hx, hx', hxc⟩ := hexValue_of_isHexDigit (ha x (by simp))
      obtain ⟨ny, hy, hy', hyc⟩ := hexValue_of_isHexDigit (ha y (by simp))
      obtain ⟨nz, hz, hz', hzc⟩ := hexValue_of_isHexDigit (hb z (by simp))
      obtain ⟨nt, ht, ht', htc⟩ := hexValue_of_isHexDigit (hb t (by simp))
      simp only [hexBytes, hx, hy, hz, ht, List.cons.injEq] at h
      obtain ⟨hbyte, hrest⟩ := h
      obtain rfl : nx = nz := by omega
      obtain rfl : ny = nt := by omega
      have hsame := hexBytes_inj (a := a) (b := b)
        ⟨fun c hc => ha c (by simp [hc]), (Nat.dvd_add_left (dvd_refl 2)).1 haEven⟩
        ⟨fun c hc => hb c (by simp [hc]), (Nat.dvd_add_left (dvd_refl 2)).1 hbEven⟩ hrest
      rw [Char.toNat_inj.1 (hxc.trans hzc.symm), Char.toNat_inj.1 (hyc.trans htc.symm), hsame]

lemma eq_of_hmacEqual {a b : String} (ha : IsHexText a.toList) (hb : IsHexText b.toList)
    (h : hmacEqual a b = true) : a = b := by
  unfold hmacEqual at h
  simp only [Bool.and_eq_true, decide_eq_true_eq] at h
  exact String.toList_inj.1 (hexBytes_inj ha hb h.2)

/-- The target in the order of its keys. -/
def targetJson (target : RollbackRetainedTarget) : Json :=
  .obj ((target.gitSha.map fun sha => ("git_sha", sha.elim Json.null Json.str)).toList ++
    ((target.tag.map fun tag => ("tag", Json.str tag)).toList ++ [("version", Json.str target.version)]))

/-- The unsigned envelope in the order of its keys. -/
def sortedFields (envelope : RollbackAuthorityEnvelope) : List (String × Json) :=
  [("actor", .str envelope.actor), ("expires_at", .str envelope.expiresAt), ("issued_at", .str envelope.issuedAt),
    ("kind", .str envelope.kind), ("operation", .str envelope.operation), ("repository", .str envelope.repository),
    ("retained_target", targetJson envelope.retainedTarget)]

lemma canonicalize_obj (keys sorted : List (String × ℕ)) (value : ℕ → Json) {fields : List (String × Json)}
    (hfields : Grill.canonicalizeFields fields = keys.map fun k => (k.1, value k.2))
    (hsorted : keys.insertionSort (fun a b => utf16Units a.1 ≤ utf16Units b.1) = sorted)
    (hkeys : (sorted.map Prod.fst).Nodup ∧
      ∀ key ∈ sorted.map Prod.fst, JsonText.isIndexKey key = false ∧ key ≠ "__proto__") :
    Grill.canonicalize (.obj fields) = .obj (sorted.map fun k => (k.1, value k.2)) := by
  have hsort : Grill.sortFields (keys.map fun k => (k.1, value k.2)) = sorted.map fun k => (k.1, value k.2) := by
    rw [← hsorted]
    exact (List.map_insertionSort (fun a b : String × ℕ => utf16Units a.1 ≤ utf16Units b.1)
      (fun a b : String × Json => utf16Units a.1 ≤ utf16Units b.1) _ _ fun _ _ _ _ => Iff.rfl).symm
  have hfst : (sorted.map fun k => (k.1, value k.2)).map Prod.fst = sorted.map Prod.fst := by simp
  have hassignable : (sorted.map fun k => (k.1, value k.2)).filter Grill.assignable =
      sorted.map fun k => (k.1, value k.2) := by
    refine List.filter_eq_self.2 fun field hfield => ?_
    have hkey : field.1 ∈ sorted.map Prod.fst := hfst ▸ List.mem_map_of_mem hfield
    simpa [Grill.assignable] using (hkeys.2 field.1 hkey).2
  rw [Grill.canonicalize, hfields, hsort, hassignable, JsonText.ofMembers_eq_self (by rw [hfst]; exact hkeys.1)
    (by rw [hfst]; exact fun key hkey => (hkeys.2 key hkey).1)]

lemma canonicalize_target (target : RollbackRetainedTarget) :
    Grill.canonicalize (.obj (("version", .str target.version) ::
      ((target.tag.map fun tag => ("tag", Json.str tag)).toList ++
        (target.gitSha.map fun sha => ("git_sha", sha.elim Json.null Json.str)).toList))) = targetJson target := by
  obtain ⟨version, tag, sha⟩ := target
  let value : ℕ → Json := fun i =>
    if i = 0 then .str version else if i = 1 then .str (tag.getD "") else sha.join.elim .null .str
  have hsha : ∀ sha : Option String, Grill.canonicalize (sha.elim .null .str) = sha.elim .null .str := by
    rintro (_ | _) <;> rfl
  rcases tag with _ | tag <;> rcases sha with _ | sha
  · refine (canonicalize_obj [("version", 0)] [("version", 0)] value ?_ rfl (by decide +kernel)).trans rfl
    rfl
  · refine (canonicalize_obj [("version", 0), ("git_sha", 2)] [("git_sha", 2), ("version", 0)] value ?_
      (by decide +kernel) (by decide +kernel)).trans rfl
    simp [Grill.canonicalizeFields, Grill.canonicalizeField, Grill.canonicalize, value, hsha]
  · refine (canonicalize_obj [("version", 0), ("tag", 1)] [("tag", 1), ("version", 0)] value ?_
      (by decide +kernel) (by decide +kernel)).trans rfl
    rfl
  · refine (canonicalize_obj [("version", 0), ("tag", 1), ("git_sha", 2)]
      [("git_sha", 2), ("tag", 1), ("version", 0)] value ?_ (by decide +kernel) (by decide +kernel)).trans rfl
    simp [Grill.canonicalizeFields, Grill.canonicalizeField, Grill.canonicalize, value, hsha]

lemma canonicalize_unsigned (envelope : RollbackAuthorityEnvelope) :
    Grill.canonicalize envelope.unsigned = .obj (sortedFields envelope) := by
  let value : ℕ → Json := fun i => ((sortedFields envelope).map Prod.snd).getD i .null
  refine (canonicalize_obj [("kind", 3), ("operation", 4), ("retained_target", 6), ("actor", 0), ("repository", 5),
    ("issued_at", 2), ("expires_at", 1)] [("actor", 0), ("expires_at", 1), ("issued_at", 2), ("kind", 3),
    ("operation", 4), ("repository", 5), ("retained_target", 6)] value ?_ (by decide +kernel)
    (by decide +kernel)).trans rfl
  have htarget := canonicalize_target envelope.retainedTarget
  simp only [Grill.canonicalizeFields, Grill.canonicalizeField, htarget]
  rfl

lemma readable_sortedFields (numberText : ℚ → String) (numberOf : String → JsNumber)
    (envelope : RollbackAuthorityEnvelope) : JsonText.Readable numberOf numberText (.obj (sortedFields envelope)) := by
  have htarget : JsonText.Readable numberOf numberText (targetJson envelope.retainedTarget) := by
    obtain ⟨version, tag, sha⟩ := envelope.retainedTarget
    have hsha : ∀ sha : Option String, JsonText.Readable numberOf numberText (sha.elim .null .str) := by
      rintro (_ | _) <;> trivial
    rcases tag with _ | tag <;> rcases sha with _ | sha
    · exact JsonText.readable_obj ["version"] rfl (by decide +kernel) ⟨trivial, trivial⟩
    · exact JsonText.readable_obj ["git_sha", "version"] rfl (by decide +kernel) ⟨hsha sha, trivial, trivial⟩
    · exact JsonText.readable_obj ["tag", "version"] rfl (by decide +kernel) ⟨trivial, trivial, trivial⟩
    · exact JsonText.readable_obj ["git_sha", "tag", "version"] rfl (by decide +kernel)
        ⟨hsha sha, trivial, trivial, trivial⟩
  refine JsonText.readable_obj ["actor", "expires_at", "issued_at", "kind", "operation", "repository",
    "retained_target"] rfl (by decide +kernel) ?_
  simp [sortedFields, JsonText.Readable, JsonText.ReadableFields, JsonText.ReadableField, htarget]

lemma targetJson_inj {a b : RollbackRetainedTarget} (h : targetJson a = targetJson b) : a = b := by
  obtain ⟨version, tag, sha⟩ := a
  obtain ⟨version', tag', sha'⟩ := b
  rcases tag with _ | tag <;> rcases sha with _ | _ | sha <;> rcases tag' with _ | tag' <;>
    rcases sha' with _ | _ | sha' <;> simp_all [targetJson]

/-- The text that is signed holds every field but the MAC. -/
lemma canonicalJson_unsigned_inj {a b : RollbackAuthorityEnvelope}
    (h : Grill.canonicalJson host a.unsigned = Grill.canonicalJson host b.unsigned) :
    { a with mac := none } = { b with mac := none } := by
  unfold Grill.canonicalJson at h
  rw [canonicalize_unsigned, canonicalize_unsigned] at h
  have hchars := String.ofList_injective h
  have hread : ∀ e : RollbackAuthorityEnvelope, JsonText.parse host.numberOf
      (JsonText.print .compact host.numberText 0 (.obj (sortedFields e))) = some (.obj (sortedFields e)) := by
    intro e
    have hparse := JsonText.parse_print .compact (readable_sortedFields host.numberText host.numberOf e) [] []
      (by simp) (by simp) 0
    simpa using hparse
  have hfields := (hread a).symm.trans (hchars ▸ hread b)
  simp only [sortedFields, Option.some.injEq, Json.obj.injEq, List.cons.injEq, Prod.mk.injEq, Json.str.injEq,
    true_and, and_true] at hfields
  obtain ⟨hactor, hexpires, hissued, hkind, hoperation, hrepository, htarget⟩ := hfields
  obtain ⟨kind, operation, target, actor, repository, issuedAt, expiresAt, mac⟩ := a
  obtain ⟨kind', operation', target', actor', repository', issuedAt', expiresAt', mac'⟩ := b
  obtain rfl := targetJson_inj htarget
  simp_all

/-- An envelope that verifies with the MAC of a signed one has its fields. -/
theorem mac_determines {key : String} (hhex : ∀ text, IsHexText (hmacSha256Hex key text).toList)
    (hinj : Function.Injective (hmacSha256Hex key)) {signed : RollbackAuthorityEnvelope} {mac : String}
    (hmac : (signRollbackEnvelope host hmacSha256Hex signed key).mac = some mac)
    (hverifies : hmacEqual (hmacSha256Hex key (Grill.canonicalJson host envelope.unsigned))
      (String.ofList (mac.toList.drop rollbackEnvelopeMacPrefix.length)) = true) :
    { envelope with mac := none } = { signed with mac := none } := by
  obtain rfl := some.inj hmac
  have hactual : String.ofList ((rollbackEnvelopeMacPrefix ++
      hmacSha256Hex key (Grill.canonicalJson host signed.unsigned)).toList.drop rollbackEnvelopeMacPrefix.length) =
        hmacSha256Hex key (Grill.canonicalJson host signed.unsigned) := by
    rw [String.toList_append, ← String.length_toList, List.drop_left, String.ofList_toList]
  rw [hactual] at hverifies
  exact canonicalJson_unsigned_inj (hinj (eq_of_hmacEqual (hhex _) (hhex _) hverifies))

end Envelopes

/-! ## The run -/

section Runs

variable {host : NodeHost} {syntaxError : String → String} {hmacSha256Hex : String → String → String}
  {opts : RollbackOpts} {env : PinEnv} {w : World} {current : ProductionEnginePin}

/-- The retained target of the envelope that passed the check. -/
def Authorised (host : NodeHost) (hmacSha256Hex : String → String → String) (opts : RollbackOpts) (env : PinEnv)
    (target : RollbackRetainedTarget) : Prop :=
  ∃ envelope now, (opts.automatic = true → opts.envelope = some envelope) ∧ env.checkNow = .ok now ∧
    Grants host hmacSha256Hex opts now envelope target

lemma authorised_of_ok {s : World} (h : (authorizeRollback host hmacSha256Hex opts env target s).1 = .ok none) :
    Authorised host hmacSha256Hex opts env target := by
  change (Effect.andThen (presentedEnvelope host opts env target) _ s).1 = _ at h
  unfold Effect.andThen at h
  cases hrun : presentedEnvelope host opts env target s with
  | mk result s₁ =>
    rw [hrun] at h
    cases result with
    | error e => cases h
    | ok presented =>
      cases hnow : env.checkNow with
      | error message =>
        rw [hnow] at h
        cases h
      | ok now =>
        rw [hnow] at h
        have hassert := Except.ok.inj h
        cases presented with
        | none => cases hassert
        | some envelope =>
          refine ⟨envelope, now, fun hautomatic => ?_, hnow, grants_of_assert hassert⟩
          unfold presentedEnvelope at hrun
          cases hopts : opts.envelope with
          | some e =>
            rw [hopts] at hrun
            exact (Except.ok.inj (Prod.mk.inj hrun).1)
          | none =>
            rw [hopts] at hrun
            simp only [hautomatic, if_true] at hrun
            cases Except.ok.inj (Prod.mk.inj hrun).1

/-- The pin that is written for a target. -/
structure Lands (host : NodeHost) (syntaxError : String → String) (hmacSha256Hex : String → String → String)
    (opts : RollbackOpts) (env : PinEnv) (w : World) (pin current : ProductionEnginePin)
    (target : RollbackRetainedTarget) : Prop where
  reads : Reads host syntaxError w current
  checked : checkedTarget opts env current = some target
  authorised : Authorised host hmacSha256Hex opts env target
  version : pin.version.text = target.version
  tag : target.tag = some pin.tag
  restored : (restoredSnapshot opts current).isSome → pin.gitSha.join.filter (· ≠ "") = target.gitSha.join
  rebuilt : restoredSnapshot opts current = none → pin.gitSha.join = none

lemma bind_eq_ok {α β : Type} {x : Except String α} {f : α → Except String β} {b : β}
    (h : (x >>= f) = .ok b) : ∃ a, x = .ok a ∧ f a = .ok b := by
  cases x with
  | error e => cases h
  | ok a => exact ⟨a, rfl, h⟩

/-- A snapshot that was read has a tag. -/
lemma tag_of_parseSnapshot {label : String} {schemaVersion : Int} {o : Json} {pin : ProductionEnginePinPrevious}
    (h : parseSnapshot label schemaVersion o = .ok pin) : pin.tag ≠ "" := by
  unfold parseSnapshot at h
  obtain ⟨rawVersion, -, h⟩ := bind_eq_ok h
  obtain ⟨tag, htag, h⟩ := bind_eq_ok h
  obtain ⟨frgRunId, -, h⟩ := bind_eq_ok h
  obtain ⟨promotedAt, -, h⟩ := bind_eq_ok h
  have hblank : nonBlank tag = true := by
    unfold requiredText at htag
    split at htag
    · next text htext =>
      obtain rfl := Except.ok.inj htag
      exact (filter_eq_some_iff.1 htext).2
    · cases htag
  cases hversion : normalizePinVersion rawVersion with
  | none =>
    rw [hversion] at h
    cases h
  | some version =>
    rw [hversion] at h
    obtain ⟨gitSha, -, h⟩ := bind_eq_ok h
    obtain ⟨gitShaSource, -, h⟩ := bind_eq_ok h
    obtain ⟨frgEvidencePath, -, h⟩ := bind_eq_ok h
    obtain rfl := Except.ok.inj h
    simpa [nonBlank] using hblank

variable {snapshot : ProductionEnginePinPrevious}

lemma tag_of_reads (h : Reads host syntaxError w current)
    (hsnapshot : current.previous = some (some snapshot)) : snapshot.tag ≠ "" := by
  obtain ⟨text, -, hparse⟩ := h
  unfold parseProductionEnginePin at hparse
  split at hparse
  · next raw _ =>
    unfold parsePinValue at hparse
    dsimp only at hparse
    split at hparse
    · cases hparse
    split at hparse
    · next schemaVersion _ =>
      split at hparse
      · cases hparse
      obtain ⟨pin, -, hparse⟩ := bind_eq_ok hparse
      split at hparse
      · next value _ =>
        obtain ⟨previous, hprevious, hparse⟩ := bind_eq_ok hparse
        obtain rfl := Except.ok.inj hparse
        obtain rfl : previous = some (some snapshot) := hsnapshot
        unfold parsePrevious at hprevious
        split at hprevious
        · cases some.inj (Except.ok.inj hprevious)
        · split at hprevious
          · next version _ =>
            cases hsnap : parseSnapshot "previous." version _ with
            | error e =>
              rw [hsnap] at hprevious
              cases hprevious
            | ok snapshot' =>
              rw [hsnap] at hprevious
              obtain rfl := some.inj (some.inj (Except.ok.inj hprevious))
              exact tag_of_parseSnapshot hsnap
          · cases hprevious
        · cases hprevious
      · obtain rfl := Except.ok.inj hparse
        cases hsnapshot
    · cases hparse
  · cases hparse

variable {pre : List (PinVersion × FrgLookupResult) → Prop} (pinPath : String)

section

variable (hcurrent : Reads host syntaxError w current)
include hcurrent

lemma lands_restore
    (hsnapshot : current.previous = some (some snapshot)) (hrestored : restoredSnapshot opts current = some snapshot) :
    Calls w pre (restore host hmacSha256Hex pinPath opts env current snapshot)
      (Ends host w fun _ pin => ∃ target, Lands host syntaxError hmacSha256Hex opts env w pin current target) := by
  refine calls_quiet (authorizeRollback_quiet hmacSha256Hex env opts _) fun refused hauthorised => ?_
  obtain ⟨s, hauthorised⟩ := hauthorised
  cases refused with
  | some message => exact calls_refused _ _
  | none =>
    refine calls_orThrow fun promotedAt _ => calls_publish _ (.inr rfl) fun _ _ =>
      ⟨_, hcurrent, by rw [checkedTarget, hrestored], authorised_of_ok hauthorised, rfl, ?_, fun _ => ?_,
        fun hnone => by rw [hrestored] at hnone; cases hnone⟩
    · exact if_neg (tag_of_reads hcurrent hsnapshot)
    · have hjoin : ∀ sha : Option String, sha = (sha.map some).join := by
        rintro (_ | _) <;> rfl
      exact hjoin _

lemma lands_rebuild {toVersion : String} {target : PinVersion}
    (hto : opts.toVersion.filter nonBlank = some toVersion) (htarget : normalizeFrgVersion toVersion = .ok target)
    (hrestored : restoredSnapshot opts current = none) :
    Calls w pre (rebuild host hmacSha256Hex pinPath opts env current target)
      (Ends host w fun _ pin => ∃ target, Lands host syntaxError hmacSha256Hex opts env w pin current target) := by
  refine calls_lookup fun look hlook => ?_
  split
  · exact calls_refused _ _
  · next evidence haccepted =>
    refine calls_quiet (authorizeRollback_quiet hmacSha256Hex env opts _) fun refused hauthorised => ?_
    obtain ⟨s, hauthorised⟩ := hauthorised
    cases refused with
    | some message => exact calls_refused _ _
    | none =>
      refine calls_orThrow fun pin hpin => calls_publish _ (.inl rfl) fun _ _ => ?_
      have hchecked : checkedTarget opts env current =
          some (retainedTargetOf target (tagForVersion target) evidence.candidateGitSha) := by
        simp [checkedTarget, hrestored, hto, htarget, hlook]
      unfold buildPinFromFrgPass at hpin
      cases hnow : promotedAtText host env.promotedNow with
      | error e =>
        rw [hnow] at hpin
        cases hpin
      | ok promotedAt =>
        rw [hnow] at hpin
        obtain rfl := Except.ok.inj hpin
        refine ⟨_, hcurrent, hchecked, authorised_of_ok hauthorised, rfl, ?_, fun hsome => ?_, fun _ => rfl⟩
        · have htag : tagForVersion target ≠ "" := by simp [tagForVersion]
          show (if tagForVersion target = "" then none else some (tagForVersion target)) = _
          rw [if_neg htag]
          rfl
        · rw [hrestored] at hsome
          cases hsome
  · exact calls_refused _ _

lemma lands_rollbackFrom :
    Calls w pre (rollbackFrom host hmacSha256Hex pinPath opts env current)
      (Ends host w fun _ pin => ∃ target, Lands host syntaxError hmacSha256Hex opts env w pin current target) := by
  unfold rollbackFrom
  split
  · exact calls_refused _ _
  · next snapshot hto hsnapshot =>
    exact lands_restore pinPath hcurrent (join_eq_some_iff.1 hsnapshot)
      (by rw [restoredSnapshot, hto]; exact hsnapshot)
  · next toVersion hto =>
    split
    · exact calls_refused _ _
    · next target htarget =>
      have hrestored : restoredSnapshot opts current =
          current.previous.join.filter fun snapshot => versionsMatch snapshot.version.text target.text := by
        simp only [restoredSnapshot, hto, htarget]
      split
      · next snapshot hmatch =>
        exact lands_restore pinPath hcurrent (join_eq_some_iff.1 (filter_eq_some_iff.1 hmatch).1)
          (hrestored.trans hmatch)
      · next hnone => exact lands_rebuild pinPath hcurrent hto htarget (hrestored.trans hnone)

end

lemma lands_rollback :
    Calls w pre (rollbackProductionPin host syntaxError hmacSha256Hex pinPath opts env)
      (Ends host w fun _ pin =>
        ∃ current target, Lands host syntaxError hmacSha256Hex opts env w pin current target) := by
  intro s hs s'
  have hrefused : ∀ code message, Calls w pre (pure (.refused code message))
      (Ends host w fun _ pin =>
        ∃ current target, Lands host syntaxError hmacSha256Hex opts env w pin current target) := calls_refused
  unfold rollbackProductionPin
  split
  · exact hrefused _ _ s hs s'
  · split
    · split
      · exact hrefused _ _ s hs s'
      · exact hrefused _ _ s hs s'
    · next text hread =>
      split
      · exact hrefused _ _ s hs s'
      · next current hparse =>
        have htext : w.pin = some text := hs.1.pin ▸ pin_of_readPin hread
        exact ((lands_rollbackFrom pinPath ⟨text, htext, hparse⟩).mono fun _ _ h => ⟨current, h⟩) s hs s'

lemma sha_iff {pin : ProductionEnginePin} (h : Lands host syntaxError hmacSha256Hex opts env w pin current target) :
    (∀ sha ∈ target.gitSha.join, normalizeRollbackOid host (some sha) ≠ none → pin.gitSha.join = some sha) ↔
      restoredSnapshot opts current ≠ none ∨ normalizeRollbackOid host target.gitSha.join = none := by
  constructor
  · intro hsame
    by_cases hrestored : restoredSnapshot opts current = none
    · refine .inr ?_
      cases hsha : target.gitSha.join with
      | none => rfl
      | some sha =>
        by_contra hoid
        have hwritten := hsame sha hsha hoid
        rw [h.rebuilt hrestored] at hwritten
        cases hwritten
    · exact .inl hrestored
  · rintro (hrestored | hoid) sha hsha hsome
    · have hkept := h.restored (isSome_iff_ne_none.2 hrestored)
      rw [mem_def.1 hsha] at hkept
      exact (filter_eq_some_iff.1 hkept).1
    · rw [mem_def.1 hsha] at hoid
      exact absurd hoid hsome

end Runs

/-- A rollback that writes lands on the version and the tag of the target that its envelope was checked against,
and on its digest unless it rebuilds a target that has one. -/
theorem rollback_lands_iff (host : NodeHost) (syntaxError : String → String) (hmacSha256Hex : String → String → String)
    (pinPath : String) (opts : RollbackOpts) (env : PinEnv) (w : World) :
    let out := rollbackProductionPin host syntaxError hmacSha256Hex pinPath opts env w
    (∀ pin path hint, out.1 = .ok (.ok pin path hint) →
      (∃ fields, KeyOrder fields ∧ out.2.pin = some (pinText host (fields pin))) ∧
      ∃ current target, Reads host syntaxError w current ∧ checkedTarget opts env current = some target ∧
        pin.version.text = target.version ∧ target.tag = some pin.tag ∧
        ((∀ sha ∈ target.gitSha.join, normalizeRollbackOid host (some sha) ≠ none → pin.gitSha.join = some sha) ↔
          restoredSnapshot opts current ≠ none ∨ normalizeRollbackOid host target.gitSha.join = none) ∧
        ∃ envelope now, (opts.automatic = true → opts.envelope = some envelope) ∧ env.checkNow = .ok now ∧
          Grants host hmacSha256Hex opts now envelope target ∧
          ((∀ text, IsHexText (hmacSha256Hex (trim (opts.key.getD "")) text).toList) →
            Function.Injective (hmacSha256Hex (trim (opts.key.getD ""))) → opts.automatic = true → ∀ signed,
              (signRollbackEnvelope host hmacSha256Hex signed (trim (opts.key.getD ""))).mac = envelope.mac →
                { envelope with mac := none } = { signed with mac := none })) ∧
    ((∀ pin path hint, out.1 ≠ .ok (.ok pin path hint)) → out.2.pin = w.pin) := by
  intro out
  have hlands : Calls w (fun _ => True) (rollbackProductionPin host syntaxError hmacSha256Hex pinPath opts env) _ :=
    lands_rollback pinPath
  have hcalls := hlands w ⟨.refl w, trivial⟩ out.2
  constructor
  · intro pin path hint hout
    obtain ⟨-, ⟨current, target, hlands⟩, hwritten⟩ := hcalls.1 (.ok pin path hint) (Prod.ext hout rfl)
    obtain ⟨envelope, now, hsupplied, hnow, hgrants⟩ := hlands.authorised
    refine ⟨hwritten, current, target, hlands.reads, hlands.checked, hlands.version, hlands.tag, sha_iff hlands,
      envelope, now, hsupplied, hnow, hgrants, fun hhex hinj hautomatic signed hsigned => ?_⟩
    obtain ⟨mac, hmac, -, -, hverifies⟩ := hgrants.signed hautomatic
    exact mac_determines hhex hinj (hsigned.trans hmac) hverifies
  · intro hnone
    cases hresult : out.1 with
    | error e => exact (hcalls.2 e (Prod.ext hresult rfl)).pin
    | ok result =>
      cases result with
      | ok pin path hint => exact absurd hresult (hnone pin path hint)
      | refused code message => exact (hcalls.1 (.refused code message) (Prod.ext hresult rfl)).pin

/-! ## A rebuild -/

def candidateSha : String := "aaaaaaaaaaaaaaaaaaaaaaaaaaaaaaaaaaaaaaaa"

/-- A pass whose evidence names its candidate. -/
def candidateEnv : PinEnv :=
  { passingEnv "frg-1" with lookupFrg := fun version => .ok (.pass ⟨version.text, "frg-1", some candidateSha⟩) }

def rebuildOpts : RollbackOpts where
  repoDir := "/repo"
  toVersion := some "1.0.0"
  automatic := false
  envelope := some {
    kind := rollbackEnvelopeKind
    operation := rollbackOperation
    retainedTarget := ⟨"1.0.0", some "v1.0.0", some (some candidateSha)⟩
    actor := "operator"
    repository := "/repo"
    issuedAt := "1970-01-01T00:00:00.000Z"
    expiresAt := "1970-01-01T01:00:00.000Z"
    mac := none }
  repository := none
  envelopeKey := none
  environmentKey := none

def rebuiltVersion : PinVersion := ⟨"1.0.0", by decide +kernel⟩

/-- The rebuilt pin. -/
def rebuiltPin : ProductionEnginePin :=
  buildPin rebuiltVersion "frg-1" (some (frgEvidenceRelPath rebuiltVersion)) none none
    (some (pinWithoutPrevious solePin)) "1970-01-01T00:00:00Z"

/-- The envelope names a candidate, and the pin that is written names none. -/
theorem rollback_drops_sha :
    (rollbackProductionPin pinHost id (fun _ _ => "") "pin.json" rebuildOpts candidateEnv soleWorld).1 =
        .ok (.ok rebuiltPin "pin.json" (reinstallHint "v1.0.0")) ∧
      Reads pinHost id soleWorld solePin ∧
      checkedTarget rebuildOpts candidateEnv solePin = some ⟨"1.0.0", some "v1.0.0", some (some candidateSha)⟩ ∧
      normalizeRollbackOid pinHost (some candidateSha) = some candidateSha ∧ rebuiltPin.gitSha.join = none := by
  obtain ⟨text, htext, hparse⟩ := reads_soleWorld
  -- what the file reads as is known, so it is not parsed again
  have hfrom : rollbackProductionPin pinHost id (fun _ _ => "") "pin.json" rebuildOpts candidateEnv soleWorld =
      rollbackFrom pinHost (fun _ _ => "") "pin.json" rebuildOpts candidateEnv solePin soleWorld := by
    simp [rollbackProductionPin, readPin, candidateEnv, passingEnv, rebuildOpts, htext, hparse]
  rw [hfrom]
  exact ⟨by decide +kernel, ⟨text, htext, hparse⟩, by decide +kernel, by decide +kernel, rfl⟩

end AgentPipeline.Pin
