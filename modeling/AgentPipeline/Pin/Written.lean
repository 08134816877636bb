import AgentPipeline.Pin.Record

/-!
# Pin.Written: a pin that is written is read back trimmed

The writers build a record in memory, and every reader sees what the file says: texts are trimmed, the
version is normalized again. `trimmed` is what a record reads as.

* `pinText`: the text of a pin file, from the keys of the record in their order;
* `Written`: a snapshot with every key that the writers set;
* `parse_pinText`: the file of such a pin reads as its trimmed record.
-/

namespace AgentPipeline.Pin

open List
open JsText (trim nonBlank)

/-! ## Printing -/

/-- An optional key of an object literal. -/
def field {α : Type} (key : String) (write : α → Json) : Option (Option α) → List (String × Json)
  | none => []
  | some value => [(key, value.elim .null write)]

def schemaField (pin : ProductionEnginePinPrevious) : String × Json :=
  ("schema_version", .num (.finite pin.schemaVersion))

def gitShaFields (pin : ProductionEnginePinPrevious) : List (String × Json) :=
  field "git_sha" .str pin.gitSha ++ field "git_sha_source" (fun s => .str s.name) pin.gitShaSource

/-- The keys of `pinWithoutPrevious`. -/
def snapshotFields (pin : ProductionEnginePinPrevious) : List (String × Json) :=
  [schemaField pin, ("version", .str pin.version.text), ("tag", .str pin.tag)] ++ gitShaFields pin ++
    [("frg_run_id", .str pin.frgRunId)] ++ field "frg_evidence_path" .str pin.frgEvidencePath ++
    [("promoted_at", .str pin.promotedAt)]

def previousField (pin : ProductionEnginePin) : List (String × Json) :=
  field "previous" (fun previous => .obj (snapshotFields previous)) pin.previous

/-- The keys of a pin that was built from a version. -/
def builtFields (pin : ProductionEnginePin) : List (String × Json) :=
  [schemaField pin.1, ("version", .str pin.version.text), ("tag", .str pin.tag),
      ("frg_run_id", .str pin.frgRunId)] ++ field "frg_evidence_path" .str pin.frgEvidencePath ++
    [("promoted_at", .str pin.promotedAt)] ++ gitShaFields pin.1 ++ previousField pin

/-- The keys of a pin that a rollback restores. -/
def restoredFields (pin : ProductionEnginePin) : List (String × Json) :=
  snapshotFields pin.1 ++ previousField pin

/-- `${JSON.stringify(pin, null, 2)}\n`. -/
def pinText (host : NodeHost) (fields : List (String × Json)) : String :=
  String.ofList (JsonText.print (.indented 2) host.numberText 0 (.obj fields) ++ ['\n'])

/-! ## What is read back -/

lemma isReleaseNumber_shape {text : String} (h : isReleaseNumber text = true) :
    ∃ c middle d, text.toList = c :: (middle ++ [d]) ∧ c.isDigit = true ∧ d.isDigit = true := by
  unfold isReleaseNumber at h
  split at h
  · next major minor patch hsplit =>
    have hjoin : ['.'].intercalate (text.toList.splitOn '.') = text.toList := intercalate_splitOn '.'
    rw [hsplit] at hjoin
    simp only [all_cons, all_nil, Bool.and_true, Bool.and_eq_true, Bool.not_eq_true',
      isEmpty_eq_false_iff, all_eq_true] at h
    obtain ⟨⟨hmajor, hdigits⟩, -, ⟨hpatch, hlast⟩⟩ := h
    obtain ⟨c, rest, rfl⟩ := exists_cons_of_ne_nil hmajor
    obtain ⟨start, d, rfl⟩ : ∃ start d, patch = start ++ [d] :=
      ⟨_, _, (dropLast_append_getLast hpatch).symm⟩
    refine ⟨c, rest ++ '.' :: (minor ++ '.' :: start), d, ?_, hdigits c (by simp), hlast d (by simp)⟩
    rw [← hjoin]
    simp [List.intercalate]
  · cases h

section

variable (version : PinVersion)
include version

lemma trim_text : trim version.text = version.text := by
  obtain ⟨c, middle, d, htext, hc, hd⟩ := isReleaseNumber_shape version.isNumber
  refine JsText.trim_eq_self_iff.2 ⟨fun x hx => ?_, fun x hx => ?_⟩
  · rw [htext] at hx
    obtain rfl : c = x := by simpa using hx
    exact JsText.not_isSpace_of_isDigit hc
  · rw [htext, ← cons_append, getLast?_concat] at hx
    obtain rfl : d = x := by simpa using hx
    exact JsText.not_isSpace_of_isDigit hd

lemma withoutLeadingV_text : withoutLeadingV version.text = version.text := by
  obtain ⟨c, middle, d, htext, hc, hd⟩ := isReleaseNumber_shape version.isNumber
  unfold withoutLeadingV
  rw [trim_text]
  split
  · next hv =>
    rw [htext] at hv
    obtain ⟨rfl, -⟩ := List.cons.inj hv
    cases hc
  · next hv =>
    rw [htext] at hv
    obtain ⟨rfl, -⟩ := List.cons.inj hv
    cases hc
  · exact String.ofList_toList

lemma normalizePinVersion_text : normalizePinVersion version.text = some version := by
  have hnumber : isReleaseNumber (withoutLeadingV version.text) = true := by
    rw [withoutLeadingV_text]
    exact version.isNumber
  have hsame : (⟨withoutLeadingV version.text, hnumber⟩ : PinVersion) = version := by
    cases version
    exact PinVersion.mk.injEq .. ▸ withoutLeadingV_text _
  rw [normalizePinVersion, normalizeFrgVersion, dif_pos hnumber, hsame]
  rfl

lemma nonBlank_text : nonBlank version.text = true := by
  obtain ⟨c, middle, d, htext, -, -⟩ := isReleaseNumber_shape version.isNumber
  have hne : version.text ≠ "" := by
    intro hempty
    simp [hempty] at htext
  simpa [nonBlank, trim_text] using hne

end

/-- A snapshot as the writers make it. -/
structure Written (pin : ProductionEnginePinPrevious) : Prop where
  schema : pin.schemaVersion = productionPinSchemaVersion
  tag : nonBlank pin.tag = true
  sha : ∃ sha, pin.gitSha = some sha ∧ ∀ text ∈ sha, nonBlank text = true
  source : ∃ source, pin.gitShaSource = some source
  run : nonBlank pin.frgRunId = true
  path : ∃ path, pin.frgEvidencePath = some path
  promoted : nonBlank pin.promotedAt = true

/-- What a written snapshot reads as. -/
def trimmed (pin : ProductionEnginePinPrevious) : ProductionEnginePinPrevious where
  schemaVersion := pin.schemaVersion
  version := pin.version
  tag := trim pin.tag
  gitSha := pin.gitSha.map fun sha => sha.map trim
  gitShaSource := pin.gitShaSource
  frgRunId := trim pin.frgRunId
  frgEvidencePath := pin.frgEvidencePath
  promotedAt := trim pin.promotedAt

@[simp] lemma trimmed_trimmed (pin : ProductionEnginePinPrevious) : trimmed (trimmed pin) = trimmed pin := by
  cases hsha : pin.gitSha with
  | none => simp [trimmed, hsha]
  | some sha => cases sha <;> simp [trimmed, hsha]

variable {pin : ProductionEnginePinPrevious}

lemma Written.trimmed (h : Written pin) : Written (trimmed pin) := by
  obtain ⟨sha, hsha, hblank⟩ := h.sha
  refine ⟨h.schema, by simpa [Pin.trimmed] using h.tag, ⟨sha.map trim, by simp [Pin.trimmed, hsha], ?_⟩,
    h.source, by simpa [Pin.trimmed] using h.run, h.path, by simpa [Pin.trimmed] using h.promoted⟩
  intro text htext
  obtain ⟨raw, hraw, rfl⟩ := Option.mem_map.1 htext
  simpa using hblank raw hraw

/-- The object has the keys of the snapshot. -/
structure HasKeys (o : Json) (pin : ProductionEnginePinPrevious) : Prop where
  schema : o.get? "schema_version" = some (.num (.finite pin.schemaVersion))
  version : o.get? "version" = some (.str pin.version.text)
  tag : o.get? "tag" = some (.str pin.tag)
  sha : o.get? "git_sha" = pin.gitSha.map fun sha => sha.elim .null .str
  source : o.get? "git_sha_source" = pin.gitShaSource.map fun s => s.elim .null fun s => .str s.name
  run : o.get? "frg_run_id" = some (.str pin.frgRunId)
  path : o.get? "frg_evidence_path" = pin.frgEvidencePath.map fun p => p.elim .null .str
  promoted : o.get? "promoted_at" = some (.str pin.promotedAt)

variable {o : Json} {key : String}

lemma requiredText_of_get? {label text : String} (h : o.get? key = some (.str text)) (htext : nonBlank text = true) :
    requiredText label o key = .ok text := by
  simp [requiredText, Json.textAt, h, Json.text?, Option.filter, htext]

lemma nullable_of_get? {α : Type} {value : Option α} {write : α → Json} {read : Json → Except String α} {seen : α → α}
    (h : o.get? key = some (value.elim .null write))
    (hread : ∀ a ∈ value, write a ≠ .null ∧ read (write a) = .ok (seen a)) :
    nullable o key read = .ok (some (value.map seen)) := by
  unfold nullable
  cases value with
  | none => simp [h]
  | some a =>
    obtain ⟨hnull, hok⟩ := hread a rfl
    rw [h, Option.elim_some]
    split
    · next hnone => cases hnone
    · next hnone => exact absurd (Option.some.inj hnone) hnull
    · next value hvalue =>
      obtain rfl := Option.some.inj hvalue
      rw [hok]
      rfl

lemma parseSnapshot_written (label : String) (h : Written pin) (hkeys : HasKeys o pin) :
    parseSnapshot label pin.schemaVersion o = .ok (trimmed pin) := by
  obtain ⟨sha, hsha, hblank⟩ := h.sha
  obtain ⟨source, hsource⟩ := h.source
  obtain ⟨path, hpath⟩ := h.path
  have hgitSha : nullable o "git_sha" (readGitSha label) = .ok (some (sha.map trim)) := by
    refine nullable_of_get? (by rw [hkeys.sha, hsha]; rfl) fun text htext => ⟨by simp, ?_⟩
    simp [readGitSha, Json.text?, Option.filter, hblank text htext]
  have hgitShaSource : nullable o "git_sha_source" (readGitShaSource label) = .ok (some (source.map id)) := by
    refine nullable_of_get? (by rw [hkeys.source, hsource]; rfl) fun s _ => ⟨by simp, ?_⟩
    simp [readGitShaSource, Json.text?, GitShaSource.ofName?_name]
  have hevidence : nullable o "frg_evidence_path" (readEvidencePath label) = .ok (some (path.map id)) := by
    refine nullable_of_get? (by rw [hkeys.path, hpath]; rfl) fun text _ => ⟨by simp, ?_⟩
    simp [readEvidencePath, Json.text?]
  simp only [parseSnapshot, requiredText_of_get? hkeys.version (nonBlank_text pin.version),
    requiredText_of_get? hkeys.tag h.tag, requiredText_of_get? hkeys.run h.run,
    requiredText_of_get? hkeys.promoted h.promoted, hgitSha, hgitShaSource, hevidence]
  simp [trimmed, hsha, hsource, hpath, normalizePinVersion_text, bind, Except.bind, pure, Except.pure]

/-! ## Pin files -/

/-- A pin whose snapshots are written, with a key `previous`. -/
structure WrittenPin (pin : ProductionEnginePin) : Prop where
  own : Written pin.1
  previous : ∃ previous, pin.previous = some previous ∧ ∀ snapshot ∈ previous, Written snapshot

/-- What the file of a pin reads as. -/
def trimmedPin (pin : ProductionEnginePin) : ProductionEnginePin where
  toProductionEnginePinPrevious := trimmed pin.1
  previous := pin.previous.map fun previous => previous.map trimmed

/-- The two orders of keys in which pins are written. -/
def KeyOrder (fields : ProductionEnginePin → List (String × Json)) : Prop :=
  fields = builtFields ∨ fields = restoredFields

lemma hasKeys_snapshotFields (h : Written pin) : HasKeys (.obj (snapshotFields pin)) pin := by
  obtain ⟨sha, hsha, -⟩ := h.sha
  obtain ⟨source, hsource⟩ := h.source
  obtain ⟨path, hpath⟩ := h.path
  constructor <;>
    simp [snapshotFields, schemaField, gitShaFields, field, hsha, hsource, hpath, Json.get?, lookup_cons]

variable {fields : ProductionEnginePin → List (String × Json)}

lemma hasKeys_pin (hfields : KeyOrder fields)
    {pin : ProductionEnginePin} (h : WrittenPin pin) :
    HasKeys (.obj (fields pin)) pin.1 ∧ (Json.obj (fields pin)).get? "previous" =
        pin.previous.map fun previous => previous.elim .null fun s => .obj (snapshotFields s) := by
  obtain ⟨sha, hsha, -⟩ := h.own.sha
  obtain ⟨source, hsource⟩ := h.own.source
  obtain ⟨path, hpath⟩ := h.own.path
  obtain ⟨previous, hprevious, -⟩ := h.previous
  rcases hfields with rfl | rfl
  all_goals
    refine ⟨?_, ?_⟩
    · constructor <;>
        simp [builtFields, restoredFields, snapshotFields, schemaField, gitShaFields, field, hsha,
          hsource, hpath, Json.get?, lookup_cons]
    · simp [builtFields, restoredFields, snapshotFields, schemaField, gitShaFields, previousField,
          field, hsha, hsource, hpath, hprevious, Json.get?, lookup_cons]

variable {host : NodeHost} (hone : JsonText.ReadsBack host.numberOf host.numberText 1)

lemma readable_field {α : Type} {write : α → Json} {value : Option (Option α)}
    (h : ∀ a, value = some (some a) → JsonText.Readable host.numberOf host.numberText (write a)) :
    JsonText.ReadableFields host.numberOf host.numberText (field key write value) := by
  match value with
  | none => trivial
  | some none => exact ⟨trivial, trivial⟩
  | some (some a) => exact ⟨h a rfl, trivial⟩

lemma readable_texts (host : NodeHost) (pin : ProductionEnginePinPrevious) :
    JsonText.ReadableFields host.numberOf host.numberText (gitShaFields pin) ∧
      JsonText.ReadableFields host.numberOf host.numberText (field "frg_evidence_path" .str pin.frgEvidencePath) :=
  ⟨JsonText.readableFields_append.2 ⟨readable_field fun _ _ => trivial, readable_field fun _ _ => trivial⟩,
    readable_field fun _ _ => trivial⟩

include hone

lemma readable_snapshotFields (h : Written pin) :
    JsonText.Readable host.numberOf host.numberText (.obj (snapshotFields pin)) := by
  obtain ⟨sha, hsha, -⟩ := h.sha
  obtain ⟨source, hsource⟩ := h.source
  obtain ⟨path, hpath⟩ := h.path
  have hkeys : (snapshotFields pin).map Prod.fst = ["schema_version", "version", "tag", "git_sha",
      "git_sha_source", "frg_run_id", "frg_evidence_path", "promoted_at"] := by
    simp [snapshotFields, schemaField, gitShaFields, field, hsha, hsource, hpath]
  refine ⟨JsonText.ofMembers_eq_self (by rw [hkeys]; decide +kernel) (by rw [hkeys]; decide +kernel), ?_⟩
  have hschema : JsonText.ReadsBack host.numberOf host.numberText pin.schemaVersion := by
    rw [h.schema]
    exact hone
  have htexts := readable_texts host pin
  simp [snapshotFields, schemaField, JsonText.ReadableFields, JsonText.ReadableField,
    JsonText.Readable, hschema, htexts]

lemma readable_pin (hfields : KeyOrder fields) {pin : ProductionEnginePin} (h : WrittenPin pin) :
    JsonText.Readable host.numberOf host.numberText (.obj (fields pin)) := by
  obtain ⟨sha, hsha, -⟩ := h.own.sha
  obtain ⟨source, hsource⟩ := h.own.source
  obtain ⟨path, hpath⟩ := h.own.path
  obtain ⟨previous, hprevious, hsnapshot⟩ := h.previous
  have hschema : JsonText.ReadsBack host.numberOf host.numberText pin.schemaVersion := by
    rw [h.own.schema]
    exact hone
  have hbuilt : (builtFields pin).map Prod.fst = ["schema_version", "version", "tag", "frg_run_id",
      "frg_evidence_path", "promoted_at", "git_sha", "git_sha_source", "previous"] := by
    simp [builtFields, schemaField, gitShaFields, previousField, field, hsha, hsource, hpath, hprevious]
  have hrestored : (restoredFields pin).map Prod.fst = ["schema_version", "version", "tag", "git_sha",
      "git_sha_source", "frg_run_id", "frg_evidence_path", "promoted_at", "previous"] := by
    simp [restoredFields, snapshotFields, schemaField, gitShaFields, previousField, field, hsha,
        hsource, hpath, hprevious]
  have horder : JsonText.ofMembers (fields pin) = fields pin := by
    rcases hfields with rfl | rfl
    · exact JsonText.ofMembers_eq_self (by rw [hbuilt]; decide +kernel) (by rw [hbuilt]; decide +kernel)
    · exact JsonText.ofMembers_eq_self (by rw [hrestored]; decide +kernel)
        (by rw [hrestored]; decide +kernel)
  have hprev : JsonText.ReadableFields host.numberOf host.numberText (previousField pin) :=
    readable_field fun snapshot hs => by
      rw [hprevious] at hs
      exact readable_snapshotFields hone (hsnapshot snapshot (Option.some.inj hs))
  have htexts := readable_texts host pin.1
  refine ⟨horder, ?_⟩
  rcases hfields with rfl | rfl <;>
    simp [builtFields, restoredFields, snapshotFields, schemaField, JsonText.ReadableFields,
      JsonText.ReadableField, JsonText.Readable, hschema, htexts, hprev]

lemma parse_pinText (syntaxError : String → String) (hfields : KeyOrder fields)
    {pin : ProductionEnginePin} (h : WrittenPin pin) :
    parseProductionEnginePin host syntaxError (pinText host (fields pin)) = .ok (trimmedPin pin) := by
  obtain ⟨hkeys, hprevious⟩ := hasKeys_pin hfields h
  obtain ⟨previous, hset, hsnapshot⟩ := h.previous
  have hparse : JsonText.parse host.numberOf (pinText host (fields pin)).toList = some (.obj (fields pin)) := by
    have hread := JsonText.parse_print (.indented 2) (readable_pin hone hfields h) [] ['\n'] (by simp)
      (all_eq_true.1 (by decide)) 0
    simpa [pinText] using hread
  have hschema : integerAt (.obj (fields pin)) "schema_version" = some productionPinSchemaVersion := by
    simp [integerAt, Json.rationalAt, hkeys.schema, Json.rational?, h.own.schema]
  have hown := parseSnapshot_written "" h.own hkeys
  rw [h.own.schema] at hown
  have hprev : parsePrevious (previous.elim .null fun s => .obj (snapshotFields s)) = .ok (previous.map trimmed) := by
    cases previous with
    | none => rfl
    | some snapshot =>
      have hw := hsnapshot snapshot rfl
      have hkeys' := hasKeys_snapshotFields hw
      have hinteger : integerAt (.obj (snapshotFields snapshot)) "schema_version" = some snapshot.schemaVersion := by
        simp [integerAt, Json.rationalAt, hkeys'.schema, Json.rational?]
      simp only [Option.elim_some, parsePrevious, hinteger, parseSnapshot_written _ hw hkeys']
      rfl
  rw [hset, Option.map_some] at hprevious
  simp only [parseProductionEnginePin, hparse, parsePinValue, hschema, hown, hprevious, hprev]
  simp [trimmedPin, hset, Json.isPlainObject, Json.fields?, bind, Except.bind, pure, Except.pure, Except.map]

end AgentPipeline.Pin
