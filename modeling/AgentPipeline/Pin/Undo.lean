import AgentPipeline.Pin.Chain

/-!
# Pin.Undo: the pin file on a run of the writers

Every pin file on a run reads as a settled record that an FRG pass backs, and so is its previous
snapshot. A rollback right after a promote reads as the release before it, and a second one as the
promoted release again. The quality of a record is tested before it is written and its run is trimmed
when it is read, so a run that hides the marker behind white space passes the test.

* `Backed`, `Sound`: the invariant, kept by `Sound.perform` and `Sound.run`;
* `restored_reads`: what the file says after a rollback to the retained snapshot;
* `productionPin_chain`: the invariant, the failed calls and the undo on every run.
-/

namespace AgentPipeline.Pin

open Option
open JsText (trim nonBlank)
open Effect (Meets)

/-- Trimming the run of a pass does not uncover the marker of a skipped one. -/
def HonestAnswer (answer : PinVersion × FrgLookupResult) : Prop :=
  ∀ evidence, answer.2 = .pass evidence →
    isNoFrgRunId (trim evidence.runId) = true → isNoFrgRunId evidence.runId = true

instance : DecidablePred HonestAnswer
  | (_, .pass evidence) =>
    decidable_of_iff (isNoFrgRunId (trim evidence.runId) = true → isNoFrgRunId evidence.runId = true)
      ⟨fun h _ hpass => by cases hpass; exact h, fun h => h evidence rfl⟩
  | (_, .fail _) | (_, .missing ..) | (_, .unparsable ..) => isTrue fun _ hpass => by cases hpass

/-- The snapshot is of a passed version, and production-quality if all answers are honest. -/
structure Backed (w : World) (snapshot : ProductionEnginePinPrevious) : Prop where
  passed : w.Passed snapshot.version
  quality : (∀ answer ∈ w.answers, HonestAnswer answer) → isProductionQualityPin snapshot = true

variable {snapshot : ProductionEnginePinPrevious}

lemma Backed.mono {w s : World} (h : Backed w snapshot) (hanswers : w.answers <+: s.answers) : Backed s snapshot := by
  obtain ⟨evidence, hevidence⟩ := h.passed
  exact ⟨⟨evidence, hanswers.subset hevidence⟩,
    fun hhonest => h.quality fun answer hanswer => hhonest answer (hanswers.subset hanswer)⟩

section Runs

variable {host : NodeHost} {syntaxError : String → String}
  {hmacSha256Hex : String → String → String} {pinPath : String} {w s : World}

/-- What the pin file reads as. -/
structure ReadsBacked (host : NodeHost) (syntaxError : String → String) (w : World)
    (pin : ProductionEnginePin) : Prop where
  reads : Reads host syntaxError w pin
  settled : Settled pin
  own : Backed w pin.1
  previous : ∀ snapshot, pin.previous = some (some snapshot) → Backed w snapshot

/-- The invariant of a run. -/
def Sound (host : NodeHost) (syntaxError : String → String) (w : World) : Prop :=
  ∀ text, w.pin = some text → ∃ pin, ReadsBacked host syntaxError w pin

lemma Reads.unique {a b : ProductionEnginePin} (ha : Reads host syntaxError w a)
    (hb : Reads host syntaxError w b) : a = b := by
  obtain ⟨text, htext, hparse⟩ := ha
  obtain ⟨text', htext', hparse'⟩ := hb
  obtain rfl := some.inj (htext.symm.trans htext')
  exact Except.ok.inj (hparse.symm.trans hparse')

variable {pin : ProductionEnginePin}

lemma Sound.of_reads (h : Sound host syntaxError w)
    (hpin : Reads host syntaxError w pin) : ReadsBacked host syntaxError w pin := by
  obtain ⟨text, htext, -⟩ := id hpin
  obtain ⟨found, hfound⟩ := h text htext
  rwa [hpin.unique hfound.reads]

lemma Sound.unchanged (h : Sound host syntaxError w) (hs : Unchanged w s) : Sound host syntaxError s := by
  intro text htext
  obtain ⟨pin, ⟨found, hfound, hparse⟩, hsettled, hown, hprevious⟩ := h text (hs.pin ▸ htext)
  exact ⟨pin, ⟨found, hs.pin.trans hfound, hparse⟩, hsettled, hown.mono hs.answers,
    fun snapshot hsnapshot => (hprevious snapshot hsnapshot).mono hs.answers⟩

/-! ## What is written -/

lemma quality_of_accepted {version : PinVersion} {evidence : FrgEvidence}
    (haccepted : frgRefusal (.pass evidence) version = none) :
    nonBlank evidence.runId = true ∧ isNoFrgRunId evidence.runId = false := by
  unfold frgRefusal at haccepted
  dsimp only at haccepted
  split_ifs at haccepted with hblank hmarker
  exact ⟨by simpa using hblank, by simpa using hmarker⟩

lemma mem_evidencePath (text : String) : 'f' ∈ (".agent-pipeline/frg/" ++ text ++ "/latest.json").toList := by
  have hchars : (".agent-pipeline/frg/" ++ text ++ "/latest.json").toList =
      ".agent-pipeline/frg/".toList ++ text.toList ++ "/latest.json".toList := by
    rw [String.toList_append, String.toList_append]
  rw [hchars]
  apply List.mem_append_left
  apply List.mem_append_left
  decide +kernel

lemma nonBlank_frgEvidenceRelPath (version : PinVersion) : nonBlank (frgEvidenceRelPath version) = true :=
  nonBlank_of_mem (mem_evidencePath version.text) (by decide)

variable {promotedAt : String}

lemma backed_buildPin {version : PinVersion} {evidence : FrgEvidence} {gitSha : Option String}
    {source : Option GitShaSource} {p : Option ProductionEnginePinPrevious}
    (hpass : (version, .pass evidence) ∈ s.answers) (haccepted : frgRefusal (.pass evidence) version = none) :
    Backed s (trimmed (buildPin version evidence.runId (some (frgEvidenceRelPath version)) gitSha source
      p promotedAt).1) := by
  obtain ⟨hrun, hmarker⟩ := quality_of_accepted haccepted
  refine ⟨⟨evidence, hpass⟩, fun hhonest => ?_⟩
  have htrimmed : isNoFrgRunId (trim evidence.runId) = false := by
    by_contra hmark
    have hraw := hhonest _ hpass evidence rfl (by simpa using hmark)
    rw [hmarker] at hraw
    cases hraw
  simp [isProductionQualityPin, trimmed, buildPin, hrun, htrimmed, nonBlank_frgEvidenceRelPath]

variable {current : ProductionEnginePin}

lemma backed_restoredPin (hwritten : Written snapshot) (htrimmed : trimmed snapshot = snapshot)
    (h : Backed s snapshot) : Backed s (trimmed (restoredPin snapshot current promotedAt).1) := by
  refine ⟨h.passed, fun hhonest => ?_⟩
  have hquality := h.quality hhonest
  have hrun : trim snapshot.frgRunId = snapshot.frgRunId := congrArg ProductionEnginePinPrevious.frgRunId htrimmed
  obtain ⟨path, hpath⟩ := hwritten.path
  simpa [isProductionQualityPin, trimmed, restoredPin, hrun, hpath] using hquality

/-- The release that a record names. -/
structure SameRelease (a b : ProductionEnginePinPrevious) : Prop where
  version : a.version = b.version
  tag : a.tag = b.tag
  git_sha : a.gitSha = b.gitSha
  frg_run_id : a.frgRunId = b.frgRunId
  frg_evidence_path : a.frgEvidencePath = b.frgEvidencePath

lemma sameRelease_restoredPin (hwritten : Written snapshot) (htrimmed : trimmed snapshot = snapshot) :
    SameRelease (trimmed (restoredPin snapshot current promotedAt).1) snapshot := by
  obtain ⟨sha, hsha, -⟩ := hwritten.sha
  obtain ⟨path, hpath⟩ := hwritten.path
  have htag : trim snapshot.tag = snapshot.tag := congrArg ProductionEnginePinPrevious.tag htrimmed
  have hrun : trim snapshot.frgRunId = snapshot.frgRunId := congrArg ProductionEnginePinPrevious.frgRunId htrimmed
  have hshaTrimmed : snapshot.gitSha.map (fun sha => sha.map trim) = snapshot.gitSha :=
    congrArg ProductionEnginePinPrevious.gitSha htrimmed
  refine ⟨rfl, htag, ?_, hrun, by simp [trimmed, restoredPin, hpath]⟩
  rw [← hshaTrimmed]
  simp [trimmed, restoredPin, hsha]

variable {env : PinEnv} {opts : RollbackOpts}

section Files

variable (hone : JsonText.ReadsBack host.numberOf host.numberText 1)

include hone

variable {fields : ProductionEnginePin → List (String × Json)}

lemma reads_of_wrote
    (hfields : KeyOrder fields) (hpin : s.pin = some (pinText host (fields pin))) (h : WrittenPin pin) :
    Reads host syntaxError s (trimmedPin pin) := ⟨_, hpin, parse_pinText hone syntaxError hfields h⟩

lemma Sound.built (hw : Sound host syntaxError w) (hanswers : w.answers <+: s.answers)
    (hkind : Built (FromCurrent host syntaxError w) s.answers pin) (hfields : KeyOrder fields)
    (hpin : s.pin = some (pinText host (fields pin))) : ReadsBacked host syntaxError s (trimmedPin pin) := by
  cases hkind with
  | @intro version evidence gitSha source p promotedAt hpass haccepted hprevious hpromoted =>
    have hcurrent : ∀ snapshot ∈ p, Written snapshot ∧ trimmed snapshot = snapshot ∧ Backed s snapshot := by
      intro snapshot hsnapshot
      obtain ⟨current, hreads, rfl⟩ := hprevious snapshot hsnapshot
      have hback := hw.of_reads hreads
      rw [pinWithoutPrevious_of_written hback.settled.written.own]
      exact ⟨hback.settled.written.own, hback.settled.own, hback.own.mono hanswers⟩
    have hwritten : WrittenPin (buildPin version evidence.runId (some (frgEvidenceRelPath version))
        gitSha source p promotedAt) :=
      written_buildPin (quality_of_accepted haccepted).1 hpromoted
        (fun snapshot hsnapshot => (hcurrent snapshot hsnapshot).1)
    refine ⟨reads_of_wrote hone hfields hpin hwritten, settled_trimmedPin hwritten,
      backed_buildPin hpass haccepted, fun snapshot hsnapshot => ?_⟩
    obtain ⟨raw, hraw, rfl⟩ : ∃ raw, p = some raw ∧ trimmed raw = snapshot := by
      simpa [trimmedPin, buildPin] using hsnapshot
    obtain ⟨-, htrimmed, hback⟩ := hcurrent raw hraw
    rwa [htrimmed]

lemma Sound.restored (hw : Sound host syntaxError w) (hanswers : w.answers <+: s.answers)
    (hkind : Restored host syntaxError w pin) (hfields : KeyOrder fields)
    (hpin : s.pin = some (pinText host (fields pin))) : ReadsBacked host syntaxError s (trimmedPin pin) ∧
      ∃ current snapshot, Reads host syntaxError w current ∧
        current.previous = some (some snapshot) ∧ SameRelease (trimmedPin pin).1 snapshot ∧
          (trimmedPin pin).previous = some (some current.1) := by
  cases hkind with
  | @intro current snapshot promotedAt hcurrent hsnapshot hpromoted =>
    have hback := hw.of_reads hcurrent
    obtain ⟨hwritten, htrimmed⟩ := hback.settled.snapshot hsnapshot
    have hown := hback.settled.written.own
    have hprevious : (trimmedPin (restoredPin snapshot current promotedAt)).previous = some (some current.1) := by
      simp [trimmedPin, restoredPin, pinWithoutPrevious_of_written hown, hback.settled.own]
    have hpinWritten : WrittenPin (restoredPin snapshot current promotedAt) :=
      written_restoredPin hwritten hown hpromoted
    refine ⟨⟨reads_of_wrote hone hfields hpin hpinWritten, settled_trimmedPin hpinWritten,
      backed_restoredPin hwritten htrimmed ((hback.previous snapshot hsnapshot).mono hanswers),
      fun kept hkept => ?_⟩, current, snapshot, hcurrent, hsnapshot,
      sameRelease_restoredPin hwritten htrimmed, hprevious⟩
    obtain rfl := some.inj (some.inj (hprevious.symm.trans hkept))
    exact hback.own.mono hanswers

variable (hiso : ∀ t, nonBlank (host.toISOString t) = true)

include hiso

lemma Sound.perform (hw : Sound host syntaxError w) {call : Call} (hcall : call.RequiresFrg) (env : PinEnv) :
    Sound host syntaxError (Pin.perform host syntaxError hmacSha256Hex pinPath call env w).2 := by
  have hcalls : Calls w (fun _ => True) (Pin.perform host syntaxError hmacSha256Hex pinPath call env)
      _ := calls_perform hmacSha256Hex pinPath hiso env hcall
  have hends := hcalls w ⟨.refl w, trivial⟩
  cases hrun : Pin.perform host syntaxError hmacSha256Hex pinPath call env w with
  | mk result s =>
    obtain ⟨hok, herror⟩ := hends s
    cases result with
    | error e => exact hw.unchanged (herror e hrun)
    | ok result =>
      have hend := hok result hrun
      cases result with
      | refused code message => exact hw.unchanged hend
      | ok pin path hint =>
        obtain ⟨hanswers, hkind, fields, hfields, hpin⟩ := hend
        intro text _
        rcases hkind with hkind | hkind
        · exact ⟨_, (hw.restored hone hanswers hkind hfields hpin).1⟩
        · exact ⟨_, hw.built hone hanswers hkind hfields hpin⟩

lemma Sound.run {calls : List (Call × PinEnv)}
    (h : Sequence host syntaxError hmacSha256Hex pinPath .empty calls w) : Sound host syntaxError w := by
  refine Transition.Run.invariant (I := Sound host syntaxError) ?_ h fun text htext => by cases htext
  rintro s ⟨call, env⟩ t hcall hs hstep
  obtain rfl := some.inj hstep
  exact hs.perform hone hiso hcall env

/-! ## The undo -/

/-- The call reports success. -/
def Succeeds (m : PinM PromotePinResult) (w s : World) : Prop :=
  ∃ pin path hint, m w = (.ok (.ok pin path hint), s)

/-- What a promote over an FRG pass leaves. -/
lemma reads_of_promote (hw : Sound host syntaxError w) {opts : PromoteOpts} (hfrg : opts.allowWithoutFrg = false)
    {path hint : String}
    (hrun : promoteProductionPin host syntaxError pinPath opts env w = (.ok (.ok pin path hint), s)) :
    ReadsBacked host syntaxError s (trimmedPin pin) ∧
      (trimmedPin pin).previous = some (previousOf host syntaxError env w) := by
  have hcalls : Calls w (fun _ => True) (promoteProductionPin host syntaxError pinPath opts env) _ :=
    calls_promote pinPath hiso opts env hfrg
  obtain ⟨hanswers, hkind, fields, hfields, hpin⟩ := (hcalls w ⟨.refl w, trivial⟩ s).1 _ hrun
  have hbuilt : Built (FromCurrent host syntaxError w) s.answers pin := by
    cases hkind with
    | intro gitSha source hpass haccepted hprevious hpromoted =>
      exact .intro gitSha source hpass haccepted (hprevious ▸ fromCurrent_previousOf env w) hpromoted
  refine ⟨hw.built hone hanswers hbuilt hfields hpin, ?_⟩
  have hset : pin.previous = some (previousOf host syntaxError env w) := by
    cases hkind with
    | intro gitSha source hpass haccepted hprevious hpromoted => rw [← hprevious]; rfl
  -- the snapshot of a settled record is trimmed already
  have htrimmed : (previousOf host syntaxError env w).map trimmed = previousOf host syntaxError env w := by
    cases hprevious : previousOf host syntaxError env w with
    | none => rfl
    | some snapshot =>
      obtain ⟨current, hreads, rfl⟩ := fromCurrent_previousOf env w snapshot hprevious
      have hcurrent := (hw.of_reads hreads).settled
      rw [pinWithoutPrevious_of_written hcurrent.written.own, map_some, hcurrent.own]
  simp [trimmedPin, hset, htrimmed]

lemma restored_reads (hw : Sound host syntaxError w) (hto : opts.toVersion.filter nonBlank = none)
    (hok : Succeeds (rollbackProductionPin host syntaxError hmacSha256Hex pinPath opts env) w s) (hcurrent : Reads host syntaxError w current) :
    ∃ pin snapshot, ReadsBacked host syntaxError s pin ∧ current.previous = some (some snapshot) ∧
      SameRelease pin.1 snapshot ∧ pin.previous = some (some current.1) := by
  obtain ⟨pin, path, hint, hrun⟩ := hok
  have hcalls : Calls w (fun _ => True)
      (rollbackProductionPin host syntaxError hmacSha256Hex pinPath opts env) _ :=
    calls_rollback hmacSha256Hex pinPath hiso env opts
  obtain ⟨hanswers, hkind, fields, hfields, hpin⟩ := (hcalls w ⟨.refl w, trivial⟩ s).1 _ hrun
  rcases hkind with hkind | ⟨htarget, -⟩
  · obtain ⟨hback, found, snapshot, hfound, hsnapshot, hsame, hprevious⟩ :=
      hw.restored hone hanswers hkind hfields hpin
    obtain rfl := hfound.unique hcurrent
    exact ⟨_, snapshot, hback, hsnapshot, hsame, hprevious⟩
  · exact absurd hto htarget

end Files

lemma restore_code :
    Meets (fun _ => True) (restore host hmacSha256Hex pinPath opts env current snapshot)
      (fun result _ => ∀ message, result ≠ .refused .noPrevious message) fun _ _ => True := by
  have hany : ∀ {α : Type} (m : PinM α), Meets (fun _ => True) m (fun _ _ => True) fun _ _ => True :=
    fun m s _ s' => ⟨fun _ _ => trivial, fun _ _ => trivial⟩
  refine Meets.bind (hany _) fun refused => ?_
  split
  · exact Meets.ret fun _ _ message h => by cases h
  · refine Meets.bind (hany _) fun promotedAt => ?_
    intro s _ s'
    refine ⟨fun result hrun message => ?_, fun _ _ => trivial⟩
    rintro rfl
    dsimp only [publish] at hrun
    split at hrun <;> cases hrun

lemma rollback_noPrevious {message : String} (hto : opts.toVersion.filter nonBlank = none)
    (hrun : rollbackProductionPin host syntaxError hmacSha256Hex pinPath opts env w =
      (.ok (.refused .noPrevious message), s)) :
    ∃ current, Reads host syntaxError w current ∧ current.previous.join = none := by
  unfold rollbackProductionPin at hrun
  split at hrun
  · cases hrun
  · split at hrun
    · split at hrun <;> cases hrun
    · next text hread =>
      split at hrun
      · cases hrun
      · next current hparse =>
        refine ⟨current, ⟨text, ?_, hparse⟩, ?_⟩
        · exact pin_of_readPin hread
        · cases hprevious : current.previous.join with
          | none => rfl
          | some snapshot =>
            unfold rollbackFrom at hrun
            rw [hto, hprevious] at hrun
            exact absurd rfl ((restore_code w trivial s).1 _ hrun message)

/-! ## The chain -/

/-- On a run from no pin file. A pin file is accepted by its reader, and the versions of its record
and of the previous snapshot had an FRG pass; both are production-quality if the answers are honest.
A call that does not succeed leaves the file as it was. A rollback without a target right after a
promote restores the release before it, a second one the promoted release; and the first one finds a
snapshot, if the promote could read the pin that it replaced. -/
theorem productionPin_chain (hone : JsonText.ReadsBack host.numberOf host.numberText 1)
    (hiso : ∀ t, nonBlank (host.toISOString t) = true) {calls : List (Call × PinEnv)}
    (hrun : Sequence host syntaxError hmacSha256Hex pinPath .empty calls w) :
    (∀ text, w.pin = some text → ∃ pin, parseProductionEnginePin host syntaxError text = .ok pin ∧
      w.Passed pin.version ∧
      (∀ snapshot, pin.previous = some (some snapshot) → w.Passed snapshot.version) ∧
      ((∀ answer ∈ w.answers, HonestAnswer answer) → isProductionQualityPin pin.1 = true ∧
        ∀ snapshot, pin.previous = some (some snapshot) → isProductionQualityPin snapshot = true)) ∧
    (∀ call env result s, call.RequiresFrg → perform host syntaxError hmacSha256Hex pinPath call env w = (result, s) →
      (∀ pin path hint, result ≠ .ok (.ok pin path hint)) → s.pin = w.pin) ∧
    ∀ opts env s before, opts.allowWithoutFrg = false →
      Succeeds (promoteProductionPin host syntaxError pinPath opts env) w s →
      Reads host syntaxError w before → ∀ back backEnv, back.toVersion.filter nonBlank = none →
      (∀ t, Succeeds (rollbackProductionPin host syntaxError hmacSha256Hex pinPath back backEnv) s t →
        (∃ after, Reads host syntaxError t after ∧ SameRelease after.1 before.1) ∧
        ∀ again againEnv u, again.toVersion.filter nonBlank = none →
          Succeeds (rollbackProductionPin host syntaxError hmacSha256Hex pinPath again againEnv) t u →
          ∃ promoted after, Reads host syntaxError s promoted ∧ Reads host syntaxError u after ∧
            SameRelease after.1 promoted.1) ∧
      (env.readError = none → ∀ message t,
        rollbackProductionPin host syntaxError hmacSha256Hex pinPath back backEnv s ≠
          (.ok (.refused .noPrevious message), t)) := by
  have hw := Sound.run hone hiso hrun
  refine ⟨fun text htext => ?_, fun call env result s hcall hperform hfailed => ?_, ?_⟩
  · obtain ⟨pin, ⟨found, hfound, hparse⟩, -, hown, hprevious⟩ := hw text htext
    obtain rfl := some.inj (hfound.symm.trans htext)
    exact ⟨pin, hparse, hown.passed, fun snapshot hs => (hprevious snapshot hs).passed,
      fun hhonest => ⟨hown.quality hhonest, fun snapshot hs => (hprevious snapshot hs).quality hhonest⟩⟩
  · have hcalls : Calls w (fun _ => True) (perform host syntaxError hmacSha256Hex pinPath call env)
        _ := calls_perform hmacSha256Hex pinPath hiso env hcall
    obtain ⟨hok, herror⟩ := hcalls w ⟨.refl w, trivial⟩ s
    cases result with
    | error e => exact (herror e hperform).pin
    | ok result =>
      cases result with
      | refused code message => exact (hok _ hperform).pin
      | ok pin path hint => exact absurd rfl (hfailed pin path hint)
  · intro opts env s before hfrg hpromote hbefore back backEnv hback
    obtain ⟨_, _, _, hrun⟩ := hpromote
    obtain ⟨hpromoted, hprevious⟩ := reads_of_promote hone hiso hw hfrg hrun
    have hs : Sound host syntaxError s := fun _ _ => ⟨_, hpromoted⟩
    have hown := (hw.of_reads hbefore).settled.written.own
    refine ⟨fun t hrollback => ?_, fun hread message t hnone => ?_⟩
    · obtain ⟨restored, snapshot, hrestored, hsnapshot, hsame, hkept⟩ :=
        restored_reads hone hiso hs hback hrollback hpromoted.reads
      refine ⟨⟨restored, hrestored.reads, ?_⟩, fun again againEnv u hagain hsecond => ?_⟩
      · have hfound := some.inj (hprevious.symm.trans hsnapshot)
        obtain ⟨current, hcurrent, rfl⟩ := fromCurrent_previousOf env w snapshot hfound
        obtain rfl := hcurrent.unique hbefore
        rwa [pinWithoutPrevious_of_written hown] at hsame
      · have ht : Sound host syntaxError t := fun _ _ => ⟨restored, hrestored⟩
        obtain ⟨after, kept, hafter, hsnapshot', hsame', -⟩ :=
          restored_reads hone hiso ht hagain hsecond hrestored.reads
        obtain rfl := some.inj (some.inj (hkept.symm.trans hsnapshot'))
        exact ⟨_, after, hpromoted.reads, hafter.reads, hsame'⟩
    · obtain ⟨current, hcurrent, hmissing⟩ := rollback_noPrevious hback hnone
      obtain rfl := hcurrent.unique hpromoted.reads
      obtain ⟨text, htext, hparse⟩ := hbefore
      have hfound : previousOf host syntaxError env w = some (pinWithoutPrevious before) := by
        simp [previousOf, readPin, hread, htext, hparse, Except.toOption]
      rw [hprevious, hfound] at hmissing
      cases hmissing

end Runs

/-! ## Runs of one and two calls -/

/-- A host that reads and prints the schema version. -/
def pinHost : NodeHost :=
  { NodeHost.onFirstDay [] [] with numberOf := fun text => if text = "1" then .finite 1 else .nan }

lemma readsBack_one : JsonText.ReadsBack pinHost.numberOf pinHost.numberText 1 where
  numeral := by decide +kernel
  chars := List.all_eq_true.1 (by decide +kernel)
  value := by decide +kernel

lemma nonBlank_pinHost (t : Instant) : nonBlank (pinHost.toISOString t) = true := by
  have hmem : '1' ∈ (pinHost.toISOString t).toList := by
    simp [pinHost, NodeHost.onFirstDay, JsRuntime.onFirstDay, JsRuntime.firstDayText]
  exact nonBlank_of_mem hmem (by decide)

/-- Every file step works, and a lookup passes with this run. -/
def passingEnv (runId : String) : PinEnv where
  readError := none
  mkdirError := none
  writeError := none
  renameError := none
  lookupFrg version := .ok (.pass ⟨version.text, runId, none⟩)
  envelopeNow := .ok (some .epoch)
  checkNow := .ok (some .epoch)
  promotedNow := .ok (some .epoch)

def promoteCall (version : String) : Call := .promote ⟨version, none, false⟩

def PromotePinResult.isOk : PromotePinResult → Bool
  | .ok .. => true
  | .refused .. => false

lemma succeeds_of_isOk {m : PinM PromotePinResult} {w : World} (h : (m w).1.toOption.any (·.isOk) = true) :
    Succeeds m w (m w).2 := by
  cases hrun : m w with
  | mk result s =>
    cases result with
    | error e => simp [hrun, Except.toOption] at h
    | ok result =>
      cases result with
      | ok pin path hint => exact ⟨pin, path, hint, hrun⟩
      | refused code message => simp [hrun, Except.toOption, PromotePinResult.isOk] at h

def soleVersion : PinVersion := ⟨"1.1.0", by decide +kernel⟩

/-- The world after a promote. -/
def soleWorld : World :=
  (perform pinHost id (fun _ _ => "") "pin.json" (promoteCall "1.1.0") (passingEnv "frg-2") .empty).2

/-- The record of a promote from no pin file. -/
def firstPin (version : PinVersion) (runId : String) : ProductionEnginePin :=
  buildPin version runId (some (frgEvidenceRelPath version)) none none none "1970-01-01T00:00:00Z"

def promoted (version runId : String) : PinM PromotePinResult :=
  promoteProductionPin pinHost id "pin.json" ⟨version, none, false⟩ (passingEnv runId)

lemma reads_firstPin (version : PinVersion) (runId : String) (h : (promoted version.text runId .empty).1 =
      .ok (.ok (firstPin version runId) "pin.json" (reinstallHint (tagForVersion version)))) :
    Reads pinHost id (promoted version.text runId .empty).2 (trimmedPin (firstPin version runId)) := by
  have hempty : Sound pinHost id .empty := fun _ htext => by cases htext
  cases hrun : promoted version.text runId .empty with
  | mk result s =>
    obtain rfl : result = _ := by simpa only [hrun] using h
    exact (reads_of_promote readsBack_one nonBlank_pinHost hempty rfl hrun).1.reads

def solePin : ProductionEnginePin := firstPin soleVersion "frg-2"

lemma reads_soleWorld : Reads pinHost id soleWorld solePin := by
  have htrimmed : trimmedPin solePin = solePin := by decide +kernel
  exact htrimmed ▸ reads_firstPin soleVersion "frg-2" (by decide +kernel)

/-- The world after two promotes. -/
def afterTwo : World := (promoted "1.2.0" "frg-3" soleWorld).2

/-- An operator's rollback to the snapshot that the pin retains. -/
def undoOpts : RollbackOpts where
  repoDir := "/repo"
  toVersion := none
  automatic := false
  envelope := none
  repository := none
  envelopeKey := none
  environmentKey := none

def undo : PinM PromotePinResult :=
  rollbackProductionPin pinHost id (fun _ _ => "") "pin.json" undoOpts (passingEnv "")

/-- The second promote leaves a production-quality record, and a rollback after it restores the release of
the first. -/
theorem promote_then_rollback :
    (∃ pin, Reads pinHost id afterTwo pin ∧ isProductionQualityPin pin.1 = true) ∧
      ∃ after t, Succeeds undo afterTwo t ∧ Reads pinHost id t after ∧ SameRelease after.1 solePin.1 := by
  -- quality is read off after both promotes, the undo after the first one
  have hone : Sequence pinHost id (fun _ _ => "") "pin.json" .empty
      [(promoteCall "1.1.0", passingEnv "frg-2")] soleWorld :=
    .cons rfl rfl (.nil _)
  have htwo : Sequence pinHost id (fun _ _ => "") "pin.json" .empty
      [(promoteCall "1.1.0", passingEnv "frg-2"), (promoteCall "1.2.0", passingEnv "frg-3")] afterTwo :=
    .cons rfl rfl (.cons rfl rfl (.nil _))
  have hpromote : Succeeds (promoted "1.2.0" "frg-3") soleWorld afterTwo := succeeds_of_isOk (by decide +kernel)
  obtain ⟨pin, ⟨text, htext, hparse⟩, hprevious⟩ : ∃ pin, Reads pinHost id afterTwo pin ∧
      pin.previous = some (some (pinWithoutPrevious solePin)) := by
    obtain ⟨pin, _, _, hrun⟩ := id hpromote
    obtain ⟨hpin, hprevious⟩ := reads_of_promote readsBack_one nonBlank_pinHost
      (Sound.run readsBack_one nonBlank_pinHost hone) rfl hrun
    obtain ⟨first, hfirst, hread⟩ := reads_soleWorld
    exact ⟨_, hpin.reads, by simp [hprevious, previousOf, readPin, passingEnv, hfirst, hread, Except.toOption]⟩
  have hauthorized : authorizeRollback pinHost (fun _ _ => "") undoOpts (passingEnv "")
      (retainedTargetOf (pinWithoutPrevious solePin).version (pinWithoutPrevious solePin).tag
        (pinWithoutPrevious solePin).gitSha.join) afterTwo = (.ok none, afterTwo) :=
    Prod.ext (by decide +kernel) (authorizeRollback_quiet _ _ _ _ _)
  have hrestore : undo afterTwo =
      restore pinHost (fun _ _ => "") "pin.json" undoOpts (passingEnv "") pin (pinWithoutPrevious solePin) afterTwo := by
    simp [undo, rollbackProductionPin, readPin, passingEnv, htext, hparse, undoOpts, rollbackFrom, hprevious]
  have hback : Succeeds undo afterTwo (undo afterTwo).2 :=
    succeeds_of_isOk (by rw [hrestore, restore, Effect.bind_ok hauthorized]; rfl)
  refine ⟨?_, ?_⟩
  · obtain ⟨found, hfound, -, -, hquality⟩ :=
      (productionPin_chain readsBack_one nonBlank_pinHost htwo).1 text htext
    exact ⟨found, ⟨text, htext, hfound⟩, (hquality (by decide +kernel)).1⟩
  · have hrestores := (productionPin_chain readsBack_one nonBlank_pinHost hone).2.2 _ _ _ solePin rfl hpromote
      reads_soleWorld undoOpts (passingEnv "") rfl
    obtain ⟨after, hafter, hsame⟩ := (hrestores.1 _ hback).1
    exact ⟨after, _, hback, hafter, hsame⟩

/-- A pass whose run hides the marker behind a space: the promote succeeds, and the file reads as a
record that is not production-quality. -/
theorem promote_hidden_marker :
    ∃ w, Sequence pinHost id (fun _ _ => "") "pin.json" .empty
        [(promoteCall "1.0.0", passingEnv " no-frg-1.0.0")] w ∧
      (w.pin.map fun text => (parseProductionEnginePin pinHost id text).toOption.map fun pin =>
        isProductionQualityPin pin.1) = some (some false) := by
  obtain ⟨text, htext, hparse⟩ := reads_firstPin ⟨"1.0.0", by decide +kernel⟩ " no-frg-1.0.0" (by decide +kernel)
  refine ⟨_, .cons rfl rfl (.nil _), (congrArg _ htext).trans ?_⟩
  rw [Option.map_some, hparse]
  decide +kernel

end AgentPipeline.Pin
