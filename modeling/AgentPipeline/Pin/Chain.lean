import AgentPipeline.Foundation.Transition
import AgentPipeline.Pin.Writers

/-!
# Pin.Chain: every pin that the writers leave

A writer either leaves the pin file alone and reports no success, or it writes a record that it built
from an FRG pass, or restored from the snapshot that the current pin retains.

* `Ends`: that alternative, with what each writer may write (`Built`, `Restored`).
-/

namespace AgentPipeline.Pin

open Option
open JsText (trim nonBlank)
open Effect (Meets)

/-! ## What one call leaves -/

/-- The pin is as it was, and what was answered stays answered. -/
structure Unchanged (w s : World) : Prop where
  pin : s.pin = w.pin
  answers : w.answers <+: s.answers

lemma Unchanged.refl (w : World) : Unchanged w w := ⟨rfl, List.prefix_rfl⟩

variable {pin current : ProductionEnginePin}

variable {version : PinVersion} {gitSha : Option String} {source : Option GitShaSource}
  {p : Option ProductionEnginePinPrevious}

section Calls

variable (host : NodeHost) (syntaxError : String → String)
  (hmacSha256Hex : String → String → String) (pinPath : String)

/-- The file holds the record. -/
def Reads (w : World) (pin : ProductionEnginePin) : Prop :=
  ∃ text, w.pin = some text ∧ parseProductionEnginePin host syntaxError text = .ok pin

/-- A new record, from an FRG pass. -/
inductive Built (previous : Option ProductionEnginePinPrevious → Prop)
    (answers : List (PinVersion × FrgLookupResult)) : ProductionEnginePin → Prop where
  | intro {version : PinVersion} {evidence : FrgEvidence} (gitSha : Option String)
      (source : Option GitShaSource) {p : Option ProductionEnginePinPrevious} {promotedAt : String}
      (hpass : (version, .pass evidence) ∈ answers) (haccepted : frgRefusal (.pass evidence) version = none)
      (hprevious : previous p) (hpromoted : nonBlank promotedAt = true) :
      Built previous answers (buildPin version evidence.runId (some (frgEvidenceRelPath version)) gitSha
        source p promotedAt)

/-- The record of the snapshot that the current pin retains. -/
inductive Restored (w : World) : ProductionEnginePin → Prop where
  | intro {current : ProductionEnginePin} {snapshot : ProductionEnginePinPrevious} {promotedAt : String}
      (hcurrent : Reads host syntaxError w current) (hsnapshot : current.previous = some (some snapshot))
      (hpromoted : nonBlank promotedAt = true) :
      Restored w (restoredPin snapshot current promotedAt)

/-- No snapshot, or the one of the current pin. -/
def FromCurrent (w : World) (previous : Option ProductionEnginePinPrevious) : Prop :=
  ∀ snapshot ∈ previous, ∃ current, Reads host syntaxError w current ∧ snapshot = pinWithoutPrevious current

/-- A refusal leaves the pin as it was; a success has written a record of the kind. -/
def Ends (w : World) (kind : List (PinVersion × FrgLookupResult) → ProductionEnginePin → Prop)
    (result : PromotePinResult) (s : World) : Prop :=
  match result with
  | .refused _ _ => Unchanged w s
  | .ok pin _ _ => w.answers <+: s.answers ∧ kind s.answers pin ∧
      ∃ fields, KeyOrder fields ∧ s.pin = some (pinText host (fields pin))

variable {host syntaxError} {w : World}
  {kind : List (PinVersion × FrgLookupResult) → ProductionEnginePin → Prop}

variable {kind' : List (PinVersion × FrgLookupResult) → ProductionEnginePin → Prop}

lemma Ends.mono (hkind : ∀ answers pin, kind answers pin → kind' answers pin) {result : PromotePinResult}
    {s : World} (h : Ends host w kind result s) : Ends host w kind' result s := by
  cases result with
  | refused => exact h
  | ok pin => exact ⟨h.1, hkind _ _ h.2.1, h.2.2⟩

/-- Started where the pin is as it was, a call ends so. -/
def Calls (w : World) (pre : List (PinVersion × FrgLookupResult) → Prop)
    (m : PinM PromotePinResult) (post : PromotePinResult → World → Prop) : Prop :=
  Meets (fun s => Unchanged w s ∧ pre s.answers) m post fun _ s => Unchanged w s

variable {pre : List (PinVersion × FrgLookupResult) → Prop}

lemma Calls.mono {m : PinM PromotePinResult}
    (h : Calls w pre m (Ends host w kind)) (hkind : ∀ answers pin, kind answers pin → kind' answers pin) :
    Calls w pre m (Ends host w kind') :=
  Meets.mono h (fun _ hs => hs) (fun _ _ hends => hends.mono hkind) fun _ _ hs => hs

lemma calls_refused (code : RefusalCode)
    (message : String) : Calls w pre (pure (.refused code message)) (Ends host w kind) := Meets.ret fun _ h => h.1

variable {post : PromotePinResult → World → Prop} {α : Type}

lemma calls_orThrow {value : Except String α} {k : α → PinM PromotePinResult}
    (h : ∀ a, value = .ok a → Calls w pre (k a) post) : Calls w pre (orThrow value >>= k) post := by
  intro s hs s'
  cases value with
  | ok a => exact h a rfl s hs s'
  | error e =>
    refine ⟨fun a ha => (by cases ha), fun e' he => ?_⟩
    cases he
    exact hs.1

lemma calls_publish {env : PinEnv} {fields : ProductionEnginePin → List (String × Json)}
    (hfields : KeyOrder fields) (h : ∀ answers, pre answers → kind answers pin) :
    Calls w pre (publish host pinPath env pin (fields pin)) (Ends host w kind) := by
  intro s ⟨hs, hpre⟩ s'
  have hwrite : ∀ {r s₁}, atomicWritePin env (pinText host (fields pin)) s = (r, s₁) →
      s₁.answers = s.answers ∧ (r = .ok () → s₁.pin = some (pinText host (fields pin))) ∧
        ∀ message, r = .error message → s₁.pin = s.pin := by
    intro r s₁ hrun
    unfold atomicWritePin at hrun
    split at hrun
    · obtain ⟨rfl, rfl⟩ := Prod.mk.inj hrun
      exact ⟨rfl, by simp, fun _ _ => rfl⟩
    · split at hrun
      · obtain ⟨rfl, rfl⟩ := Prod.mk.inj hrun
        exact ⟨rfl, by simp, fun _ _ => rfl⟩
      · split at hrun
        · obtain ⟨rfl, rfl⟩ := Prod.mk.inj hrun
          exact ⟨rfl, by simp, fun _ _ => rfl⟩
        · obtain ⟨rfl, rfl⟩ := Prod.mk.inj hrun
          exact ⟨rfl, fun _ => rfl, by simp⟩
  cases hrun : atomicWritePin env (pinText host (fields pin)) s with
  | mk r s₁ =>
    obtain ⟨hanswers, hok, herror⟩ := hwrite hrun
    cases r with
    | ok u =>
      have hpublish : publish host pinPath env pin (fields pin) s =
          (.ok (.ok pin pinPath (reinstallHint pin.tag)), s₁) := by
        simp [publish, hrun]
      rw [hpublish]
      refine ⟨fun a ha => ?_, fun e he => (by cases he)⟩
      obtain ⟨hresult, rfl⟩ := Prod.mk.inj ha
      obtain rfl := Except.ok.inj hresult
      exact ⟨hanswers ▸ hs.answers, hanswers ▸ h _ hpre, fields, hfields, hok rfl⟩
    | error message =>
      have hpublish : publish host pinPath env pin (fields pin) s =
          (.ok (.refused .writeError ("failed to write production pin: " ++ message)), s₁) := by
        simp [publish, hrun]
      rw [hpublish]
      refine ⟨fun a ha => ?_, fun e he => (by cases he)⟩
      obtain ⟨hresult, rfl⟩ := Prod.mk.inj ha
      obtain rfl := Except.ok.inj hresult
      exact ⟨(herror message rfl).trans hs.pin, hanswers ▸ hs.answers⟩

/-! ## The records that the writers build -/

/-- What `replaceFirst` leaves, unless it finds nothing, contains the replacement. -/
lemma scan_first (p : JsRegExp.Pattern) (replacement : List Char) (fuel : Nat) (c : JsRegExp.Cursor) :
    JsRegExp.scan false p replacement fuel c = c.rest ∨ replacement <:+: JsRegExp.scan false p replacement fuel c := by
  induction fuel generalizing c with
  | zero => exact .inl rfl
  | succ fuel ih =>
    cases hmatch : (JsRegExp.matchAt p c).head? with
    | some next =>
      have hscan : JsRegExp.scan false p replacement (fuel + 1) c = replacement ++ next.rest := by
        simp [JsRegExp.scan, hmatch]
      exact .inr ⟨[], next.rest, by rw [hscan]; rfl⟩
    | none =>
      cases hrest : c.rest with
      | nil =>
        refine .inl ?_
        simp only [JsRegExp.scan, hmatch]
        rw [hrest]
      | cons x xs =>
        have hadvance : (c.advance 1).rest = xs := by simp [JsRegExp.Cursor.advance, hrest]
        have hcopy : JsRegExp.scan false p replacement (fuel + 1) c =
            x :: JsRegExp.scan false p replacement fuel (c.advance 1) := by
          simp only [JsRegExp.scan, hmatch]
          rw [hrest]
        rw [hcopy]
        rcases ih (c.advance 1) with hscan | hscan
        · exact .inl (by rw [hscan, hadvance])
        · exact .inr (hscan.trans (List.suffix_cons _ _).isInfix)

variable {text : String}

lemma nonBlank_of_mem {c : Char} (hc : c ∈ text.toList) (hspace : JsText.isSpace c = false) : nonBlank text = true := by
  by_contra hblank
  have htrim : JsText.trimEnd (JsText.trimStart text.toList) = [] := by simpa [nonBlank, trim] using hblank
  have hstart : ∀ x ∈ (JsText.trimStart text.toList).reverse, JsText.isSpace x = true :=
    List.dropWhile_eq_nil_iff.1 (by simpa [JsText.trimEnd] using htrim)
  have hnil : JsText.trimStart text.toList = [] := by
    cases hcs : JsText.trimStart text.toList with
    | nil => rfl
    | cons x xs =>
      have hhead := List.head?_dropWhile_not JsText.isSpace text.toList
      rw [← JsText.trimStart, hcs] at hhead
      have hx := hstart x (by simp [hcs])
      simp [hx] at hhead
  have hall := List.dropWhile_eq_nil_iff.1 hnil c hc
  rw [hspace] at hall
  cases hall

variable {now : Except String (Option Instant)}

/-- What `now()` gives is printed as a text that is not blank. -/
lemma nonBlank_promotedAt (hiso : ∀ t, nonBlank (host.toISOString t) = true)
    (h : promotedAtText host now = .ok text) : nonBlank text = true := by
  unfold promotedAtText at h
  split at h
  · next t =>
    obtain rfl := Except.ok.inj h
    rcases scan_first milliseconds ['Z'] ((host.toISOString t).length + 1)
        (JsRegExp.start (host.toISOString t)) with hscan | hscan
    · have hsame : JsRegExp.replaceFirst milliseconds "Z" (host.toISOString t) = host.toISOString t := by
        simpa [JsRegExp.replaceFirst, JsRegExp.start] using congrArg String.ofList hscan
      rw [hsame]
      exact hiso t
    · refine nonBlank_of_mem (c := 'Z') ?_ (by decide)
      simpa [JsRegExp.replaceFirst] using hscan.subset (by simp)
  · cases h
  · cases h

/-! ## The writers -/

lemma pin_of_readPin {env : PinEnv} (h : readPin env w = .ok text) : w.pin = some text := by
  unfold readPin at h
  split at h
  · cases h
  · split at h
    · next hpin => rw [hpin, Except.ok.inj h]
    · cases h

/-- The snapshot that promote finds. -/
def previousOf (host : NodeHost) (syntaxError : String → String) (env : PinEnv) (w : World) :
    Option ProductionEnginePinPrevious :=
  (readPin env w).toOption.bind fun text =>
    (parseProductionEnginePin host syntaxError text).toOption.map pinWithoutPrevious

lemma fromCurrent_previousOf (env : PinEnv) (w : World) :
    FromCurrent host syntaxError w (previousOf host syntaxError env w) := by
  intro snapshot hsnapshot
  obtain ⟨text, htext, hparse⟩ := bind_eq_some_iff.1 (mem_def.1 hsnapshot)
  obtain ⟨current, hcurrent, rfl⟩ := map_eq_some_iff.1 hparse
  refine ⟨current, ⟨text, ?_, ?_⟩, rfl⟩
  · cases hread : readPin env w with
    | error e => simp [hread, Except.toOption] at htext
    | ok found =>
      obtain rfl : found = text := by simpa [hread, Except.toOption] using htext
      exact pin_of_readPin hread
  · cases hpin : parseProductionEnginePin host syntaxError text with
    | error e => simp [hpin, Except.toOption] at hcurrent
    | ok pin =>
      obtain rfl : pin = current := by simpa [hpin, Except.toOption] using hcurrent
      rfl

lemma calls_existingPrevious {env : PinEnv} {k : Option ProductionEnginePinPrevious → PinM PromotePinResult}
    (h : Calls w pre (k (previousOf host syntaxError env w)) post) :
    Calls w pre (existingPrevious host syntaxError env >>= k) post := by
  intro s hs s'
  have hread : readPin env s = readPin env w := by simp [readPin, hs.1.pin]
  have hfound : existingPrevious host syntaxError env s = (.ok (previousOf host syntaxError env w), s) := by
    unfold existingPrevious previousOf
    rw [hread]
    cases readPin env w <;> rfl
  have hrun : (existingPrevious host syntaxError env >>= k) s = k (previousOf host syntaxError env w) s := by
    show Effect.andThen (existingPrevious host syntaxError env) k s = _
    simp [Effect.andThen, hfound]
  rw [hrun]
  exact h s hs s'

variable {target : PinVersion}

lemma calls_lookup {env : PinEnv} {k : FrgLookupResult → PinM PromotePinResult}
    (h : ∀ look, env.lookupFrg target = .ok look → Calls w (fun answers => (target, look) ∈ answers) (k look) post) :
    Calls w pre (lookupFrg env target >>= k) post := by
  intro s hs s'
  cases hlook : env.lookupFrg target with
  | error e =>
    have hrun : (lookupFrg env target >>= k) s = (.error e, s) := by
      show Effect.andThen (lookupFrg env target) k s = _
      simp [Effect.andThen, lookupFrg, hlook]
    rw [hrun]
    refine ⟨fun a ha => (by cases ha), fun e' he => ?_⟩
    cases he
    exact hs.1
  | ok look =>
    have hrun : (lookupFrg env target >>= k) s = k look { s with answers := s.answers ++ [(target, look)] } := by
      show Effect.andThen (lookupFrg env target) k s = _
      simp [Effect.andThen, lookupFrg, hlook]
    rw [hrun]
    have hanswered : Unchanged w { s with answers := s.answers ++ [(target, look)] } :=
      ⟨hs.1.pin, hs.1.answers.trans (List.prefix_append s.answers [(target, look)])⟩
    exact h look hlook _ ⟨hanswered, List.mem_append_right _ (List.mem_singleton_self _)⟩ s'

lemma calls_quiet {m : PinM α} {k : α → PinM PromotePinResult}
    (hquiet : ∀ s, (m s).2 = s) (h : ∀ a, (∃ s, (m s).1 = .ok a) → Calls w pre (k a) post) :
    Calls w pre (m >>= k) post := by
  intro s hs s'
  have hrun : (m >>= k) s = Effect.andThen m k s := rfl
  have hstate := hquiet s
  cases hm : m s with
  | mk result s₁ =>
    rw [hm] at hstate
    obtain rfl : s₁ = s := hstate
    cases result with
    | ok a =>
      rw [hrun, show Effect.andThen m k s₁ = k a s₁ by simp [Effect.andThen, hm]]
      exact h a ⟨s₁, by rw [hm]⟩ s₁ hs s'
    | error e =>
      rw [hrun, show Effect.andThen m k s₁ = (.error e, s₁) by simp [Effect.andThen, hm]]
      refine ⟨fun a ha => (by cases ha), fun e' he => ?_⟩
      cases he
      exact hs.1

lemma authorizeRollback_quiet (env : PinEnv) (opts : RollbackOpts) (target : RollbackRetainedTarget) (s : World) :
    (authorizeRollback host hmacSha256Hex opts env target s).2 = s := by
  have hpresented : (presentedEnvelope host opts env target s).2 = s := by
    unfold presentedEnvelope
    cases opts.envelope with
    | some envelope => rfl
    | none =>
      dsimp only
      split
      · rfl
      · show (Effect.andThen (orThrow env.envelopeNow) _ s).2 = s
        unfold Effect.andThen orThrow
        cases env.envelopeNow with
        | error e => rfl
        | ok now =>
          show (Effect.andThen _ _ s).2 = s
          unfold Effect.andThen
          cases operatorRollbackEnvelope host target now (opts.repository.getD opts.repoDir) <;> rfl
  show (Effect.andThen (presentedEnvelope host opts env target) _ s).2 = s
  unfold Effect.andThen
  cases hrun : presentedEnvelope host opts env target s with
  | mk result s₁ =>
    rw [hrun] at hpresented
    cases result with
    | error e => exact hpresented
    | ok envelope => cases env.checkNow <;> exact hpresented

section Kinds

variable (hiso : ∀ t, nonBlank (host.toISOString t) = true)

include hiso

lemma built_of_ok {previous : Option ProductionEnginePinPrevious → Prop}
    {answers : List (PinVersion × FrgLookupResult)} {evidence : FrgEvidence}
    (hok : buildPinFromFrgPass host evidence version gitSha source p now = .ok pin)
    (hpass : (version, .pass evidence) ∈ answers) (haccepted : frgRefusal (.pass evidence) version = none)
    (hprevious : previous p) : Built previous answers pin := by
  unfold buildPinFromFrgPass at hok
  cases hnow : promotedAtText host now with
  | error e =>
    rw [hnow] at hok
    cases hok
  | ok promotedAt =>
    rw [hnow] at hok
    obtain rfl := Except.ok.inj hok
    exact .intro gitSha source hpass haccepted hprevious (nonBlank_promotedAt hiso hnow)

variable (opts : PromoteOpts) (env : PinEnv)

lemma calls_promote (hfrg : opts.allowWithoutFrg = false) :
    Calls w (fun _ => True) (promoteProductionPin host syntaxError pinPath opts env)
      (Ends host w (Built fun p => p = previousOf host syntaxError env w)) := by
  unfold promoteProductionPin
  split
  · exact calls_refused _ _
  · next target _ =>
    rw [hfrg, if_neg Bool.false_ne_true]
    refine calls_lookup fun look _ => ?_
    split
    · exact calls_refused _ _
    · next evidence _ haccepted =>
      refine calls_existingPrevious (calls_orThrow fun pin hpin => ?_)
      split
      · exact calls_refused _ _
      · exact calls_publish _ (.inl rfl) fun answers hpass =>
          built_of_ok hiso hpin hpass haccepted rfl
    · exact calls_refused _ _

lemma calls_init (opts : InitOpts) :
    Calls w (fun _ => True) (initProductionPin host syntaxError pinPath opts env)
      (Ends host w (Built (FromCurrent host syntaxError w))) := by
  intro s hs s'
  have hrefused : ∀ code message, Calls w (fun _ => True) (pure (.refused code message))
      (Ends host w (Built (FromCurrent host syntaxError w))) := calls_refused
  unfold initProductionPin
  split
  · exact hrefused _ _ s hs s'
  · split
    · exact hrefused _ _ s hs s'
    · next target _ =>
      suffices hlook : Calls w (fun _ => True) _ _ from hlook s hs s'
      refine calls_lookup fun look _ => ?_
      split
      · exact calls_refused _ _
      · next evidence _ haccepted =>
        have hbuild : ∀ p, FromCurrent host syntaxError w p →
            Calls w (fun answers => (target, FrgLookupResult.pass evidence) ∈ answers)
              (do
                let pin ← orThrow (buildPinFromFrgPass host evidence target opts.gitSha
                  (some (passedShaSource opts.gitSha)) p env.promotedNow)
                publish host pinPath env pin (builtFields pin))
              (Ends host w (Built (FromCurrent host syntaxError w))) := fun p hp =>
          calls_orThrow fun pin hpin => calls_publish _ (.inl rfl) fun answers hpass =>
            built_of_ok hiso hpin hpass haccepted hp
        unfold initFromPass
        cases opts.force with
        | true => exact calls_existingPrevious (hbuild _ (fromCurrent_previousOf env w))
        | false => exact hbuild none (by simp [FromCurrent])
      · exact calls_refused _ _

/-! ### Rollback -/

section

variable (hcurrent : Reads host syntaxError w current)
include hcurrent

lemma calls_restore {opts : RollbackOpts} {snapshot : ProductionEnginePinPrevious}
    (hsnapshot : current.previous = some (some snapshot)) :
    Calls w pre (restore host hmacSha256Hex pinPath opts env current snapshot)
      (Ends host w fun _ => Restored host syntaxError w) := by
  refine calls_quiet (authorizeRollback_quiet hmacSha256Hex env opts _) fun refused _ => ?_
  split
  · exact calls_refused _ _
  · exact calls_orThrow fun promotedAt hpromoted => calls_publish _ (.inr rfl) fun _ _ =>
      .intro hcurrent hsnapshot (nonBlank_promotedAt hiso hpromoted)

lemma calls_rebuild {opts : RollbackOpts} : Calls w pre (rebuild host hmacSha256Hex pinPath opts env current target)
      (Ends host w (Built (FromCurrent host syntaxError w))) := by
  refine calls_lookup fun look _ => ?_
  split
  · exact calls_refused _ _
  · next evidence _ haccepted =>
    refine calls_quiet (authorizeRollback_quiet hmacSha256Hex env opts _) fun refused _ => ?_
    split
    · exact calls_refused _ _
    · refine calls_orThrow fun pin hpin => calls_publish _ (.inl rfl) fun _ hpass =>
        built_of_ok hiso hpin hpass haccepted fun snapshot hsnapshot => ⟨current, hcurrent, ?_⟩
      exact (some.inj hsnapshot).symm
  · exact calls_refused _ _

lemma calls_rollbackFrom {opts : RollbackOpts} :
    Calls w (fun _ => True) (rollbackFrom host hmacSha256Hex pinPath opts env current)
      (Ends host w fun answers pin =>
        Restored host syntaxError w pin ∨
          (opts.toVersion.filter nonBlank ≠ none ∧ Built (FromCurrent host syntaxError w) answers pin)) := by
  have hretained : ∀ {snapshot}, current.previous.join = some snapshot →
      Calls w (fun _ => True) (restore host hmacSha256Hex pinPath opts env current snapshot)
        (Ends host w fun answers pin => Restored host syntaxError w pin ∨ (opts.toVersion.filter nonBlank ≠ none ∧
            Built (FromCurrent host syntaxError w) answers pin)) := by
    intro snapshot hsnapshot
    exact (calls_restore hmacSha256Hex pinPath hiso env hcurrent
      (join_eq_some_iff.1 hsnapshot)).mono fun _ _ hkind => .inl hkind
  unfold rollbackFrom
  split
  · exact calls_refused _ _
  · next snapshot _ hsnapshot => exact hretained hsnapshot
  · next toVersion hto =>
    split
    · exact calls_refused _ _
    · split
      · next snapshot hmatch =>
        exact hretained (filter_eq_some_iff.1 hmatch).1
      · exact (calls_rebuild hmacSha256Hex pinPath hiso env hcurrent).mono fun _ _ hkind =>
          .inr ⟨by rw [hto]; simp, hkind⟩

end

lemma calls_rollback (opts : RollbackOpts) :
    Calls w (fun _ => True) (rollbackProductionPin host syntaxError hmacSha256Hex pinPath opts env)
      (Ends host w fun answers pin =>
        Restored host syntaxError w pin ∨ (opts.toVersion.filter nonBlank ≠ none ∧
            Built (FromCurrent host syntaxError w) answers pin)) := by
  intro s hs s'
  have hrefused : ∀ code message, Calls w (fun _ => True) (pure (.refused code message))
      (Ends host w fun answers pin => Restored host syntaxError w pin ∨ (opts.toVersion.filter nonBlank ≠ none ∧
          Built (FromCurrent host syntaxError w) answers pin)) := calls_refused
  unfold rollbackProductionPin
  split
  · exact hrefused _ _ s hs s'
  · split
    · split
      · exact hrefused _ _ s hs s'
      · exact hrefused _ _ s hs s'
    · next text hread =>
      split
      · exact hrefused _ _ s hs s'
      · next current hparse =>
        have htext : w.pin = some text := by
          rw [← hs.1.pin]
          exact pin_of_readPin hread
        exact calls_rollbackFrom hmacSha256Hex pinPath hiso env ⟨text, htext, hparse⟩ s hs s'

end Kinds

/-! ## Calls and runs -/

inductive Call where
  | promote (opts : PromoteOpts)
  | init (opts : InitOpts)
  | rollback (opts : RollbackOpts)

/-- The escape that skips the FRG pass is not taken. -/
def Call.RequiresFrg : Call → Prop
  | .promote opts => opts.allowWithoutFrg = false
  | _ => True

def perform (host : NodeHost) (syntaxError : String → String)
    (hmacSha256Hex : String → String → String) (pinPath : String) (call : Call) (env : PinEnv) :
    PinM PromotePinResult :=
  match call with
  | .promote opts => promoteProductionPin host syntaxError pinPath opts env
  | .init opts => initProductionPin host syntaxError pinPath opts env
  | .rollback opts => rollbackProductionPin host syntaxError hmacSha256Hex pinPath opts env

/-- One call of a sequence. -/
def step (host : NodeHost) (syntaxError : String → String)
    (hmacSha256Hex : String → String → String) (pinPath : String) (w : World) (c : Call × PinEnv) :
    Option World :=
  some (perform host syntaxError hmacSha256Hex pinPath c.1 c.2 w).2

/-- The calls one after the other. -/
abbrev Sequence (host : NodeHost) (syntaxError : String → String)
    (hmacSha256Hex : String → String → String) (pinPath : String) :
    World → List (Call × PinEnv) → World → Prop :=
  Transition.Run (step host syntaxError hmacSha256Hex pinPath) fun _ c => c.1.RequiresFrg

variable (hiso : ∀ t, nonBlank (host.toISOString t) = true)

include hiso

lemma calls_perform {call : Call} (env : PinEnv) (hcall : call.RequiresFrg) :
    Calls w (fun _ => True) (perform host syntaxError hmacSha256Hex pinPath call env)
      (Ends host w fun answers pin =>
        Restored host syntaxError w pin ∨ Built (FromCurrent host syntaxError w) answers pin) := by
  cases call with
  | promote opts =>
    have hpromote : Calls w (fun _ => True) (promoteProductionPin host syntaxError pinPath opts env) _ :=
      calls_promote pinPath hiso opts env hcall
    refine hpromote.mono fun _ _ hkind => .inr ?_
    cases hkind with
    | intro gitSha source hpass haccepted hprevious hpromoted =>
      exact .intro gitSha source hpass haccepted (hprevious ▸ fromCurrent_previousOf env w) hpromoted
  | init opts =>
    have hinit : Calls w (fun _ => True) (initProductionPin host syntaxError pinPath opts env) _ :=
      calls_init pinPath hiso env opts
    exact hinit.mono fun _ _ hkind => .inr hkind
  | rollback opts =>
    have hrollback : Calls w (fun _ => True)
        (rollbackProductionPin host syntaxError hmacSha256Hex pinPath opts env) _ :=
      calls_rollback hmacSha256Hex pinPath hiso env opts
    refine hrollback.mono fun _ _ hkind => ?_
    rcases hkind with hkind | ⟨-, hkind⟩
    · exact .inl hkind
    · exact .inr hkind

end Calls

/-! ## Settled records -/

/-- A record that writing and reading keeps. -/
structure Settled (pin : ProductionEnginePin) : Prop where
  written : WrittenPin pin
  trimmed : trimmedPin pin = pin

lemma pinWithoutPrevious_of_written (h : Written pin.1) : pinWithoutPrevious pin = pin.1 := by
  obtain ⟨sha, hsha, -⟩ := h.sha
  obtain ⟨source, hsource⟩ := h.source
  obtain ⟨path, hpath⟩ := h.path
  cases pin with
  | mk own previous =>
    cases own
    simp_all [pinWithoutPrevious]

lemma settled_trimmedPin (h : WrittenPin pin) : Settled (trimmedPin pin) := by
  obtain ⟨previous, hprevious, hsnapshot⟩ := h.previous
  refine ⟨⟨h.own.trimmed, previous.map trimmed, by simp [trimmedPin, hprevious], ?_⟩, ?_⟩
  · intro snapshot hs
    obtain ⟨raw, hraw, rfl⟩ := mem_map.1 hs
    exact (hsnapshot raw hraw).trimmed
  · cases previous <;> simp [trimmedPin, hprevious]

lemma Settled.own (h : Settled pin) : Pin.trimmed pin.1 = pin.1 :=
  congrArg ProductionEnginePin.toProductionEnginePinPrevious h.trimmed

lemma Settled.snapshot (h : Settled pin)
    {snapshot : ProductionEnginePinPrevious} (hsnapshot : pin.previous = some (some snapshot)) :
    Written snapshot ∧ Pin.trimmed snapshot = snapshot := by
  obtain ⟨previous, hprevious, hwritten⟩ := h.written.previous
  have hsame := congrArg ProductionEnginePin.previous h.trimmed
  rw [hprevious] at hsnapshot
  obtain rfl := some.inj hsnapshot
  refine ⟨hwritten snapshot rfl, ?_⟩
  simpa [trimmedPin, hprevious] using hsame

variable {promotedAt : String}

lemma written_buildPin {runId path : String} (hrun : nonBlank runId = true) (hpromoted : nonBlank promotedAt = true)
    (hp : ∀ snapshot ∈ p, Written snapshot) :
    WrittenPin (buildPin version runId (some path) gitSha source p promotedAt) := by
  refine ⟨⟨rfl, ?_, ⟨_, rfl, ?_⟩, ⟨_, rfl⟩, hrun, ⟨_, rfl⟩, hpromoted⟩, p, rfl, hp⟩
  · exact nonBlank_of_mem (c := 'v') (by simp [buildPin, tagForVersion]) (by decide)
  · intro text htext
    unfold recordedSha at htext
    split at htext
    · next sha hsha =>
      obtain rfl : trim sha = text := by simpa using htext
      simpa using (filter_eq_some_iff.1 hsha).2
    · simp at htext

lemma written_restoredPin {snapshot : ProductionEnginePinPrevious} (hsnapshot : Written snapshot)
    (hcurrent : Written current.1)
    (hpromoted : nonBlank promotedAt = true) : WrittenPin (restoredPin snapshot current promotedAt) := by
  obtain ⟨sha, hsha, hblank⟩ := hsnapshot.sha
  refine ⟨⟨rfl, hsnapshot.tag, ⟨sha, by simp [restoredPin, hsha], hblank⟩, ⟨_, rfl⟩, hsnapshot.run,
    ⟨_, rfl⟩, hpromoted⟩, _, rfl, ?_⟩
  rintro s hs
  obtain rfl : pinWithoutPrevious current = s := by simpa using hs
  rwa [pinWithoutPrevious_of_written hcurrent]

end AgentPipeline.Pin
