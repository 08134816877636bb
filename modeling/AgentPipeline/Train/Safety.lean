import AgentPipeline.Train.Run

/-!
# Safety: what a live run of a train never does

* `Admissible`: what is advanced or merged, when it is;
* `Traced`: the calls so far: each admissible, each issue once, and everything that was advanced or merged is
  finished or held, but for the issues that are being dealt with;
* `Listed`, `Closed`: one item for each finished or held issue, and no open issue that depends on a held one;
* `runTrain_safe`: the run of an admitted work list.
-/

namespace AgentPipeline.Train

open List
open Effect (Meets)

/-- The issues that a call advances. -/
def TrainEvent.advanced : TrainEvent → List Nat
  | .advanceWave issues _ => issues
  | _ => []

/-- The issue that a call merges. -/
def TrainEvent.merged : TrainEvent → List Nat
  | .mergeIssuePr issue _ _ => [issue]
  | _ => []

/-- A call that advances and merges nothing. -/
def TrainEvent.quiet : TrainEvent → Bool
  | .advanceWave _ _ | .mergeIssuePr _ _ _ => false
  | _ => true

def MergeReadyToDeployResult.isStop : MergeReadyToDeployResult → Bool
  | .stop _ _ _ _ => true
  | _ => false

/-- No issue is taken back from the finished or the held ones. -/
structure TrainState.Grows (st st' : TrainState) : Prop where
  finished : st.finished ⊆ st'.finished
  held : st.held ⊆ st'.held

lemma TrainState.Grows.refl (st : TrainState) : st.Grows st := ⟨fun _ h => h, fun _ h => h⟩

lemma TrainState.Grows.trans {st₁ st₂ st₃ : TrainState} (h : st₁.Grows st₂) (h' : st₂.Grows st₃) :
    st₁.Grows st₃ := ⟨fun _ hn => h'.finished (h.finished hn), fun _ hn => h'.held (h.held hn)⟩

/-- An issue that the run is done with. -/
def TrainState.Done (st : TrainState) (n : Nat) : Prop := n ∈ st.finished ∨ n ∈ st.held

variable {n : Nat}

lemma TrainState.Grows.done {st st' : TrainState} (h : st.Grows st') (hn : st.Done n) : st'.Done n :=
  hn.imp (fun hn => h.finished hn) (fun hn => h.held hn)

lemma mem_addTo {set : List Nat} {m : Nat} : m ∈ addTo set n ↔ m ∈ set ∨ m = n := by
  unfold addTo
  split
  · next h =>
    constructor
    · exact .inl
    · rintro (hm | rfl)
      · exact hm
      · exact h
  · simp

lemma grows_markHeld (st : TrainState) (item : TrainItemResult) : st.Grows (st.markHeld item) :=
  ⟨fun _ h => h, fun _ h => mem_addTo.2 (.inl h)⟩

lemma grows_markFinished (st : TrainState) (item : TrainItemResult) : st.Grows (st.markFinished item) :=
  ⟨fun _ h => mem_addTo.2 (.inl h), fun _ h => h⟩

section Safety

variable (ordered : List Nat) (codeDeps : List (Nat × List Nat)) (mergeMode : Bool)

/-- An issue that nothing held stands in the way of. -/
structure Unheld (st : TrainState) (n : Nat) : Prop where
  unfinished : n ∉ st.finished
  unheld : n ∉ st.held
  independent : ∀ h ∈ st.held, ¬ Path codeDeps n h

/-- What is advanced or merged by a call is open, and independent of what is held; an advanced issue has its
prerequisites integrated, and in merge mode it is the only one of its wave. -/
structure Admissible (step : TrainStep) : Prop where
  advanced : ∀ n ∈ step.event.advanced, n ∈ ordered ∧ Unheld codeDeps step.st n ∧
    ∀ p ∈ prereqsOf codeDeps n, p ∈ step.st.integrated
  merged : ∀ n ∈ step.event.merged, Unheld codeDeps step.st n
  single : mergeMode = true → ∀ issues answer, step.event = .advanceWave issues answer → ∃ n, issues = [n]

def World.advanced (w : World) : List Nat := w.trace.flatMap (·.event.advanced)

def World.merged (w : World) : List Nat := w.trace.flatMap (·.event.merged)

/-- The calls so far; `open` and `merging` are the advanced and the merged issues that are being dealt with. -/
structure Traced (advancing merging : List Nat) (w : World) : Prop where
  admissible : ∀ step ∈ w.trace, Admissible ordered codeDeps mergeMode step
  grows : ∀ step ∈ w.trace, step.st.Grows w.st
  inOrder : w.trace.Pairwise fun step later => step.st.Grows later.st
  advancedOnce : w.advanced.Nodup
  mergedOnce : w.merged.Nodup
  advancedDone : ∀ n ∈ w.advanced, w.st.Done n ∨ n ∈ advancing
  mergedDone : ∀ n ∈ w.merged, w.st.Done n ∨ n ∈ merging

/-- The calls so far, and the variables now. -/
def At (advancing merging : List Nat) (st : TrainState) (w : World) : Prop :=
  Traced ordered codeDeps mergeMode advancing merging w ∧ w.st = st

variable {ordered codeDeps mergeMode} {advancing merging : List Nat} {st st' : TrainState} {w : World}

variable {event : TrainEvent}

lemma quiet_acts (h : event.quiet = true) : event.advanced = [] ∧ event.merged = [] := by
  cases event <;> first | exact ⟨rfl, rfl⟩ | cases h

/-- A call, recorded. -/
def World.push (w : World) (event : TrainEvent) : World := { w with trace := w.trace ++ [⟨w.st, event⟩] }

lemma advanced_push (w : World) (event : TrainEvent) : (w.push event).advanced = w.advanced ++ event.advanced := by
  simp [World.advanced, World.push]

lemma merged_push (w : World) (event : TrainEvent) : (w.push event).merged = w.merged ++ event.merged := by
  simp [World.merged, World.push]

variable (h : Traced ordered codeDeps mergeMode advancing merging w)
include h

lemma Traced.push {advancing' merging' : List Nat} (hstep : Admissible ordered codeDeps mergeMode ⟨w.st, event⟩)
    (hadvanced : event.advanced.Nodup) (hmerged : event.merged.Nodup)
    (hnewA : ∀ n ∈ event.advanced, n ∉ advancing) (hnewM : ∀ n ∈ event.merged, n ∉ merging)
    (hA : advancing' = advancing ++ event.advanced) (hM : merging' = merging ++ event.merged) :
    Traced ordered codeDeps mergeMode advancing' merging' (w.push event) := by
  subst hA hM
  refine ⟨fun step hmem => ?_, fun step hmem => ?_, ?_, ?_, ?_, fun n hn => ?_, fun n hn => ?_⟩
  · rcases mem_append.1 hmem with hmem | hmem
    · exact h.admissible step hmem
    · rw [mem_singleton.1 hmem]
      exact hstep
  · rcases mem_append.1 hmem with hmem | hmem
    · exact h.grows step hmem
    · rw [mem_singleton.1 hmem]
      exact .refl _
  · refine pairwise_append.2 ⟨h.inOrder, pairwise_singleton .., fun step hmem later hlater => ?_⟩
    rw [mem_singleton.1 hlater]
    exact h.grows step hmem
  · rw [advanced_push]
    refine nodup_append.2 ⟨h.advancedOnce, hadvanced, fun n hn m hm heq => ?_⟩
    subst heq
    obtain ⟨-, hopen, -⟩ := hstep.advanced n hm
    rcases h.advancedDone n hn with (hfinished | hheld) | hpending
    · exact hopen.unfinished hfinished
    · exact hopen.unheld hheld
    · exact hnewA n hm hpending
  · rw [merged_push]
    refine nodup_append.2 ⟨h.mergedOnce, hmerged, fun n hn m hm heq => ?_⟩
    subst heq
    have hopen := hstep.merged n hm
    rcases h.mergedDone n hn with (hfinished | hheld) | hpending
    · exact hopen.unfinished hfinished
    · exact hopen.unheld hheld
    · exact hnewM n hm hpending
  · rw [advanced_push] at hn
    rcases mem_append.1 hn with hn | hn
    · exact (h.advancedDone n hn).imp_right (mem_append_left _)
    · exact .inr (mem_append_right _ hn)
  · rw [merged_push] at hn
    rcases mem_append.1 hn with hn | hn
    · exact (h.mergedDone n hn).imp_right (mem_append_left _)
    · exact .inr (mem_append_right _ hn)

lemma Traced.quiet
    (hquiet : event.quiet = true) : Traced ordered codeDeps mergeMode advancing merging (w.push event) := by
  obtain ⟨hadvanced, hmerged⟩ := quiet_acts hquiet
  refine h.push ⟨by simp [hadvanced], by simp [hmerged], fun _ issues answer hevent => ?_⟩ (by simp [hadvanced])
    (by simp [hmerged]) (by simp [hadvanced]) (by simp [hmerged]) (by simp [hadvanced]) (by simp [hmerged])
  change event = _ at hevent
  rw [hevent] at hquiet
  cases hquiet

lemma Traced.setState (hgrows : w.st.Grows st')
    {advancing' merging' : List Nat} (hA : ∀ n ∈ advancing, st'.Done n ∨ n ∈ advancing')
    (hM : ∀ n ∈ merging, st'.Done n ∨ n ∈ merging') :
    Traced ordered codeDeps mergeMode advancing' merging' { w with st := st' } where
  admissible := h.admissible
  grows step hmem := (h.grows step hmem).trans hgrows
  inOrder := h.inOrder
  advancedOnce := h.advancedOnce
  mergedOnce := h.mergedOnce
  advancedDone n hn := (h.advancedDone n hn).elim (fun hdone => .inl (hgrows.done hdone)) (hA n)
  mergedDone n hn := (h.mergedDone n hn).elim (fun hdone => .inl (hgrows.done hdone)) (hM n)

end Safety

/-! ## Rules -/

/-- It does not throw, and what holds when it has returned. -/
def Returns {α : Type} (pre : World → Prop) (m : TrainM α) (post : α → World → Prop) : Prop :=
  Meets pre m post fun _ _ => False

namespace Returns

variable {α β : Type} {pre pre' : World → Prop} {m : TrainM α} {k : α → TrainM β}

lemma bind {q : α → World → Prop} {post : β → World → Prop} (hm : Returns pre m q)
    (hk : ∀ a, Returns (q a) (k a) post) : Returns pre (m >>= k) post := Meets.bind hm hk

variable {post : α → World → Prop}

lemma ret {a : α} (h : ∀ w, pre w → post a w) : Returns pre (pure a) post := Meets.ret h

lemma mono {post' : α → World → Prop} (h : Returns pre m post) (hpre : ∀ w, pre' w → pre w)
    (hpost : ∀ a w, post a w → post' a w) : Returns pre' m post' := Meets.mono h hpre hpost fun _ _ => False.elim

lemma of_exists {R : TrainState → Prop} {P : TrainState → World → Prop}
    (h : ∀ st, R st → Returns (P st) m post) : Returns (fun w => ∃ st, R st ∧ P st w) m post := by
  rintro w ⟨st, hst, hw⟩ w'
  exact h st hst w hw w'

lemma of_and {P : Prop} (h : P → Returns pre m post) :
    Returns (fun w => pre w ∧ P) m post := fun w hw w' => h hw.2 w hw.1 w'

lemma each {γ : Type} {f : α → γ → TrainM α} {I : List γ → α → World → Prop} {all : List γ}
    (h : ∀ before a after b, all = before ++ a :: after →
      Returns (I before b) (f b a) (fun b' w => I (before ++ [a]) b' w)) (b : α) :
    Returns (I [] b) (Effect.each f all b) (fun b' w => I all b' w) := Meets.each h b

lemma untilStop {turn : Nat → TrainM (Option TrainResult)} {I : List Nat → World → Prop}
    {S : TrainResult → World → Prop} {all : List Nat}
    (h : ∀ before n after, all = before ++ n :: after →
      Returns (I before) (turn n) (fun r w => match r with | none => I (before ++ [n]) w | some res => S res w)) :
    Returns (I []) (untilStop turn all) (fun r w => match r with | none => I all w | some res => S res w) := by
  suffices hrest : ∀ rest before, all = before ++ rest → Returns (I before) (Train.untilStop turn rest)
      (fun r w => match r with | none => I all w | some res => S res w) from hrest all [] rfl
  intro rest
  induction rest with
  | nil =>
    intro before hall
    refine ret fun w hw => ?_
    rw [hall, append_nil]
    exact hw
  | cons n rest ih =>
    intro before hall
    refine bind (h before n rest hall) fun r => ?_
    cases r with
    | none => exact ih (before ++ [n]) (by rw [hall]; simp)
    | some res => exact ret fun w hw => hw

end Returns

section Rules

variable {ordered : List Nat} {codeDeps : List (Nat × List Nat)} {mergeMode : Bool}
variable {advancing merging advancing' merging' : List Nat} {st st' : TrainState} {α β : Type}

lemma getState_bind {k : TrainState → TrainM β} {post : β → World → Prop}
    (h : Returns (At ordered codeDeps mergeMode advancing merging st) (k st) post) :
    Returns (At ordered codeDeps mergeMode advancing merging st) (getState >>= k) post := by
  rintro w ⟨hw, rfl⟩ w'
  exact h w ⟨hw, rfl⟩ w'

lemma setState_returns (hgrows : st.Grows st') (hA : ∀ n ∈ advancing, st'.Done n ∨ n ∈ advancing')
    (hM : ∀ n ∈ merging, st'.Done n ∨ n ∈ merging') :
    Returns (At ordered codeDeps mergeMode advancing merging st) (setState st')
      (fun _ => At ordered codeDeps mergeMode advancing' merging' st') := by
  rintro w ⟨hw, rfl⟩ w'
  refine ⟨fun a ha => ?_, fun e he => by cases he⟩
  cases ha
  exact ⟨hw.setState hgrows hA hM, rfl⟩

lemma setState_grows (hgrows : st.Grows st') :
    Returns (At ordered codeDeps mergeMode advancing merging st) (setState st')
      (fun _ => At ordered codeDeps mergeMode advancing merging st') :=
  setState_returns hgrows (fun _ hn => .inr hn) fun _ hn => .inr hn

/-- The calls of a computation advance and merge nothing, and it leaves the variables. -/
def Quiet (ordered : List Nat) (codeDeps : List (Nat × List Nat)) (mergeMode : Bool) (m : TrainM α) : Prop :=
  ∀ advancing merging st, Returns (At ordered codeDeps mergeMode advancing merging st) m
    (fun _ => At ordered codeDeps mergeMode advancing merging st)

lemma Quiet.ret (a : α) : Quiet ordered codeDeps mergeMode (pure a) := fun _ _ _ => .ret fun _ hw => hw

lemma Quiet.bind {m : TrainM α} {k : α → TrainM β} (hm : Quiet ordered codeDeps mergeMode m)
    (hk : ∀ a, Quiet ordered codeDeps mergeMode (k a)) : Quiet ordered codeDeps mergeMode (m >>= k) :=
  fun advancing merging st => .bind (hm advancing merging st) fun a => hk a advancing merging st

lemma Quiet.ask {answer : List TrainEvent → α} {event : α → TrainEvent} (h : ∀ a, (event a).quiet = true) :
    Quiet ordered codeDeps mergeMode (ask answer event) := by
  rintro advancing merging st w ⟨hw, hst⟩ w'
  refine ⟨fun a ha => ?_, fun e he => by cases he⟩
  cases ha
  exact ⟨hw.quiet (h _), hst⟩

lemma Quiet.getState : Quiet ordered codeDeps mergeMode getState := by
  rintro advancing merging st w hw w'
  refine ⟨fun a ha => ?_, fun e he => by cases he⟩
  cases ha
  exact hw

/-- A quiet computation whose result has a property. -/
def QuietWith (ordered : List Nat) (codeDeps : List (Nat × List Nat)) (mergeMode : Bool) (P : α → Prop)
    (m : TrainM α) : Prop :=
  ∀ advancing merging st, Returns (At ordered codeDeps mergeMode advancing merging st) m
    (fun a w => At ordered codeDeps mergeMode advancing merging st w ∧ P a)

lemma QuietWith.ret {P : α → Prop} {a : α} (h : P a) : QuietWith ordered codeDeps mergeMode P (pure a) :=
  fun _ _ _ => .ret fun _ hw => ⟨hw, h⟩

lemma QuietWith.bind {P : β → Prop} {m : TrainM α} {k : α → TrainM β} (hm : Quiet ordered codeDeps mergeMode m)
    (hk : ∀ a, QuietWith ordered codeDeps mergeMode P (k a)) : QuietWith ordered codeDeps mergeMode P (m >>= k) :=
  fun advancing merging st => .bind (hm advancing merging st) fun a => hk a advancing merging st

lemma Quiet.each {γ : Type} {f : α → γ → TrainM α} (h : ∀ a c, Quiet ordered codeDeps mergeMode (f a c))
    (cs : List γ) (a : α) : Quiet ordered codeDeps mergeMode (Effect.each f cs a) := fun advancing merging st =>
  @Returns.each α γ f (fun _ _ => At ordered codeDeps mergeMode advancing merging st) cs
    (fun _ c _ a _ => h a c advancing merging st) a

end Rules

/-! ## Quiet functions -/

section QuietCalls

variable {ordered : List Nat} {codeDeps : List (Nat × List Nat)} {mergeMode : Bool} {deps : TrainDeps}

lemma quiet_proveMergeResultInBase (input : ProveMergeResultInput) :
    Quiet ordered codeDeps mergeMode (proveMergeResultInBase deps input) := by
  unfold proveMergeResultInBase
  refine .bind (.ask fun _ => rfl) fun returned => ?_
  split
  · exact .ret _
  · refine .bind (.ask fun _ => rfl) fun tip => ?_
    split
    · exact .ret _
    · exact .bind (.ask fun _ => rfl) fun contained => .ret _

lemma quiet_observePr (pr : Nat) : Quiet ordered codeDeps mergeMode (observePr deps pr) := .ask fun _ => rfl

lemma quiet_getPrForIssue (issue : Nat) : Quiet ordered codeDeps mergeMode (getPrForIssue deps issue) :=
  .ask fun _ => rfl

lemma quiet_reconcile (issue pr : Nat) (base : String) :
    Quiet ordered codeDeps mergeMode (reconcileMergedPrIntegration deps issue pr base) := by
  unfold reconcileMergedPrIntegration
  refine .bind (quiet_observePr pr) fun obs => ?_
  split
  · exact .ret _
  · split
    · exact .ret _
    · refine .bind (quiet_proveMergeResultInBase _) fun proof => ?_
      cases proof with
      | some proof => exact .ret _
      | none => exact .bind (.ask fun _ => rfl) fun tip => .ret _

lemma quiet_proveObservedMerge (issue pr : Nat) (base : String) (obs : PrObservation) (attempted : Bool) :
    QuietWith ordered codeDeps mergeMode (fun r => r.isStop = false)
      (proveObservedMerge deps issue pr base obs attempted) := by
  unfold proveObservedMerge
  split
  · exact .ret rfl
  · refine .bind (quiet_proveMergeResultInBase _) fun proof => ?_
    cases proof with
    | some proof => exact .ret rfl
    | none => exact .bind (.ask fun _ => rfl) fun tip => .ret rfl

lemma quiet_mergeWithoutOpenPr (issue : Nat) (base : String) :
    QuietWith ordered codeDeps mergeMode (fun r => r.isStop = false) (mergeWithoutOpenPr deps issue base) := by
  unfold mergeWithoutOpenPr
  refine .bind (.ask fun _ => rfl) fun anyPr => ?_
  cases anyPr with
  | none => exact .ret rfl
  | some anyPr =>
    refine .bind (quiet_reconcile issue anyPr base) fun recon => ?_
    cases recon <;> exact .ret rfl

lemma quiet_openReadyToDeployPr (opened : List Nat) (issue : Nat) :
    Quiet ordered codeDeps mergeMode (openReadyToDeployPr deps opened issue) := by
  unfold openReadyToDeployPr
  refine .bind .getState fun st => ?_
  split
  · exact .ret _
  · split
    · exact .ret _
    · refine .bind (quiet_getPrForIssue issue) fun pr => ?_
      cases pr with
      | none => exact .ret _
      | some pr => exact .bind (quiet_observePr pr) fun obs => .ret _

lemma quiet_linkedPr (issue : Nat) (stage : Option Stage) :
    Quiet ordered codeDeps mergeMode (linkedPr deps issue stage) := by
  unfold linkedPr
  refine .bind (quiet_getPrForIssue issue) fun pr => ?_
  cases pr with
  | some pr => exact .ret _
  | none =>
    dsimp only
    split
    · exact .ask fun _ => rfl
    · exact .ret _

end QuietCalls

/-! ## What one issue is merged to -/

variable {deps : TrainDeps} {opts : TrainOpts} {ordered : List Nat} {codeDeps : List (Nat × List Nat)}
variable {advancing merging : List Nat} {st st' : TrainState} {issue : Nat}

variable {mergeMode : Bool}

lemma At.weaken {w : World} {advancing' merging' : List Nat} (h : At ordered codeDeps mergeMode advancing merging st w)
    (hA : ∀ n ∈ advancing, st.Done n ∨ n ∈ advancing') (hM : ∀ n ∈ merging, st.Done n ∨ n ∈ merging') :
    At ordered codeDeps mergeMode advancing' merging' st w := by
  obtain ⟨hw, rfl⟩ := h
  exact ⟨hw.setState (.refl _) hA hM, rfl⟩

lemma mergeOpenPr_returns (hopen : Unheld codeDeps st issue) (pr : Nat) (base : String) :
    Returns (At ordered codeDeps opts.merge advancing [] st) (mergeOpenPr deps issue pr base)
      (fun r w => At ordered codeDeps opts.merge advancing [issue] st w ∧ r.isStop = false) := by
  unfold mergeOpenPr
  refine .bind (q := fun _ => At ordered codeDeps opts.merge advancing [issue] st) ?_ fun answer => ?_
  · rintro w ⟨hw, rfl⟩ w'
    refine ⟨fun a ha => ?_, fun e he => by cases he⟩
    cases ha
    have hstep : Admissible ordered codeDeps opts.merge
        ⟨w.st, .mergeIssuePr issue pr (deps.mergeIssuePr (w.trace.map (·.event)) pr)⟩ := by
      refine ⟨fun n hn => absurd hn not_mem_nil, fun n hn => ?_, fun _ _ _ hevent => by cases hevent⟩
      rw [mem_singleton.1 hn]
      exact hopen
    exact ⟨hw.push hstep nodup_nil (nodup_singleton issue) (fun n hn => absurd hn not_mem_nil)
      (fun n _ => not_mem_nil) (append_nil _).symm rfl, rfl⟩
  · cases answer with
    | ok _ =>
      exact .bind (quiet_observePr pr _ _ st) fun obs => quiet_proveObservedMerge issue pr base obs true _ _ st
    | error message =>
      refine .bind (quiet_observePr pr _ _ st) fun obs => ?_
      split
      · exact .bind (quiet_observePr pr _ _ st) fun obs => quiet_proveObservedMerge issue pr base obs true _ _ st
      · exact .ret fun w hw => ⟨hw, rfl⟩

lemma mergeReadyToDeployItem_returns (hopen : Unheld codeDeps st issue) (base : String) :
    Returns (At ordered codeDeps opts.merge advancing [] st) (mergeReadyToDeployItem deps issue base)
      (fun r w => At ordered codeDeps opts.merge advancing [issue] st w ∧ r.isStop = false) := by
  have hquiet : ∀ {m : TrainM MergeReadyToDeployResult},
      QuietWith ordered codeDeps opts.merge (fun r => r.isStop = false) m →
      Returns (At ordered codeDeps opts.merge advancing [] st) m
        (fun r w => At ordered codeDeps opts.merge advancing [issue] st w ∧ r.isStop = false) := fun hm =>
    (hm advancing [] st).mono (fun _ hw => hw) fun r w hw =>
      ⟨hw.1.weaken (fun n hn => .inr hn) (fun n hn => absurd hn not_mem_nil), hw.2⟩
  unfold mergeReadyToDeployItem
  refine .bind ((Quiet.ask fun _ => rfl) advancing [] st) fun pr => ?_
  cases pr with
  | none => exact hquiet (quiet_mergeWithoutOpenPr issue base)
  | some pr =>
    refine .bind (quiet_observePr pr _ _ st) fun obs => ?_
    split
    · exact hquiet (quiet_proveObservedMerge issue pr base obs false)
    · refine .bind ((Quiet.ask fun _ => rfl) advancing [] st) fun refusal => ?_
      cases refusal with
      | some failure => exact hquiet (.ret rfl)
      | none => exact mergeOpenPr_returns hopen pr base

/-! ## Holding an issue -/

/-- There is one item for each issue that the run is done with, and these are issues of the list. -/
structure Listed (ordered : List Nat) (mergeMode : Bool) (st : TrainState) : Prop where
  once : (st.items.map (·.issue)).Nodup
  items : ∀ n, n ∈ st.items.map (·.issue) ↔ st.Done n
  listed : ∀ n, st.Done n → n ∈ ordered
  integrated : ∀ n ∈ st.integrated, n ∈ st.finished
  unmerged : mergeMode = false → st.integrated = []

/-- No open issue depends on a held one. -/
def Closed (ordered : List Nat) (codeDeps : List (Nat × List Nat)) (st : TrainState) : Prop :=
  ∀ n ∈ ordered, ¬ st.Done n → ∀ h ∈ st.held, ¬ Path codeDeps n h

/-- Some more issues are held, each of which depends on an issue that was held before. -/
structure HoldsMore (codeDeps : List (Nat × List Nat)) (st st' : TrainState) : Prop where
  finished : st'.finished = st.finished
  integrated : st'.integrated = st.integrated
  byNumber : st'.byNumber = st.byNumber
  held : st.held ⊆ st'.held
  depends : ∀ n ∈ st'.held, n ∈ st.held ∨ ∃ h ∈ st.held, Path codeDeps n h

lemma HoldsMore.grows (h : HoldsMore codeDeps st st') : st.Grows st' :=
  ⟨fun _ hn => by rw [h.finished]; exact hn, h.held⟩

lemma Closed.unheld (h : Closed ordered codeDeps st) (hn : n ∈ ordered) (hopen : ¬ st.Done n) :
    Unheld codeDeps st n := ⟨fun hmem => hopen (.inl hmem), fun hmem => hopen (.inr hmem), h n hn hopen⟩

variable {item : TrainItemResult}

lemma done_markHeld : (st.markHeld item).Done n ↔ st.Done n ∨ n = item.issue := by
  unfold TrainState.Done
  change n ∈ st.finished ∨ n ∈ addTo st.held item.issue ↔ _
  rw [mem_addTo, or_assoc]

lemma done_markFinished : (st.markFinished item).Done n ↔ st.Done n ∨ n = item.issue := by
  unfold TrainState.Done
  change n ∈ addTo st.finished item.issue ∨ n ∈ st.held ↔ _
  rw [mem_addTo]
  tauto

lemma nodup_pushItem (h : Listed ordered mergeMode st)
    (hopen : ¬ st.Done item.issue) : ((st.items ++ [item]).map (·.issue)).Nodup := by
  rw [map_append]
  refine nodup_append.2 ⟨h.once, by simp, fun n hn m hm heq => hopen ?_⟩
  have hissue : m = item.issue := by simpa using hm
  rw [← hissue, ← heq]
  exact (h.items n).1 hn

lemma Listed.markHeld (h : Listed ordered mergeMode st)
    (hopen : ¬ st.Done item.issue) (hmem : item.issue ∈ ordered) : Listed ordered mergeMode (st.markHeld item) where
  once := nodup_pushItem h hopen
  items n := by
    rw [done_markHeld, ← h.items n]
    change n ∈ (st.items ++ [item]).map (·.issue) ↔ _
    simp
  listed n hn := by
    rcases done_markHeld.1 hn with hn | rfl
    · exact h.listed n hn
    · exact hmem
  integrated := h.integrated
  unmerged := h.unmerged

lemma Listed.markFinished (h : Listed ordered mergeMode st)
    (hopen : ¬ st.Done item.issue) (hmem : item.issue ∈ ordered) (hmode : item.integrated = mergeMode) :
    Listed ordered mergeMode (st.markFinished item) where
  once := nodup_pushItem h hopen
  items n := by
    rw [done_markFinished, ← h.items n]
    change n ∈ (st.items ++ [item]).map (·.issue) ↔ _
    simp
  listed n hn := by
    rcases done_markFinished.1 hn with hn | rfl
    · exact h.listed n hn
    · exact hmem
  integrated n hn := by
    change n ∈ addTo st.finished item.issue
    change n ∈ (if item.integrated then addTo st.integrated item.issue else st.integrated) at hn
    rw [mem_addTo]
    split at hn
    · exact (mem_addTo.1 hn).imp_left (h.integrated n)
    · exact .inl (h.integrated n hn)
  unmerged hfalse := by
    change (if item.integrated then addTo st.integrated item.issue else st.integrated) = []
    rw [if_neg (by simp [hmode, hfalse])]
    exact h.unmerged hfalse

lemma Closed.markFinished (h : Closed ordered codeDeps st) (item : TrainItemResult) :
    Closed ordered codeDeps (st.markFinished item) :=
  fun n hn hopen => h n hn fun hdone => hopen (done_markFinished.2 (.inl hdone))

lemma skipDependent_returns (hn : n ∈ ordered) (hlisted : Listed ordered opts.merge st')
    (hmore : HoldsMore codeDeps st st') :
    Returns (At ordered codeDeps opts.merge advancing merging st') (skipDependent deps codeDeps n)
      (fun _ w => ∃ st'', (Listed ordered opts.merge st'' ∧ HoldsMore codeDeps st st'' ∧ st'.Grows st'' ∧
        (st''.Done n ∨ ∀ h ∈ st.held, ¬ Path codeDeps n h)) ∧
        At ordered codeDeps opts.merge advancing merging st'' w) := by
  unfold skipDependent
  refine getState_bind ?_
  split
  · next hdone =>
    refine .ret fun w hw => ⟨st', ⟨hlisted, hmore, .refl _, .inl ?_⟩, hw⟩
    rcases hdone with hdone | hdone | hdone
    · exact .inl hdone
    · exact .inr hdone
    · exact (hlisted.items n).1 hdone
  · next hopen =>
    rw [not_or, not_or] at hopen
    split
    · next hindependent =>
      refine .ret fun w hw => ⟨st', ⟨hlisted, hmore, .refl _, .inr fun h hh => ?_⟩, hw⟩
      exact isIndependentOfHeld_iff.1 hindependent h (hmore.held hh)
    · next hdependent =>
      obtain ⟨h, hh, hpath⟩ : ∃ h ∈ st'.held, Path codeDeps n h := by
        by_contra hnone
        push Not at hnone
        exact hdependent (isIndependentOfHeld_iff.2 hnone)
      -- it depends on an issue that was held when the loop began
      obtain ⟨h₀, hh₀, hpath₀⟩ : ∃ h₀ ∈ st.held, Path codeDeps n h₀ := by
        rcases hmore.depends h hh with hh | ⟨h₀, hh₀, hrest⟩
        · exact ⟨h, hh, hpath⟩
        · exact ⟨h₀, hh₀, hpath.trans hrest⟩
      refine .bind (setState_grows ⟨fun _ hm => hm, fun _ hm => mem_addTo.2 (.inl hm)⟩) fun _ => ?_
      refine .bind (quiet_getPrForIssue n _ _ _) fun pr => ?_
      have hnot : ¬ st'.Done n := fun hdone => hdone.elim hopen.1 hopen.2.1
      generalize hitem : skippedItem n pr (st'.held.filter fun h => !isIndependentOfHeld n [h] codeDeps) = item
      have hissue : item.issue = n := by rw [← hitem]; rfl
      have hpush : TrainState.Grows { st' with held := addTo st'.held n } (st'.markHeld item) :=
        ⟨fun _ hm => hm, fun m hm => by rw [← hissue] at hm; exact hm⟩
      have hstate : ({ st' with held := addTo st'.held n } : TrainState).pushItem item = st'.markHeld item := by
        rw [← hissue]
        rfl
      rw [hstate]
      refine (setState_grows hpush).mono (fun _ hw => hw) fun _ w hw => ?_
      refine ⟨st'.markHeld item, ⟨hlisted.markHeld (by rwa [hissue]) (by rwa [hissue]),
        ⟨hmore.finished, hmore.integrated, hmore.byNumber, fun m hm => (grows_markHeld st' item).held (hmore.held hm),
          fun m hm => ?_⟩, grows_markHeld st' item, .inl (done_markHeld.2 (.inr hissue.symm))⟩, hw⟩
      rcases mem_addTo.1 hm with hm | rfl
      · exact hmore.depends m hm
      · rw [hissue]
        exact .inr ⟨h₀, hh₀, hpath₀⟩

lemma skipDependentsOfHeld_returns (hlisted : Listed ordered opts.merge st) :
    Returns (At ordered codeDeps opts.merge advancing merging st) (skipDependentsOfHeld deps ordered codeDeps)
      (fun _ w => ∃ st', (Listed ordered opts.merge st' ∧ HoldsMore codeDeps st st' ∧ Closed ordered codeDeps st') ∧
        At ordered codeDeps opts.merge advancing merging st' w) := by
  unfold skipDependentsOfHeld
  have hloop := @Returns.each Unit Nat (fun () n => skipDependent deps codeDeps n)
    (fun before _ w => ∃ st', (Listed ordered opts.merge st' ∧ HoldsMore codeDeps st st' ∧
      ∀ n ∈ before, st'.Done n ∨ ∀ h ∈ st.held, ¬ Path codeDeps n h) ∧
      At ordered codeDeps opts.merge advancing merging st' w) ordered ?_ ()
  · refine hloop.mono (fun w hw => ⟨st, ⟨hlisted, ⟨rfl, rfl, rfl, fun _ hn => hn, fun _ hn => .inl hn⟩,
      fun n hn => absurd hn not_mem_nil⟩, hw⟩) ?_
    rintro _ w ⟨st', ⟨hlisted', hmore, hall⟩, hw⟩
    refine ⟨st', ⟨hlisted', hmore, fun n hn hopen h hh hpath => ?_⟩, hw⟩
    have hfree := (hall n hn).resolve_left hopen
    rcases hmore.depends h hh with hh | ⟨h₀, hh₀, hrest⟩
    · exact hfree h hh hpath
    · exact hfree h₀ hh₀ (hpath.trans hrest)
  · intro before n after _ hsplit
    refine .of_exists fun st₁ ⟨hlisted₁, hmore₁, hall₁⟩ => ?_
    have hn : n ∈ ordered := by rw [hsplit]; simp
    refine (skipDependent_returns hn hlisted₁ hmore₁).mono (fun _ hw => hw) ?_
    rintro _ w ⟨st₂, ⟨hlisted₂, hmore₂, hgrows, hdone⟩, hw⟩
    refine ⟨st₂, ⟨hlisted₂, hmore₂, fun m hm => ?_⟩, hw⟩
    rcases mem_append.1 hm with hm | hm
    · exact (hall₁ m hm).imp_left hgrows.done
    · rw [mem_singleton.1 hm]
      exact hdone

lemma holdContainedItem_returns (hlisted : Listed ordered opts.merge st) {item : TrainItemResult}
    (hopen : ¬ st.Done item.issue) (hmem : item.issue ∈ ordered) :
    Returns (At ordered codeDeps opts.merge advancing merging st) (holdContainedItem deps ordered codeDeps item)
      (fun _ w => ∃ st', (Listed ordered opts.merge st' ∧ HoldsMore codeDeps (st.markHeld item) st' ∧
        Closed ordered codeDeps st') ∧ At ordered codeDeps opts.merge advancing merging st' w) := by
  unfold holdContainedItem
  refine getState_bind (.bind (setState_grows (grows_markHeld st item)) fun _ => ?_)
  exact skipDependentsOfHeld_returns (hlisted.markHeld hopen hmem)

/-! ## Stopping -/

/-- The stops that a run can come to. -/
def TrainBlocker.isExpected : TrainBlocker → Bool
  | .mergeStopped _ | .independenceUnproven _ _ | .notFinished _ => false
  | _ => true

/-- What a run leaves, however it ends. -/
structure Ended (ordered : List Nat) (codeDeps : List (Nat × List Nat)) (mergeMode : Bool) (w : World) : Prop where
  traced : ∃ advancing merging, Traced ordered codeDeps mergeMode advancing merging w
  listed : Listed ordered mergeMode w.st

/-- A run that is blocked: some issue is not finished, or held. -/
structure Stopped (ordered : List Nat) (codeDeps : List (Nat × List Nat)) (mergeMode : Bool) (result : TrainResult)
    (w : World) : Prop extends Ended ordered codeDeps mergeMode w where
  exitCode : result.exitCode = 1
  incomplete : result.status.complete = false
  items : result.status.items = w.st.items
  blocker : ∃ b, result.status.blocker = some b ∧ b.isExpected = true
  pending : (∃ n ∈ ordered, n ∉ w.st.finished) ∨ w.st.held ≠ []

lemma Listed.of_eq (h : Listed ordered mergeMode st) (hitems : st'.items = st.items)
    (hfinished : st'.finished = st.finished) (hheld : st'.held = st.held)
    (hintegrated : st'.integrated = st.integrated) : Listed ordered mergeMode st' := by
  have hdone : ∀ n, st'.Done n ↔ st.Done n := fun n => by
    unfold TrainState.Done
    rw [hfinished, hheld]
  exact ⟨by rw [hitems]; exact h.once, fun n => by rw [hitems, hdone]; exact h.items n,
    fun n hn => h.listed n ((hdone n).1 hn), fun n hn => by rw [hfinished]; rw [hintegrated] at hn; exact h.integrated n hn,
    fun hfalse => by rw [hintegrated]; exact h.unmerged hfalse⟩

lemma stopWith_returns (hlisted : Listed ordered opts.merge st) {b : TrainBlocker} (hb : b.isExpected = true)
    (hpending : (∃ n ∈ ordered, n ∉ st.finished) ∨ st.held ≠ []) :
    Returns (At ordered codeDeps opts.merge advancing merging st) (stopWith opts ordered b)
      (fun result w => Stopped ordered codeDeps opts.merge result w) := by
  unfold stopWith
  refine getState_bind (.bind (setState_grows ⟨fun _ hn => hn, fun _ hn => hn⟩) fun _ => .ret fun w hw => ?_)
  obtain ⟨htraced, hst⟩ := hw
  refine ⟨⟨⟨advancing, merging, htraced⟩, ?_⟩, rfl, rfl, by rw [hst]; rfl, ⟨b, rfl, hb⟩, by rw [hst]; exact hpending⟩
  rw [hst]
  exact hlisted.of_eq rfl rfl rfl rfl

lemma stop_returns {R : World → Prop} (hlisted : Listed ordered opts.merge st) {b : TrainBlocker}
    (hb : b.isExpected = true) (hpending : (∃ n ∈ ordered, n ∉ st.finished) ∨ st.held ≠ []) :
    Returns (At ordered codeDeps opts.merge advancing merging st)
      (do let result ← stopWith opts ordered b
          pure (some result))
      (fun r w => match r with
        | none => R w
        | some result => Stopped ordered codeDeps opts.merge result w) :=
  .bind (stopWith_returns hlisted hb hpending) fun _ => .ret fun _ hw => hw

/-! ## Merging -/

/-- The variables are in order, and nothing open depends on a held issue. -/
structure Sound (ordered : List Nat) (codeDeps : List (Nat × List Nat)) (mergeMode : Bool) (st : TrainState) : Prop where
  listed : Listed ordered mergeMode st
  closed : Closed ordered codeDeps st

/-- More is finished or held, and the snapshots stay. -/
structure Proceeds (st st' : TrainState) : Prop extends st.Grows st' where
  kept : ∀ n s, st.byNumber n = some s → st'.byNumber n = some s

lemma Proceeds.refl (st : TrainState) : Proceeds st st := ⟨.refl st, fun _ _ h => h⟩

lemma Proceeds.trans {st₁ st₂ st₃ : TrainState} (h : Proceeds st₁ st₂) (h' : Proceeds st₂ st₃) : Proceeds st₁ st₃ :=
  ⟨h.toGrows.trans h'.toGrows, fun n s hs => h'.kept n s (h.kept n s hs)⟩

/-- An issue that the run is done with, or that is not ready to be merged. -/
def Sorted (st : TrainState) (n : Nat) : Prop :=
  st.Done n ∨ ∃ s, st.byNumber n = some s ∧ pipelineStageFromLabels s.labels ≠ some .readyToDeploy

lemma Proceeds.sorted (h : Proceeds st st') (hn : Sorted st n) : Sorted st' n :=
  hn.imp h.toGrows.done fun ⟨s, hs, hstage⟩ => ⟨s, h.kept n s hs, hstage⟩

lemma Sound.of_eq (h : Sound ordered codeDeps mergeMode st) (hitems : st'.items = st.items)
    (hfinished : st'.finished = st.finished) (hheld : st'.held = st.held)
    (hintegrated : st'.integrated = st.integrated) : Sound ordered codeDeps mergeMode st' := by
  refine ⟨h.listed.of_eq hitems hfinished hheld hintegrated, fun n hn hopen x hx => ?_⟩
  rw [hheld] at hx
  refine h.closed n hn (fun hdone => hopen ?_) x hx
  unfold TrainState.Done at *
  rwa [hfinished, hheld]

lemma HoldsMore.proceeds (h : HoldsMore codeDeps (st.markHeld item) st') : Proceeds st st' ∧ st'.Done item.issue :=
  ⟨⟨(grows_markHeld st item).trans h.grows, fun n s hs => by rw [h.byNumber]; exact hs⟩,
    h.grows.done (done_markHeld.2 (.inr rfl))⟩

lemma proceeds_markFinished (st : TrainState) (item : TrainItemResult) : Proceeds st (st.markFinished item) :=
  ⟨grows_markFinished st item, fun _ _ hs => hs⟩

lemma applyMergeReady_returns (hmerge : opts.merge = true) (hsound : Sound ordered codeDeps opts.merge st)
    (hmem : issue ∈ ordered) (hopen : ¬ st.Done issue) {merged : MergeReadyToDeployResult}
    (hstop : merged.isStop = false) :
    Returns (At ordered codeDeps opts.merge advancing [issue] st)
      (applyMergeReady deps opts ordered codeDeps issue merged)
      (fun r w => r = none ∧ ∃ st', (Sound ordered codeDeps opts.merge st' ∧ Proceeds st st' ∧ st'.Done issue) ∧
        At ordered codeDeps opts.merge advancing [] st' w) := by
  have hdone : ∀ {st'' : TrainState} {w : World}, st''.Done issue →
      At ordered codeDeps opts.merge advancing [issue] st'' w → At ordered codeDeps opts.merge advancing [] st'' w :=
    fun hdone hw => hw.weaken (fun _ hn => .inr hn) fun n hn => .inl (by rw [mem_singleton.1 hn]; exact hdone)
  unfold applyMergeReady
  cases merged with
  | stop blocker pr oid attempted => cases hstop
  | hold blocker pr oid attempted =>
    refine .bind (holdContainedItem_returns hsound.listed hopen hmem) fun _ => .ret ?_
    rintro w ⟨st', ⟨hlisted, hmore, hclosed⟩, hw⟩
    obtain ⟨hproceeds, hissue⟩ := hmore.proceeds
    exact ⟨rfl, st', ⟨⟨hlisted, hclosed⟩, hproceeds, hissue⟩, hdone hissue hw⟩
  | integrated pr oid already attempted proof =>
    refine getState_bind ?_
    generalize hitem : (TrainItemResult.mk issue (some pr)
      (if already then .alreadyIntegrated else .readyToDeploy) oid true none) = item
    have hissue : item.issue = issue := by rw [← hitem]
    have hintegrated : item.integrated = opts.merge := by rw [← hitem, hmerge]
    have hgrows : st.Grows { st.markFinished item with nextAction := .nextItem } :=
      ⟨(grows_markFinished st item).finished, (grows_markFinished st item).held⟩
    refine .bind (setState_grows hgrows) fun _ => .ret fun w hw => ⟨rfl, _, ⟨?_, ?_, ?_⟩, hdone ?_ hw⟩
    · have hnext : Sound ordered codeDeps opts.merge (st.markFinished item) :=
        ⟨hsound.listed.markFinished (by rwa [hissue]) (by rwa [hissue]) hintegrated, hsound.closed.markFinished item⟩
      exact hnext.of_eq rfl rfl rfl rfl
    · exact ⟨hgrows, fun _ _ hs => hs⟩
    · exact .inl (mem_addTo.2 (.inr hissue.symm))
    · exact .inl (mem_addTo.2 (.inr hissue.symm))

lemma snapshotFor_returns (hsound : Sound ordered codeDeps opts.merge st) :
    Returns (At ordered codeDeps opts.merge advancing merging st) (snapshotFor deps issue)
      (fun s w => ∃ st', (Sound ordered codeDeps opts.merge st' ∧ Proceeds st st' ∧ st'.finished = st.finished ∧
        st'.held = st.held ∧ st'.byNumber issue = some s) ∧
        At ordered codeDeps opts.merge advancing merging st' w) := by
  unfold snapshotFor
  refine getState_bind ?_
  cases hsnap : st.byNumber issue with
  | some s => exact .ret fun w hw => ⟨st, ⟨hsound, .refl st, rfl, rfl, hsnap⟩, hw⟩
  | none =>
    refine .bind ((Quiet.ask fun _ => rfl) _ _ st) fun s => ?_
    have hgrows : st.Grows (st.setSnapshot issue s) := ⟨fun _ hn => hn, fun _ hn => hn⟩
    refine .bind (setState_grows hgrows) fun _ => .ret fun w hw => ?_
    refine ⟨st.setSnapshot issue s, ⟨hsound.of_eq rfl rfl rfl rfl, ⟨hgrows, fun n s' hs' => ?_⟩, rfl, rfl,
      Function.update_self ..⟩, hw⟩
    have hne : n ≠ issue := fun heq => by rw [heq, hsnap] at hs'; cases hs'
    exact (Function.update_of_ne hne _ _).trans hs'

lemma moveTo_returns {nextAction : TrainNextAction} :
    Returns (At ordered codeDeps opts.merge advancing merging st) (moveTo ordered issue nextAction)
      (fun _ => At ordered codeDeps opts.merge advancing merging (st.moved ordered issue nextAction)) := by
  unfold moveTo
  exact getState_bind (setState_grows ⟨fun _ hn => hn, fun _ hn => hn⟩)

lemma sound_moved (h : Sound ordered codeDeps mergeMode st) (n : Nat)
    (nextAction : TrainNextAction) : Sound ordered codeDeps mergeMode (st.moved ordered n nextAction) :=
  h.of_eq rfl rfl rfl rfl

lemma mergeReadyCandidate_returns (hmerge : opts.merge = true) (hsound : Sound ordered codeDeps opts.merge st)
    (hmem : issue ∈ ordered) :
    Returns (At ordered codeDeps opts.merge advancing [] st) (mergeReadyCandidate deps opts ordered codeDeps issue)
      (fun r w => r = none ∧ ∃ st', (Sound ordered codeDeps opts.merge st' ∧ Proceeds st st' ∧ Sorted st' issue) ∧
        At ordered codeDeps opts.merge advancing [] st' w) := by
  unfold mergeReadyCandidate
  refine getState_bind ?_
  split
  · next hdone =>
    refine .ret fun w hw => ⟨rfl, st, ⟨hsound, .refl st, .inl ?_⟩, hw⟩
    rcases hdone with hdone | hdone | hdone
    · exact .inl hdone
    · exact .inr hdone
    · exact .inl (hsound.listed.integrated issue hdone)
  · next hnot =>
    rw [not_or, not_or] at hnot
    refine .bind (snapshotFor_returns hsound) fun s => .of_exists ?_
    rintro st₁ ⟨hsound₁, hproceeds₁, hfinished, hheld, hsnap⟩
    have hopen : ¬ st₁.Done issue := by
      unfold TrainState.Done
      rw [hfinished, hheld]
      exact fun hdone => hdone.elim hnot.1 hnot.2.1
    split
    · next hstage => exact .ret fun w hw => ⟨rfl, st₁, ⟨hsound₁, hproceeds₁, .inr ⟨s, hsnap, hstage⟩⟩, hw⟩
    · have hunheld := hsound₁.closed.unheld hmem hopen
      split
      · next hdepends =>
        -- nothing open depends on a held issue
        rw [← hheld] at hdepends
        rw [isIndependentOfHeld_iff.2 hunheld.independent] at hdepends
        cases hdepends.2
      · refine .bind moveTo_returns fun _ => ?_
        have hsound₂ := sound_moved hsound₁ issue .merge
        refine .bind (mergeReadyToDeployItem_returns (hsound₂.closed.unheld hmem hopen) _) fun merged => ?_
        refine .of_and fun hstop => ?_
        refine (applyMergeReady_returns hmerge hsound₂ hmem hopen hstop).mono (fun _ hw => hw) ?_
        rintro r w ⟨hr, st₃, ⟨hsound₃, hproceeds₃, hdone⟩, hw⟩
        have hproceeds₂ : Proceeds st₁ st₃ := ⟨⟨hproceeds₃.finished, hproceeds₃.held⟩, hproceeds₃.kept⟩
        exact ⟨hr, st₃, ⟨hsound₃, hproceeds₁.trans hproceeds₂, .inl hdone⟩, hw⟩

lemma mergeReadyCandidates_returns (hmerge : opts.merge = true) (hsound : Sound ordered codeDeps opts.merge st)
    {candidates : List Nat} (hmem : ∀ n ∈ candidates, n ∈ ordered) :
    Returns (At ordered codeDeps opts.merge advancing [] st)
      (mergeReadyCandidates deps opts ordered codeDeps candidates)
      (fun r w => r = none ∧ ∃ st', (Sound ordered codeDeps opts.merge st' ∧ Proceeds st st' ∧
        ∀ n ∈ candidates, Sorted st' n) ∧ At ordered codeDeps opts.merge advancing [] st' w) := by
  unfold mergeReadyCandidates
  have hloop := @Returns.untilStop (mergeReadyCandidate deps opts ordered codeDeps)
    (fun before w => ∃ st', (Sound ordered codeDeps opts.merge st' ∧ Proceeds st st' ∧ ∀ n ∈ before, Sorted st' n) ∧
      At ordered codeDeps opts.merge advancing [] st' w) (fun _ _ => False) candidates ?_
  · refine hloop.mono (fun w hw => ⟨st, ⟨hsound, .refl st, fun n hn => absurd hn not_mem_nil⟩, hw⟩) ?_
    intro r w hw
    cases r with
    | none => exact ⟨rfl, hw⟩
    | some result => exact hw.elim
  · intro before n after hsplit
    refine .of_exists fun st₁ ⟨hsound₁, hproceeds₁, hall₁⟩ => ?_
    refine (mergeReadyCandidate_returns hmerge hsound₁ (hmem n (by rw [hsplit]; simp))).mono (fun _ hw => hw) ?_
    rintro r w ⟨rfl, st₂, ⟨hsound₂, hproceeds₂, hsorted⟩, hw⟩
    refine ⟨st₂, ⟨hsound₂, hproceeds₁.trans hproceeds₂, fun m hm => ?_⟩, hw⟩
    rcases mem_append.1 hm with hm | hm
    · exact hproceeds₂.sorted (hall₁ m hm)
    · rw [mem_singleton.1 hm]
      exact hsorted

end AgentPipeline.Train
