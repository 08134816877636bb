import Mathlib.Tactic.Common

/-!
# Effect: computations with a state and an exception, and what they leave

An asynchronous function that awaits one call at a time is a function of the state of the world: it
returns or throws, and the world has moved on in both cases.

* `Effect`, `attempt`: sequencing, and a `try` that catches some exceptions;
* `bind_ok`: what follows a computation that returned;
* `Meets`: from every state of a kind, what holds after a return and what after a throw;
* `Meets.bind`, `Meets.attempt`, `Meets.each`: the rules of sequencing, catching and looping.
-/

universe u v w x

/-- The world before, and the result and the world after. -/
def Effect (σ : Type u) (ε : Type v) (α : Type w) : Type (max u v w) := σ → Except ε α × σ

namespace Effect

variable {σ : Type u} {ε : Type v}

section Operations

variable {α β : Type w}

def ret (a : α) : Effect σ ε α := fun s => (.ok a, s)

def andThen (m : Effect σ ε α) (k : α → Effect σ ε β) : Effect σ ε β := fun s =>
  match m s with
  | (.ok a, s) => k a s
  | (.error e, s) => (.error e, s)

instance : Monad (Effect.{u, v, w} σ ε) where
  pure := ret
  bind := andThen

def fail (e : ε) : Effect σ ε α := fun s => (.error e, s)

/-- One call: its answer and the world after it. -/
def call (f : σ → Except ε α × σ) : Effect σ ε α := f

end Operations

/-- `try { m } catch`, for the exceptions that `caught` recognizes. -/
def attempt {κ : Type v} {α : Type v} (caught : ε → Option κ) (m : Effect σ ε α) :
    Effect σ ε (Except κ α) := fun s =>
  match m s with
  | (.ok a, s) => (.ok (.ok a), s)
  | (.error e, s) =>
    match caught e with
    | some k => (.ok (.error k), s)
    | none => (.error e, s)

/-- A loop over a list that carries an accumulator. -/
def each {α : Type x} {β : Type w} (f : β → α → Effect σ ε β) : List α → β → Effect σ ε β
  | [], b => ret b
  | a :: as, b => andThen (f b a) (each f as)

/-! ## What a computation leaves -/

variable {α β : Type w} {m : Effect σ ε α}

lemma bind_ok {k : α → Effect σ ε β} {s s' : σ} {a : α} (h : m s = (.ok a, s')) : (m >>= k) s = k a s' := by
  have hrun : (m >>= k) s = match m s with
    | (.ok a, s) => k a s
    | (.error e, s) => (.error e, s) := rfl
  rw [hrun, h]

/-- Started in a state of `pre`, it returns with `post` or throws with `thrown`. -/
def Meets (pre : σ → Prop) (m : Effect σ ε α) (post : α → σ → Prop) (thrown : ε → σ → Prop) : Prop :=
  ∀ s, pre s → ∀ s', (∀ a, m s = (.ok a, s') → post a s') ∧ (∀ e, m s = (.error e, s') → thrown e s')

namespace Meets

variable {pre pre' : σ → Prop} {post post' : α → σ → Prop} {thrown thrown' : ε → σ → Prop}

lemma mono (h : Meets pre m post thrown) (hpre : ∀ s, pre' s → pre s)
    (hpost : ∀ a s, post a s → post' a s) (hthrown : ∀ e s, thrown e s → thrown' e s) :
    Meets pre' m post' thrown' := fun s hs s' =>
  ⟨fun a ha => hpost a s' ((h s (hpre s hs) s').1 a ha), fun e he => hthrown e s' ((h s (hpre s hs) s').2 e he)⟩

lemma and (h : Meets pre m post thrown) (h' : Meets pre' m post' thrown') :
    Meets (fun s => pre s ∧ pre' s) m (fun a s => post a s ∧ post' a s)
      (fun e s => thrown e s ∧ thrown' e s) := fun s hs s' =>
  ⟨fun a ha => ⟨(h s hs.1 s').1 a ha, (h' s hs.2 s').1 a ha⟩,
    fun e he => ⟨(h s hs.1 s').2 e he, (h' s hs.2 s').2 e he⟩⟩

lemma ret {a : α} (h : ∀ s, pre s → post a s) : Meets pre (pure a : Effect σ ε α) post thrown := by
  intro s hs s'
  refine ⟨fun a' ha => ?_, fun e he => (by cases he)⟩
  cases ha
  exact h s hs

lemma bind {k : α → Effect σ ε β} {q : α → σ → Prop} {post : β → σ → Prop}
    (hm : Meets pre m q thrown) (hk : ∀ a, Meets (q a) (k a) post thrown) : Meets pre (m >>= k) post thrown := by
  intro s hs s'
  have hrun : (m >>= k) s = match m s with
    | (.ok a, s) => k a s
    | (.error e, s) => (.error e, s) := rfl
  cases hms : m s with
  | mk result s₁ =>
    rw [hms] at hrun
    cases result with
    | ok a =>
      have hmid := (hm s hs s₁).1 a hms
      rw [hrun]
      exact hk a s₁ hmid s'
    | error e =>
      rw [hrun]
      refine ⟨fun a ha => (by cases ha), fun e' he => ?_⟩
      cases he
      exact (hm s hs _).2 e hms

lemma fail {e : ε} (h : ∀ s, pre s → thrown e s) : Meets pre (fail e : Effect σ ε α) post thrown := by
  intro s hs s'
  refine ⟨fun a ha => (by cases ha), fun e' he => ?_⟩
  cases he
  exact h s hs

lemma attempt {κ γ : Type v} {caught : ε → Option κ} {m : Effect σ ε γ} {post : Except κ γ → σ → Prop}
    (h : Meets pre m (fun a s => post (.ok a) s) fun e s =>
      match caught e with
      | some k => post (.error k) s
      | none => thrown e s) :
    Meets pre (Effect.attempt caught m) post thrown := by
  intro s hs s'
  cases hms : m s with
  | mk result s₁ =>
    have hrun := h s hs s₁
    cases result with
    | ok a =>
      have hattempt : Effect.attempt caught m s = (.ok (.ok a), s₁) := by simp [Effect.attempt, hms]
      rw [hattempt]
      refine ⟨fun a' ha => ?_, fun e he => (by cases he)⟩
      cases ha
      exact hrun.1 a hms
    | error e =>
      have hthrown : match caught e with
          | some k => post (.error k) s₁
          | none => thrown e s₁ := hrun.2 e hms
      cases hcaught : caught e with
      | some k =>
        have hattempt : Effect.attempt caught m s = (.ok (.error k), s₁) := by
          simp [Effect.attempt, hms, hcaught]
        rw [hcaught] at hthrown
        rw [hattempt]
        refine ⟨fun a' ha => ?_, fun e he => (by cases he)⟩
        cases ha
        exact hthrown
      | none =>
        have hattempt : Effect.attempt caught m s = (.error e, s₁) := by simp [Effect.attempt, hms, hcaught]
        rw [hcaught] at hthrown
        rw [hattempt]
        refine ⟨fun a' ha => (by cases ha), fun e' he => ?_⟩
        cases he
        exact hthrown

lemma each {γ : Type x} {f : β → γ → Effect σ ε β} {I : List γ → β → σ → Prop} {all : List γ}
    (h : ∀ before a after b, all = before ++ a :: after →
      Meets (I before b) (f b a) (fun b' s => I (before ++ [a]) b' s) thrown) (b : β) :
    Meets (I [] b) (Effect.each f all b) (fun b' s => I all b' s) thrown := by
  suffices hrest : ∀ (rest before : List γ) (b : β), all = before ++ rest →
      Meets (I before b) (Effect.each f rest b) (fun b' s => I all b' s) thrown from
    hrest all [] b rfl
  intro rest
  induction rest with
  | nil =>
    intro before b hall
    refine ret fun s hs => ?_
    rw [hall, List.append_nil]
    exact hs
  | cons a rest ih =>
    intro before b hall
    refine bind (h before a rest b hall) fun b' => ?_
    exact ih (before ++ [a]) b' (by rw [hall]; simp)

end Meets

end Effect
