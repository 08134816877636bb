import Mathlib.Algebra.GroupWithZero.Nat
import AgentPipeline.Foundation.FileSystem
import AgentPipeline.Foundation.JsText
import AgentPipeline.Foundation.Process

/-!
# PidFile: process identifiers in lock files

What the lock files of one host have in common: the identifier of the process that wrote the
file is parsed back with `Number.parseInt` and probed with signal 0.
-/

universe u

namespace AgentPipeline.Locks

open Process

/-- The processes of one host. A process identifier is a positive 32-bit integer; several
processes may carry the same one over time. -/
structure Host (ι : Type u) where
  pid : ι → Nat
  pid_pos : ∀ p, 0 < pid p
  pid_lt : ∀ p, pid p < 2 ^ 31
  startTime : ι → Option String

/-- Outcome of `process.kill(pid, 0)`. `EPERM` means that the process exists, so it is `alive`
here; an identifier that is not a 32-bit integer makes the call throw. -/
inductive Signal0 where
  | alive
  | noSuchProcess
  | invalidPid
  deriving DecidableEq, Repr

variable {ι : Type u}

def kill0 (host : Host ι) (t : Table ι) (pid : Nat) : Signal0 :=
  if 2 ^ 31 ≤ pid then .invalidPid
  else if t.probe host.pid pid then .alive
  else .noSuchProcess

/-- `Number.parseInt(text, 10)`, rejected by `!Number.isFinite(pid) || pid <= 0`. -/
def parsePid (text : String) : Option Nat :=
  match JsText.parseInt text with
  | none => none
  | some n => if 0 < n ∧ n.toNat < JsText.infinity then some n.toNat else none

lemma kill0_pid_of_running {host : Host ι} {t : Table ι} {p : ι} (h : p ∈ t.running) :
    kill0 host t (host.pid p) = .alive := by
  have hlt := host.pid_lt p
  have hprobe : t.probe host.pid (host.pid p) = true := Table.probe_eq_true_of_running h
  rw [kill0, if_neg (Nat.not_le.2 hlt), if_pos hprobe]

lemma parsePid_pid (host : Host ι) (p : ι) : parsePid (toString (host.pid p)) = some (host.pid p) := by
  have hpos := host.pid_pos p
  have hlt := host.pid_lt p
  have hfinite : host.pid p < JsText.infinity := JsText.lt_infinity (by omega)
  unfold parsePid
  rw [JsText.parseInt_numeral]
  simp [hpos, hfinite]

/-! ## A host to evaluate with -/

instance neZeroFour : NeZero 4 := ⟨by decide⟩

/-- Each of four processes has its number plus 100 as PID. -/
def fourProcesses (startTime : Fin 4 → Option String) : Host (Fin 4) where
  pid := fun p => 100 + p
  pid_pos := fun p => by omega
  pid_lt := fun p => by omega
  startTime := startTime

end AgentPipeline.Locks
