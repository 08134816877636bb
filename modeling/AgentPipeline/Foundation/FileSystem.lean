import Mathlib.Logic.Function.Basic
import Mathlib.Tactic.Common

/-!
# FileSystem: atomic file-system steps over named inodes

Names point at inodes and contents live in the inode. This is what makes lock files subtle: a
rename or an unlink changes the name only, while a descriptor that was opened before keeps
writing to the inode. Each operation below is one atomic step of a POSIX file system; an
operation that can fail with `EEXIST` or `ENOENT` returns an `Option`.

The allocation counter is part of the state, with the proof that no name points past it, so a
freshly created file is never the file another name already points at.
-/

universe u v

namespace FileSystem

variable {π : Type u} {β : Type v}

/-- A directory: names, inode contents and the next inode to allocate. -/
structure Fs (π : Type u) (β : Type v) where
  names : π → Option Nat
  data : Nat → β
  next : Nat
  bounded : ∀ p i, names p = some i → i < next

namespace Fs

/-- The directory without any name. -/
def empty (b : β) : Fs π β where
  names := fun _ => none
  data := fun _ => b
  next := 0
  bounded := by
    intro p i h
    cases h

/-- The content a reader of `p` sees; `none` is `ENOENT`. -/
def read (fs : Fs π β) (p : π) : Option β :=
  (fs.names p).map fs.data

/-- Write through a descriptor of inode `i`. -/
def write (fs : Fs π β) (i : Nat) (b : β) : Fs π β :=
  { fs with data := Function.update fs.data i b }

variable [DecidableEq π]

/-- Point `p` at a freshly allocated inode that holds `b`. This is what a temporary file renamed
over `p` amounts to. -/
def replace (fs : Fs π β) (p : π) (b : β) : Fs π β where
  names := Function.update fs.names p (some fs.next)
  data := Function.update fs.data fs.next b
  next := fs.next + 1
  bounded := by
    intro q i h
    by_cases hq : q = p
    · subst hq
      have hi : fs.next = i := by simpa using h
      omega
    · have hi : fs.names q = some i := by simpa [Function.update_of_ne hq] using h
      exact Nat.lt_succ_of_lt (fs.bounded q i hi)

/-- Exclusive create (`O_CREAT | O_EXCL`): `none` is `EEXIST`. -/
def createExclusive (fs : Fs π β) (p : π) (b : β) : Option (Fs π β) :=
  match fs.names p with
  | some _ => none
  | none => some (fs.replace p b)

/-- Remove the name `p`; a missing name is a no-op. -/
def unlink (fs : Fs π β) (p : π) : Fs π β :=
  { fs with
    names := Function.update fs.names p none
    bounded := by
      intro q i h
      by_cases hq : q = p
      · subst hq
        simp at h
      · exact fs.bounded q i (by simpa [Function.update_of_ne hq] using h) }

/-- Hard link `q` to the file at `p`: `none` is `EEXIST` on `q` or `ENOENT` on `p`. -/
def link (fs : Fs π β) (p q : π) : Option (Fs π β) :=
  match hp : fs.names p, fs.names q with
  | some i, none =>
    some
      { fs with
        names := Function.update fs.names q (some i)
        bounded := by
          intro r j h
          by_cases hr : r = q
          · subst hr
            have hj : i = j := by simpa using h
            exact hj ▸ fs.bounded p i hp
          · exact fs.bounded r j (by simpa [Function.update_of_ne hr] using h) }
  | _, _ => none

/-- Rename `p` to the name `q`, over whatever `q` named; `none` is `ENOENT` on `p`. -/
def rename (fs : Fs π β) (p q : π) : Option (Fs π β) :=
  match hp : fs.names p with
  | none => none
  | some i =>
    some
      { fs with
        names := Function.update (Function.update fs.names p none) q (some i)
        bounded := by
          intro r j h
          by_cases hr : r = q
          · subst hr
            have hj : i = j := by simpa using h
            exact hj ▸ fs.bounded p i hp
          · by_cases hrp : r = p
            · subst hrp
              simp [Function.update_of_ne hr] at h
            · refine fs.bounded r j ?_
              simpa [Function.update_of_ne hr, Function.update_of_ne hrp] using h }

/-! ## What each step does to names and contents -/

variable (fs : Fs π β)

omit [DecidableEq π] in
lemma read_eq_some_iff {p : π} {b : β} : fs.read p = some b ↔ ∃ i, fs.names p = some i ∧ fs.data i = b := by
  simp [read]

omit [DecidableEq π] in
@[simp] lemma write_names (i : Nat) (b : β) : (fs.write i b).names = fs.names := rfl

omit [DecidableEq π] in
@[simp] lemma write_data (i : Nat) (b : β) : (fs.write i b).data = Function.update fs.data i b := rfl

@[simp] lemma replace_names (p : π) (b : β) : (fs.replace p b).names = Function.update fs.names p (some fs.next) := rfl

@[simp] lemma replace_data (p : π) (b : β) : (fs.replace p b).data = Function.update fs.data fs.next b := rfl

@[simp] lemma unlink_names (p : π) : (fs.unlink p).names = Function.update fs.names p none := rfl

@[simp] lemma unlink_data (p : π) : (fs.unlink p).data = fs.data := rfl

lemma createExclusive_eq_some {fs fs' : Fs π β} {p : π} {b : β}
    (h : fs.createExclusive p b = some fs') : fs.names p = none ∧ fs' = fs.replace p b := by
  unfold createExclusive at h
  cases hp : fs.names p with
  | some i =>
    simp [hp] at h
  | none =>
    have heq : fs.replace p b = fs' := by simpa [hp] using h
    exact ⟨rfl, heq.symm⟩

lemma rename_eq_some {fs fs' : Fs π β} {p q : π} (h : fs.rename p q = some fs') : ∃ i, fs.names p = some i ∧
      fs'.names = Function.update (Function.update fs.names p none) q (some i) ∧
      fs'.data = fs.data ∧ fs'.next = fs.next := by
  unfold rename at h
  split at h
  · cases h
  · next i hp =>
    cases h
    exact ⟨i, hp, rfl, rfl, rfl⟩

lemma link_getD_names {p q r : π} (h : r ≠ q ∨ fs.names q ≠ none) : ((fs.link p q).getD fs).names r = fs.names r := by
  unfold link
  split
  · next i _ _ hq =>
    -- a link is made only where there was no name
    have hr : r ≠ q := by
      rcases h with hr | hne
      · exact hr
      · exact absurd hq hne
    simp [Function.update_of_ne hr]
  · rfl

@[simp] lemma link_getD_data (p q : π) : ((fs.link p q).getD fs).data = fs.data := by
  unfold link
  split <;> rfl

end Fs

end FileSystem
