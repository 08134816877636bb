import Mathlib.Algebra.Group.Nat.Defs
import AgentPipeline.Foundation.Lists
import Mathlib.Data.List.TakeWhile
import Mathlib.Tactic.Common

/-!
# JsText: the text operations of the ECMAScript standard library

Strings are sequences of Unicode scalar values here. The functions follow the language
specification on these:

* `isSpace`: `WhiteSpace` together with `LineTerminator`, which both `trim` and `\s` use;
* `trim`, `firstToken`: `text.trim()` and `text.split(/\s+/)[0]`;
* `parseInt`: `Number.parseInt(text, 10)`; `none` is `NaN`.

The lemmas say that a decimal numeral survives being read back.
-/

namespace JsText

open List

/-! ## White space -/

def isSpace (c : Char) : Bool :=
  let n := c.toNat
  (9 ≤ n && n ≤ 13) || n == 0x20 || n == 0xA0 || n == 0x1680 || (0x2000 ≤ n && n ≤ 0x200A) ||
    n == 0x2028 || n == 0x2029 || n == 0x202F || n == 0x205F || n == 0x3000 || n == 0xFEFF

def trimStart (cs : List Char) : List Char :=
  cs.dropWhile isSpace

def trimEnd (cs : List Char) : List Char :=
  (cs.reverse.dropWhile isSpace).reverse

def trim (s : String) : String :=
  String.ofList (trimEnd (trimStart s.toList))

/-- The first piece of `text.split(/\s+/)`: what stands before the first white space. -/
def firstToken (s : String) : String :=
  String.ofList (s.toList.takeWhile fun c => !isSpace c)

/-- `text.trim() !== ""`. -/
def nonBlank (s : String) : Bool :=
  trim s ≠ ""

/-! ## Numerals -/

/-- The sign and the unsigned rest that `parseInt` splits off. -/
def splitSign : List Char → Bool × List Char
  | '-' :: cs => (true, cs)
  | '+' :: cs => (false, cs)
  | cs => (false, cs)

/-- `Number.parseInt(text, 10)` as an exact integer: leading white space, an optional sign, then
the longest run of digits; `none` is `NaN`. -/
def parseInt (s : String) : Option Int :=
  let signed := splitSign (trimStart s.toList)
  match signed.2.takeWhile Char.isDigit with
  | [] => none
  | ds =>
    let n : Int := Nat.ofDigitChars 10 ds 0
    some (if signed.1 then -n else n)

/-- From here on an integer rounds to `Infinity`: half a unit in the last place above the largest
double, that is `2 ^ 1024 - 2 ^ 970`. -/
def infinity : Nat := (2 ^ 54 - 1) * 2 ^ 970

lemma lt_infinity {n : Nat} (h : n < 2 ^ 54 - 1) : n < infinity := by
  have hscale : ∀ m k : Nat, m ≤ m * 2 ^ k := fun m k => Nat.le_mul_of_pos_right m (Nat.two_pow_pos k)
  exact Nat.lt_of_lt_of_le h (hscale _ 970)

/-! ## Reading a numeral back -/

lemma not_isSpace_of_isDigit {c : Char} (h : c.isDigit = true) : isSpace c = false := by
  have hbounds : 48 ≤ c.toNat ∧ c.toNat ≤ 57 := by simpa [Char.isDigit, UInt32.le_iff_toNat_le] using h
  simp [isSpace]
  omega

lemma not_isSpace_of_mem_numeral {n : Nat} {c : Char} (h : c ∈ Nat.toDigits 10 n) : isSpace c = false :=
  not_isSpace_of_isDigit (Nat.isDigit_of_mem_toDigits (by decide) (by decide) h)

lemma trimStart_append {ds : List Char} (rest : List Char) (hne : ds ≠ [])
    (hds : ∀ c ∈ ds, isSpace c = false) : trimStart (ds ++ rest) = ds ++ rest := by
  cases ds with
  | nil => exact absurd rfl hne
  | cons d ds =>
    have hd : isSpace d = false := hds d (by simp)
    simp [trimStart, hd]

lemma trimEnd_append {ds : List Char} (rest : List Char) (hne : ds ≠ []) (hds : ∀ c ∈ ds, isSpace c = false) :
    ∃ r, r <+: rest ∧ trimEnd (ds ++ rest) = ds ++ r := by
  -- read backwards, trimming stops where `ds` begins
  have hkeep : ds.reverse.dropWhile isSpace = ds.reverse := by
    have := trimStart_append [] (by simpa using hne : ds.reverse ≠ []) (by simpa using hds)
    simpa [trimStart] using this
  by_cases hall : (rest.reverse.dropWhile isSpace).isEmpty
  · refine ⟨[], nil_prefix, ?_⟩
    simp [trimEnd, dropWhile_append, hall, hkeep]
  · refine ⟨trimEnd rest, ?_, ?_⟩
    · have hsuffix := reverse_prefix.2 (dropWhile_suffix isSpace (l := rest.reverse))
      simpa [trimEnd] using hsuffix
    · simp [trimEnd, dropWhile_append, hall]

lemma takeWhile_append_of_head {p : Char → Bool} {ds : List Char} (rest : List Char)
    (hds : ∀ c ∈ ds, p c = true) (hrest : ∀ c ∈ rest.head?, p c = false) : (ds ++ rest).takeWhile p = ds := by
  rw [takeWhile_append_of_pos hds]
  cases rest with
  | nil => simp
  | cons c rest =>
    have hc : p c = false := hrest c (by simp)
    simp [hc]

lemma firstToken_trim_numeral (n : Nat) (rest : String) (hrest : ∀ c ∈ rest.toList.head?, isSpace c = true) :
    firstToken (trim (toString n ++ rest)) = toString n := by
  have hds : ∀ c ∈ Nat.toDigits 10 n, isSpace c = false := fun _ => not_isSpace_of_mem_numeral
  have hne : Nat.toDigits 10 n ≠ [] := Nat.toDigits_ne_nil
  obtain ⟨r, hr, htrim⟩ := trimEnd_append rest.toList hne hds
  -- what trimming leaves after the numeral starts with the white space that follows it
  have hhead : ∀ c ∈ r.head?, (!isSpace c) = false := by
    intro c hc
    obtain ⟨tail, htail⟩ := hr
    cases r with
    | nil => simp at hc
    | cons d r =>
      have hcd : d = c := by simpa using hc
      have hspace := hrest d (by simp [← htail])
      simp [← hcd, hspace]
  have htake : (Nat.toDigits 10 n ++ r).takeWhile (fun c => !isSpace c) = Nat.toDigits 10 n :=
    takeWhile_append_of_head r (fun c hc => by simp [hds c hc]) hhead
  simp [firstToken, trim, trimStart_append _ hne hds, htrim, htake, Nat.repr_eq_ofList_toDigits]

lemma trim_numeral (n : Nat) : trim (toString n) = toString n := by
  have hds : ∀ c ∈ Nat.toDigits 10 n, isSpace c = false := fun _ => not_isSpace_of_mem_numeral
  have hne : Nat.toDigits 10 n ≠ [] := Nat.toDigits_ne_nil
  obtain ⟨r, hr, htrim⟩ := trimEnd_append [] hne hds
  have hnil : r = [] := prefix_nil.1 hr
  have hstart := trimStart_append [] hne hds
  simp only [append_nil] at htrim hstart
  simp [trim, hstart, htrim, hnil, Nat.repr_eq_ofList_toDigits]

lemma parseInt_numeral (n : Nat) : parseInt (toString n) = some (n : Int) := by
  have hdigit : ∀ c ∈ Nat.toDigits 10 n, c.isDigit = true :=
    fun _ => Nat.isDigit_of_mem_toDigits (by decide) (by decide)
  have hstart : trimStart (Nat.toDigits 10 n) = Nat.toDigits 10 n := by
    simpa using trimStart_append [] Nat.toDigits_ne_nil
      (fun c hc => not_isSpace_of_isDigit (hdigit c hc))
  -- a numeral starts with a digit, so no sign is split off
  have hsign : splitSign (Nat.toDigits 10 n) = (false, Nat.toDigits 10 n) := by
    unfold splitSign
    split
    · next hcs => exact absurd (hdigit '-' (by simp [hcs])) (by decide)
    · next hcs => exact absurd (hdigit '+' (by simp [hcs])) (by decide)
    · rfl
  have htake : (Nat.toDigits 10 n).takeWhile Char.isDigit = Nat.toDigits 10 n := by
    simpa using takeWhile_append_of_head [] hdigit (by simp)
  have hlist : (toString n).toList = Nat.toDigits 10 n := by simp
  unfold parseInt
  simp only [hlist, hstart, hsign, htake]
  split
  · next hnil => exact absurd hnil Nat.toDigits_ne_nil
  · simp

/-! ## Trimming -/

lemma dropWhile_dropWhile (p : Char → Bool) (cs : List Char) : (cs.dropWhile p).dropWhile p = cs.dropWhile p := by
  cases h : cs.dropWhile p with
  | nil => rfl
  | cons c rest =>
    have hc : p c = false := by
      have hhead := head?_dropWhile_not p cs
      simpa [h] using hhead
    simp [hc]

lemma trimStart_trimEnd_trimStart (cs : List Char) : trimStart (trimEnd (trimStart cs)) = trimEnd (trimStart cs) := by
  cases h : trimStart cs with
  | nil => rfl
  | cons c rest =>
    have hc : isSpace c = false := by
      have hhead := head?_dropWhile_not isSpace cs
      rw [trimStart] at h
      simpa [h] using hhead
    -- a text that begins with no space keeps that character
    cases hend : trimEnd (c :: rest) with
    | nil =>
      have hall : (c :: rest).reverse.dropWhile isSpace = [] := by simpa [trimEnd] using hend
      have hspace := dropWhile_eq_nil_iff.1 hall c (by simp)
      rw [hc] at hspace
      cases hspace
    | cons d ds =>
      have hprefix : trimEnd (c :: rest) <+: c :: rest := by
        have hsuffix := dropWhile_suffix isSpace (l := (c :: rest).reverse)
        simpa [trimEnd] using reverse_prefix.2 hsuffix
      rw [hend] at hprefix
      obtain rfl : d = c := (cons_prefix_cons.1 hprefix).1
      simp [trimStart, hc]

@[simp] lemma trim_trim (text : String) : trim (trim text) = trim text := by
  have hend : ∀ cs, trimEnd (trimEnd cs) = trimEnd cs := by
    intro cs
    simp [trimEnd, dropWhile_dropWhile]
  simp only [trim, String.toList_ofList, trimStart_trimEnd_trimStart, hend]

@[simp] lemma nonBlank_trim (text : String) : nonBlank (trim text) = nonBlank text := by
  simp [nonBlank]

lemma dropWhile_eq_self_iff {cs : List Char} : cs.dropWhile isSpace = cs ↔ ∀ c ∈ cs.head?, isSpace c = false := by
  cases cs with
  | nil => simp
  | cons c cs =>
    constructor
    · intro h d hd
      have hhead := head?_dropWhile_not isSpace (c :: cs)
      rw [h] at hhead
      obtain rfl : c = d := by simpa using hd
      simpa using hhead
    · intro h
      simp [h c rfl]

lemma trimEnd_trimStart_eq_self_iff {cs : List Char} : trimEnd (trimStart cs) = cs ↔
      (∀ c ∈ cs.head?, isSpace c = false) ∧ ∀ c ∈ cs.getLast?, isSpace c = false := by
  have hend : trimEnd cs = cs ↔ ∀ c ∈ cs.getLast?, isSpace c = false := by
    rw [← head?_reverse, ← dropWhile_eq_self_iff, trimEnd, reverse_eq_iff]
  rw [← dropWhile_eq_self_iff, ← hend]
  constructor
  · intro h
    have hstart : trimStart cs = cs := by
      have hagain := trimStart_trimEnd_trimStart cs
      rwa [h] at hagain
    exact ⟨hstart, by rwa [hstart] at h⟩
  · rintro ⟨hstart, hend⟩
    rw [trimStart, hstart, hend]

lemma trim_eq_self_iff {text : String} : trim text = text ↔ (∀ c ∈ text.toList.head?, isSpace c = false) ∧
      ∀ c ∈ text.toList.getLast?, isSpace c = false := by
  rw [← trimEnd_trimStart_eq_self_iff, trim, ← String.toList_inj, String.toList_ofList]

end JsText
