import Mathlib.Data.Rat.Floor
import AgentPipeline.Foundation.JsText

/-!
# JsRuntime: dates, digests, numerals and case mapping of the host

* `Instant`: a time value of the language: milliseconds since the epoch, within the range
  `±8.64e15` outside of which a date is invalid;
* `Instant.addSeconds`: `new Date(t + s * 1000)`, which drops the fraction of a millisecond and
  is `none` where that date is invalid;
* `JsRuntime`: the host functions that are not computed here, with what their documentation
  promises: a SHA-256 digest is a run of hex digits, and what `toISOString` prints, `Date.parse`
  reads.
-/

structure Instant where
  ms : Int
  inRange : ms.natAbs ≤ 8640000000000000
deriving DecidableEq

namespace Instant

def epoch : Instant where
  ms := 0
  inRange := by decide

/-- `ToIntegerOrInfinity`: the fraction is dropped towards zero. -/
def truncate (q : ℚ) : Int :=
  if 0 ≤ q then ⌊q⌋ else ⌈q⌉

def addSeconds (t : Instant) (seconds : ℚ) : Option Instant :=
  let ms := truncate (t.ms + seconds * 1000)
  if h : ms.natAbs ≤ 8640000000000000 then some ⟨ms, h⟩ else none

end Instant

structure JsRuntime where
  /-- `crypto.createHash("sha256").update(text).digest("hex")`. -/
  sha256 : String → String
  toLowerCase : String → String
  toISOString : Instant → String
  /-- `Date.parse`; `none` is `NaN`. -/
  dateParse : String → Option Instant
  /-- `String(number)`. -/
  numberText : ℚ → String
  nonBlank_sha256 : ∀ s, JsText.nonBlank (sha256 s) = true
  dateParse_toISOString : ∀ t, (dateParse (toISOString t)).isSome = true
  dateParse_empty : dateParse "" = none

namespace JsRuntime

variable (rt : JsRuntime)

lemma toISOString_ne_empty (t : Instant) : rt.toISOString t ≠ "" := by
  intro h
  have hparse := rt.dateParse_toISOString t
  simp [h, rt.dateParse_empty] at hparse

/-! ## A runtime to evaluate with -/

def digit (n : Nat) : Char := Char.ofNat (48 + n % 10)

def digitValue (c : Char) : Nat := c.toNat - 48

/-- `1970-01-01Thh:mm:ss.mmmZ`, the form `toISOString` prints on the first day. -/
def firstDayText (ms : Nat) : List Char :=
  let h := ms / 3600000
  let m := ms / 60000 % 60
  let s := ms / 1000 % 60
  ['1', '9', '7', '0', '-', '0', '1', '-', '0', '1', 'T',
    digit (h / 10), digit h, ':', digit (m / 10), digit m, ':', digit (s / 10), digit s, '.',
    digit (ms / 100), digit (ms / 10), digit ms, 'Z']

def firstDayValue : List Char → Option Nat
  | [h₁, h₂, ':', m₁, m₂, ':', s₁, s₂, '.', a, b, c, 'Z'] =>
    let two (x y : Char) := digitValue x * 10 + digitValue y
    some ((two h₁ h₂ * 3600 + two m₁ m₂ * 60 + two s₁ s₂) * 1000 +
      (digitValue a * 100 + digitValue b * 10 + digitValue c))
  | _ => none

def instantOfNat (ms : Nat) : Instant :=
  if h : ms ≤ 8640000000000000 then ⟨ms, by simpa using h⟩ else Instant.epoch

/-- The host on texts of ASCII letters and on the first day of the epoch, with a table of
digests. -/
def onFirstDay (digests : List (String × String)) : JsRuntime where
  sha256 text :=
    match digests.lookup text with
    | some digest => if JsText.nonBlank digest then digest else "0"
    | none => "0"
  toLowerCase text := String.ofList (text.toList.map Char.toLower)
  toISOString t := String.ofList (firstDayText t.ms.natAbs)
  dateParse text := (firstDayValue (text.toList.drop 11)).map instantOfNat
  numberText q := if q.den = 1 then toString q.num else toString q
  nonBlank_sha256 text := by
    split
    · split
      · assumption
      · decide
    · decide
  dateParse_toISOString t := by simp [firstDayText, firstDayValue]
  dateParse_empty := by decide

end JsRuntime
