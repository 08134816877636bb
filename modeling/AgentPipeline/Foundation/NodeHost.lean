import Mathlib.Data.List.Lex
import Mathlib.Data.List.Sort
import AgentPipeline.Foundation.JsRegExp
import AgentPipeline.Foundation.JsRuntime
import AgentPipeline.Foundation.Json

/-!
# NodeHost: what the review gate asks of its host beyond dates and SHA-256

* `NodeHost`: SHA-1 digests, upper case, the Unicode class `\p{P}` and the numeral reader; a
  digest is forty hex digits;
* comparisons of numbers, which are false when `NaN` takes part;
* `utf16Length`, `sortTexts`: `text.length` and `texts.sort()`, which go by code units.
-/

namespace AgentPipeline

open List
open JsRegExp (isHexDigit)

/-! ## Numbers -/

namespace JsNumber

/-- `a < b`. -/
def lt : JsNumber → JsNumber → Bool
  | .finite a, .finite b => a < b
  | .finite _, .infinity negative => !negative
  | .infinity negative, .finite _ => negative
  | .infinity negative, .infinity negative' => negative && !negative'
  | .nan, _ | _, .nan => false

/-- `a >= b`: not the negation of `a < b` when `NaN` takes part. -/
def ge : JsNumber → JsNumber → Bool
  | .nan, _ | _, .nan => false
  | a, b => !lt a b

@[simp] lemma lt_finite (a b : ℚ) : lt (.finite a) (.finite b) = decide (a < b) := rfl

@[simp] lemma ge_finite (a b : ℚ) : ge (.finite a) (.finite b) = decide (b ≤ a) := by
  have hnot : decide (b ≤ a) = !decide (a < b) := by simp [← not_lt]
  rw [hnot]
  rfl

end JsNumber

/-! ## Texts -/

/-- `text.length`. -/
def utf16Length (text : String) : Nat :=
  (text.toList.map fun c => if c.toNat < 0x10000 then 1 else 2).sum

lemma utf16Length_le_of_sublist {text text' : String} (h : text.toList.Sublist text'.toList) :
    utf16Length text ≤ utf16Length text' := by
  have hsum : ∀ {cs cs' : List Char}, cs.Sublist cs' → (cs.map fun c => if c.toNat < 0x10000 then 1 else 2).sum ≤
        (cs'.map fun c => if c.toNat < 0x10000 then 1 else 2).sum := by
    intro cs cs' hsub
    induction hsub with
    | slnil => exact le_rfl
    | cons c _ ih =>
      simp only [map_cons, sum_cons]
      omega
    | cons_cons c _ ih =>
      simp only [map_cons, sum_cons]
      omega
  exact hsum h

lemma utf16Length_trim_le (text : String) : utf16Length (JsText.trim text) ≤ utf16Length text := by
  apply utf16Length_le_of_sublist
  have hend : (JsText.trimEnd (JsText.trimStart text.toList)).Sublist (JsText.trimStart text.toList) := by
    have h := (dropWhile_sublist JsText.isSpace
      (l := (JsText.trimStart text.toList).reverse)).reverse
    simpa [JsText.trimEnd] using h
  simp only [JsText.trim, String.toList_ofList]
  exact hend.trans (dropWhile_sublist _)

/-- The code units of a text. -/
def utf16Units (text : String) : List Nat :=
  text.toList.flatMap fun c =>
    let n := c.toNat
    if n < 0x10000 then [n] else [0xD800 + (n - 0x10000) / 0x400, 0xDC00 + (n - 0x10000) % 0x400]

/-- `texts.sort()`. -/
def sortTexts (texts : List String) : List String :=
  texts.insertionSort fun a b => utf16Units a ≤ utf16Units b

/-- The form of a digest of `n` hex digits. -/
def IsHexDigest (n : Nat) (text : String) : Prop :=
  text.toList.length = n ∧ text.toList.all isHexDigit = true

instance (n : Nat) (text : String) : Decidable (IsHexDigest n text) :=
  inferInstanceAs (Decidable (_ ∧ _))

lemma toNat_of_isHexDigit {c : Char} (h : isHexDigit c = true) :
    (48 ≤ c.toNat ∧ c.toNat ≤ 57) ∨ (97 ≤ c.toNat ∧ c.toNat ≤ 102) := by
  simpa [isHexDigit, Char.isDigit, Char.le_def, UInt32.le_iff_toNat_le] using h

lemma not_isSpace_of_isHexDigit {c : Char} (h : isHexDigit c = true) : JsText.isSpace c = false := by
  have hbounds := toNat_of_isHexDigit h
  simp [JsText.isSpace]
  omega

lemma nonBlank_of_isHexDigest {n : Nat} {text : String} (hn : n ≠ 0)
    (h : IsHexDigest n text) : JsText.nonBlank text = true := by
  obtain ⟨hlength, hdigits⟩ := h
  have hspaces : ∀ c ∈ text.toList, JsText.isSpace c = false :=
    fun c hc => not_isSpace_of_isHexDigit (all_eq_true.1 hdigits c hc)
  have hne : text.toList ≠ [] := by
    intro hnil
    simp [hnil] at hlength
    omega
  -- nothing is trimmed on either side
  have hstart := JsText.trimStart_append [] hne hspaces
  obtain ⟨r, hr, hend⟩ := JsText.trimEnd_append [] hne hspaces
  obtain rfl : r = [] := prefix_nil.1 hr
  simp only [append_nil] at hstart hend
  have htrim : JsText.trim text = text := by simp [JsText.trim, hstart, hend]
  have htext : text ≠ "" := fun hempty => hne (by simp [hempty])
  simpa [JsText.nonBlank, htrim] using htext

/-! ## The host -/

structure NodeHost extends JsRuntime where
  /-- `crypto.createHash("sha1").update(text).digest("hex")`. -/
  sha1 : String → String
  toUpperCase : String → String
  /-- A character of the class `\p{P}`. -/
  isPunctuation : Char → Bool
  /-- `Number(text)`. -/
  numberOf : String → JsNumber
  /-- `Buffer.from(bytes).toString("utf8")`, for bytes that are not UTF-8. -/
  lossyText : List UInt8 → String
  sha1_hex : ∀ s, IsHexDigest 40 (sha1 s)
  sha256_hex : ∀ s, IsHexDigest 64 (sha256 s)

namespace NodeHost

variable (host : NodeHost)

/-- `String(number)`. -/
def textOf : JsNumber → String
  | .finite q => host.numberText q
  | .infinity negative => if negative then "-Infinity" else "Infinity"
  | .nan => "NaN"

/-- `Buffer.from(text)`. -/
def utf8Bytes (text : String) : List UInt8 := text.toList.flatMap String.utf8EncodeChar

/-- `buffer.toString("utf8")`. -/
def utf8Text (bytes : List UInt8) : String :=
  match ByteArray.utf8Decode? ⟨bytes.toArray⟩ with
  | some chars => String.ofList chars.toList
  | none => host.lossyText bytes

lemma utf8Text_utf8Bytes (text : String) : host.utf8Text (utf8Bytes text) = text := by
  have hbytes : (⟨(utf8Bytes text).toArray⟩ : ByteArray) = text.toList.utf8Encode :=
    ByteArray.ext data_toByteArray.symm
  rw [utf8Text, hbytes, utf8Decode?_utf8Encode]
  simp

/-! ## A host to evaluate with -/

def zeros (n : Nat) : String := String.ofList (List.replicate n '0')

lemma isHexDigest_zeros (n : Nat) : IsHexDigest n (zeros n) := by
  have hzero : isHexDigit '0' = true := by decide
  simp [IsHexDigest, zeros, hzero]

/-- A table of digests; a text that it does not list has the digest of zeros. -/
def digestIn (n : Nat) (digests : List (String × String)) (text : String) : String :=
  match digests.lookup text with
  | some digest => if IsHexDigest n digest then digest else zeros n
  | none => zeros n

lemma isHexDigest_digestIn (n : Nat) (digests : List (String × String)) (text : String) :
    IsHexDigest n (digestIn n digests text) := by
  unfold digestIn
  split
  · split
    · assumption
    · exact isHexDigest_zeros n
  · exact isHexDigest_zeros n

/-- A time of the first day, with or without its milliseconds, or the last second of the years of
four digits. -/
def firstDayInstant (text : String) : Option Instant :=
  if text = "9999-12-31T23:59:59Z" then some (JsRuntime.instantOfNat 253402300799000)
  else
    match text.toList.drop 11 with
    | [h₁, h₂, ':', m₁, m₂, ':', s₁, s₂, 'Z'] =>
      (JsRuntime.firstDayValue
        [h₁, h₂, ':', m₁, m₂, ':', s₁, s₂, '.', '0', '0', '0', 'Z']).map JsRuntime.instantOfNat
    | time => (JsRuntime.firstDayValue time).map JsRuntime.instantOfNat

/-- The host on texts of ASCII letters and on the first day of the epoch, with the digests of the
texts that are hashed. -/
def onFirstDay (sha1s sha256s : List (String × String)) : NodeHost where
  toJsRuntime :=
    { JsRuntime.onFirstDay [] with
      sha256 := digestIn 64 sha256s
      dateParse := firstDayInstant
      dateParse_toISOString := fun t => by
        unfold firstDayInstant
        split
        · rfl
        · simp [JsRuntime.onFirstDay, JsRuntime.firstDayText, JsRuntime.firstDayValue]
      dateParse_empty := by decide
      nonBlank_sha256 := fun text =>
        nonBlank_of_isHexDigest (by decide) (isHexDigest_digestIn 64 sha256s text) }
  sha1 := digestIn 40 sha1s
  toUpperCase text := String.ofList (text.toList.map Char.toUpper)
  isPunctuation c := "!\"#%&'()*,-./:;?@[\\]_\x7b\x7d".toList.contains c
  numberOf _ := .nan
  lossyText _ := "\uFFFD"
  sha1_hex := isHexDigest_digestIn 40 sha1s
  sha256_hex := isHexDigest_digestIn 64 sha256s

end NodeHost

end AgentPipeline
