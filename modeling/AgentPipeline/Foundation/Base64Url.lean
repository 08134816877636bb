import Mathlib.Tactic.Common

/-!
# Base64Url — bytes as text

The alphabet `A-Z a-z 0-9 - _` without padding. Bits that do not fill a byte are dropped.

* `encode`, `decode`: bytes as letters and back (`decode_encode`).
-/

namespace Base64Url

/-! ## The alphabet -/

def alphabet : List Char :=
  "ABCDEFGHIJKLMNOPQRSTUVWXYZabcdefghijklmnopqrstuvwxyz0123456789-_".toList

/-- The class `[A-Za-z0-9_-]`. -/
def isLetter (c : Char) : Bool := c.isAlphanum || c = '_' || c = '-'

def letterOf (n : Nat) : Char := alphabet.getD n 'A'

def valueOf (c : Char) : Nat := alphabet.idxOf c

/-! ## Bytes and groups of six bits -/

def sextets : List UInt8 → List Nat
  | a :: b :: c :: rest =>
    a.toNat / 4 :: (a.toNat % 4 * 16 + b.toNat / 16) :: (b.toNat % 16 * 4 + c.toNat / 64) ::
      c.toNat % 64 :: sextets rest
  | [a, b] => [a.toNat / 4, a.toNat % 4 * 16 + b.toNat / 16, b.toNat % 16 * 4]
  | [a] => [a.toNat / 4, a.toNat % 4 * 16]
  | [] => []

def bytesOf : List Nat → List UInt8
  | a :: b :: c :: d :: rest =>
    .ofNat (a * 4 + b / 16) :: .ofNat (b % 16 * 16 + c / 4) :: .ofNat (c % 4 * 64 + d) :: bytesOf rest
  | [a, b, c] => [.ofNat (a * 4 + b / 16), .ofNat (b % 16 * 16 + c / 4)]
  | [a, b] => [.ofNat (a * 4 + b / 16)]
  | _ => []

def encode (bytes : List UInt8) : List Char := (sextets bytes).map letterOf

def decode (letters : List Char) : List UInt8 := bytesOf (letters.map valueOf)

/-! ## Round trip -/

lemma ofNat_eq {n : Nat} {a : UInt8} (h : n = a.toNat) : UInt8.ofNat n = a := by
  subst h
  exact UInt8.ofNat_toNat

lemma bytesOf_sextets (bytes : List UInt8) : bytesOf (sextets bytes) = bytes := by
  fun_induction sextets bytes with
  | case1 a b c rest ih =>
    have ha := a.toNat_lt
    have hb := b.toNat_lt
    have hc := c.toNat_lt
    simp only [bytesOf, ih, List.cons.injEq, and_true]
    exact ⟨ofNat_eq (by omega), ofNat_eq (by omega), ofNat_eq (by omega)⟩
  | case2 a b =>
    have ha := a.toNat_lt
    have hb := b.toNat_lt
    simp only [bytesOf, List.cons.injEq, and_true]
    exact ⟨ofNat_eq (by omega), ofNat_eq (by omega)⟩
  | case3 a =>
    have ha := a.toNat_lt
    simp only [bytesOf, List.cons.injEq, and_true]
    exact ofNat_eq (by omega)
  | case4 => rfl

variable {bytes : List UInt8}

lemma sextets_lt {n : Nat} (h : n ∈ sextets bytes) : n < 64 := by
  induction bytes using sextets.induct with
  | case1 a b c rest ih =>
    have ha := a.toNat_lt
    have hb := b.toNat_lt
    have hc := c.toNat_lt
    simp only [sextets, List.mem_cons] at h
    rcases h with rfl | rfl | rfl | rfl | h
    · omega
    · omega
    · omega
    · omega
    · exact ih h
  | case2 a b =>
    have ha := a.toNat_lt
    have hb := b.toNat_lt
    simp only [sextets, List.mem_cons, List.not_mem_nil, or_false] at h
    omega
  | case3 a =>
    have ha := a.toNat_lt
    simp only [sextets, List.mem_cons, List.not_mem_nil, or_false] at h
    omega
  | case4 => simp [sextets] at h

lemma valueOf_letterOf : ∀ n < 64, valueOf (letterOf n) = n := by decide +kernel

lemma isLetter_letterOf : ∀ n < 64, isLetter (letterOf n) = true := by decide +kernel

lemma decode_encode (bytes : List UInt8) : decode (encode bytes) = bytes := by
  have hvalues : (encode bytes).map valueOf = sextets bytes := by
    rw [encode, List.map_map]
    refine (List.map_congr_left fun n hn => ?_).trans (List.map_id _)
    exact valueOf_letterOf n (sextets_lt hn)
  rw [decode, hvalues, bytesOf_sextets]

lemma isLetter_of_mem_encode {c : Char} (h : c ∈ encode bytes) : isLetter c = true := by
  obtain ⟨n, hn, rfl⟩ := List.mem_map.1 h
  exact isLetter_letterOf n (sextets_lt hn)

lemma encode_ne_nil (h : bytes ≠ []) : encode bytes ≠ [] := by
  unfold encode
  fun_cases sextets bytes <;> simp_all

end Base64Url
