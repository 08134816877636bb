import Mathlib.Tactic.Common

/-!
# UriComponent: percent-encoded texts

`encodeURIComponent` and `decodeURIComponent` on sequences of Unicode scalar values.

* `encode`: every byte of a character outside of the unreserved ones as `%XX`;
* `decode`: the text again; `none` is a `URIError`;
* `decode_encode`: an encoded text is decoded to itself;
* `mem_encode`: the characters that an encoded text is of.
-/

namespace UriComponent

open List

/-- A character that stays as it is: `A-Z a-z 0-9 - _ . ! ~ * ' ( )`. -/
def isUnreserved (c : Char) : Bool :=
  c.isAlphanum || c = '-' || c = '_' || c = '.' || c = '!' || c = '~' || c = '*' || c = '\'' || c = '(' || c = ')'

/-! ## Encoding -/

def upperHexDigit (n : Nat) : Char :=
  if n < 10 then Char.ofNat (48 + n) else Char.ofNat (55 + n)

def encodeByte (b : UInt8) : List Char :=
  ['%', upperHexDigit (b.toNat / 16), upperHexDigit (b.toNat % 16)]

def encodeChar (c : Char) : List Char :=
  if isUnreserved c then [c] else (String.utf8EncodeChar c).flatMap encodeByte

def encode (text : String) : String :=
  String.ofList (text.toList.flatMap encodeChar)

/-! ## Decoding -/

def hexDigitValue (c : Char) : Option Nat :=
  if c.isDigit then some (c.toNat - 48)
  else if 'a' ≤ c ∧ c ≤ 'f' then some (c.toNat - 87)
  else if 'A' ≤ c ∧ c ≤ 'F' then some (c.toNat - 55)
  else none

/-- A character as it stands, or an octet that was written as `%XX`. -/
inductive Token where
  | char (c : Char)
  | octet (n : Nat)
deriving DecidableEq, Repr

/-- The tokens of a text; a percent sign begins two hex digits. -/
def tokens : List Char → Option (List Token)
  | '%' :: a :: b :: rest => do
      let high ← hexDigitValue a
      let low ← hexDigitValue b
      let rest ← tokens rest
      return .octet (high * 16 + low) :: rest
  | c :: rest =>
    if c = '%' then none
    else do
      let rest ← tokens rest
      return .char c :: rest
  | [] => some []

def isContinuation (n : Nat) : Bool := 0x80 ≤ n && n ≤ 0xBF

/-- A code point that is a scalar value and takes that many octets. -/
def scalarFrom (least code : Nat) : Option Char :=
  if least ≤ code ∧ (code < 0xD800 ∨ 0xDFFF < code) ∧ code ≤ 0x10FFFF then some (Char.ofNat code)
  else none

/-- A character whose first octets were read: how many are missing, the least code point that
takes so many octets, and the code point so far. -/
structure Begun where
  missing : Nat
  least : Nat
  code : Nat
deriving DecidableEq, Repr

/-- What a first octet begins. -/
def begin? (n : Nat) : Option Begun :=
  if 0xC0 ≤ n ∧ n < 0xE0 then some ⟨1, 0x80, n - 0xC0⟩
  else if 0xE0 ≤ n ∧ n < 0xF0 then some ⟨2, 0x800, n - 0xE0⟩
  else if 0xF0 ≤ n ∧ n < 0xF8 then some ⟨3, 0x10000, n - 0xF0⟩
  else none

/-- The characters of the tokens; the octets are UTF-8. -/
def characters : Option Begun → List Token → Option (List Char)
  | none, [] => some []
  | none, .char c :: rest => (characters none rest).map (c :: ·)
  | none, .octet n :: rest =>
    if n < 0x80 then (characters none rest).map (Char.ofNat n :: ·)
    else
      match begin? n with
      | some begun => characters (some begun) rest
      | none => none
  | some begun, .octet n :: rest =>
    let code := begun.code * 0x40 + (n - 0x80)
    if !isContinuation n then none
    else if begun.missing ≤ 1 then
      match scalarFrom begun.least code with
      | some c => (characters none rest).map (c :: ·)
      | none => none
    else characters (some ⟨begun.missing - 1, begun.least, code⟩) rest
  | some _, _ => none

def decode (text : String) : Option String :=
  ((tokens text.toList).bind (characters none)).map String.ofList

/-! ## The encoded characters -/

lemma isUnreserved_upperHexDigit : ∀ n < 16, isUnreserved (upperHexDigit n) = true := by decide

lemma mem_encode {text : String} {c : Char} (h : c ∈ (encode text).toList) : isUnreserved c = true ∨ c = '%' := by
  rw [encode, String.toList_ofList] at h
  obtain ⟨x, -, hx⟩ := mem_flatMap.1 h
  unfold encodeChar at hx
  split at hx
  · next hunreserved =>
    rw [mem_singleton.1 hx]
    exact .inl hunreserved
  · obtain ⟨b, -, hb⟩ := mem_flatMap.1 hx
    have hlt : b.toNat < 256 := UInt8.toNat_lt b
    simp only [encodeByte, mem_cons, not_mem_nil, or_false] at hb
    rcases hb with rfl | rfl | rfl
    · exact .inr rfl
    · exact .inl (isUnreserved_upperHexDigit _ (by omega))
    · exact .inl (isUnreserved_upperHexDigit _ (by omega))

lemma visible_of_mem_encode {text : String} {c : Char} (h : c ∈ (encode text).toList) :
    0x20 < c.toNat ∧ c.toNat < 0x7F ∧ c ≠ ',' := by
  rcases mem_encode h with hc | rfl
  · simp only [isUnreserved, Bool.or_eq_true, decide_eq_true_eq] at hc
    rcases hc with ((((((((hc | rfl) | rfl) | rfl) | rfl) | rfl) | rfl) | rfl) | rfl) | rfl
    · have hrange : 65 ≤ c.toNat ∧ c.toNat ≤ 90 ∨ 97 ≤ c.toNat ∧ c.toNat ≤ 122 ∨ 48 ≤ c.toNat ∧ c.toNat ≤ 57 := by
        delta Char.isAlphanum Char.isAlpha Char.isUpper Char.isLower Char.isDigit at hc
        simp [UInt32.le_iff_toNat_le] at hc
        omega
      refine ⟨by omega, by omega, ?_⟩
      rintro rfl
      revert hrange
      decide
    all_goals decide
  · decide

/-! ## Round trip -/

lemma hexDigitValue_upperHexDigit : ∀ n < 16, hexDigitValue (upperHexDigit n) = some n := by
  decide

lemma tokens_encodeByte (b : UInt8) (rest : List Char) :
    tokens (encodeByte b ++ rest) = (tokens rest).map (.octet b.toNat :: ·) := by
  have hlt : b.toNat < 256 := UInt8.toNat_lt b
  have hsplit : b.toNat / 16 * 16 + b.toNat % 16 = b.toNat := by omega
  simp only [encodeByte, cons_append, nil_append, tokens]
  rw [hexDigitValue_upperHexDigit _ (by omega), hexDigitValue_upperHexDigit _ (by omega)]
  simp only [Option.bind_eq_bind, Option.bind_some, hsplit]
  cases tokens rest <;> rfl

/-- The octets of a character. -/
def octets (c : Char) : List Token := (String.utf8EncodeChar c).map fun b => .octet b.toNat

/-- The tokens of an encoded character. -/
def charTokens (c : Char) : List Token := if isUnreserved c then [.char c] else octets c

lemma tokens_encodeBytes (bytes : List UInt8) (rest : List Char) :
    tokens (bytes.flatMap encodeByte ++ rest) = (tokens rest).map ((bytes.map fun b => Token.octet b.toNat) ++ ·) := by
  induction bytes with
  | nil => simp
  | cons b bytes ih =>
    rw [flatMap_cons, append_assoc, tokens_encodeByte, ih, Option.map_map]
    rfl

lemma tokens_encodeChar (c : Char) (rest : List Char) :
    tokens (encodeChar c ++ rest) = (tokens rest).map (charTokens c ++ ·) := by
  unfold encodeChar charTokens
  split
  · next hunreserved =>
    have hne : c ≠ '%' := by
      rintro rfl
      exact absurd hunreserved (by decide)
    rw [singleton_append, tokens, if_neg hne]
    · cases tokens rest <;> rfl
    · rintro a b rest' rfl
      exact absurd rfl hne
  · exact tokens_encodeBytes _ rest

lemma characters_last {c : Char} {least high low : Nat} (rest : List Token) (hlow : low < 0x40)
    (hcode : high * 0x40 + low = c.toNat) (hleast : least ≤ c.toNat) :
    characters (some ⟨1, least, high⟩) (.octet (low + 0x80) :: rest) = (characters none rest).map (c :: ·) := by
  have hvalid : c.toNat < 0xD800 ∨ 0xDFFF < c.toNat ∧ c.toNat < 0x110000 := c.valid
  have hcontinues : isContinuation (low + 0x80) = true := by
    simp only [isContinuation, Bool.and_eq_true, decide_eq_true_eq]
    omega
  have hscalar : scalarFrom least c.toNat = some c := by
    unfold scalarFrom
    rw [if_pos ⟨hleast, by omega, by omega⟩, Char.ofNat_toNat]
  rw [characters, Nat.add_sub_cancel, hcode, hcontinues, hscalar]
  rfl

lemma characters_more {least code low missing : Nat} (rest : List Token) (hlow : low < 0x40) :
    characters (some ⟨missing + 2, least, code⟩) (.octet (low + 0x80) :: rest) =
      characters (some ⟨missing + 1, least, code * 0x40 + low⟩) rest := by
  have hcontinues : isContinuation (low + 0x80) = true := by
    simp only [isContinuation, Bool.and_eq_true, decide_eq_true_eq]
    omega
  rw [characters, Nat.add_sub_cancel, hcontinues]
  simp

lemma characters_first {n : Nat} (begun : Begun) (rest : List Token) (hn : 0x80 ≤ n)
    (hbegin : begin? n = some begun) : characters none (.octet n :: rest) = characters (some begun) rest := by
  rw [characters, if_neg (by omega), hbegin]

lemma characters_octets (c : Char) (rest : List Token) :
    characters none (octets c ++ rest) = (characters none rest).map (c :: ·) := by
  have hvalid : c.toNat < 0xD800 ∨ 0xDFFF < c.toNat ∧ c.toNat < 0x110000 := c.valid
  have hval : c.val.toNat = c.toNat := rfl
  unfold octets String.utf8EncodeChar
  simp only [hval]
  split
  · next h =>
    simp only [map_cons, map_nil, singleton_append, UInt8.toNat_ofNat',
      Nat.mod_eq_of_lt (show c.toNat < 2 ^ 8 by omega)]
    rw [characters, if_pos (by omega), Char.ofNat_toNat]
  split
  · next h =>
    simp only [map_cons, map_nil, cons_append, nil_append, UInt8.toNat_ofNat']
    rw [Nat.mod_eq_of_lt (show c.toNat / 64 % 0x20 + 0xc0 < 2 ^ 8 by omega),
      Nat.mod_eq_of_lt (show c.toNat % 0x40 + 0x80 < 2 ^ 8 by omega),
      characters_first ⟨1, 0x80, c.toNat / 64 % 0x20⟩ _ (by omega)]
    · exact characters_last rest (by omega) (by omega) (by omega)
    · rw [begin?, if_pos (by omega), Nat.add_sub_cancel]
  split
  · next h =>
    simp only [map_cons, map_nil, cons_append, nil_append, UInt8.toNat_ofNat']
    rw [Nat.mod_eq_of_lt (show c.toNat / 4096 % 0x10 + 0xe0 < 2 ^ 8 by omega),
      Nat.mod_eq_of_lt (show c.toNat / 64 % 0x40 + 0x80 < 2 ^ 8 by omega),
      Nat.mod_eq_of_lt (show c.toNat % 0x40 + 0x80 < 2 ^ 8 by omega),
      characters_first ⟨2, 0x800, c.toNat / 4096 % 0x10⟩ _ (by omega),
      characters_more _ (by omega)]
    · exact characters_last rest (by omega) (by omega) (by omega)
    · rw [begin?, if_neg (by omega), if_pos (by omega), Nat.add_sub_cancel]
  · next h =>
    simp only [map_cons, map_nil, cons_append, nil_append, UInt8.toNat_ofNat']
    rw [Nat.mod_eq_of_lt (show c.toNat / 262144 % 0x08 + 0xf0 < 2 ^ 8 by omega),
      Nat.mod_eq_of_lt (show c.toNat / 4096 % 0x40 + 0x80 < 2 ^ 8 by omega),
      Nat.mod_eq_of_lt (show c.toNat / 64 % 0x40 + 0x80 < 2 ^ 8 by omega),
      Nat.mod_eq_of_lt (show c.toNat % 0x40 + 0x80 < 2 ^ 8 by omega),
      characters_first ⟨3, 0x10000, c.toNat / 262144 % 0x08⟩ _ (by omega),
      characters_more _ (by omega), characters_more _ (by omega)]
    · exact characters_last rest (by omega) (by omega) (by omega)
    · rw [begin?, if_neg (by omega), if_neg (by omega), if_pos (by omega), Nat.add_sub_cancel]

lemma characters_charTokens (c : Char) (rest : List Token) :
    characters none (charTokens c ++ rest) = (characters none rest).map (c :: ·) := by
  unfold charTokens
  split
  · rfl
  · exact characters_octets c rest

lemma decode_encode (text : String) : decode (encode text) = some text := by
  have htokens : ∀ cs : List Char, tokens (cs.flatMap encodeChar) = some (cs.flatMap charTokens) := by
    intro cs
    induction cs with
    | nil => rfl
    | cons c cs ih => rw [flatMap_cons, tokens_encodeChar, ih]; rfl
  have hcharacters : ∀ cs : List Char, characters none (cs.flatMap charTokens) = some cs := by
    intro cs
    induction cs with
    | nil => rfl
    | cons c cs ih => rw [flatMap_cons, characters_charTokens, ih]; rfl
  rw [decode, encode, String.toList_ofList, htokens, Option.bind_some, hcharacters]
  simp

end UriComponent
