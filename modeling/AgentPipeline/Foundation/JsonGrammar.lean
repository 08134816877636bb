import AgentPipeline.Foundation.JsonText

/-!
# JsonGrammar: what the reader of JSON texts accepts

The reader takes `fuel`, so facts about it go by induction on the fuel. One step of it is described
once, by `ValueStep`, `ElementsStep` and `MembersStep`, and every fact below is proved from these.

* `parseValue_mono`: more fuel reads the same;
* `parse_took`: what follows a part does not change how it is read, unless it continues a numeral;
* `lex_of_parse`: a text that is read has no backtick outside of its strings and no control
  character inside of them;
* `parse_obj_shape`: the text of an object is a pair of braces with spaces around it;
* `parse_unique`: spaces around a text do not change its value.
-/

namespace AgentPipeline.JsonText

open List Option

variable {cs rest : List Char} {value : Json} {fuel : Nat}

section Steps

variable (numberOf : String → JsNumber)

/-- The three words of the grammar. -/
def words : List (List Char × Json) :=
  [("true".toList, .bool true), ("false".toList, .bool false), ("null".toList, .null)]

/-- One step of `parseValue`. -/
inductive ValueStep (fuel : Nat) (cs : List Char) : Json → List Char → Prop where
  | string {r rest : List Char} {text : String} (h : skipSpace cs = '"' :: r)
      (hs : parseString r = some (text, rest)) : ValueStep fuel cs (.str text) rest
  | emptyList {r rest : List Char} (h : skipSpace cs = '[' :: r) (hr : skipSpace r = ']' :: rest) :
      ValueStep fuel cs (.arr []) rest
  | list {r rest : List Char} {elems : List Json} (h : skipSpace cs = '[' :: r)
      (hr : (skipSpace r).head? ≠ some ']')
      (he : parseElements numberOf fuel (skipSpace r) = some (elems, rest)) :
      ValueStep fuel cs (.arr elems) rest
  | emptyObject {r rest : List Char} (h : skipSpace cs = '{' :: r)
      (hr : skipSpace r = '}' :: rest) : ValueStep fuel cs (.obj []) rest
  | object {r rest : List Char} {members : List (String × Json)} (h : skipSpace cs = '{' :: r)
      (hr : (skipSpace r).head? ≠ some '}')
      (hm : parseMembers numberOf fuel (skipSpace r) = some (members, rest)) :
      ValueStep fuel cs (.obj (ofMembers members)) rest
  | word {text rest : List Char} {value : Json} (h : (text, value) ∈ words)
      (hcs : skipSpace cs = text ++ rest) : ValueStep fuel cs value rest
  | number {value : Json} {rest : List Char}
      (h : parseNumber numberOf (skipSpace cs) = some (value, rest)) : ValueStep fuel cs value rest

/-- One step of `parseElements`. -/
inductive ElementsStep (fuel : Nat) (cs : List Char) : List Json → List Char → Prop where
  | last {value : Json} {r rest : List Char} (h : parseValue numberOf fuel cs = some (value, r))
      (hr : skipSpace r = ']' :: rest) : ElementsStep fuel cs [value] rest
  | more {value : Json} {r r' rest : List Char} {elems : List Json}
      (h : parseValue numberOf fuel cs = some (value, r)) (hr : skipSpace r = ',' :: r')
      (he : parseElements numberOf fuel r' = some (elems, rest)) :
      ElementsStep fuel cs (value :: elems) rest

/-- One step of `parseMembers`. -/
inductive MembersStep (fuel : Nat) (cs : List Char) : List (String × Json) → List Char → Prop where
  | last {key : String} {value : Json} {r₁ r₂ r₃ r₄ rest : List Char}
      (hq : skipSpace cs = '"' :: r₁) (hk : parseString r₁ = some (key, r₂))
      (hc : skipSpace r₂ = ':' :: r₃) (h : parseValue numberOf fuel r₃ = some (value, r₄))
      (hr : skipSpace r₄ = '}' :: rest) : MembersStep fuel cs [(key, value)] rest
  | more {key : String} {value : Json} {r₁ r₂ r₃ r₄ r₅ rest : List Char}
      {members : List (String × Json)}
      (hq : skipSpace cs = '"' :: r₁) (hk : parseString r₁ = some (key, r₂))
      (hc : skipSpace r₂ = ':' :: r₃) (h : parseValue numberOf fuel r₃ = some (value, r₄))
      (hr : skipSpace r₄ = ',' :: r₅) (hm : parseMembers numberOf fuel r₅ = some (members, rest)) :
      MembersStep fuel cs ((key, value) :: members) rest

variable {numberOf}

lemma dropText_eq_some {text : String} : dropText text cs = some rest ↔ cs = text.toList ++ rest := by
  unfold dropText
  constructor
  · intro h
    split at h
    · next hprefix =>
      obtain ⟨r, rfl⟩ := isPrefixOf_iff_prefix.1 hprefix
      simp [← String.length_toList] at h
      rw [h]
    · simp at h
  · rintro rfl
    simp [← String.length_toList]

lemma parseNumber_ne_none (h : parseNumber numberOf cs = some (value, rest)) :
    ∃ c r, cs = c :: r ∧ isNumberChar c = true := by
  cases cs with
  | nil =>
    have hempty : JsRegExp.matchesWhole numeral (String.ofList []) = false := by decide +kernel
    simp [parseNumber, hempty] at h
  | cons c r =>
    refine ⟨c, r, rfl, ?_⟩
    by_contra hc
    have hempty : JsRegExp.matchesWhole numeral (String.ofList []) = false := by decide +kernel
    simp [parseNumber, hc, hempty] at h

lemma parseValue_succ_iff : parseValue numberOf (fuel + 1) cs = some (value, rest) ↔
      ValueStep numberOf fuel cs value rest := by
  constructor
  · intro h
    unfold parseValue at h
    split at h
    · next r hcs =>
      obtain ⟨⟨text, r'⟩, hs, heq⟩ := map_eq_some_iff.1 h
      obtain ⟨rfl, rfl⟩ := Prod.mk.inj heq
      exact .string hcs hs
    · next r hcs =>
      split at h
      · next r' hr =>
        obtain ⟨rfl, rfl⟩ := Prod.mk.inj (some.inj h)
        exact .emptyList hcs hr
      · next hne =>
        obtain ⟨⟨elems, r'⟩, he, heq⟩ := map_eq_some_iff.1 h
        obtain ⟨rfl, rfl⟩ := Prod.mk.inj heq
        refine .list hcs (fun hhead => ?_) he
        obtain ⟨r'', hr''⟩ := head?_eq_some_iff.1 hhead
        exact hne r'' hr''
    · next r hcs =>
      split at h
      · next r' hr =>
        obtain ⟨rfl, rfl⟩ := Prod.mk.inj (some.inj h)
        exact .emptyObject hcs hr
      · next hne =>
        obtain ⟨⟨members, r'⟩, hm, heq⟩ := map_eq_some_iff.1 h
        obtain ⟨rfl, rfl⟩ := Prod.mk.inj heq
        refine .object hcs (fun hhead => ?_) hm
        obtain ⟨r'', hr''⟩ := head?_eq_some_iff.1 hhead
        exact hne r'' hr''
    · next r hcs =>
      obtain ⟨r', hr, heq⟩ := map_eq_some_iff.1 h
      obtain ⟨rfl, rfl⟩ := Prod.mk.inj heq
      exact .word (show ("true".toList, Json.bool true) ∈ words by simp [words])
        (by simp [hcs, dropText_eq_some.1 hr])
    · next r hcs =>
      obtain ⟨r', hr, heq⟩ := map_eq_some_iff.1 h
      obtain ⟨rfl, rfl⟩ := Prod.mk.inj heq
      exact .word (show ("false".toList, Json.bool false) ∈ words by simp [words])
        (by simp [hcs, dropText_eq_some.1 hr])
    · next r hcs =>
      obtain ⟨r', hr, heq⟩ := map_eq_some_iff.1 h
      obtain ⟨rfl, rfl⟩ := Prod.mk.inj heq
      exact .word (show ("null".toList, Json.null) ∈ words by simp [words])
        (by simp [hcs, dropText_eq_some.1 hr])
    · exact .number h
  · intro h
    unfold parseValue
    cases h with
    | string h hs => simp [h, hs]
    | emptyList h hr => simp [h, hr]
    | list h hr he =>
      simp only [h]
      split
      · next r' hr' => simp [hr'] at hr
      · simp [he]
    | emptyObject h hr => simp [h, hr]
    | object h hr hm =>
      simp only [h]
      split
      · next r' hr' => simp [hr'] at hr
      · simp [hm]
    | word h hcs =>
      simp only [words, mem_cons, not_mem_nil, or_false, Prod.mk.injEq] at h
      rcases h with ⟨rfl, rfl⟩ | ⟨rfl, rfl⟩ | ⟨rfl, rfl⟩
      · have hdrop : dropText "rue" ('r' :: 'u' :: 'e' :: rest) = some rest := dropText_eq_some.2 (by simp)
        simp [hcs, hdrop]
      · have hdrop : dropText "alse" ('a' :: 'l' :: 's' :: 'e' :: rest) = some rest := dropText_eq_some.2 (by simp)
        simp [hcs, hdrop]
      · have hdrop : dropText "ull" ('u' :: 'l' :: 'l' :: rest) = some rest := dropText_eq_some.2 (by simp)
        simp [hcs, hdrop]
    | number h =>
      -- no other form begins with a character of numerals
      obtain ⟨c, r, hcs, hc⟩ := parseNumber_ne_none h
      have hspecial : c ≠ '"' ∧ c ≠ '[' ∧ c ≠ '{' ∧ c ≠ 't' ∧ c ≠ 'f' ∧ c ≠ 'n' := by
        refine ⟨?_, ?_, ?_, ?_, ?_, ?_⟩ <;> (rintro rfl; exact absurd hc (by decide))
      obtain ⟨h₁, h₂, h₃, h₄, h₅, h₆⟩ := hspecial
      rw [hcs] at h ⊢
      split <;> simp_all

lemma parseElements_succ_iff {elems : List Json} : parseElements numberOf (fuel + 1) cs = some (elems, rest) ↔
      ElementsStep numberOf fuel cs elems rest := by
  constructor
  · intro h
    unfold parseElements at h
    obtain ⟨⟨value, r⟩, hv, h⟩ := bind_eq_some_iff.1 h
    dsimp only at h
    split at h
    · next r' hr =>
      obtain ⟨rfl, rfl⟩ := Prod.mk.inj (some.inj h)
      exact .last hv hr
    · next r' hr =>
      obtain ⟨⟨elems', r''⟩, he, h⟩ := bind_eq_some_iff.1 h
      obtain ⟨rfl, rfl⟩ := Prod.mk.inj (some.inj h)
      exact .more hv hr he
    · simp at h
  · intro h
    unfold parseElements
    cases h with
    | last hv hr => simp [hv, hr]
    | more hv hr he => simp [hv, hr, he]

lemma parseMembers_succ_iff {members : List (String × Json)} :
    parseMembers numberOf (fuel + 1) cs = some (members, rest) ↔ MembersStep numberOf fuel cs members rest := by
  constructor
  · intro h
    unfold parseMembers at h
    split at h
    · next r₁ hq =>
      obtain ⟨⟨key, r₂⟩, hk, h⟩ := bind_eq_some_iff.1 h
      dsimp only at h
      split at h
      · next r₃ hc =>
        obtain ⟨⟨value, r₄⟩, hv, h⟩ := bind_eq_some_iff.1 h
        dsimp only at h
        split at h
        · next r₅ hr =>
          obtain ⟨rfl, rfl⟩ := Prod.mk.inj (some.inj h)
          exact .last hq hk hc hv hr
        · next r₅ hr =>
          obtain ⟨⟨members', r₆⟩, hm, h⟩ := bind_eq_some_iff.1 h
          obtain ⟨rfl, rfl⟩ := Prod.mk.inj (some.inj h)
          exact .more hq hk hc hv hr hm
        · simp at h
      · simp at h
    · simp at h
  · intro h
    unfold parseMembers
    cases h with
    | last hq hk hc hv hr => simp [hq, hk, hc, hv, hr]
    | more hq hk hc hv hr hm => simp [hq, hk, hc, hv, hr, hm]

/-! ## Fuel -/

lemma parse_succ (fuel : Nat) : (∀ {cs rest value}, parseValue numberOf fuel cs = some (value, rest) →
        parseValue numberOf (fuel + 1) cs = some (value, rest)) ∧
      (∀ {cs rest elems}, parseElements numberOf fuel cs = some (elems, rest) →
        parseElements numberOf (fuel + 1) cs = some (elems, rest)) ∧
      ∀ {cs rest members}, parseMembers numberOf fuel cs = some (members, rest) →
        parseMembers numberOf (fuel + 1) cs = some (members, rest) := by
  induction fuel with
  | zero =>
    refine ⟨?_, ?_, ?_⟩
    · intro cs rest value hread
      simp [parseValue] at hread
    · intro cs rest elems hread
      simp [parseElements] at hread
    · intro cs rest members hread
      simp [parseMembers] at hread
  | succ fuel ih =>
    obtain ⟨ihValue, ihElements, ihMembers⟩ := ih
    refine ⟨?_, ?_, ?_⟩
    · intro cs rest value hread
      refine parseValue_succ_iff.2 ?_
      cases parseValue_succ_iff.1 hread with
      | string h hs => exact .string h hs
      | emptyList h hr => exact .emptyList h hr
      | list h hr he => exact .list h hr (ihElements he)
      | emptyObject h hr => exact .emptyObject h hr
      | object h hr hm => exact .object h hr (ihMembers hm)
      | word h hcs => exact .word h hcs
      | number h => exact .number h
    · intro cs rest elems hread
      refine parseElements_succ_iff.2 ?_
      cases parseElements_succ_iff.1 hread with
      | last hv hr => exact .last (ihValue hv) hr
      | more hv hr he => exact .more (ihValue hv) hr (ihElements he)
    · intro cs rest members hread
      refine parseMembers_succ_iff.2 ?_
      cases parseMembers_succ_iff.1 hread with
      | last hq hk hc hv hr => exact .last hq hk hc (ihValue hv) hr
      | more hq hk hc hv hr hm => exact .more hq hk hc (ihValue hv) hr (ihMembers hm)

lemma parseValue_mono {fuel' : Nat} (hle : fuel ≤ fuel') (h : parseValue numberOf fuel cs = some (value, rest)) :
    parseValue numberOf fuel' cs = some (value, rest) := by
  induction hle with
  | refl => exact h
  | step _ ih => exact (parse_succ _).1 ih

end Steps

/-! ## Strings and what stands between them -/

inductive LexState where
  | outside | inside | escaped
deriving DecidableEq, Repr

/-- One character of a text: no backtick outside of strings, no control character inside. -/
def lexStep : LexState → Char → Option LexState
  | .outside, c =>
    if c = '"' then some .inside else if c.toNat = 0x60 then none else some .outside
  | .inside, c =>
    if c = '"' then some .outside
    else if c = '\\' then some .escaped
    else if c.toNat < 0x20 then none
    else some .inside
  | .escaped, c => if c.toNat < 0x20 then none else some .inside

def lex (s : LexState) (cs : List Char) : Option LexState := cs.foldlM lexStep s

@[simp] lemma lex_nil (s : LexState) : lex s [] = some s := rfl

@[simp] lemma lex_cons (s : LexState) (c : Char) (cs : List Char) :
    lex s (c :: cs) = (lexStep s c).bind fun s' => lex s' cs := rfl

lemma lex_append (s : LexState) (as bs : List Char) :
    lex s (as ++ bs) = (lex s as).bind fun s' => lex s' bs := by
  simp [lex]

/-- What a reader of a part took: characters that end outside of strings as they began, and that it
reads the same whatever follows, unless that continues a numeral. -/
def Took {α : Type} (read : List Char → Option (α × List Char)) (s : LexState) (cs : List Char)
    (a : α) (rest : List Char) : Prop :=
  ∃ used, cs = used ++ rest ∧ lex s used = some .outside ∧
    ∀ u : List Char, (u.head?.all fun c => !isNumberChar c) = true → read (used ++ u) = some (a, u)

variable {c : Char}

lemma lexStep_of_hexValue {n : Nat} (h : hexValue c = some n) : lexStep .inside c = some .inside := by
  have hlow : ∀ k < 48, hexValue (Char.ofNat k) = none := by decide
  have hrange : 48 ≤ c.toNat := by
    by_contra hlt
    have hnone := hlow c.toNat (by omega)
    rw [Char.ofNat_toNat, h] at hnone
    simp at hnone
  have hslash : c ≠ '\\' := by
    rintro rfl
    have hnone : hexValue '\\' = none := by decide
    simp [hnone] at h
  have hquote : c ≠ '"' := by
    rintro rfl
    exact absurd hrange (by decide)
  have hcontrol : ¬c.toNat < 0x20 := by omega
  simp [lexStep, hquote, hslash, hcontrol]

lemma hexUnit_eq_some {a b d : Char} {n : Nat} (h : hexUnit a b c d = some n) :
    lex .inside [a, b, c, d] = some .inside := by
  unfold hexUnit at h
  obtain ⟨na, ha, h⟩ := bind_eq_some_iff.1 h
  obtain ⟨nb, hb, h⟩ := bind_eq_some_iff.1 h
  obtain ⟨nc, hc, h⟩ := bind_eq_some_iff.1 h
  obtain ⟨nd, hd, -⟩ := bind_eq_some_iff.1 h
  simp [lexStep_of_hexValue ha, lexStep_of_hexValue hb, lexStep_of_hexValue hc, lexStep_of_hexValue hd]

lemma lexStep_of_simpleEscape {e : Char} (h : simpleEscape e = some c) : lexStep .escaped e = some .inside := by
  have hlow : ∀ k < 0x20, simpleEscape (Char.ofNat k) = none := by decide
  have hcontrol : ¬e.toNat < 0x20 := by
    intro hlt
    have hnone := hlow e.toNat hlt
    rw [Char.ofNat_toNat, h] at hnone
    simp at hnone
  simp [lexStep, hcontrol]

lemma parseStringBody_took {units : List Nat} (h : parseStringBody cs = some (units, rest)) :
    Took parseStringBody .inside cs units rest := by
  induction cs using parseStringBody.induct generalizing units with
  | case1 => simp [parseStringBody] at h
  | case2 r =>
    obtain ⟨rfl, rfl⟩ : [] = units ∧ r = rest := by simpa [parseStringBody] using h
    exact ⟨['"'], rfl, rfl, fun u _ => by simp [parseStringBody]⟩
  | case3 a b c d r ih =>
    simp only [parseStringBody] at h
    obtain ⟨unit, hunit, h⟩ := bind_eq_some_iff.1 h
    obtain ⟨⟨units', r'⟩, hrest, h⟩ := bind_eq_some_iff.1 h
    obtain ⟨rfl, rfl⟩ := Prod.mk.inj (some.inj h)
    obtain ⟨used, rfl, hlex, hread⟩ := ih hrest
    refine ⟨'\\' :: 'u' :: [a, b, c, d] ++ used, by simp, ?_, fun u hu => ?_⟩
    · have hbegin : lex .inside ['\\', 'u'] = some .inside := by decide
      rw [show '\\' :: 'u' :: [a, b, c, d] ++ used = ['\\', 'u'] ++ ([a, b, c, d] ++ used) by simp,
        lex_append, hbegin, bind_some, lex_append, hexUnit_eq_some hunit]
      exact hlex
    · simp [parseStringBody, hunit, hread u hu]
  | case4 e r hne ih =>
    rw [parseStringBody.eq_4 _ _ hne] at h
    obtain ⟨c, hc, h⟩ := bind_eq_some_iff.1 h
    obtain ⟨⟨units', r'⟩, hrest, h⟩ := bind_eq_some_iff.1 h
    obtain ⟨rfl, rfl⟩ := Prod.mk.inj (some.inj h)
    obtain ⟨used, rfl, hlex, hread⟩ := ih hrest
    have hu : e ≠ 'u' := by
      rintro rfl
      simp [simpleEscape] at hc
    refine ⟨'\\' :: e :: used, rfl, ?_, fun u hu' => ?_⟩
    · have hbegin : lexStep .inside '\\' = some .escaped := by decide
      simp [hbegin, lexStep_of_simpleEscape hc, hlex]
    · have hne' : ∀ (a b c d : Char) (rest : List Char), e = 'u' →
          used ++ u = a :: b :: c :: d :: rest → False := fun _ _ _ _ _ he => absurd he hu
      rw [cons_append, cons_append, parseStringBody.eq_4 _ _ hne']
      simp [hc, hread u hu']
  | case5 c r h₁ h₂ h₃ hlow =>
    rw [parseStringBody.eq_5 _ _ h₁ h₂ h₃, if_pos hlow] at h
    simp at h
  | case6 c r h₁ h₂ h₃ hlow ih =>
    rw [parseStringBody.eq_5 _ _ h₁ h₂ h₃, if_neg hlow] at h
    obtain ⟨⟨units', r'⟩, hrest, h⟩ := bind_eq_some_iff.1 h
    obtain ⟨rfl, rfl⟩ := Prod.mk.inj (some.inj h)
    -- a backslash at the end of the text is followed by nothing
    have hslash : c ≠ '\\' := by
      rintro rfl
      cases r with
      | nil => simp [parseStringBody] at hrest
      | cons e r => exact h₃ e r rfl rfl
    obtain ⟨used, rfl, hlex, hread⟩ := ih hrest
    refine ⟨c :: used, rfl, ?_, fun u hu => ?_⟩
    · have hquote : c ≠ '"' := h₁
      have hstep : lexStep .inside c = some .inside := by simp [lexStep, hquote, hslash, hlow]
      simp [hstep, hlex]
    · rw [cons_append, parseStringBody.eq_5 _ _ h₁ (fun _ _ _ _ _ hc => absurd hc hslash)
        (fun _ _ hc => absurd hc hslash), if_neg hlow]
      simp [hread u hu]

lemma parseString_took {text : String}
    (h : parseString cs = some (text, rest)) : Took parseString .inside cs text rest := by
  obtain ⟨⟨units, r⟩, hbody, heq⟩ := map_eq_some_iff.1 h
  obtain ⟨rfl, rfl⟩ := Prod.mk.inj heq
  obtain ⟨used, rfl, hlex, hread⟩ := parseStringBody_took hbody
  exact ⟨used, rfl, hlex, fun u hu => by simp [parseString, hread u hu]⟩

variable {numberOf : String → JsNumber} {r : List Char}

lemma skipSpace_eq_cons (h : skipSpace cs = c :: r) :
    ∃ sp, cs = sp ++ c :: r ∧ (∀ x ∈ sp, isJsonSpace x = true) ∧ isJsonSpace c = false := by
  refine ⟨cs.takeWhile isJsonSpace, ?_, fun x hx => mem_takeWhile_imp hx, ?_⟩
  · rw [← h, skipSpace, takeWhile_append_dropWhile]
  · have hhead := head?_dropWhile_not isJsonSpace cs
    rw [← skipSpace, h] at hhead
    simpa using hhead

variable {sp : List Char}

lemma skipSpace_append (hsp : ∀ x ∈ sp, isJsonSpace x = true)
    (hc : isJsonSpace c = false) (r : List Char) : skipSpace (sp ++ c :: r) = c :: r := by
  rw [skipSpace, dropWhile_append_of_pos hsp, dropWhile_cons_of_neg (by simp [hc])]

lemma lex_spaces (hsp : ∀ x ∈ sp, isJsonSpace x = true) : lex .outside sp = some .outside := by
  induction sp with
  | nil => rfl
  | cons c sp ih =>
    have hc : lexStep .outside c = some .outside := by
      have hspace := hsp c (by simp)
      simp only [isJsonSpace, Bool.or_eq_true, decide_eq_true_eq] at hspace
      rcases hspace with ((rfl | rfl) | rfl) | rfl <;> decide
    simp [hc, ih fun x hx => hsp x (by simp [hx])]

lemma isNumberChar_lex (h : isNumberChar c = true) : lexStep .outside c = some .outside := by
  have hquote : c ≠ '"' := by
    rintro rfl
    exact absurd h (by decide)
  have htick : c.toNat ≠ 0x60 := by
    intro hc
    obtain rfl : c = Char.ofNat 0x60 := by rw [← hc, Char.ofNat_toNat]
    exact absurd h (by decide)
  simp [lexStep, hquote, htick]

lemma lex_numberChars (h : ∀ c ∈ cs, isNumberChar c = true) : lex .outside cs = some .outside := by
  induction cs with
  | nil => rfl
  | cons c cs ih =>
    simp [isNumberChar_lex (h c (by simp)), ih fun x hx => h x (by simp [hx])]

lemma parseNumber_took (h : parseNumber numberOf cs = some (value, rest)) :
    Took (parseNumber numberOf) .outside cs value rest := by
  have hdigits : ∀ c ∈ cs.takeWhile isNumberChar, isNumberChar c = true := fun c hc => mem_takeWhile_imp hc
  unfold parseNumber at h
  dsimp only at h
  split at h
  · next hnumeral =>
    obtain ⟨rfl, rfl⟩ := Prod.mk.inj (some.inj h)
    refine ⟨cs.takeWhile isNumberChar, (takeWhile_append_dropWhile).symm, lex_numberChars hdigits, fun u hu => ?_⟩
    have htake : (cs.takeWhile isNumberChar ++ u).takeWhile isNumberChar = cs.takeWhile isNumberChar := by
      rw [takeWhile_append_of_pos hdigits]
      cases u with
      | nil => simp
      | cons c u =>
        have hc : isNumberChar c = false := by simpa using hu
        simp [hc]
    have hdrop : (cs.takeWhile isNumberChar ++ u).dropWhile isNumberChar = u := by
      rw [dropWhile_append_of_pos hdigits]
      cases u with
      | nil => rfl
      | cons c u =>
        have hc : isNumberChar c = false := by simpa using hu
        simp [hc]
    simp [parseNumber, htake, hdrop, hnumeral]
  · simp at h

lemma isNumberChar_of_isJsonSpace (h : isJsonSpace c = true) : isNumberChar c = false := by
  simp only [isJsonSpace, Bool.or_eq_true, decide_eq_true_eq] at h
  rcases h with ((rfl | rfl) | rfl) | rfl <;> decide

lemma bounded_spaces (hsp : ∀ x ∈ sp, isJsonSpace x = true)
    (hc : isNumberChar c = false) (r : List Char) :
    ((sp ++ c :: r).head?.all fun x => !isNumberChar x) = true := by
  cases sp with
  | nil => simp [hc]
  | cons x sp => simp [isNumberChar_of_isJsonSpace (hsp x (by simp))]

lemma Took.skip {α : Type} {read : List Char → Option (α × List Char)} {a : α}
    (h : Took read .outside (skipSpace r) a rest) (hnil : read [] = none) :
    ∃ sp c used, r = sp ++ c :: (used ++ rest) ∧ (skipSpace r).head? = some c ∧
      lex .outside (sp ++ c :: used) = some .outside ∧
      ∀ u : List Char, (u.head?.all fun x => !isNumberChar x) = true →
        skipSpace (sp ++ c :: (used ++ u)) = c :: (used ++ u) ∧ read (c :: (used ++ u)) = some (a, u) := by
  obtain ⟨used, hr, hlex, hread⟩ := h
  cases used with
  | nil =>
    have hempty := hread [] rfl
    simp [hnil] at hempty
  | cons c used =>
    obtain ⟨sp, hsp, hspaces, hc⟩ := skipSpace_eq_cons hr
    refine ⟨sp, c, used, hsp, by rw [hr]; rfl, ?_, fun u hu => ⟨?_, ?_⟩⟩
    · rw [lex_append, lex_spaces hspaces]
      exact hlex
    · exact skipSpace_append hspaces hc _
    · simpa using hread u hu

lemma parseNumber_nil : parseNumber numberOf [] = none := by
  have hempty : JsRegExp.matchesWhole numeral (String.ofList []) = false := by decide +kernel
  simp [parseNumber, hempty]

variable {text : List Char}

lemma word_shape (h : (text, value) ∈ words) : ∃ c t, text = c :: t ∧ lex .outside (c :: t) = some .outside := by
  simp only [words, mem_cons, not_mem_nil, or_false, Prod.mk.injEq] at h
  rcases h with ⟨rfl, -⟩ | ⟨rfl, -⟩ | ⟨rfl, -⟩
  · exact ⟨'t', ['r', 'u', 'e'], by simp, by decide⟩
  · exact ⟨'f', ['a', 'l', 's', 'e'], by simp, by decide⟩
  · exact ⟨'n', ['u', 'l', 'l'], by simp, by decide⟩

lemma parseElements_nil (fuel : Nat) : parseElements numberOf fuel [] = none := by
  cases fuel with
  | zero => rfl
  | succ fuel =>
    have hvalue : parseValue numberOf fuel [] = none := by
      cases fuel with
      | zero => rfl
      | succ fuel => simp [parseValue, skipSpace, parseNumber_nil]
    simp [parseElements, hvalue]

lemma parseMembers_nil (fuel : Nat) : parseMembers numberOf fuel [] = none := by
  cases fuel with
  | zero => rfl
  | succ fuel => simp [parseMembers, skipSpace]

/-- A character after spaces. -/
lemma char_took {s : LexState} (h : skipSpace cs = c :: r) (hstep : lexStep .outside c = some s) :
    ∃ used, cs = used ++ r ∧ lex .outside used = some s ∧ ∀ u, skipSpace (used ++ u) = c :: u ∧
      (isNumberChar c = false → ((used ++ u).head?.all fun x => !isNumberChar x) = true) := by
  obtain ⟨sp, rfl, hsp, hc⟩ := skipSpace_eq_cons h
  refine ⟨sp ++ [c], by simp, by simp [lex_append, lex_spaces hsp, hstep], fun u => ⟨?_, fun hn => ?_⟩⟩
  · simpa using skipSpace_append hsp hc u
  · simpa using bounded_spaces hsp hn u

/-- A key with its value, up to the character after them. -/
lemma member_took {key : String} {r₁ r₂ r₃ r₄ r₅ : List Char} {x : Char} (hq : skipSpace cs = '"' :: r₁)
    (hk : parseString r₁ = some (key, r₂)) (hc : skipSpace r₂ = ':' :: r₃)
    (hv : Took (parseValue numberOf fuel) .outside r₃ value r₄) (hr : skipSpace r₄ = x :: r₅)
    (hx : isNumberChar x = false) :
    ∃ used, cs = used ++ x :: r₅ ∧ lex .outside used = some .outside ∧ ∀ u, ∃ r₁ r₂ r₃ r₄,
      skipSpace (used ++ x :: u) = '"' :: r₁ ∧ parseString r₁ = some (key, r₂) ∧ skipSpace r₂ = ':' :: r₃ ∧
        parseValue numberOf fuel r₃ = some (value, r₄) ∧ skipSpace r₄ = x :: u := by
  obtain ⟨used₁, rfl, hlex₁, hquote⟩ := char_took hq (rfl : lexStep .outside '"' = some .inside)
  obtain ⟨used₂, rfl, hlex₂, hreadKey⟩ := parseString_took hk
  obtain ⟨used₃, rfl, hlex₃, hcolon⟩ := char_took hc (rfl : lexStep .outside ':' = some .outside)
  obtain ⟨used₄, rfl, hlex₄, hreadValue⟩ := hv
  obtain ⟨sp, rfl, hsp, hend⟩ := skipSpace_eq_cons hr
  refine ⟨used₁ ++ (used₂ ++ (used₃ ++ (used₄ ++ sp))), by simp, ?_, fun u => ?_⟩
  · simp [lex_append, lex_spaces hsp, hlex₁, hlex₂, hlex₃, hlex₄]
  · obtain ⟨hskip, hbound⟩ := hcolon (used₄ ++ (sp ++ x :: u))
    exact ⟨_, _, _, _, by simpa using (hquote _).1, hreadKey _ (hbound rfl), hskip,
      hreadValue _ (bounded_spaces hsp hx u), skipSpace_append hsp hend u⟩

/-- An opening bracket, and what is taken after it up to the end. -/
lemma open_took {α : Type} {read : List Char → Option (α × List Char)} {a : α}
    (h : skipSpace cs = c :: r) (hstep : lexStep .outside c = some .outside)
    (ha : Took read .outside (skipSpace r) a rest) (hnil : read [] = none) :
    ∃ used, cs = used ++ rest ∧ lex .outside used = some .outside ∧
      ∀ u : List Char, (u.head?.all fun x => !isNumberChar x) = true → ∃ r', skipSpace (used ++ u) = c :: r' ∧
        (skipSpace r').head? = (skipSpace r).head? ∧ read (skipSpace r') = some (a, u) := by
  obtain ⟨used, rfl, hlex, hskip⟩ := char_took h hstep
  obtain ⟨sp, c', used', rfl, hhead, hlex', hread⟩ := ha.skip hnil
  refine ⟨used ++ (sp ++ c' :: used'), by simp, by rwa [lex_append, hlex], fun u hu => ?_⟩
  obtain ⟨hskip', hread⟩ := hread u hu
  exact ⟨_, by simpa using (hskip (sp ++ c' :: (used' ++ u))).1, by rw [hskip', hhead]; rfl, by rwa [hskip']⟩

/-- What `parseValue`, `parseElements` and `parseMembers` take. -/
theorem parse_took (fuel : Nat) : (∀ {cs value rest}, parseValue numberOf fuel cs = some (value, rest) →
        Took (parseValue numberOf fuel) .outside cs value rest) ∧
      (∀ {cs elems rest}, parseElements numberOf fuel cs = some (elems, rest) →
        Took (parseElements numberOf fuel) .outside cs elems rest) ∧
      ∀ {cs members rest}, parseMembers numberOf fuel cs = some (members, rest) →
        Took (parseMembers numberOf fuel) .outside cs members rest := by
  induction fuel with
  | zero =>
    refine ⟨?_, ?_, ?_⟩
    · intro cs value rest hread
      simp [parseValue] at hread
    · intro cs elems rest hread
      simp [parseElements] at hread
    · intro cs members rest hread
      simp [parseMembers] at hread
  | succ fuel ih =>
    obtain ⟨ihValue, ihElements, ihMembers⟩ := ih
    refine ⟨?_, ?_, ?_⟩
    · intro cs value rest hread
      cases parseValue_succ_iff.1 hread with
      | string h hs =>
        obtain ⟨used, rfl, hlex, hskip⟩ := char_took h (rfl : lexStep .outside '"' = some .inside)
        obtain ⟨used', rfl, hlex', hs⟩ := parseString_took hs
        refine ⟨used ++ used', by simp, by simp [lex_append, hlex, hlex'], fun u hu => ?_⟩
        exact parseValue_succ_iff.2 (.string (by simpa using (hskip (used' ++ u)).1) (hs u hu))
      | emptyList h hr | emptyObject h hr =>
        obtain ⟨used, rfl, hlex, hskip⟩ := char_took h rfl
        obtain ⟨used', rfl, hlex', hskip'⟩ := char_took hr rfl
        refine ⟨used ++ used', by simp, by simp [lex_append, hlex, hlex'], fun u _ => ?_⟩
        have hopen := (hskip (used' ++ u)).1
        rw [← append_assoc] at hopen
        first
          | exact parseValue_succ_iff.2 (.emptyList hopen (hskip' u).1)
          | exact parseValue_succ_iff.2 (.emptyObject hopen (hskip' u).1)
      | list h hr he =>
        obtain ⟨used, rfl, hlex, hread⟩ := open_took h rfl (ihElements he) (parseElements_nil fuel)
        refine ⟨used, rfl, hlex, fun u hu => ?_⟩
        obtain ⟨r', hskip, hhead, hread⟩ := hread u hu
        exact parseValue_succ_iff.2 (.list hskip (hhead ▸ hr) hread)
      | object h hr hm =>
        obtain ⟨used, rfl, hlex, hread⟩ := open_took h rfl (ihMembers hm) (parseMembers_nil fuel)
        refine ⟨used, rfl, hlex, fun u hu => ?_⟩
        obtain ⟨r', hskip, hhead, hread⟩ := hread u hu
        exact parseValue_succ_iff.2 (.object hskip (hhead ▸ hr) hread)
      | word h hcs =>
        obtain ⟨c, text, rfl, hlex⟩ := word_shape h
        obtain ⟨sp, rfl, hsp, hc⟩ := skipSpace_eq_cons hcs
        refine ⟨sp ++ c :: text, by simp, ?_, fun u hu => ?_⟩
        · rw [lex_append, lex_spaces hsp]
          exact hlex
        · refine parseValue_succ_iff.2 (.word h ?_)
          simpa using skipSpace_append hsp hc (text ++ u)
      | number h =>
        obtain ⟨sp, c, used, rfl, -, hlex, hread'⟩ :=
          (parseNumber_took h).skip parseNumber_nil
        refine ⟨sp ++ c :: used, by simp, hlex, fun u hu => ?_⟩
        obtain ⟨hskip, hread'⟩ := hread' u hu
        refine parseValue_succ_iff.2 (.number ?_)
        rw [append_assoc, cons_append, hskip]
        exact hread'
    · intro cs elems rest hread
      cases parseElements_succ_iff.1 hread with
      | last hv hr =>
        obtain ⟨used, rfl, hlex, hreadValue⟩ := ihValue hv
        obtain ⟨used', rfl, hlex', hskip⟩ := char_took hr rfl
        refine ⟨used ++ used', by simp, by simp [lex_append, hlex, hlex'], fun u hu => ?_⟩
        refine parseElements_succ_iff.2 (.last ?_ (hskip u).1)
        simpa using hreadValue _ ((hskip u).2 rfl)
      | more hv hr he =>
        obtain ⟨used, rfl, hlex, hreadValue⟩ := ihValue hv
        obtain ⟨used', rfl, hlex', hskip⟩ := char_took hr rfl
        obtain ⟨used'', rfl, hlex'', hreadElements⟩ := ihElements he
        refine ⟨used ++ (used' ++ used''), by simp, by simp [lex_append, hlex, hlex', hlex''], fun u hu => ?_⟩
        refine parseElements_succ_iff.2 (.more ?_ (hskip (used'' ++ u)).1 (hreadElements u hu))
        simpa using hreadValue _ ((hskip (used'' ++ u)).2 rfl)
    · intro cs members rest hread
      cases parseMembers_succ_iff.1 hread with
      | last hq hk hc hv hr =>
        obtain ⟨used, rfl, hlex, hreadMember⟩ := member_took hq hk hc (ihValue hv) hr (by decide)
        refine ⟨used ++ ['}'], by simp, by simp [lex_append, hlex, lexStep], fun u hu => ?_⟩
        obtain ⟨_, _, _, _, hq, hk, hc, hv, hr⟩ := hreadMember u
        exact parseMembers_succ_iff.2 (.last (by simpa using hq) hk hc hv hr)
      | more hq hk hc hv hr hm =>
        obtain ⟨used, rfl, hlex, hreadMember⟩ := member_took hq hk hc (ihValue hv) hr (by decide)
        obtain ⟨used', rfl, hlex', hreadMembers⟩ := ihMembers hm
        refine ⟨used ++ ',' :: used', by simp, by simp [lex_append, hlex, hlex', lexStep], fun u hu => ?_⟩
        obtain ⟨_, _, _, _, hq, hk, hc, hv, hr⟩ := hreadMember (used' ++ u)
        exact parseMembers_succ_iff.2 (.more (by simpa using hq) hk hc hv hr (hreadMembers u hu))

/-! ## Whole texts -/

lemma parse_eq_some_iff : parse numberOf text = some value ↔
      ∃ rest, parseValue numberOf (2 * text.length + 2) text = some (value, rest) ∧
        ∀ x ∈ rest, isJsonSpace x = true := by
  have hspaces : ∀ rest, skipSpace rest = [] ↔ ∀ x ∈ rest, isJsonSpace x = true := by
    intro rest
    simp [skipSpace]
  unfold parse
  cases hread : parseValue numberOf (2 * text.length + 2) text with
  | none => simp
  | some r =>
    obtain ⟨v, rest⟩ := r
    simp only [hspaces]
    split
    · next h =>
      constructor
      · intro hv
        obtain rfl := some.inj hv
        exact ⟨rest, rfl, h⟩
      · rintro ⟨rest', hrest, -⟩
        obtain ⟨rfl, rfl⟩ := Prod.mk.inj (some.inj hrest)
        rfl
    · next h =>
      constructor
      · simp
      · rintro ⟨rest', hrest, hsp⟩
        obtain ⟨rfl, rfl⟩ := Prod.mk.inj (some.inj hrest)
        exact absurd hsp h

lemma bounded_of_spaces (h : ∀ x ∈ sp, isJsonSpace x = true) :
    (sp.head?.all fun c => !isNumberChar c) = true := by
  cases sp with
  | nil => rfl
  | cons c sp => simp [isNumberChar_of_isJsonSpace (h c (by simp))]

lemma lex_of_parse (h : parse numberOf text = some value) : lex .outside text = some .outside := by
  obtain ⟨rest, hread, hsp⟩ := parse_eq_some_iff.1 h
  obtain ⟨used, htext, hlex, -⟩ := (parse_took _).1 hread
  rw [htext, lex_append, hlex]
  exact lex_spaces hsp

lemma parseMembers_shape {members : List (String × Json)} (h : parseMembers numberOf fuel cs = some (members, rest)) :
    ∃ body, cs = body ++ '}' :: rest := by
  induction fuel generalizing cs members with
  | zero => simp [parseMembers] at h
  | succ fuel ih =>
    cases parseMembers_succ_iff.1 h with
    | last hq hk hc hv hr =>
      obtain ⟨used, rfl, -⟩ := member_took hq hk hc ((parse_took fuel).1 hv) hr (by decide)
      exact ⟨used, rfl⟩
    | more hq hk hc hv hr hm =>
      obtain ⟨used, rfl, -⟩ := member_took hq hk hc ((parse_took fuel).1 hv) hr (by decide)
      obtain ⟨body, rfl⟩ := ih hm
      exact ⟨used ++ ',' :: body, by simp⟩

lemma parse_obj_shape {fields : List (String × Json)} (h : parse numberOf text = some (.obj fields)) :
    ∃ sp body sp', text = sp ++ '{' :: (body ++ '}' :: sp') ∧
      (∀ x ∈ sp, isJsonSpace x = true) ∧ ∀ x ∈ sp', isJsonSpace x = true := by
  obtain ⟨rest, hread, hrest⟩ := parse_eq_some_iff.1 h
  cases parseValue_succ_iff.1 hread with
  | emptyObject hopen hr =>
    obtain ⟨sp, rfl, hsp, -⟩ := skipSpace_eq_cons hopen
    obtain ⟨sp', rfl, -, -⟩ := skipSpace_eq_cons hr
    exact ⟨sp, sp', rest, rfl, hsp, hrest⟩
  | @object r _ _ hopen hr hm =>
    obtain ⟨sp, rfl, hsp, -⟩ := skipSpace_eq_cons hopen
    obtain ⟨body, hbody⟩ := parseMembers_shape hm
    refine ⟨sp, r.takeWhile isJsonSpace ++ body, rest, ?_, hsp, hrest⟩
    have hr : r.takeWhile isJsonSpace ++ (body ++ '}' :: rest) = r := by
      rw [← hbody]
      exact takeWhile_append_dropWhile
    simpa using hr.symm
  | word hword hcs => simp [words] at hword
  | number hnumber =>
    unfold parseNumber at hnumber
    dsimp only at hnumber
    split at hnumber <;> simp at hnumber

lemma parseValue_spaces (hsp : ∀ x ∈ sp, isJsonSpace x = true) (fuel : Nat)
    (cs : List Char) : parseValue numberOf fuel (sp ++ cs) = parseValue numberOf fuel cs := by
  cases fuel with
  | zero => rfl
  | succ fuel =>
    have hskip : skipSpace (sp ++ cs) = skipSpace cs := dropWhile_append_of_pos hsp
    unfold parseValue
    rw [hskip]

lemma parse_unique {sp' : List Char} {v w : Json}
    (hsp : ∀ x ∈ sp, isJsonSpace x = true) (hsp' : ∀ x ∈ sp', isJsonSpace x = true)
    (hv : parse numberOf (sp ++ text ++ sp') = some v) (hw : parse numberOf text = some w) : v = w := by
  obtain ⟨rest, hread, -⟩ := parse_eq_some_iff.1 hv
  obtain ⟨rest', hread', hrest'⟩ := parse_eq_some_iff.1 hw
  obtain ⟨used, htext, -, hsame⟩ := (parse_took _).1 hread'
  have hspaces : ∀ x ∈ rest' ++ sp', isJsonSpace x = true := by
    intro x hx
    rcases mem_append.1 hx with hx | hx
    · exact hrest' x hx
    · exact hsp' x hx
  have hlonger : parseValue numberOf (2 * text.length + 2) (text ++ sp') = some (w, rest' ++ sp') := by
    rw [show text ++ sp' = used ++ (rest' ++ sp') by rw [htext]; simp]
    exact hsame _ (bounded_of_spaces hspaces)
  rw [append_assoc, parseValue_spaces hsp] at hread
  -- the text with its spaces has at least the fuel of the text
  have hfuel : 2 * text.length + 2 ≤ 2 * (sp ++ (text ++ sp')).length + 2 := by
    simp only [length_append]
    omega
  have hsecond := parseValue_mono hfuel hlonger
  rw [hread] at hsecond
  exact (Prod.mk.inj (some.inj hsecond)).1

end AgentPipeline.JsonText
