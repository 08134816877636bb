import AgentPipeline.Foundation.JsonGrammar

/-!
# JsonPrint: texts that are printed are read back

`JSON.stringify(value, null, n)` puts spaces between the parts of a value. Reading takes any spaces
there, so the printer is defined over a `Layout`, and reading inverts it for each of them.

* `Layout.compact`, `Layout.indented`: no spaces, and a line for each part;
* `print`: a value printed in a layout;
* `Readable`: a value that printing keeps: its numerals are read back, and its objects list their
  fields once each, in enumeration order;
* `parse_print`: what is printed, with spaces around it, reads as the value.
-/

namespace AgentPipeline.JsonText

open List

/-! ## Layouts -/

/-- The spaces before a part at a depth, and those after a colon. -/
structure Layout where
  gap : Nat → List Char
  afterColon : List Char
  gap_space : ∀ d, ∀ c ∈ gap d, isJsonSpace c = true
  afterColon_space : ∀ c ∈ afterColon, isJsonSpace c = true

namespace Layout

def compact : Layout where
  gap _ := []
  afterColon := []
  gap_space := by simp
  afterColon_space := by simp

/-- The layout of `JSON.stringify(value, null, n)`. -/
def indented (n : Nat) : Layout where
  gap d := '\n' :: List.replicate (n * d) ' '
  afterColon := [' ']
  gap_space d c hc := by
    rcases mem_cons.1 hc with rfl | hc
    · decide
    · rw [eq_of_mem_replicate hc]
      decide
  afterColon_space := all_eq_true.1 (by decide)

end Layout

section Printing

variable (layout : Layout) (numberText : ℚ → String)

mutual

/-- A value that begins at depth `d`. -/
def print (d : Nat) : Json → List Char
  | .null => ['n', 'u', 'l', 'l']
  | .bool true => ['t', 'r', 'u', 'e']
  | .bool false => ['f', 'a', 'l', 's', 'e']
  | .num (.finite q) => (numberText q).toList
  | .num _ => ['n', 'u', 'l', 'l']
  | .str text => quote text
  | .arr [] => ['[', ']']
  | .arr (value :: elems) =>
    '[' :: (layout.gap (d + 1) ++ (print (d + 1) value ++ printElems d elems))
  | .obj [] => ['{', '}']
  | .obj (field :: fields) =>
    '{' :: (layout.gap (d + 1) ++ (printField (d + 1) field ++ printFields d fields))

/-- The elements after the first one. -/
def printElems (d : Nat) : List Json → List Char
  | [] => layout.gap d ++ [']']
  | value :: elems => ',' :: (layout.gap (d + 1) ++ (print (d + 1) value ++ printElems d elems))

/-- The fields after the first one. -/
def printFields (d : Nat) : List (String × Json) → List Char
  | [] => layout.gap d ++ ['}']
  | field :: fields =>
    ',' :: (layout.gap (d + 1) ++ (printField (d + 1) field ++ printFields d fields))

def printField (d : Nat) : String × Json → List Char
  | (key, value) => quote key ++ ':' :: (layout.afterColon ++ print d value)

end

mutual

/-- A number that is not finite is printed like `null`. -/
lemma print_printed : ∀ (value : Json) (d : Nat),
    print layout numberText d value.printed = print layout numberText d value
  | .null, _ | .bool _, _ | .str _, _ | .num (.finite _), _ | .num (.infinity _), _ | .num .nan, _ => rfl
  | .arr [], _ => rfl
  | .arr (value :: elems), d => by
      rw [Json.printed, Json.printedElems, print, print, print_printed value, printElems_printed elems]
  | .obj [], _ => rfl
  | .obj (field :: fields), d => by
      rw [Json.printed, Json.printedFields, print, print, printField_printed field, printFields_printed fields]

lemma printElems_printed : ∀ (elems : List Json) (d : Nat),
    printElems layout numberText d (Json.printedElems elems) = printElems layout numberText d elems
  | [], _ => rfl
  | value :: elems, d => by
      rw [Json.printedElems, printElems, printElems, print_printed value, printElems_printed elems]

lemma printFields_printed : ∀ (fields : List (String × Json)) (d : Nat),
    printFields layout numberText d (Json.printedFields fields) = printFields layout numberText d fields
  | [], _ => rfl
  | field :: fields, d => by
      rw [Json.printedFields, printFields, printFields, printField_printed field, printFields_printed fields]

lemma printField_printed : ∀ (field : String × Json) (d : Nat),
    printField layout numberText d (Json.printedField field) = printField layout numberText d field
  | (key, value), d => by rw [Json.printedField, printField, printField, print_printed value]

end

end Printing

/-! ## Values that printing keeps -/

variable (numberOf : String → JsNumber) (numberText : ℚ → String)

/-- The numeral of a number is read back. -/
structure ReadsBack (q : ℚ) : Prop where
  numeral : JsRegExp.matchesWhole numeral (numberText q) = true
  chars : ∀ c ∈ (numberText q).toList, isNumberChar c = true
  value : numberOf (numberText q) = .finite q

mutual

def Readable : Json → Prop
  | .num (.finite q) => ReadsBack numberOf numberText q
  | .num _ => False
  | .arr elems => ReadableElems elems
  | .obj fields => ofMembers fields = fields ∧ ReadableFields fields
  | .null | .bool _ | .str _ => True

def ReadableElems : List Json → Prop
  | [] => True
  | value :: elems => Readable value ∧ ReadableElems elems

def ReadableFields : List (String × Json) → Prop
  | [] => True
  | field :: fields => ReadableField field ∧ ReadableFields fields

def ReadableField : String × Json → Prop
  | (_, value) => Readable value

end

variable {numberOf numberText} {fields : List (String × Json)}

@[simp] lemma readableFields_append {rest : List (String × Json)} :
    ReadableFields numberOf numberText (fields ++ rest) ↔
      ReadableFields numberOf numberText fields ∧ ReadableFields numberOf numberText rest := by
  induction fields with
  | nil => simp [ReadableFields]
  | cons field fields ih => simp [ReadableFields, ih, and_assoc]

lemma ofMembers_eq_self (hnodup : (fields.map Prod.fst).Nodup)
    (hindex : ∀ key ∈ fields.map Prod.fst, isIndexKey key = false) : ofMembers fields = fields := by
  have hset : ∀ {fields : List (String × Json)} {key : String} (value : Json),
      key ∉ fields.map Prod.fst → Json.setField key value fields = fields ++ [(key, value)] := by
    intro fields key value hkey
    induction fields with
    | nil => rfl
    | cons field fields ih =>
      obtain ⟨k, v⟩ := field
      simp only [map_cons, mem_cons, not_or] at hkey
      simp [Json.setField, Ne.symm hkey.1, ih hkey.2]
  have hfold : ∀ fields done : List (String × Json), ((done ++ fields).map Prod.fst).Nodup →
      fields.foldl (fun fields (key, value) => Json.setField key value fields) done = done ++ fields := by
    intro fields
    induction fields with
    | nil => simp
    | cons field fields ih =>
      intro done hdone
      obtain ⟨k, v⟩ := field
      have hk : k ∉ done.map Prod.fst := by
        intro hmem
        rw [map_append, nodup_append] at hdone
        exact hdone.2.2 k hmem k (by simp) rfl
      simp only [foldl_cons, hset v hk]
      rw [ih _ (by simpa using hdone)]
      simp
  have hall : ∀ field ∈ fields, isIndexKey field.1 = false :=
    fun field hfield => hindex field.1 (mem_map_of_mem hfield)
  have hnone : fields.filter (fun field => isIndexKey field.1) = [] := by simpa using hall
  have hothers : fields.filter (fun field => !isIndexKey field.1) = fields := by simpa using hall
  have hfields := hfold fields [] (by simpa using hnodup)
  rw [nil_append] at hfields
  simp only [ofMembers, hfields, hnone, hothers, insertionSort_nil, nil_append]

/-! ## Strings -/

lemma readableElems_iff {elems : List Json} : ReadableElems numberOf numberText elems ↔
    ∀ value ∈ elems, Readable numberOf numberText value := by
  induction elems with
  | nil => simp [ReadableElems]
  | cons value elems ih => simp [ReadableElems, ih]

lemma readable_obj (keys : List String) (hkeys : fields.map Prod.fst = keys)
    (horder : keys.Nodup ∧ ∀ key ∈ keys, isIndexKey key = false) (hfields : ReadableFields numberOf numberText fields) :
    Readable numberOf numberText (.obj fields) := by
  refine ⟨ofMembers_eq_self ?_ ?_, hfields⟩
  · rw [hkeys]
    exact horder.1
  · rw [hkeys]
    exact horder.2

lemma hexValue_hexDigitOf {n : Nat} (h : n < 16) : hexValue (hexDigitOf n) = some n := by
  have hdigits : ∀ n < 16, hexValue (hexDigitOf n) = some n := by decide
  exact hdigits n h

lemma parseStringBody_quoteChar (c : Char) (cs : List Char) :
    parseStringBody (quoteChar c ++ cs) = (parseStringBody cs).map fun (units, rest) => (c.toNat :: units, rest) := by
  have hbind : ∀ n : Nat, ((parseStringBody cs).bind fun x => some (n :: x.1, x.2)) =
      (parseStringBody cs).map fun (units, rest) => (n :: units, rest) := by
    intro n
    cases parseStringBody cs <;> rfl
  unfold quoteChar
  split_ifs with hquote hslash hb hf hn hr ht hlow
  · subst hquote
    simpa [parseStringBody, simpleEscape] using hbind '"'.toNat
  · subst hslash
    simpa [parseStringBody, simpleEscape] using hbind '\\'.toNat
  · subst hb
    simpa [parseStringBody, simpleEscape] using hbind '\x08'.toNat
  · subst hf
    simpa [parseStringBody, simpleEscape] using hbind '\x0c'.toNat
  · subst hn
    simpa [parseStringBody, simpleEscape] using hbind '\n'.toNat
  · subst hr
    simpa [parseStringBody, simpleEscape] using hbind '\r'.toNat
  · subst ht
    simpa [parseStringBody, simpleEscape] using hbind '\t'.toNat
  · have hhigh := hexValue_hexDigitOf (n := c.toNat / 16) (by omega)
    have hlast := hexValue_hexDigitOf (n := c.toNat % 16) (by omega)
    have hunit : hexUnit '0' '0' (hexDigitOf (c.toNat / 16)) (hexDigitOf (c.toNat % 16)) = some c.toNat := by
      have hzero : hexValue '0' = some 0 := by decide
      simp only [hexUnit, hzero, hhigh, hlast, Option.bind_eq_bind, Option.bind_some]
      simp
      omega
    simpa [parseStringBody, hunit] using hbind c.toNat
  · rw [singleton_append, parseStringBody.eq_5 _ _ hquote (fun _ _ _ _ _ h => absurd h hslash)
      (fun _ _ h => absurd h hslash), if_neg hlow]
    exact hbind c.toNat

lemma isSurrogate_toNat (c : Char) : isSurrogate c.toNat = false := by
  have hvalid := c.valid
  simp only [UInt32.isValidChar, Nat.isValidChar] at hvalid
  have hnat : c.toNat = c.val.toNat := rfl
  simp only [isSurrogate, Bool.and_eq_false_iff, decide_eq_false_iff_not]
  omega

lemma joinSurrogates_toNat (cs : List Char) : joinSurrogates (cs.map Char.toNat) = cs := by
  induction cs with
  | nil => rfl
  | cons c cs ih =>
    have hc := isSurrogate_toNat c
    have hhigh : isHighSurrogate c.toNat = false := by
      simp only [isSurrogate, isHighSurrogate, Bool.and_eq_false_iff, decide_eq_false_iff_not]
        at hc ⊢
      omega
    cases cs with
    | nil => simp [joinSurrogates, hc]
    | cons d cs =>
      simp only [map_cons] at ih ⊢
      simp [joinSurrogates, hc, hhigh, ih]

lemma parseString_quote (text : String) (rest : List Char) :
    parseString (text.toList.flatMap quoteChar ++ '"' :: rest) = some (text, rest) := by
  have hbody : ∀ cs : List Char, parseStringBody (cs.flatMap quoteChar ++ '"' :: rest) =
      some (cs.map Char.toNat, rest) := by
    intro cs
    induction cs with
    | nil => simp [parseStringBody]
    | cons c cs ih =>
      rw [flatMap_cons, append_assoc, parseStringBody_quoteChar, ih]
      rfl
  simp [parseString, hbody, joinSurrogates_toNat]

/-! ## Values -/

/-- The text reads as the value, whatever follows it, unless that continues a numeral. -/
def ReadsAs (numberOf : String → JsNumber) (text : List Char) (value : Json) : Prop :=
  ∀ (rest : List Char) (fuel : Nat), (rest.head?.all fun c => !isNumberChar c) = true →
    2 * text.length ≤ fuel → parseValue numberOf fuel (text ++ rest) = some (value, rest)

lemma skipSpace_cons {c : Char} (hc : isJsonSpace c = false) (r : List Char) : skipSpace (c :: r) = c :: r :=
  dropWhile_cons_of_neg (by simp [hc])

variable {sp text : List Char} {value : Json}

lemma ReadsAs.spaces (h : ReadsAs numberOf text value)
    (hsp : ∀ c ∈ sp, isJsonSpace c = true) : ReadsAs numberOf (sp ++ text) value := by
  intro rest fuel hrest hfuel
  rw [length_append] at hfuel
  rw [append_assoc, parseValue_spaces hsp]
  exact h rest fuel hrest (by omega)

lemma readsAs_of_step (hne : text ≠ [])
    (h : ∀ (rest : List Char) (fuel : Nat), (rest.head?.all fun c => !isNumberChar c) = true →
      2 * text.length ≤ fuel + 1 → ValueStep numberOf fuel (text ++ rest) value rest) :
    ReadsAs numberOf text value := by
  intro rest fuel hrest hfuel
  have hlength := length_pos_iff.2 hne
  obtain ⟨fuel, rfl⟩ : ∃ f, fuel = f + 1 := ⟨fuel - 1, by omega⟩
  exact parseValue_succ_iff.2 (h rest fuel hrest hfuel)

lemma readsAs_number {q : ℚ} (h : ReadsBack numberOf numberText q) :
    ReadsAs numberOf (numberText q).toList (.num (.finite q)) := by
  have hne : (numberText q).toList ≠ [] := by
    intro hnil
    have hempty : JsRegExp.matchesWhole numeral "" = false := by decide +kernel
    have htext : numberText q = "" := by simpa using hnil
    have hwhole := h.numeral
    rw [htext, hempty] at hwhole
    cases hwhole
  refine readsAs_of_step hne fun rest fuel hrest _ => .number ?_
  have hhead : ∀ c ∈ rest.head?, isNumberChar c = false := by
    intro c hc
    simpa [Option.mem_def.1 hc] using hrest
  have hskip : skipSpace ((numberText q).toList ++ rest) = (numberText q).toList ++ rest := by
    cases hcs : (numberText q).toList with
    | nil => exact absurd hcs hne
    | cons c cs =>
      have hc : isNumberChar c = true := h.chars c (by simp [hcs])
      have hspace : isJsonSpace c = false := by
        by_contra hspace
        simp [isNumberChar_of_isJsonSpace (by simpa using hspace)] at hc
      exact skipSpace_cons hspace (cs ++ rest)
  have htake : ((numberText q).toList ++ rest).takeWhile isNumberChar = (numberText q).toList :=
    JsText.takeWhile_append_of_head rest h.chars hhead
  have hdrop : ((numberText q).toList ++ rest).dropWhile isNumberChar = rest := by
    rw [dropWhile_append_of_pos h.chars]
    cases rest with
    | nil => rfl
    | cons c rest => rw [dropWhile_cons_of_neg (by simp [hhead c rfl])]
  unfold parseNumber
  rw [hskip, htake, hdrop, String.ofList_toList, if_pos h.numeral, h.value]

lemma readsAs_word (h : (text, value) ∈ words) : ReadsAs numberOf text value := by
  obtain ⟨c, t, rfl, -⟩ := word_shape h
  have hc : isJsonSpace c = false := by
    simp only [words, mem_cons, not_mem_nil, or_false, Prod.mk.injEq] at h
    rcases h with ⟨hword, -⟩ | ⟨hword, -⟩ | ⟨hword, -⟩ <;>
      · obtain ⟨rfl, -⟩ := List.cons.inj hword
        decide
  exact readsAs_of_step (by simp) fun rest fuel _ _ =>
    .word h (skipSpace_cons hc (t ++ rest))

variable (layout : Layout)

lemma print_head (h : Readable numberOf numberText value) (d : Nat) :
    ∃ c cs, print layout numberText d value = c :: cs ∧ isJsonSpace c = false ∧ c ≠ ']' := by
  cases value with
  | null => exact ⟨_, _, rfl, by decide, by decide⟩
  | bool b => cases b <;> exact ⟨_, _, rfl, by decide, by decide⟩
  | num n =>
    cases n with
    | finite q =>
      have hread := readsAs_number h [] _ rfl le_rfl
      cases hcs : (numberText q).toList with
      | nil =>
        rw [hcs] at hread
        simp [parseValue] at hread
      | cons c cs =>
        have hc : isNumberChar c = true := h.chars c (by simp [hcs])
        refine ⟨c, cs, by rw [print, hcs], ?_, ?_⟩
        · by_contra hspace
          simp [isNumberChar_of_isJsonSpace (by simpa using hspace)] at hc
        · rintro rfl
          exact absurd hc (by decide)
    | infinity _ => exact absurd h (by simp [Readable])
    | nan => exact absurd h (by simp [Readable])
  | str text => exact ⟨_, _, rfl, by decide, by decide⟩
  | arr elems => cases elems <;> exact ⟨_, _, rfl, by decide, by decide⟩
  | obj fields => cases fields <;> exact ⟨_, _, rfl, by decide, by decide⟩

variable {fuel : Nat}

lemma parseElements_more {tail rest : List Char} {elems : List Json} (hvalue : ReadsAs numberOf text value)
    (hfuel : 2 * text.length ≤ fuel) (htail : parseElements numberOf fuel tail = some (elems, rest)) :
    parseElements numberOf (fuel + 1) (text ++ ',' :: tail) = some (value :: elems, rest) :=
  parseElements_succ_iff.2 (.more (hvalue _ fuel (by simp [isNumberChar]) hfuel)
    (skipSpace_cons (by decide) tail) htail)

lemma parseElements_last (rest : List Char) (hvalue : ReadsAs numberOf text value) (hfuel : 2 * text.length ≤ fuel)
    (hsp : ∀ c ∈ sp, isJsonSpace c = true) :
    parseElements numberOf (fuel + 1) (text ++ (sp ++ ']' :: rest)) = some ([value], rest) :=
  parseElements_succ_iff.2 (.last (hvalue _ fuel (bounded_spaces hsp (by decide) rest) hfuel)
    (skipSpace_append hsp (by decide) rest))

lemma parseMembers_spaces (hsp : ∀ x ∈ sp, isJsonSpace x = true) (fuel : Nat)
    (cs : List Char) : parseMembers numberOf fuel (sp ++ cs) = parseMembers numberOf fuel cs := by
  cases fuel with
  | zero => rfl
  | succ fuel =>
    have hskip : skipSpace (sp ++ cs) = skipSpace cs := dropWhile_append_of_pos hsp
    unfold parseMembers
    rw [hskip]

lemma parseMembers_more (key : String) {tail rest : List Char}
    {members : List (String × Json)} (hvalue : ReadsAs numberOf text value)
    (hfuel : 2 * text.length ≤ fuel) (hsp : ∀ c ∈ sp, isJsonSpace c = true)
    (htail : parseMembers numberOf fuel tail = some (members, rest)) :
    parseMembers numberOf (fuel + 1) ('"' :: (key.toList.flatMap quoteChar ++ '"' :: ':' ::
      (text ++ ',' :: (sp ++ tail)))) = some ((key, value) :: members, rest) :=
  parseMembers_succ_iff.2 (.more (skipSpace_cons (by decide) _)
    (parseString_quote key _) (skipSpace_cons (by decide) _)
    (hvalue _ fuel (by simp [isNumberChar]) hfuel)
    (skipSpace_cons (by decide) _)
    (by rw [parseMembers_spaces hsp, htail]))

mutual

lemma readsAs_print : ∀ (value : Json) (d : Nat), Readable numberOf numberText value →
    ReadsAs numberOf (print layout numberText d value) value
  | .null, _, _ => readsAs_word (by simp [words, print])
  | .bool true, _, _ => readsAs_word (by simp [words, print])
  | .bool false, _, _ => readsAs_word (by simp [words, print])
  | .num (.finite _), _, h => readsAs_number h
  | .num (.infinity _), _, h => by simp [Readable] at h
  | .num .nan, _, h => by simp [Readable] at h
  | .str text, d, _ => by
      refine readsAs_of_step (by simp [print, quote]) fun rest fuel _ _ => ?_
      refine .string (r := text.toList.flatMap quoteChar ++ '"' :: rest) ?_ (parseString_quote text rest)
      simp [print, quote, skipSpace, isJsonSpace]
  | .arr [], _, _ => by
      refine readsAs_of_step (by simp [print]) fun rest fuel _ _ => ?_
      exact .emptyList (r := ']' :: rest) (by simp [print, skipSpace, isJsonSpace])
        (by simp [skipSpace, isJsonSpace])
  | .arr (value :: elems), d, h => by
      obtain ⟨hvalue, helems⟩ : Readable numberOf numberText value ∧ ReadableElems numberOf numberText elems := h
      refine readsAs_of_step (by simp [print]) fun rest fuel _ hfuel => ?_
      obtain ⟨c, cs, hcs, hc, hclose⟩ := print_head layout hvalue (d + 1)
      simp only [print, length_cons, length_append] at hfuel
      have hskip : skipSpace (layout.gap (d + 1) ++ (print layout numberText (d + 1) value ++
            (printElems layout numberText d elems ++ rest))) = print layout numberText (d + 1) value ++
            (printElems layout numberText d elems ++ rest) := by
        rw [hcs]
        exact skipSpace_append (layout.gap_space _) hc _
      refine .list (r := layout.gap (d + 1) ++ (print layout numberText (d + 1) value ++
          (printElems layout numberText d elems ++ rest))) ?_ ?_ ?_
      · simp [print, skipSpace, isJsonSpace]
      · rw [hskip, hcs]
        simpa using hclose
      · rw [hskip]
        refine parseElements_printElems elems d helems rest fuel (readsAs_print value (d + 1) hvalue) ?_
        simp only [length_append]
        omega
  | .obj [], _, _ => by
      refine readsAs_of_step (by simp [print]) fun rest fuel _ _ => ?_
      exact .emptyObject (r := '}' :: rest) (by simp [print, skipSpace, isJsonSpace])
        (by simp [skipSpace, isJsonSpace])
  | .obj ((key, value) :: fields), d, h => by
      obtain ⟨horder, hvalue, hfields⟩ : ofMembers ((key, value) :: fields) = (key, value) :: fields ∧
          Readable numberOf numberText value ∧ ReadableFields numberOf numberText fields := h
      refine readsAs_of_step (by simp [print]) fun rest fuel _ hfuel => ?_
      simp only [print, printField, length_cons, length_append] at hfuel
      have hskip := skipSpace_append (layout.gap_space (d + 1)) (c := '"') (by decide)
        (key.toList.flatMap quoteChar ++ '"' :: ':' :: (layout.afterColon ++
          print layout numberText (d + 1) value ++ (printFields layout numberText d fields ++ rest)))
      have hmembers := parseMembers_printFields fields d key hfields rest fuel
        ((readsAs_print value (d + 1) hvalue).spaces layout.afterColon_space)
        (by simp only [length_append]; omega)
      have hstep : ValueStep numberOf fuel (print layout numberText d (.obj ((key, value) :: fields)) ++ rest)
          (.obj (ofMembers ((key, value) :: fields))) rest :=
        .object (r := layout.gap (d + 1) ++ '"' :: (key.toList.flatMap quoteChar ++ '"' :: ':' ::
            (layout.afterColon ++ print layout numberText (d + 1) value ++
              (printFields layout numberText d fields ++ rest))))
          (by simp [print, printField, quote, skipSpace, isJsonSpace])
          (by rw [hskip]; simp) (by rw [hskip]; exact hmembers)
      rwa [horder] at hstep

lemma parseElements_printElems : ∀ (elems : List Json) (d : Nat), ReadableElems numberOf numberText elems →
      ∀ {value : Json} {text : List Char} (rest : List Char) (fuel : Nat), ReadsAs numberOf text value →
        2 * (text ++ printElems layout numberText d elems).length ≤ fuel →
        parseElements numberOf fuel (text ++ (printElems layout numberText d elems ++ rest)) =
          some (value :: elems, rest)
  | [], d, _, value, text, rest, fuel, hread, hfuel => by
      simp only [printElems, length_append, length_singleton] at hfuel
      obtain ⟨fuel, rfl⟩ : ∃ f, fuel = f + 1 := ⟨fuel - 1, by omega⟩
      simpa [printElems] using parseElements_last rest hread (show 2 * text.length ≤ fuel by omega)
        (layout.gap_space d)
  | next :: elems, d, h, value, text, rest, fuel, hread, hfuel => by
      obtain ⟨hnext, helems⟩ : Readable numberOf numberText next ∧ ReadableElems numberOf numberText elems := h
      simp only [printElems, length_append, length_cons] at hfuel
      obtain ⟨fuel, rfl⟩ : ∃ f, fuel = f + 1 := ⟨fuel - 1, by omega⟩
      have htail := parseElements_printElems elems d helems rest fuel
        ((readsAs_print next (d + 1) hnext).spaces (layout.gap_space (d + 1)))
        (by simp only [length_append]; omega)
      simpa [printElems] using parseElements_more hread (by omega) htail

lemma parseMembers_printFields : ∀ (fields : List (String × Json)) (d : Nat) (key : String),
    ReadableFields numberOf numberText fields →
      ∀ {value : Json} {text : List Char} (rest : List Char) (fuel : Nat), ReadsAs numberOf text value →
        2 * (text ++ printFields layout numberText d fields).length ≤ fuel →
        parseMembers numberOf fuel ('"' :: (key.toList.flatMap quoteChar ++ '"' :: ':' ::
            (text ++ (printFields layout numberText d fields ++ rest)))) =
          some ((key, value) :: fields, rest)
  | [], d, key, _, value, text, rest, fuel, hread, hfuel => by
      simp only [printFields, length_append, length_singleton] at hfuel
      obtain ⟨fuel, rfl⟩ : ∃ f, fuel = f + 1 := ⟨fuel - 1, by omega⟩
      refine parseMembers_succ_iff.2 (.last (skipSpace_cons (by decide) _)
        (parseString_quote key _) (skipSpace_cons (by decide) _) ?_
        (skipSpace_append (layout.gap_space d) (by decide) rest))
      have hlast := hread _ fuel (bounded_spaces (layout.gap_space d) (c := '}') (by decide)
        rest) (by omega)
      simpa [printFields] using hlast
  | (next, field) :: fields, d, key, h, value, text, rest, fuel, hread, hfuel => by
      obtain ⟨hfield, hfields⟩ : Readable numberOf numberText field ∧ ReadableFields numberOf numberText fields := h
      simp only [printFields, printField, length_append, length_cons] at hfuel
      obtain ⟨fuel, rfl⟩ : ∃ f, fuel = f + 1 := ⟨fuel - 1, by omega⟩
      have htail := parseMembers_printFields fields d next hfields rest fuel
        ((readsAs_print field (d + 1) hfield).spaces layout.afterColon_space)
        (by simp only [length_append]; omega)
      simpa [printFields, printField, quote] using parseMembers_more key hread (by omega)
        (layout.gap_space (d + 1)) htail

end

lemma parse_print (h : Readable numberOf numberText value) (sp sp' : List Char)
    (hsp : ∀ c ∈ sp, isJsonSpace c = true) (hsp' : ∀ c ∈ sp', isJsonSpace c = true) (d : Nat) :
    parse numberOf (sp ++ (print layout numberText d value ++ sp')) = some value := by
  refine parse_eq_some_iff.2 ⟨sp', ?_, hsp'⟩
  rw [parseValue_spaces hsp]
  refine readsAs_print layout value d h _ _ (bounded_of_spaces hsp') ?_
  simp only [length_append]
  omega

end AgentPipeline.JsonText
