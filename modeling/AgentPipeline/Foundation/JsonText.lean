import Mathlib.Data.List.Sort
import AgentPipeline.Foundation.JsRegExp
import AgentPipeline.Foundation.Json

/-!
# JsonText: reading and printing JSON texts

`JSON.parse` and `JSON.stringify` on sequences of Unicode scalar values. A surrogate that an escape
writes alone is no scalar value and reads as U+FFFD. What a numeral denotes, and how a number is
printed, is left to the host.

* `parse`: the value of a text, `none` for a `SyntaxError`;
* `stringify`: a value printed without spaces.
-/

namespace AgentPipeline.JsonText

/-! ## Strings -/

def isJsonSpace (c : Char) : Bool := c = ' ' || c = '\t' || c = '\n' || c = '\r'

def skipSpace (cs : List Char) : List Char := cs.dropWhile isJsonSpace

/-- The value of a hex digit in either case. -/
def hexValue (c : Char) : Option Nat :=
  if c.isDigit then some (c.toNat - 48)
  else if 'a' ≤ c ∧ c ≤ 'f' then some (c.toNat - 87)
  else if 'A' ≤ c ∧ c ≤ 'F' then some (c.toNat - 55)
  else none

/-- The code unit of `\uXXXX`. -/
def hexUnit (a b c d : Char) : Option Nat := do
  let a ← hexValue a
  let b ← hexValue b
  let c ← hexValue c
  let d ← hexValue d
  return ((a * 16 + b) * 16 + c) * 16 + d

/-- The character of a one-letter escape. -/
def simpleEscape (c : Char) : Option Char :=
  if c = '"' ∨ c = '\\' ∨ c = '/' then some c
  else if c = 'b' then some '\x08'
  else if c = 'f' then some '\x0c'
  else if c = 'n' then some '\n'
  else if c = 'r' then some '\r'
  else if c = 't' then some '\t'
  else none

/-- The code points up to the closing quotation mark, and what follows it. -/
def parseStringBody : List Char → Option (List Nat × List Char)
  | [] => none
  | '"' :: rest => some ([], rest)
  | '\\' :: 'u' :: a :: b :: c :: d :: rest => do
      let unit ← hexUnit a b c d
      let (units, rest) ← parseStringBody rest
      return (unit :: units, rest)
  | '\\' :: e :: rest => do
      let c ← simpleEscape e
      let (units, rest) ← parseStringBody rest
      return (c.toNat :: units, rest)
  | c :: rest =>
    if c.toNat < 0x20 then none
    else do
      let (units, rest) ← parseStringBody rest
      return (c.toNat :: units, rest)

def isHighSurrogate (n : Nat) : Bool := 0xD800 ≤ n && n ≤ 0xDBFF

def isLowSurrogate (n : Nat) : Bool := 0xDC00 ≤ n && n ≤ 0xDFFF

def isSurrogate (n : Nat) : Bool := 0xD800 ≤ n && n ≤ 0xDFFF

/-- Two surrogates are one character. -/
def joinSurrogates : List Nat → List Char
  | high :: low :: rest =>
    if isHighSurrogate high && isLowSurrogate low then
      Char.ofNat (0x10000 + (high - 0xD800) * 0x400 + (low - 0xDC00)) :: joinSurrogates rest
    else
      (if isSurrogate high then '\uFFFD' else Char.ofNat high) :: joinSurrogates (low :: rest)
  | [unit] => [if isSurrogate unit then '\uFFFD' else Char.ofNat unit]
  | [] => []

def parseString (cs : List Char) : Option (String × List Char) :=
  (parseStringBody cs).map fun (units, rest) => (String.ofList (joinSurrogates units), rest)

/-! ## Numbers -/

def isNumberChar (c : Char) : Bool :=
  c.isDigit || c = '-' || c = '+' || c = '.' || c = 'e' || c = 'E'

/-- `-?(0|[1-9][0-9]*)(\.[0-9]+)?([eE][+-]?[0-9]+)?`. -/
def numeral : JsRegExp.Pattern :=
  let digits := JsRegExp.Pattern.many Char.isDigit 1 none
  .sequence
    [.optional (.literal "-"), .alt (.literal "0")
        (.seq (.char fun c => c.isDigit && c ≠ '0') (.many Char.isDigit 0 none)),
      .optional (.seq (.literal ".") digits),
      .optional (.sequence
        [.char fun c => c = 'e' || c = 'E', .optional (.char fun c => c = '+' || c = '-'), digits])]

/-- A numeral ends where no character can continue one. -/
def parseNumber (numberOf : String → JsNumber) (cs : List Char) : Option (Json × List Char) :=
  let text := String.ofList (cs.takeWhile isNumberChar)
  if JsRegExp.matchesWhole numeral text then
    some (.num (numberOf text), cs.dropWhile isNumberChar)
  else none

/-! ## Objects -/

/-- A key that enumeration puts first: the canonical numeral of an array index. -/
def indexKey? (key : String) : Option Nat :=
  if key.toList.all Char.isDigit ∧ key ≠ "" ∧ (key = "0" ∨ key.toList.head? ≠ some '0') then
    let n := Nat.ofDigitChars 10 key.toList 0
    if n < 4294967295 then some n else none
  else none

def isIndexKey (key : String) : Bool := (indexKey? key).isSome

/-- The fields of an object in enumeration order: a later field replaces an earlier one of its
name, and array indices come first. -/
def ofMembers (members : List (String × Json)) : List (String × Json) :=
  let fields := members.foldl (fun fields (key, value) => Json.setField key value fields) []
  (fields.filter fun field => isIndexKey field.1).insertionSort
      (fun a b => (indexKey? a.1).getD 0 ≤ (indexKey? b.1).getD 0) ++
    fields.filter fun field => !isIndexKey field.1

/-! ## Values -/

section Parsing

variable (numberOf : String → JsNumber)

def dropText (text : String) (cs : List Char) : Option (List Char) :=
  if text.toList.isPrefixOf cs then some (cs.drop text.length) else none

mutual

/-- A value and what follows it; `fuel` bounds the depth and the number of its parts. -/
def parseValue : Nat → List Char → Option (Json × List Char)
  | 0, _ => none
  | fuel + 1, cs =>
    match skipSpace cs with
    | '"' :: rest => (parseString rest).map fun (text, rest) => (.str text, rest)
    | '[' :: rest =>
      match skipSpace rest with
      | ']' :: rest => some (.arr [], rest)
      | rest => (parseElements fuel rest).map fun (elems, rest) => (.arr elems, rest)
    | '{' :: rest =>
      match skipSpace rest with
      | '}' :: rest => some (.obj [], rest)
      | rest =>
        (parseMembers fuel rest).map fun (members, rest) => (.obj (ofMembers members), rest)
    | 't' :: rest => (dropText "rue" rest).map fun rest => (.bool true, rest)
    | 'f' :: rest => (dropText "alse" rest).map fun rest => (.bool false, rest)
    | 'n' :: rest => (dropText "ull" rest).map fun rest => (.null, rest)
    | rest => parseNumber numberOf rest

/-- The elements up to the closing bracket. -/
def parseElements : Nat → List Char → Option (List Json × List Char)
  | 0, _ => none
  | fuel + 1, cs => do
      let (value, rest) ← parseValue fuel cs
      match skipSpace rest with
      | ']' :: rest => return ([value], rest)
      | ',' :: rest => do
          let (elems, rest) ← parseElements fuel rest
          return (value :: elems, rest)
      | _ => none

/-- The members up to the closing brace. -/
def parseMembers : Nat → List Char → Option (List (String × Json) × List Char)
  | 0, _ => none
  | fuel + 1, cs => do
      let '"' :: rest := skipSpace cs | none
      let (key, rest) ← parseString rest
      let ':' :: rest := skipSpace rest | none
      let (value, rest) ← parseValue fuel rest
      match skipSpace rest with
      | '}' :: rest => return ([(key, value)], rest)
      | ',' :: rest => do
          let (members, rest) ← parseMembers fuel rest
          return ((key, value) :: members, rest)
      | _ => none

end

/-- `JSON.parse(text)`. Every part of a value takes a character at least. -/
def parse (text : List Char) : Option Json :=
  match parseValue numberOf (2 * text.length + 2) text with
  | some (value, rest) => if skipSpace rest = [] then some value else none
  | none => none

end Parsing

/-! ## Printing -/

def hexDigitOf (n : Nat) : Char :=
  if n < 10 then Char.ofNat (48 + n) else Char.ofNat (87 + n)

/-- A character of a printed string. -/
def quoteChar (c : Char) : List Char :=
  if c = '"' then ['\\', '"']
  else if c = '\\' then ['\\', '\\']
  else if c = '\x08' then ['\\', 'b']
  else if c = '\x0c' then ['\\', 'f']
  else if c = '\n' then ['\\', 'n']
  else if c = '\r' then ['\\', 'r']
  else if c = '\t' then ['\\', 't']
  else if c.toNat < 0x20 then
    ['\\', 'u', '0', '0', hexDigitOf (c.toNat / 16), hexDigitOf (c.toNat % 16)]
  else [c]

def quote (text : String) : List Char :=
  '"' :: text.toList.flatMap quoteChar ++ ['"']

variable (numberText : ℚ → String)

mutual

/-- `JSON.stringify(value)`. -/
def stringify : Json → List Char
  | .null => ['n', 'u', 'l', 'l']
  | .bool true => ['t', 'r', 'u', 'e']
  | .bool false => ['f', 'a', 'l', 's', 'e']
  | .num (.finite q) => (numberText q).toList
  | .num _ => ['n', 'u', 'l', 'l']
  | .str text => quote text
  | .arr [] => ['[', ']']
  | .arr (value :: elems) => '[' :: stringify value ++ stringifyElems elems
  | .obj [] => ['{', '}']
  | .obj (field :: fields) => '{' :: stringifyField field ++ stringifyFields fields

/-- The elements after the first one. -/
def stringifyElems : List Json → List Char
  | [] => [']']
  | value :: elems => ',' :: stringify value ++ stringifyElems elems

/-- The fields after the first one. -/
def stringifyFields : List (String × Json) → List Char
  | [] => ['}']
  | field :: fields => ',' :: stringifyField field ++ stringifyFields fields

def stringifyField : String × Json → List Char
  | (key, value) => quote key ++ ':' :: stringify value

end

end AgentPipeline.JsonText
