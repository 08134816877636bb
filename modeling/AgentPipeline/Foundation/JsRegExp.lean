import AgentPipeline.Foundation.JsText

/-!
# JsRegExp: backtracking matches of ECMAScript patterns

The fragment of the pattern language in which only character classes are repeated. `matchAt`
lists the ends of all matches from a position in the order in which the language tries them, so
its head is the match that `replace` takes. Patterns carry no flag: a case-insensitive letter is
the class of both cases (`letter`), and `replaceAll` is the global flag.
-/

namespace JsRegExp

/-- A position in a text: the character before it, which decides `\b`, and the rest. -/
structure Cursor where
  before : Option Char
  rest : List Char
deriving DecidableEq, Repr

inductive Pattern where
  | empty
  | seq (first second : Pattern)
  | alt (first second : Pattern)
  /-- `[p]{least,most}`, greedy; `none` is no upper limit. -/
  | many (p : Char → Bool) (least : Nat) (most : Option Nat)
  /-- `\b`. -/
  | wordBoundary
  /-- `$` without the multiline flag. -/
  | atEnd

/-! ## Building blocks -/

def isWordChar (c : Char) : Bool := c.isAlphanum || c = '_'

def isHexDigit (c : Char) : Bool := c.isDigit || ('a' ≤ c && c ≤ 'f')

namespace Pattern

def char (p : Char → Bool) : Pattern := many p 1 (some 1)

def repeated (p : Char → Bool) (n : Nat) : Pattern := many p n (some n)

def literal (text : String) : Pattern :=
  text.toList.foldr (fun c rest => seq (char (· = c)) rest) empty

/-- An ASCII letter in either case. -/
def letter (c : Char) : Pattern := char fun x => x.toLower = c.toLower

/-- `(?:p)?`, greedy. -/
def optional (p : Pattern) : Pattern := alt p empty

def sequence (ps : List Pattern) : Pattern := ps.foldr seq empty

end Pattern

/-! ## Matching -/

def Cursor.advance (c : Cursor) (n : Nat) : Cursor where
  before := if n = 0 then c.before else (c.rest.take n).getLast?
  rest := c.rest.drop n

/-- The ends of the matches at a position, best first. -/
def matchAt : Pattern → Cursor → List Cursor
  | .empty, c => [c]
  | .seq a b, c => (matchAt a c).flatMap (matchAt b)
  | .alt a b, c => matchAt a c ++ matchAt b c
  | .many p least most, c =>
    let run := (c.rest.takeWhile p).length
    let longest := match most with
      | some most => min run most
      | none => run
    -- greedy: the longest repetition first, then one less at a time
    ((List.range (longest + 1 - least)).map fun i => c.advance (longest - i))
  | .wordBoundary, c =>
    if c.before.any isWordChar = c.rest.head?.any isWordChar then [] else [c]
  | .atEnd, c => if c.rest.isEmpty then [c] else []

/-- Scan the text; every match is replaced, or only the first one. -/
def scan (everywhere : Bool) (p : Pattern) (replacement : List Char) : Nat → Cursor → List Char
  | 0, c => c.rest
  | fuel + 1, c =>
    let copyOne := fun (next : Cursor) => match next.rest with
      | [] => []
      | x :: _ => x :: scan everywhere p replacement fuel (next.advance 1)
    match (matchAt p c).head? with
    | none => copyOne c
    | some next =>
      replacement ++ if !everywhere then next.rest
        -- an empty match moves on by one character
        else if next.rest.length = c.rest.length then copyOne next
        else scan everywhere p replacement fuel next

def start (text : String) : Cursor := ⟨none, text.toList⟩

/-- `text.replace(/p/g, replacement)`. -/
def replaceAll (p : Pattern) (replacement text : String) : String :=
  String.ofList (scan true p replacement.toList (text.length + 1) (start text))

/-- `text.replace(/p/, replacement)`. -/
def replaceFirst (p : Pattern) (replacement text : String) : String :=
  String.ofList (scan false p replacement.toList (text.length + 1) (start text))

/-- `/^p$/.test(text)`. -/
def matchesWhole (p : Pattern) (text : String) : Bool :=
  (matchAt p (start text)).any (·.rest.isEmpty)

end JsRegExp
