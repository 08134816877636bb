import AgentPipeline.Foundation.JsRegExp

/-!
# JsExec: searching with assertions and capture groups

`RegExp.prototype.exec` on the patterns of `JsRegExp`, with what searching adds to them: the
anchors of the multiline flag, lazy repetition of a class, lookahead and numbered groups.

* `ends`: the ends of all matches at a place, best first, with the groups they captured;
* `exec`: the first place of a text that matches, and its best match;
* `matchAll`: the successive matches of the global flag;
* `splitLines`: `text.split("\n")`.
-/

namespace JsRegExp

/-- `LineTerminator`, which `^` and `$` of the multiline flag see and `.` does not match. -/
def isLineTerminator (c : Char) : Bool :=
  c = '\n' || c = '\r' || c.toNat == 0x2028 || c.toNat == 0x2029

/-- The class `.`. -/
def isDot (c : Char) : Bool := !isLineTerminator c

inductive Regex where
  | plain (p : Pattern)
  | seq (first second : Regex)
  | alt (first second : Regex)
  /-- `[p]{least,}?`. -/
  | lazy (p : Char → Bool) (least : Nat)
  /-- `^` without the multiline flag. -/
  | textStart
  /-- `^` and `$` of the multiline flag. -/
  | lineStart
  | lineEnd
  /-- `(?=r)`. -/
  | lookahead (r : Regex)
  /-- The group of a number. -/
  | group (index : Nat) (r : Regex)

namespace Regex

def sequence (rs : List Regex) : Regex := rs.foldr seq (plain .empty)

def text (s : String) : Regex := plain (.literal s)

/-- A text in either case: the flag `i`. -/
def textAnyCase (s : String) : Regex :=
  plain (Pattern.sequence (s.toList.map Pattern.letter))

/-- `[p]*`. -/
def star (p : Char → Bool) : Regex := plain (.many p 0 none)

/-- `[p]+`. -/
def plus (p : Char → Bool) : Regex := plain (.many p 1 none)

def oneOf (p : Char → Bool) : Regex := plain (.char p)

def optional (r : Regex) : Regex := alt r (plain .empty)

end Regex

/-- A position, and the groups captured on the way to it. -/
structure Place where
  cursor : Cursor
  groups : List (Nat × List Char) := []

/-- What stands between two positions of a text. -/
def between (c stop : Cursor) : List Char :=
  c.rest.take (c.rest.length - stop.rest.length)

/-- The ends of a lazy repetition, the shortest first; so many characters are still due. -/
def lazyEnds (p : Char → Bool) : List Char → Nat → Option Char → List Cursor
  | [], 0, before => [⟨before, []⟩]
  | [], _ + 1, _ => []
  | x :: xs, 0, before => ⟨before, x :: xs⟩ :: if p x then lazyEnds p xs 0 (some x) else []
  | x :: xs, due + 1, _ => if p x then lazyEnds p xs due (some x) else []

/-- The ends of the matches at a place, best first. -/
def ends : Regex → Place → List Place
  | .plain p, s => (matchAt p s.cursor).map fun c => { s with cursor := c }
  | .seq a b, s => (ends a s).flatMap (ends b)
  | .alt a b, s => ends a s ++ ends b s
  | .lazy p least, s =>
    (lazyEnds p s.cursor.rest least s.cursor.before).map fun c => { s with cursor := c }
  | .textStart, s => if s.cursor.before.isNone then [s] else []
  | .lineStart, s => if s.cursor.before.all isLineTerminator then [s] else []
  | .lineEnd, s => if s.cursor.rest.head?.all isLineTerminator then [s] else []
  | .lookahead r, s => if (ends r s).isEmpty then [] else [s]
  | .group i r, s =>
    (ends r s).map fun e => { e with groups := (i, between s.cursor e.cursor) :: e.groups }

lemma ends_plain (p : Pattern) (s : Place) :
    ends (.plain p) s = (matchAt p s.cursor).map fun c => { s with cursor := c } := by
  simp only [ends]

lemma ends_seq (a b : Regex) (s : Place) : ends (.seq a b) s = (ends a s).flatMap (ends b) := by
  simp only [ends]

/-- A match: where it begins, where it ends, and its groups. -/
structure Found where
  start : Cursor
  stop : Place

/-- The group of a number; `none` is `undefined`. -/
def Found.group (m : Found) (i : Nat) : Option String :=
  (m.stop.groups.lookup i).map String.ofList

/-- The text after a match. -/
def Found.after (m : Found) : List Char := m.stop.cursor.rest

/-- The text of a match. -/
def Found.text (m : Found) : List Char := between m.start m.stop.cursor

/-- Search from a position on. -/
def execFrom (r : Regex) (before : Option Char) : List Char → Option Found
  | [] =>
    ((ends r { cursor := ⟨before, []⟩ }).head?).map fun stop => ⟨⟨before, []⟩, stop⟩
  | x :: xs =>
    match (ends r { cursor := ⟨before, x :: xs⟩ }).head? with
    | some stop => some ⟨⟨before, x :: xs⟩, stop⟩
    | none => execFrom r (some x) xs

/-- `r.exec(text)`. -/
def exec (r : Regex) (text : List Char) : Option Found := execFrom r none text

/-- `r.test(text)`. -/
def test (r : Regex) (text : List Char) : Bool := (exec r text).isSome

/-- The successive matches of a global pattern; `fuel` bounds their number. -/
def matchFrom (r : Regex) : Nat → Cursor → List Found
  | 0, _ => []
  | fuel + 1, c =>
    match execFrom r c.before c.rest with
    | none => []
    | some m => m :: matchFrom r fuel m.stop.cursor

/-- `while ((m = r.exec(text)) !== null)`, for a pattern that matches no empty text. -/
def matchAll (r : Regex) (text : List Char) : List Found :=
  matchFrom r (text.length + 1) ⟨none, text⟩

/-! ## Lines -/

/-- `text.split("\n")`. -/
def splitLines : List Char → List (List Char)
  | [] => [[]]
  | c :: cs =>
    if c = '\n' then [] :: splitLines cs
    else
      match splitLines cs with
      | line :: lines => (c :: line) :: lines
      | [] => [[c]]

end JsRegExp
