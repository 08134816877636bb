import AgentPipeline.Foundation.JsExec

/-!
# DependencyGrammar: declared dependencies in free text

`declared-dependency-grammar.ts`: the issue numbers that a title or a body declares as
prerequisites.

* `isCanonicalIssueId`: a decimal numeral without a leading zero;
* `consumeReferenceList`: the references `#N` after a dependency phrase, up to the first text
  that does not continue the list;
* `parseDeclaredDependencyIds`: the references after phrases, then those of dependency sections,
  without the issue itself, each once.
-/

namespace AgentPipeline.Loop

open JsRegExp JsRegExp.Regex

/-- `/^[1-9][0-9]*$/`, on the characters of an id. -/
def isCanonicalDigits : List Char → Bool
  | [] => false
  | c :: cs => c.isDigit && c ≠ '0' && cs.all Char.isDigit

def isCanonicalIssueId (raw : String) : Bool := isCanonicalDigits raw.toList

/-! ## Patterns -/

/-- `/(?:depends on|requires|blocked by|needs)\s*:?/gi`. -/
def phraseHead : Regex :=
  sequence [alt (textAnyCase "depends on") (alt (textAnyCase "requires")
      (alt (textAnyCase "blocked by") (textAnyCase "needs"))),
    star JsText.isSpace, optional (text ":")]

/-- `/^#{1,6}\s+dependenc(?:y|ies)\b[^\n]*$/gim`. -/
def depSectionHeading : Regex :=
  sequence [lineStart, plain (.many (· = '#') 1 (some 6)), plus JsText.isSpace,
    textAnyCase "dependenc", alt (textAnyCase "y") (textAnyCase "ies"), plain .wordBoundary,
    star (· ≠ '\n'), lineEnd]

/-- `/\n#{1,6}\s+\S/`. -/
def nextHeading : Regex :=
  sequence [text "\n", plain (.many (· = '#') 1 (some 6)), plus JsText.isSpace, oneOf fun c => !JsText.isSpace c]

/-- `/#(\d+)/`. -/
def issueRef : Regex := sequence [text "#", group 1 (plus Char.isDigit)]

/-- `/^#(\d+)/`. -/
def leadingRef : Regex := sequence [textStart, issueRef]

/-- `/^(?:\s*,\s*and\s+|\s*,\s*|\s+and\s+|\s+)(?=#\d)/i`. -/
def referenceSeparator : Regex :=
  let space := star JsText.isSpace
  let spaces := plus JsText.isSpace
  let and_ := textAnyCase "and"
  sequence [textStart, alt (sequence [space, text ",", space, and_, spaces])
      (alt (sequence [space, text ",", space]) (alt (sequence [spaces, and_, spaces]) spaces)),
    lookahead (sequence [text "#", oneOf Char.isDigit])]

/-! ## The grammar -/

/-- The references of a list that goes on at `rest`; `fuel` bounds their number. -/
def continueReferenceList : Nat → List Char → List String
  | 0, _ => []
  | fuel + 1, rest =>
    match exec referenceSeparator rest with
    | none => []
    | some sep =>
      match exec leadingRef sep.after with
      | none => []
      | some next => (next.group 1).toList ++ continueReferenceList fuel next.after

/-- `consumeReferenceList(text, start)`, on the text from `start` on. -/
def consumeReferenceList (rest : List Char) : List String :=
  match exec leadingRef (JsText.trimStart rest) with
  | none => []
  | some first => (first.group 1).toList ++ continueReferenceList rest.length first.after

/-- The references of the section under a heading, up to the next heading. -/
def sectionReferences (rest : List Char) : List String :=
  let body := match exec nextHeading rest with
    | none => rest
    | some heading => between ⟨none, rest⟩ heading.start
  (matchAll issueRef body).flatMap fun m => (m.group 1).toList

/-- `add(raw)`: a canonical id that is not the issue itself, unless it was seen. -/
def addDeclared (selfId : String) (out : List String) (raw : String) : List String :=
  if !isCanonicalIssueId raw then out
  else if raw = selfId then out
  else if raw ∈ out then out
  else out ++ [raw]

def parseDeclaredDependencyIds (text : String) (selfId : String) : List String :=
  let chars := text.toList
  let phrases := (matchAll phraseHead chars).flatMap fun m => consumeReferenceList m.after
  let sections := (matchAll depSectionHeading chars).flatMap fun m => sectionReferences m.after
  (phrases ++ sections).foldl (addDeclared selfId) []

example :
    parseDeclaredDependencyIds
      "Depends on: #12, #13, and #7\n## Dependencies\n- #9\n## Related\n#8" "7" = ["12", "13", "9"] := by
  decide +kernel

end AgentPipeline.Loop
