import AgentPipeline.Foundation.JsExec
import AgentPipeline.Foundation.NodeHost

/-!
# Dirt: product paths and scratch among the uncommitted paths

A gate trusts a worktree when nothing but scratch is uncommitted. Paths are read back from the rows of
`git status --porcelain` and matched against globs.

* `parsePorcelainEntries`: the rows as the first reader sees them;
* `matchScratchGlob`, `isNonProductScratchPath`: what counts as scratch;
* `productDirtyPaths`, `classifyPorcelainForScratchRecover`: the two readers of a status.
-/

namespace AgentPipeline.Worktree

open JsText

/-- A string, as the sequence of its characters. -/
abbrev Text := List Char

def trimText (cs : Text) : Text := trimEnd (trimStart cs)

/-! ## Lists of names -/

def engineNonProductScratchGlobs : List Text :=
  ["tasks/**".toList, ".pipeline-prompt-*".toList, "artifacts/challenge-response-*.json".toList]

def productNamespacePrefixes : List Text :=
  ["core/".toList, "plugin/".toList, "openspec/".toList, "hosts/".toList, "scripts/".toList]

def recognizedLockfileBasenames : List Text :=
  ["package-lock.json".toList, "yarn.lock".toList, "pnpm-lock.yaml".toList]

def productRootFiles : List Text :=
  ["package.json".toList, "README.md".toList, "package-lock.json".toList, "yarn.lock".toList, "pnpm-lock.yaml".toList]

def productPathCanaries : List Text :=
  ["core/scripts/foo.ts".toList, "core/package.json".toList, "plugin/scripts/foo.ts".toList,
    "plugin/SKILL.md".toList, "openspec/changes/x/proposal.md".toList, "openspec/specs/foo/spec.md".toList,
    "package.json".toList, "scripts/build.mjs".toList, "hosts/claude/SKILL.md".toList, "README.md".toList,
    "package-lock.json".toList, "yarn.lock".toList, "pnpm-lock.yaml".toList, "core/package-lock.json".toList]

/-! ## Paths -/

/-- `text.replace(/\\/g, "/")`. -/
def toSlashes (cs : Text) : Text := cs.map fun c => if c = '\\' then '/' else c

/-- `while (p.startsWith("./")) p = p.slice(2)`. -/
def stripDotSlash : Text → Text
  | '.' :: '/' :: cs => stripDotSlash cs
  | cs => cs

def endsWith (cs suffix : Text) : Bool := suffix.isSuffixOf cs

def startsWith (cs start : Text) : Bool := start.isPrefixOf cs

def normalizeRepoPath (filePath : Text) : Text :=
  let p := stripDotSlash (trimText (toSlashes filePath))
  if 1 < p.length ∧ endsWith p ['/'] then p.dropLast else p

/-- What stands after the last slash. -/
def baseName (cs : Text) : Text := (cs.reverse.takeWhile (· ≠ '/')).reverse

/-! ## Globs -/

/-- The first occurrence of a text at or after a position. -/
def indexOf (part : Text) : Text → Option Nat
  | [] => if part.isEmpty then some 0 else none
  | c :: cs => if part.isPrefixOf (c :: cs) then some 0 else (indexOf part cs).map (· + 1)

/-- `pattern.split("*")`. -/
def splitStars : Text → List Text
  | [] => [[]]
  | c :: cs =>
    if c = '*' then [] :: splitStars cs
    else
      match splitStars cs with
      | part :: parts => (c :: part) :: parts
      | [] => [[c]]

/-- The parts of a pattern between its stars, from a position of the value on; the last part is matched at
the end of the value. -/
def matchParts (value : Text) : Nat → List Text → Bool
  | _, [] => true
  | idx, [last] => if last.isEmpty then true else endsWith value last && idx + last.length ≤ value.length
  | idx, part :: parts =>
    match indexOf part (value.drop idx) with
    | some found => matchParts value (idx + found + part.length) parts
    | none => false

def matchSimpleStar (value pattern : Text) : Bool :=
  match splitStars pattern with
  | [] => true
  | [_] => value = pattern
  | first :: parts => startsWith value first && matchParts value first.length parts

/-- The pieces of the regular expression that a glob is turned into. -/
inductive GlobToken where
  /-- One code unit of the glob. -/
  | unit (u : Nat)
  /-- `[^/]`. -/
  | one
  /-- `[^/]*`. -/
  | segment
  /-- `.*`. -/
  | anything
  /-- `(?:.*/)?`. -/
  | directories
deriving DecidableEq, Repr

def globTokens : Text → List GlobToken
  | '*' :: '*' :: '/' :: cs => .directories :: globTokens cs
  | '*' :: '*' :: cs => .anything :: globTokens cs
  | '*' :: cs => .segment :: globTokens cs
  | '?' :: cs => .one :: globTokens cs
  | c :: cs => (utf16Units (String.ofList [c])).map GlobToken.unit ++ globTokens cs
  | [] => []

/-- The code unit of a slash. -/
def slashUnit : Nat := 47

/-- The class `.` on code units. -/
def isDotUnit (u : Nat) : Bool := u ≠ 10 && u ≠ 13 && u ≠ 0x2028 && u ≠ 0x2029

/-- `new RegExp("^…$").test(path)`, on code units. -/
def matchTokens : List GlobToken → List Nat → Bool
  | [], us => us.isEmpty
  | .unit u :: ts, us =>
    match us with
    | x :: xs => x = u && matchTokens ts xs
    | [] => false
  | .one :: ts, us =>
    match us with
    | x :: xs => x ≠ slashUnit && matchTokens ts xs
    | [] => false
  | .segment :: ts, us =>
    (List.range ((us.takeWhile (· ≠ slashUnit)).length + 1)).any fun n => matchTokens ts (us.drop n)
  | .anything :: ts, us =>
    (List.range ((us.takeWhile isDotUnit).length + 1)).any fun n => matchTokens ts (us.drop n)
  | .directories :: ts, us =>
    matchTokens ts us || (List.range ((us.takeWhile isDotUnit).length + 1)).any fun n =>
        us[n]? = some slashUnit && matchTokens ts (us.drop (n + 1))

def matchScratchGlob (filePath pattern : Text) : Bool :=
  let path := normalizeRepoPath filePath
  let pat := stripDotSlash (trimText (toSlashes pattern))
  if endsWith pat ['/'] && !endsWith pat "**/".toList then
    let directory := pat.dropLast
    path = directory || startsWith path (directory ++ ['/'])
  else if pat = "tasks/**".toList then path = "tasks".toList || startsWith path "tasks/".toList
  else if pat = ".pipeline-prompt-*".toList then
    !path.contains '/' && matchSimpleStar path ".pipeline-prompt-*".toList
  else if pat = "artifacts/challenge-response-*.json".toList then
    let rest := path.drop "artifacts/".length
    startsWith path "artifacts/".toList && !rest.contains '/' &&
      matchSimpleStar rest "challenge-response-*.json".toList
  else matchTokens (globTokens pat) (utf16Units (String.ofList path))

/-! ## Product and scratch -/

def isAlwaysProductPath (filePath : Text) : Bool :=
  let normalized := normalizeRepoPath filePath
  !normalized.isEmpty && (recognizedLockfileBasenames.contains (baseName normalized) ||
      productNamespacePrefixes.any (fun start => normalized = start.dropLast || startsWith normalized start) ||
      productRootFiles.contains normalized)

/-- The glob is under a product namespace. -/
def targetsNamespace (normalized start : Text) : Bool :=
  let ns := start.dropLast
  normalized = ns || normalized = start || normalized = ns ++ "/**".toList ||
    normalized = ns ++ "/*".toList || startsWith normalized start ||
    startsWith normalized (ns ++ "/**".toList) || startsWith normalized (ns ++ "/*".toList)

def isSafeScratchExtensionGlob (pattern : Text) : Bool :=
  let trimmed := trimText (toSlashes pattern)
  let normalized := stripDotSlash trimmed
  !trimmed.isEmpty && !(["**".toList, "*".toList, "**/*".toList, "*/**".toList].contains normalized) &&
    !productNamespacePrefixes.any (targetsNamespace normalized) &&
    !recognizedLockfileBasenames.contains (baseName normalized) &&
    !recognizedLockfileBasenames.any (fun lock =>
      matchScratchGlob lock normalized || matchScratchGlob ("nested/".toList ++ lock) normalized) &&
    !productRootFiles.any (matchScratchGlob · normalized) &&
    !productPathCanaries.any (matchScratchGlob · normalized)

def isNonProductScratchPath (filePath : Text) (extraGlobs : List Text) : Bool :=
  let normalized := normalizeRepoPath filePath
  !normalized.isEmpty && (engineNonProductScratchGlobs.any (matchScratchGlob normalized) ||
      -- an extension never waives a protected path, nor does an unsafe extension waive anything
      (!isAlwaysProductPath normalized && extraGlobs.any fun pattern =>
        let trimmed := trimText pattern
        !trimmed.isEmpty && isSafeScratchExtensionGlob trimmed && matchScratchGlob normalized trimmed))

/-! ## Rows -/

/-- One row of a status after unquoting; a rename has two. -/
structure PorcelainEntry where
  path : Text
  xy : Text
deriving DecidableEq, Repr

def unquotePorcelainPath (raw : Text) : Text :=
  let trimmed := trimText raw
  if 2 ≤ trimmed.length ∧ startsWith trimmed ['"'] ∧ endsWith trimmed ['"'] then
    (trimmed.drop 1).dropLast
  else trimmed

def arrow : Text := " -> ".toList

/-- The text before and after the first arrow. -/
def cutArrow (cs : Text) : Option (Text × Text) :=
  (indexOf arrow cs).map fun i => (cs.take i, cs.drop (i + arrow.length))

/-- The entries of one line. -/
def parseLine (line : Text) : List PorcelainEntry :=
  if line.length < 3 then []
  else
    let xy := line.take 2
    let rest := line.drop 3
    let paths := match cutArrow rest with
      | some (source, target) => [unquotePorcelainPath source, unquotePorcelainPath target]
      | none => [unquotePorcelainPath rest]
    (paths.filter (!·.isEmpty)).map fun path => ⟨path, xy⟩

def parsePorcelainEntries (statusOutput : Text) : List PorcelainEntry :=
  (JsRegExp.splitLines statusOutput).flatMap parseLine

def parsePorcelainPaths (statusOutput : Text) : List Text :=
  (parsePorcelainEntries statusOutput).map (·.path)

def productDirtyPaths (paths extraGlobs : List Text) : List Text :=
  paths.filter fun p => !isNonProductScratchPath p extraGlobs

/-! ## The second reader -/

structure ScratchRecovery where
  product : List Text
  untrackedScratch : List Text
deriving DecidableEq, Repr

/-- One line of the second reader. -/
def recoverLine (extraGlobs : List Text) (line : Text) : ScratchRecovery :=
  if line.length < 3 then ⟨[], []⟩
  else
    let xy := line.take 2
    let rest := line.drop 3
    let cut := cutArrow rest
    let path := unquotePorcelainPath ((cut.map (·.2)).getD rest)
    if path.isEmpty then ⟨[], []⟩
    else
      -- the source of a rename can still be product
      let source := (cut.map fun parts => unquotePorcelainPath parts.1).toList.filter fun source =>
        !source.isEmpty && !isNonProductScratchPath source extraGlobs
      if isNonProductScratchPath path extraGlobs && xy = "??".toList then ⟨source, [path]⟩
      else ⟨source ++ [path], []⟩

def classifyPorcelainForScratchRecover (statusOutput : Text) (extraGlobs : List Text) : ScratchRecovery :=
  let lines := (JsRegExp.splitLines statusOutput).map (recoverLine extraGlobs)
  ⟨lines.flatMap (·.product), lines.flatMap (·.untrackedScratch)⟩

end AgentPipeline.Worktree
