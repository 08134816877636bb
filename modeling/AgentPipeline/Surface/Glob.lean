import AgentPipeline.Foundation.JsLanguage

/-!
# Surface.Glob: which paths are verifier-sensitive

The paths of a candidate are classified by globs. A glob is translated into the source of a regular
expression by replacements of text, with two runs of rare characters as placeholders.

* `regexSource`: the replacements;
* `readTerms`, `globToRegExp`: the regular expression of a source, unless it is no pattern;
* `pathMatchesAnyGlob`, `classifyPaths`: the classes of the changed paths.
-/

namespace AgentPipeline.Surface

open JsRegExp

/-! ## The flag `i` -/

/-- `Canonicalize(ch)`, by which the flag `i` compares two characters. -/
structure Canonicalize where
  canonical : Char → Char
  /-- Some of the characters that have no other case. -/
  alone : ∀ c ∈ ['/', '?', '§', '¶'], ∀ x, canonical x = canonical c → x = c

section Translation

/-! ## The source -/

def regexMeta : List Char := ['.', '+', '^', '$', '{', '}', '(', ')', '|', '[', ']', '\\']

/-- `ch => "\\" + ch`, for the special characters. -/
def escapeMeta (c : Char) : List Char := if regexMeta.contains c then ['\\', c] else [c]

def directoryMark : List Char := ['§', '§', '§']

def anythingMark : List Char := ['¶', '¶', '¶']

/-- The replacements of `globToRegExp(pattern)`. -/
def regexSource (pattern : List Char) : List Char :=
  let escaped := pattern.flatMap escapeMeta
  let directories := replaceText ['*', '*', '/'] directoryMark escaped
  let anythings := replaceText ['*', '*'] anythingMark directories
  let stars := replaceText ['*'] ['[', '^', '/', ']', '*'] anythings
  replaceText anythingMark ['.', '*'] (replaceText directoryMark ['(', '?', ':', '.', '*', '/', ')', '?'] stars)

/-! ## The terms of a source -/

/-- What one quantifier stands behind. -/
inductive Atom where
  | char (c : Char)
  /-- `.` -/
  | dot
  /-- `[^/]` -/
  | notSlash
  /-- `(?:.*\/)` -/
  | directory
deriving DecidableEq, Repr

inductive Quantifier where
  | once | star | starLazy | optional | optionalLazy
deriving DecidableEq, Repr

abbrev Term : Type := Atom × Quantifier

/-- The characters that are no pattern characters. -/
def isSyntaxChar (c : Char) : Bool := regexMeta.contains c || c = '*' || c = '?'

/-- The first atom; a quantifier without one is a `SyntaxError`. -/
def readAtom : List Char → Option (Atom × List Char)
  | '\\' :: c :: rest => some (.char c, rest)
  | '.' :: rest => some (.dot, rest)
  | '[' :: '^' :: '/' :: ']' :: rest => some (.notSlash, rest)
  | '(' :: '?' :: ':' :: '.' :: '*' :: '/' :: ')' :: rest => some (.directory, rest)
  | c :: rest => if isSyntaxChar c then none else some (.char c, rest)
  | [] => none

def readQuantifier : List Char → Quantifier × List Char
  | '*' :: '?' :: rest => (.starLazy, rest)
  | '*' :: rest => (.star, rest)
  | '?' :: '?' :: rest => (.optionalLazy, rest)
  | '?' :: rest => (.optional, rest)
  | rest => (.once, rest)

/-- The terms of a source; `fuel` bounds their number. -/
def readTerms : Nat → List Char → Option (List Term)
  | _, [] => some []
  | 0, _ :: _ => none
  | fuel + 1, source =>
    match readAtom source with
    | none => none
    | some (atom, rest) =>
      (readTerms fuel (readQuantifier rest).2).map ((atom, (readQuantifier rest).1) :: ·)

variable (fold : Canonicalize)

/-- The class of an atom. -/
def atomClass : Atom → Option (Char → Bool)
  | .char c => some fun x => fold.canonical x = fold.canonical c
  | .dot => some isDot
  | .notSlash => some fun x => fold.canonical x ≠ fold.canonical '/'
  | .directory => none

/-- `.*\/`. -/
def throughSlash : Regex :=
  .seq (.star isDot) (.oneOf fun x => fold.canonical x = fold.canonical '/')

/-- A quantified atom; a group is never repeated. -/
def termRegex : Term → Option Regex
  | (atom, quantifier) =>
    match atomClass fold atom, quantifier with
    | some p, .once => some (.oneOf p)
    | some p, .star => some (.star p)
    | some p, .starLazy => some (.lazy p 0)
    | some p, .optional => some (.alt (.oneOf p) (.plain .empty))
    | some p, .optionalLazy => some (.alt (.plain .empty) (.oneOf p))
    | none, .once => some (throughSlash fold)
    | none, .optional => some (.alt (throughSlash fold) (.plain .empty))
    | none, .optionalLazy => some (.alt (.plain .empty) (throughSlash fold))
    | none, .star | none, .starLazy => none

/-- `globToRegExp(pattern)`; `none` is a `SyntaxError`. -/
def globToRegExp (pattern : List Char) : Option Regex :=
  let source := regexSource pattern
  ((readTerms source.length source).bind fun terms => terms.mapM (termRegex fold)).map fun terms =>
    .sequence [.textStart, .sequence terms, .plain .atEnd]

/-- `globToRegExp(pattern).test(path)`; a malformed pattern never matches. -/
def matchesGlob (pattern path : List Char) : Bool := (globToRegExp fold pattern).any (test · path)

/-- `path.replace(/\\/g, "/").replace(/^\.\//, "")`. -/
def normalizePath (path : List Char) : List Char :=
  let slashed := path.map fun c => if c = '\\' then '/' else c
  match slashed with
  | '.' :: '/' :: rest => rest
  | _ => slashed

def pathMatchesAnyGlob (filePath : List Char) (patterns : List String) : Option String :=
  patterns.find? fun pattern => matchesGlob fold pattern.toList (normalizePath filePath)

end Translation

/-! ## Classes -/

inductive TrustedSurfaceClassId where
  | engineCore | enginePrompts | repoPolicy | gateCommands | evidenceSchemas | evalRubrics | ownershipAuthority
deriving DecidableEq, Repr

/-- `TRUSTED_SURFACE_CLASS_IDS`. -/
def trustedSurfaceClassIds : List TrustedSurfaceClassId :=
  [.engineCore, .enginePrompts, .repoPolicy, .gateCommands, .evidenceSchemas, .evalRubrics, .ownershipAuthority]

/-- `BUILTIN_CLASS_GLOBS`. -/
def builtinClassGlobs : TrustedSurfaceClassId → List String
  | .engineCore => ["core/scripts/**", "core/package.json", "plugin/scripts/**", "plugin/package.json", "hosts/**",
      "scripts/build.mjs", "scripts/pipeline-launcher.mjs", "scripts/install.mjs"]
  | .enginePrompts => ["core/scripts/prompts/**", "plugin/scripts/prompts/**"]
  | .repoPolicy => [".github/pipeline.yml", ".github/pipeline.yaml", ".github/pipeline/**"]
  | .gateCommands => ["scripts/**/*gate*", "scripts/**/*test*", "scripts/**/*ci*", "scripts/ci-*.mjs",
      "scripts/*-smoke.mjs", ".github/workflows/**", "Makefile", "package.json", "core/package.json"]
  | .evidenceSchemas => ["**/evidence*schema*", "**/schemas/**/*evidence*", "core/scripts/evidence-*.ts",
      "core/scripts/tester-evidence.ts", "core/scripts/evidence-subject.ts", "core/scripts/evidence-bundle.ts",
      "plugin/scripts/evidence-*.ts", "plugin/scripts/tester-evidence.ts", "plugin/scripts/evidence-subject.ts",
      "plugin/scripts/evidence-bundle.ts"]
  | .evalRubrics => ["**/*rubric*", "**/rubrics/**", ".github/shipcheck-rubric.md", "**/evals/**/*rubric*",
      "core/scripts/evals/**", "plugin/scripts/evals/**"]
  | .ownershipAuthority => ["CODEOWNERS", ".github/CODEOWNERS", "**/ownership*.yml", "**/ownership*.yaml",
      "**/ownership*.json", "**/authority*.yml", "**/authority*.yaml", "**/authority*.json",
      "core/scripts/production-engine-pin.ts", "plugin/scripts/production-engine-pin.ts"]

structure TrustedSurfaceExtraPath where
  classId : TrustedSurfaceClassId
  globs : List String
deriving DecidableEq

def globsForClass (classId : TrustedSurfaceClassId) (extraPaths : List TrustedSurfaceExtraPath) : List String :=
  builtinClassGlobs classId ++ (extraPaths.filter (·.classId = classId)).flatMap (·.globs)

structure PathClassification where
  path : List Char
  classIds : List TrustedSurfaceClassId
deriving DecidableEq

variable (fold : Canonicalize)

/-- The classes of one path; a glob that is empty counts as none. -/
def classesOf (extraPaths : List TrustedSurfaceExtraPath) (path : List Char) : List TrustedSurfaceClassId :=
  trustedSurfaceClassIds.filter fun id => (pathMatchesAnyGlob fold path (globsForClass id extraPaths)).any (· ≠ "")

def classifyPaths (candidatePaths : List String) (extraPaths : List TrustedSurfaceExtraPath) :
    List PathClassification :=
  candidatePaths.filterMap fun raw =>
    if JsText.nonBlank raw = false then none
    else
      let path := normalizePath raw.toList
      let classIds := classesOf fold extraPaths path
      if classIds.isEmpty then none else some ⟨path, classIds⟩

end AgentPipeline.Surface
