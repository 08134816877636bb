import AgentPipeline.Foundation.JsSpans
import AgentPipeline.Foundation.NodeHost

/-!
# Sanitize: secrets and injected phrases in artifacts

Two passes run over a text before it is persisted. The first one replaces secrets, the second one
phrases that a later agent could take for instructions.

* `substitute`: `text.replace(pattern, replacer)` with the global flag;
* `redactSecrets`: token formats, secret values of the environment, and assignments to secret names;
* `sanitize`: the denylist, one pattern after the other;
* `scrub`: both passes.
-/

namespace AgentPipeline.Artifact

open JsRegExp

abbrev Text := List Char

/-! ## Replacing -/

def substituteFrom (r : Regex) (replacer : Found → Text) : Nat → Cursor → Text
  | 0, c => c.rest
  | fuel + 1, c =>
    match execFrom r c.before c.rest with
    | none => c.rest
    | some m => between c m.start ++ replacer m ++ substituteFrom r replacer fuel m.stop.cursor

/-- `text.replace(r, replacer)` with the global flag, for a pattern that matches no empty text. -/
def substitute (r : Regex) (replacer : Found → Text) (text : Text) : Text :=
  substituteFrom r replacer (text.length + 1) ⟨none, text⟩

/-- `text.replace(r, replacer)` without the global flag. -/
def substituteFirst (r : Regex) (replacer : Found → Text) (text : Text) : Text :=
  match exec r text with
  | none => text
  | some m => between ⟨none, text⟩ m.start ++ replacer m ++ m.after

/-- `text.split(value).join(separator)`, for a value that is not empty; `due` characters still belong to
the occurrence that was found last. -/
def replaceValue (value separator : Text) : Nat → Text → Text
  | _, [] => []
  | due + 1, _ :: cs => replaceValue value separator due cs
  | 0, c :: cs =>
    if value.isPrefixOf (c :: cs) then separator ++ replaceValue value separator (value.length - 1) cs
    else c :: replaceValue value separator 0 cs

/-! ## Secrets -/

def redacted : Text := "[REDACTED]".toList

def isTokenChar (c : Char) : Bool := c.isAlphanum || c = '_'

def isUpperOrDigit (c : Char) : Bool := c.isUpper || c.isDigit

/-- `SECRET_VALUE_RE`. -/
def secretValueRe : Regex :=
  .alt
    (.sequence [
      .alt (.text "ghp") (.alt (.text "ghs") (.alt (.text "gho") (.alt (.text "ghr") (.text "github_pat")))),
      .text "_", .plain (.many isTokenChar 10 none)])
    (.alt
      (.sequence [.text "AKIA", .plain (.many isUpperOrDigit 16 (some 16))])
      (.sequence [.text "sk-", .plain (.many Char.isAlphanum 20 none)]))

/-- `SECRET_NAME_RE`. -/
def secretNameRe : Regex :=
  .alt (.textAnyCase "TOKEN")
    (.alt (.textAnyCase "SECRET")
      (.alt (.textAnyCase "PASSWORD")
        (.alt (.textAnyCase "APIKEY")
          (.alt (.textAnyCase "API_KEY")
            (.alt (.seq (.textAnyCase "_PASS") (.plain .atEnd))
              (.seq (.textAnyCase "_KEY") (.plain .atEnd)))))))

def isSecretName (name : Text) : Bool := test secretNameRe name

def isNameChar (c : Char) : Bool := c.isUpper || c.isDigit || c = '_'

/-- `\b([A-Z][A-Z0-9_]*)\s*=\s*`. -/
def assignedName : Regex :=
  .sequence [.plain .wordBoundary, .group 1 (.seq (.oneOf Char.isUpper) (.star isNameChar)),
    .star JsText.isSpace, .text "=", .star JsText.isSpace]

/-- `[^\s"'...]`: the characters of a value without quotes. -/
def isBareChar (c : Char) : Bool :=
  !JsText.isSpace c && !(['"', '\'', Char.ofNat 96, ',', ';', ')', '\\'].contains c)

def quotedBy (quote : String) : Regex :=
  .sequence [.text quote, .star fun c => !quote.toList.contains c, .text quote]

/-- An assignment to a name, with a value that ends. -/
def assignment : Regex :=
  .seq assignedName (.alt (quotedBy "\"") (.alt (quotedBy "'") (.plus isBareChar)))

/-- An assignment whose quote is still open at the end. -/
def openAssignment : Regex :=
  .sequence [assignedName, .alt (.sequence [.text "\"", .star (· ≠ '"')]) (.sequence [.text "'", .star (· ≠ '\'')]),
    .plain .atEnd]

/-- `(full, name) => SECRET_NAME_RE.test(name) ? name=[REDACTED] : full`. -/
def redactAssignment (m : Found) : Text :=
  let name := ((m.group 1).getD "").toList
  if isSecretName name then name ++ '=' :: redacted else m.text

/-- `Object.entries(process.env)`. -/
abbrev ProcessEnv := List (String × String)

/-- The values of the environment that count as secret. -/
def secretValues (env : ProcessEnv) : List Text :=
  (env.filter fun entry => 8 ≤ utf16Length entry.2 && isSecretName entry.1.toList).map (·.2.toList)

def redactSecrets (env : ProcessEnv) (text : Text) : Text :=
  let tokens := substitute secretValueRe (fun _ => redacted) text
  let values := (secretValues env).foldl (fun result value => replaceValue value redacted 0 result) tokens
  let assigned := substitute assignment redactAssignment values
  substituteFirst openAssignment redactAssignment assigned

/-! ## Injected phrases -/

def marker : Text := "[REDACTED-INJECTION]".toList

def spaces : Regex := .plus JsText.isSpace

def anyOf (word : String) : List String → Regex
  | [] => .textAnyCase word
  | next :: words => .alt (.textAnyCase word) (anyOf next words)

/-- `INJECTION_PATTERNS`. -/
def injectionPatterns : List Regex := [
  .sequence [.textAnyCase "ignore", spaces, anyOf "previous" ["prior", "above", "all"], spaces,
    .textAnyCase "instruction", .optional (.textAnyCase "s")],
  .sequence [.textAnyCase "you", spaces, .textAnyCase "are", spaces, .textAnyCase "now", .plain .wordBoundary],
  .sequence [.plain .wordBoundary, .textAnyCase "disregard", spaces,
    .optional (.sequence [.textAnyCase "the", spaces]),
    anyOf "above" ["all", "previous", "prior", "following"], .plain .wordBoundary],
  .sequence [.plain .wordBoundary, .textAnyCase "system", .star JsText.isSpace, .text ":"],
  .sequence [.textAnyCase "forget", spaces, .alt (anyOf "everything" ["all", "previous", "prior"])
      (.sequence [.textAnyCase "the", spaces, .textAnyCase "above"])],
  .sequence [.textAnyCase "act", spaces, .textAnyCase "as", spaces, .textAnyCase "if", .plain .wordBoundary],
  .sequence [.textAnyCase "you", spaces, .textAnyCase "must", spaces, .textAnyCase "now", .plain .wordBoundary],
  .sequence [.textAnyCase "override", spaces, .optional (.sequence [.textAnyCase "all", spaces]),
    anyOf "previous" ["prior", "above"], spaces, .textAnyCase "instruction",
    .optional (.textAnyCase "s")],
  .text "<|im_start|>",
  .text "<|im_end|>",
  .sequence [.lineStart, .textAnyCase "assistant", .star JsText.isSpace, .text ":"]]

def sanitize (content : Text) : Text :=
  injectionPatterns.foldl (fun result r => substitute r (fun _ => marker) result) content

/-- `sanitize(redactSecrets(text))`. -/
def scrub (env : ProcessEnv) (text : Text) : Text := sanitize (redactSecrets env text)

end AgentPipeline.Artifact
