import AgentPipeline.Foundation.NodeHost

/-!
# Findings: review findings and the keys that address them

A finding is untrusted reviewer output that the parsers cast without a check, so a severity may be
any word and a line any value. Three digests of it address it across rounds:

* `findingKey`: severity, file and line band, or the normalized title where there is no line;
* `surfaceKey`: file and category;
* `findingPayloadFingerprint`: the whole text of the finding, which tells two findings of one key
  apart.
-/

namespace AgentPipeline.Review

/-! ## Severities -/

inductive Severity where
  | low | medium | high | critical
deriving DecidableEq, Repr

def Severity.name : Severity → String
  | .low => "low"
  | .medium => "medium"
  | .high => "high"
  | .critical => "critical"

def severityOrder : List Severity := [.low, .medium, .high, .critical]

/-- `SEVERITY_ORDER.indexOf(s)`. -/
def Severity.rank (s : Severity) : Nat := severityOrder.idxOf s

/-- The `severity` of a finding as the reviewer wrote it. -/
inductive SeverityField where
  | word (text : String)
  /-- `undefined` or `null`, with the text a template prints for it. -/
  | missing (text : String)
  /-- A value that is no text, with the text a template prints for it. -/
  | other (text : String)
deriving DecidableEq, Repr

def severityOfWord (text : String) : Option Severity :=
  severityOrder.find? fun s => s.name = text

@[simp] lemma severityOfWord_name (s : Severity) : severityOfWord s.name = some s := by
  cases s <;> rfl

/-- `severityRank(sev)`: what is no severity counts as `medium`. -/
def severityRank : SeverityField → Nat
  | .word text => ((severityOfWord text).getD .medium).rank
  | .missing _ | .other _ => Severity.medium.rank

@[simp] lemma severityRank_name (s : Severity) : severityRank (.word s.name) = s.rank := by
  simp [severityRank]

/-! ## Findings -/

/-- A line of a finding: `Number(line)` and `String(line)`. -/
structure LineField where
  number : JsNumber
  text : String
deriving DecidableEq, Repr

/-- `ReviewFinding`; `none` is `undefined` or `null`, and for `confidence` and `blocking` also a
value of another type, which every reader treats alike. -/
structure ReviewFinding where
  severity : SeverityField
  title : Option String
  body : Option String
  file : Option String := none
  lineStart : Option LineField := none
  lineEnd : Option LineField := none
  confidence : Option JsNumber
  recommendation : Option String
  category : Option String := none
  blocking : Option Bool := none
  priorRoundAcknowledgment : Option String := none
  rejectedAlternatives : Option (List String) := none
deriving DecidableEq, Repr

inductive VerdictToken where
  | approve | needsAttention
deriving DecidableEq, Repr

structure ReviewVerdict where
  verdict : VerdictToken
  summary : String
  findings : List ReviewFinding
  nextSteps : List String
  commitSha : String
deriving DecidableEq, Repr

/-- A finding of the declared type: what the strict parser lets through of these two fields. -/
structure IsTyped (f : ReviewFinding) : Prop where
  severity : ∃ s : Severity, f.severity = .word s.name
  confidence : ∃ q : ℚ, f.confidence = some (.finite q)

/-- `lineBucket(lineStart)`; the bucket of a value that is no number is none either. -/
def lineBucket : Option LineField → JsNumber
  | none => .finite 0
  | some line =>
    match line.number with
    | .finite q => if q < 1 then .finite 0 else .finite (⌊(q - 1) / 5⌋ * 5 + 1)
    | .infinity false => .infinity false
    | .infinity true => .finite 0
    | .nan => .nan

section Keys

variable (host : NodeHost)

def normalizeFile (file : Option String) : String := host.toLowerCase (file.getD "")

/-- A character of the class `[*_~]` or a backtick. -/
def isEmphasis (c : Char) : Bool := c = '*' || c = '_' || c.toNat = 0x60 || c = '~'

/-- A character of the class `[\s\p{P}…]`. -/
def isTitleEdge (c : Char) : Bool := JsText.isSpace c || host.isPunctuation c || c = '…'

/-- `text.replace(/\s+/g, " ")`. -/
def collapseSpaces : List Char → List Char
  | [] => []
  | c :: cs =>
    if JsText.isSpace c then
      -- a run is replaced where it ends
      match cs with
      | [] => [' ']
      | d :: _ => if JsText.isSpace d then collapseSpaces cs else ' ' :: collapseSpaces cs
    else c :: collapseSpaces cs

def normalizeTitle (title : Option String) : String :=
  let plain := (host.toLowerCase (title.getD "")).toList.filter fun c => !isEmphasis c
  let started := plain.dropWhile (isTitleEdge host)
  let stripped := (started.reverse.dropWhile (isTitleEdge host)).reverse
  JsText.trim (String.ofList (collapseSpaces stripped))

/-- `${f.severity ?? "medium"}`. -/
def SeverityField.keyText : SeverityField → String
  | .word text | .other text => text
  | .missing _ => Severity.medium.name

/-- What `findingKey` hashes. -/
def keyBasis (f : ReviewFinding) : String :=
  let file := normalizeFile host f.file
  let bucket := lineBucket f.lineStart
  f.severity.keyText ++ "|" ++ file ++ "|" ++
    (if JsNumber.lt (.finite 0) bucket then host.textOf bucket else normalizeTitle host f.title)

/-- `createHash("sha1").update(text).digest("hex").slice(0, n)`. -/
def shortDigest (n : Nat) (text : String) : String :=
  String.ofList ((host.sha1 text).toList.take n)

def findingKey (f : ReviewFinding) : String := shortDigest host 8 (keyBasis host f)

def surfaceKey (f : ReviewFinding) : Option String :=
  let file := normalizeFile host f.file
  if file = "" then none else some (file ++ "|" ++ f.category.getD "")

/-- The `norm` of `findingPayloadFingerprint`. -/
def normalizePayload (text : Option String) : String :=
  let plain := (host.toLowerCase (text.getD "")).toList.filter fun c => !isEmphasis c
  JsText.trim (String.ofList (collapseSpaces plain))

def findingPayloadFingerprint (f : ReviewFinding) : String :=
  let lineText (line : Option LineField) := (line.map (·.text)).getD ""
  -- an omitted end is the single line of the start
  let effectiveEnd := f.lineEnd <|> f.lineStart
  shortDigest host 16 (String.intercalate "␟"
    [normalizeTitle host f.title, normalizePayload host f.body, normalizePayload host f.recommendation,
      lineText f.lineStart ++ "-" ++ lineText effectiveEnd])

lemma isHexDigest_shortDigest {n : Nat} (hn : n ≤ 40) (text : String) : IsHexDigest n (shortDigest host n text) := by
  obtain ⟨hlength, hdigits⟩ := host.sha1_hex text
  refine ⟨by simp [shortDigest, hlength, hn], ?_⟩
  rw [List.all_eq_true] at hdigits ⊢
  intro c hc
  exact hdigits c (List.mem_of_mem_take (by simpa [shortDigest] using hc))

end Keys

/-! ## Two findings of one key -/

/-- The digests of the texts that the two findings below are addressed by. -/
def sameLineHost : NodeHost :=
  .onFirstDay
    [("high|src/a.ts|11", "719072e438c3c3085979e9535bafcc4e742f8943"),
      ("src/a.ts|11", "2092e4672d2c7afde0bf3d2e55d1f53f550388f6"),
      ("unchecked read␟the index is not checked.␟check the index.␟12-12", "346b867393792fc5b3f5fa273db6d66d2bda9710"),
      ("index out of range␟reads past the end.␟bound the index.␟13-13", "e33bc3be22c8c2f989e6c3d50c63c8e79497d978")] []

def uncheckedRead : ReviewFinding where
  severity := .word "high"
  title := some "Unchecked read"
  body := some "The index is not checked."
  file := some "src/a.ts"
  lineStart := some ⟨.finite 12, "12"⟩
  confidence := some (.finite (9 / 10))
  recommendation := some "Check the index."

def indexOutOfRange : ReviewFinding where
  severity := .word "high"
  title := some "Index out of range"
  body := some "Reads past the end."
  file := some "src/a.ts"
  lineStart := some ⟨.finite 13, "13"⟩
  confidence := some (.finite (8 / 10))
  recommendation := some "Bound the index."

end AgentPipeline.Review
