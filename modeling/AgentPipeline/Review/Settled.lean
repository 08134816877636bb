import Mathlib.Data.List.Dedup
import AgentPipeline.Review.Findings

/-!
# Settled: whether a finding raises again what an earlier round settled

* `matchSettledFinding`: the surface is the same, and so is the key or most of the title;
* `matchSettledAlternative`: the surface is the same, and the recommendation puts back an
  alternative that the settled finding ruled out.
-/

namespace AgentPipeline.Review

structure SettledFinding where
  key : String
  surface : Option String
  title : String
  round : Nat
  rejectedAlternatives : List String := []
deriving DecidableEq, Repr

inductive MatchBasis where
  | key | titleSimilarity
deriving DecidableEq, Repr

/-- `TITLE_UNAVAILABLE`: the title of an entry that was read from a legacy marker. -/
def titleUnavailable : String := "(title unavailable)"

def isTitleUsable (title : Option String) : Bool :=
  title.any fun t => JsText.nonBlank t && t ≠ titleUnavailable

/-- `TITLE_STOPWORDS`. -/
def titleStopwords : List String :=
  ["a", "an", "the", "is", "are", "was", "were", "be", "been", "being", "to", "of", "in", "on",
    "for", "and", "or", "but", "not", "no", "now", "this", "that", "these", "those", "it", "its",
    "as", "at", "by", "with", "from", "can", "could", "should", "would", "may", "might", "will",
    "shall", "do", "does", "did", "has", "have", "had", "than", "then", "so", "if", "into",
    "about", "over", "under", "after", "before", "without", "within", "since", "up", "down",
    "out", "off"]

/-- `token.slice(0, -n)`, where the last `n` characters are letters. -/
def dropEnd (n : Nat) (token : String) : String :=
  String.ofList (token.toList.take (token.toList.length - n))

def endsWith (token suffix : String) : Bool := suffix.toList.isSuffixOf token.toList

def stem (token : String) : String :=
  if 4 < utf16Length token ∧ endsWith token "ing" then dropEnd 3 token
  else if 4 < utf16Length token ∧ endsWith token "ed" then dropEnd 2 token
  else if 3 < utf16Length token ∧ endsWith token "es" then dropEnd 2 token
  else if 3 < utf16Length token ∧ endsWith token "s" ∧ !endsWith token "ss" then dropEnd 1 token
  else token

/-- `TITLE_SIMILARITY_THRESHOLD`. -/
def titleSimilarityThreshold : ℚ := 55 / 100

/-- `MIN_SHARED_TITLE_TOKENS`. -/
def minSharedTitleTokens : Nat := 4

/-- `REJECTED_ALTERNATIVE_SIMILARITY_THRESHOLD`. -/
def rejectedAlternativeSimilarityThreshold : ℚ := 4 / 10

def sharedTokenCount (ta tb : List String) : Nat := ta.countP fun t => tb.contains t

/-- `titleSimilarityTokens(ta, tb)`, for lists without repetition. -/
def titleSimilarityTokens (ta tb : List String) : ℚ :=
  let intersection := sharedTokenCount ta tb
  let union := ta.length + tb.length - intersection
  if ta.isEmpty ∨ tb.isEmpty ∨ union = 0 then 0 else intersection / union

variable (host : NodeHost)

/-- `titleTokens(title)`: a set of words. -/
def titleTokens (title : Option String) : List String :=
  let words := ((normalizeTitle host title).toList.splitOnP JsText.isSpace).map String.ofList
  ((words.filter fun t => t ≠ "" && !titleStopwords.contains t).map stem).dedup

/-- The titles say the same: by share, and by the number of words they share. -/
def similarTitles (title title' : Option String) : Bool :=
  let ta := titleTokens host title
  let tb := titleTokens host title'
  titleSimilarityThreshold ≤ titleSimilarityTokens ta tb && minSharedTitleTokens ≤ sharedTokenCount ta tb

/-- One turn of the loop of `matchSettledFinding`. -/
def matchEntry (finding : ReviewFinding) (entry : SettledFinding) : Option MatchBasis :=
  let key := findingKey host finding
  let sameSurface :=
    match entry.surface with
    | some surface => surfaceKey host finding = some surface
    | none => key = entry.key
  if !sameSurface then none
  else if key = entry.key then some .key
  else if isTitleUsable finding.title && isTitleUsable (some entry.title) &&
      similarTitles host finding.title (some entry.title) then
    some .titleSimilarity
  else none

/-- `matchSettledFinding(finding, settled)`: the first entry that matches. -/
def matchSettledFinding (finding : ReviewFinding) (settled : List SettledFinding) :
    Option (SettledFinding × MatchBasis) :=
  settled.findSome? fun entry => (matchEntry host finding entry).map fun basis => (entry, basis)

def matchSettledAlternative (finding : ReviewFinding) (settled : List SettledFinding) :
    Option (SettledFinding × String) :=
  (surfaceKey host finding).bind fun surface =>
    let recTokens := titleTokens host finding.recommendation
    if recTokens.isEmpty then none
    else
      settled.findSome? fun entry =>
        if entry.surface ≠ some surface then none
        else
          (entry.rejectedAlternatives.find? fun alt =>
            rejectedAlternativeSimilarityThreshold ≤ titleSimilarityTokens recTokens (titleTokens host (some alt))).map
            fun alt => (entry, alt)

lemma matchSettledFinding_nil (finding : ReviewFinding) : matchSettledFinding host finding [] = none := rfl

lemma matchSettledAlternative_nil (finding : ReviewFinding) : matchSettledAlternative host finding [] = none := by
  unfold matchSettledAlternative
  cases surfaceKey host finding with
  | none => rfl
  | some surface => simp

lemma matchSettledFinding_eq_none_iff {finding : ReviewFinding} {settled : List SettledFinding} :
    matchSettledFinding host finding settled = none ↔ ∀ entry ∈ settled, matchEntry host finding entry = none := by
  simp [matchSettledFinding]

lemma matchEntry_of_key {finding : ReviewFinding} {entry : SettledFinding}
    (hkey : entry.key = findingKey host finding) :
    matchEntry host finding entry = if entry.surface = none ∨ entry.surface = surfaceKey host finding then some .key
      else none := by
  unfold matchEntry
  cases hsurface : entry.surface with
  | none => simp [hkey]
  | some surface =>
    by_cases hsame : surfaceKey host finding = some surface
    · simp [hkey, hsame]
    · have hother : some surface ≠ surfaceKey host finding := Ne.symm hsame
      simp [hsame, hother]

end AgentPipeline.Review
