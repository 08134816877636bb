import AgentPipeline.Foundation.JsMatches
import AgentPipeline.Review.Artifacts

/-!
# BlockingSurfaces: the surfaces marker, written and read back

`formatBlockingSurfacesMarker` writes the surfaces of a round into the footer of its comment, and
`extractBlockingSurfacesFromComment` reads the last marker of a comment.

* `lastMatch_written`, `lastMarker_written`: a marker in the last line is the one that is read,
  whatever the lines before it are: no marker reaches over the end of its line;
* `surfacePair_written`: a pair is read back: no separator is left in an encoded surface;
* `get?_extractBlockingSurfaces_written`: what is read is the surface of the first finding of every
  key, and nothing else.
-/

namespace AgentPipeline.Review

open List JsRegExp

/-! ## Writing the marker -/

section Format

variable (host : NodeHost)

/-- The pairs of the findings that have a surface; a key is written once. -/
def surfacePairs (seenFindingKeys : List String) : List ReviewFinding → List String
  | [] => []
  | f :: findings =>
    match surfaceKey host f with
    | none => surfacePairs seenFindingKeys findings
    | some sk =>
      let fk := findingKey host f
      if seenFindingKeys.contains fk then surfacePairs seenFindingKeys findings
      else (fk ++ "~" ++ UriComponent.encode sk) :: surfacePairs (fk :: seenFindingKeys) findings

def formatBlockingSurfacesMarker (findings : List ReviewFinding) : String :=
  "<!-- pipeline-blocking-surfaces: " ++ String.intercalate "," (surfacePairs host [] findings) ++
    " -->"

/-- The first finding of a key that has a file. -/
def firstOfKey (findings : List ReviewFinding) (key : String) : Option ReviewFinding :=
  findings.find? fun f => findingKey host f = key && (surfaceKey host f).isSome

end Format

/-! ## The marker that is read -/

variable {r : Regex} {P : List Char → Prop}

lemma mem_ends_markerRe {opening : String} {s e : Place} (hr : ∀ {s e : Place}, e ∈ ends r s ↔
      e.groups = s.groups ∧ ∃ used, Spans s.cursor used e.cursor ∧ P used) :
    e ∈ ends (markerRe opening r) s ↔ s.cursor.before.all isLineTerminator = true ∧ ∃ content, P content ∧
        Spans s.cursor (opening.toList ++ (content ++ " -->".toList)) e.cursor ∧
        e.groups = (1, content) :: s.groups ∧ e.cursor.rest.head?.all isLineTerminator = true := by
  simp only [markerRe, mem_ends_sequence_cons, mem_ends_text, mem_ends_sequence_nil, mem_ends_group,
    hr, mem_ends_lineStart, mem_ends_lineEnd]
  constructor
  · rintro ⟨m, ⟨rfl, hbefore⟩, m₁, ⟨g₁, h₁⟩, m₂, ⟨m₂', ⟨g₂, content, h₂, hcontent⟩, rfl⟩, m₃,
      ⟨g₃, h₃⟩, m₄, ⟨rfl, hend⟩, rfl⟩
    refine ⟨hbefore, content, hcontent, ?_, ?_, hend⟩
    · exact h₁.trans (h₂.trans h₃)
    · rw [g₃, between_of_spans h₂, g₂, g₁]
  · rintro ⟨hbefore, content, hcontent, hspans, hgroups, hend⟩
    obtain ⟨c₁, h₁, h⟩ := hspans.split
    obtain ⟨c₂, h₂, h₃⟩ := h.split
    refine ⟨s, ⟨rfl, hbefore⟩, ⟨c₁, s.groups⟩, ⟨rfl, h₁⟩, ⟨c₂, (1, between c₁ c₂) :: s.groups⟩,
      ⟨⟨c₂, s.groups⟩, ⟨rfl, content, h₂, hcontent⟩, rfl⟩, e, ⟨?_, h₃⟩, e, ⟨rfl, hend⟩, rfl⟩
    rw [hgroups, between_of_spans h₂]

variable {value rest : List Char}

lemma content_eq_value {content : List Char} (hvalue : ∀ c ∈ value, c ≠ ' ')
    (h : value ++ " -->".toList = content ++ (" -->".toList ++ rest)) :
    content = value ∧ rest = [] := by
  have hcloser : " -->".toList = ' ' :: ['-', '-', '>'] := by decide
  have hlength := congrArg List.length h
  simp only [length_append] at hlength
  have hprefix : content <+: value := by
    refine @prefix_of_prefix_length_le _ _ _ (value ++ " -->".toList) ?_ ?_ (by omega)
    · rw [h]
      exact prefix_append _ _
    · exact prefix_append _ _
  obtain ⟨more, rfl⟩ := hprefix
  rw [append_assoc, hcloser] at h
  have htail := append_cancel_left h
  cases more with
  | nil => simpa using htail
  | cons c more =>
    -- the value would have the space of the closer
    obtain ⟨rfl, -⟩ := List.cons.inj htail
    exact absurd rfl (hvalue ' ' (by simp))

lemma length_le_of_noLineFeed {used lines tail : List Char} (hused : '\n' ∉ used)
    (h : lines ++ '\n' :: tail = used ++ rest) : tail.length < rest.length := by
  rcases append_eq_append_iff.1 h with ⟨more, rfl, hmore⟩ | ⟨more, -, rfl⟩
  · cases more with
    | nil =>
      rw [nil_append] at hmore
      simp [← hmore]
    | cons c more =>
      obtain ⟨rfl, -⟩ := List.cons.inj hmore
      simp at hused
  · simp only [length_append, length_cons]
    omega

lemma lastMatch_written (opening : String) (text : List Char) (hr : ∀ {s e : Place}, e ∈ ends r s ↔
      e.groups = s.groups ∧ ∃ used, Spans s.cursor used e.cursor ∧ P used)
    (hdots : ∀ used, P used → ∀ c ∈ used, isDot c = true) (hopening : ∀ c ∈ opening.toList, isDot c = true)
    (hvalue : P value) (hspaces : ∀ c ∈ value, c ≠ ' ') : ∃ stop : Cursor, stop.rest = [] ∧
      lastMatch (markerRe opening r) (text ++ '\n' :: (opening.toList ++ (value ++ " -->".toList))) =
        some ⟨⟨some '\n', opening.toList ++ (value ++ " -->".toList)⟩, ⟨stop, [(1, value)]⟩⟩ := by
  have hpre : Spans ⟨none, text ++ '\n' :: (opening.toList ++ (value ++ " -->".toList))⟩
      (text ++ ['\n']) ⟨some '\n', opening.toList ++ (value ++ " -->".toList)⟩ :=
    ⟨by simp, by simp⟩
  obtain ⟨stop, hspans, hend⟩ : ∃ stop : Cursor, Spans ⟨some '\n', opening.toList ++ (value ++ " -->".toList)⟩
        (opening.toList ++ (value ++ " -->".toList)) stop ∧ stop.rest = [] :=
    ⟨_, exists_spans (append_nil _).symm, rfl⟩
  have hhead : (ends (markerRe opening r) { cursor := ⟨some '\n', opening.toList ++ (value ++ " -->".toList)⟩ }).head? =
        some ⟨stop, [(1, value)]⟩ := by
    refine head?_eq_of_unique ((mem_ends_markerRe hr).2 ⟨rfl, value, hvalue, hspans, rfl,
      by rw [hend]; rfl⟩) fun e he => ?_
    obtain ⟨-, content, -, hspans', hgroups, -⟩ := (mem_ends_markerRe hr).1 he
    have hrest : value ++ " -->".toList = content ++ (" -->".toList ++ e.cursor.rest) := by
      refine @append_cancel_left _ opening.toList _ _ ?_
      simpa using hspans'.rest
    obtain ⟨rfl, -⟩ := content_eq_value hspaces hrest
    exact Place.eq_of hgroups (hspans'.unique hspans)
  have hcloser : 0 < " -->".toList.length := by decide
  have hused : ∀ content : List Char, (∀ c ∈ content, isDot c = true) →
      '\n' ∉ opening.toList ++ (content ++ " -->".toList) := by
    intro content hcontent hmem
    rcases mem_append.1 hmem with h | h
    · exact absurd (hopening _ h) (by decide)
    · rcases mem_append.1 h with h | h
      · exact absurd (hcontent _ h) (by decide)
      · exact absurd h (by decide)
  refine ⟨stop, hend, getLast?_matchFrom hpre hhead hend (fun before => ?_) (fun pre c e hpre' hlt he => ?_)
    (by simp)⟩
  · refine eq_nil_iff_forall_not_mem.2 fun e he => ?_
    obtain ⟨-, content, -, hspans', -, -⟩ := (mem_ends_markerRe hr).1 he
    have hlength := congrArg List.length hspans'.rest
    simp only [length_nil, length_append] at hlength
    omega
  · -- a marker that begins before ends in its own line
    obtain ⟨-, content, hcontent, hspans', -, -⟩ := (mem_ends_markerRe hr).1 he
    have hlength := congrArg List.length hspans'.rest
    simp only [length_append] at hlength
    refine ⟨?_, by omega⟩
    obtain ⟨w, hw, hspans''⟩ := hpre'.factor hpre (by omega)
    obtain ⟨lines, rfl⟩ : ∃ lines, w = lines ++ ['\n'] := by
      rcases eq_nil_or_concat w with rfl | ⟨lines, x, rfl⟩
      · have hsame := congrArg List.length hw
        simp only [length_append, length_nil] at hsame
        simp only [length_append] at hlt
        omega
      · rw [concat_eq_append, ← append_assoc] at hw
        have hx := (append_inj' hw rfl).2
        exact ⟨lines, by rw [concat_eq_append, ← hx]⟩
    have hrest := hspans''.rest.symm.trans hspans'.rest
    rw [append_assoc] at hrest
    exact (length_le_of_noLineFeed (hused content (hdots content hcontent)) hrest).le

lemma lastMarker_written (opening : String) (text : List Char) (hopening : ∀ c ∈ opening.toList, isDot c = true)
    (hvalue : ∀ c ∈ value, isDot c = true ∧ c ≠ ' ') : lastMarker (markerRe opening (.lazy isDot 0))
      (text ++ '\n' :: (opening.toList ++ (value ++ " -->".toList))) = some value := by
  obtain ⟨stop, -, hlast⟩ := lastMatch_written opening text mem_ends_lazy (fun _ h => h.1) hopening
    ⟨fun c hc => (hvalue c hc).1, Nat.zero_le _⟩ fun c hc => (hvalue c hc).2
  rw [lastMarker, hlast]
  rfl

/-! ## The pairs -/

lemma splitCommas_intercalate {pairs : List (List Char)} (hcommas : ∀ pair ∈ pairs, ',' ∉ pair)
    (hne : pairs ≠ []) : splitCommas ([','].intercalate pairs) = pairs := by
  have hnot : ∀ {pair : List Char}, ',' ∉ pair → ∀ c ∈ pair, decide (c = ',') = false := by
    intro pair hpair c hc
    refine decide_eq_false fun heq => ?_
    subst heq
    exact hpair hc
  unfold splitCommas
  induction pairs with
  | nil => exact absurd rfl hne
  | cons pair pairs ih =>
    have hpair := hnot (hcommas pair (by simp))
    cases pairs with
    | nil =>
      rw [intercalate_singleton]
      exact splitOnP_eq_singleton hpair
    | cons next pairs =>
      rw [intercalate_cons_cons, append_assoc, singleton_append,
        splitOnP_append_cons_of_forall_mem hpair ',' (by decide),
        ih (fun p hp => hcommas p (by simp [hp])) (by simp)]

lemma trimmed_eq_self {text : List Char} (h : ∀ c ∈ text, JsText.isSpace c = false) : trimmed text = text := by
  refine JsText.trimEnd_trimStart_eq_self_iff.2 ⟨fun c hc => h c ?_, fun c hc => h c ?_⟩
  · exact mem_of_head? hc
  · exact mem_of_getLast? hc

variable {c : Char}

lemma not_isSpace_of_visible (h : 0x20 < c.toNat ∧ c.toNat < 0x7F) : JsText.isSpace c = false := by
  simp [JsText.isSpace]
  omega

lemma isDot_of_visible (h : 0x20 < c.toNat ∧ c.toNat < 0x7F) : isDot c = true := by
  have hne : ∀ d : Char, d.toNat ≤ 0x20 → c ≠ d := by
    rintro d hd rfl
    omega
  simp [isDot, isLineTerminator, hne '\n' (by decide), hne '\r' (by decide)]
  omega

lemma visible_of_isHexDigit (h : isHexDigit c = true) : 0x20 < c.toNat ∧ c.toNat < 0x7F ∧ c ≠ '~' ∧ c ≠ ',' := by
  have hbounds := toNat_of_isHexDigit h
  refine ⟨by omega, by omega, ?_, ?_⟩
  · rintro rfl
    revert hbounds
    decide
  · rintro rfl
    revert hbounds
    decide

lemma mem_intercalate {sep : List Char} {texts : List (List Char)}
    (h : c ∈ sep.intercalate texts) : c ∈ sep ∨ ∃ text ∈ texts, c ∈ text := by
  induction texts with
  | nil => simp at h
  | cons text texts ih =>
    cases texts with
    | nil =>
      rw [intercalate_singleton] at h
      exact .inr ⟨text, by simp, h⟩
    | cons next texts =>
      rw [intercalate_cons_cons, mem_append, mem_append] at h
      rcases h with (h | h) | h
      · exact .inr ⟨text, by simp, h⟩
      · exact .inl h
      · rcases ih h with h | ⟨t, ht, hc⟩
        · exact .inl h
        · exact .inr ⟨t, by simp [ht], hc⟩

variable (host : NodeHost)

lemma findingKey_digits (f : ReviewFinding) :
    (findingKey host f).toList.length = 8 ∧ ∀ c ∈ (findingKey host f).toList, isHexDigit c = true := by
  obtain ⟨hlength, hdigits⟩ := host.sha1_hex (keyBasis host f)
  rw [findingKey, shortDigest, String.toList_ofList]
  refine ⟨by rw [length_take, hlength]; rfl, fun c hc => ?_⟩
  exact all_eq_true.1 hdigits c (mem_of_mem_take hc)

lemma surfacePair_written (f : ReviewFinding) (sk : String) :
    surfacePair (findingKey host f ++ "~" ++ UriComponent.encode sk).toList = some (findingKey host f, sk) := by
  obtain ⟨hlength, hdigits⟩ := findingKey_digits host f
  have hpair : (findingKey host f ++ "~" ++ UriComponent.encode sk).toList =
      (findingKey host f).toList ++ '~' :: (UriComponent.encode sk).toList := by
    simp
  have hkey : ∀ c ∈ (findingKey host f).toList, decide (c ≠ '~') = true := by
    intro c hc
    exact decide_eq_true (visible_of_isHexDigit (hdigits c hc)).2.2.1
  have hsplit := @takeWhile_append_of_pos _ _ _ ('~' :: (UriComponent.encode sk).toList) hkey
  have hdrop := @dropWhile_append_of_pos _ _ _ ('~' :: (UriComponent.encode sk).toList) hkey
  have hfk : trimmed (findingKey host f).toList = (findingKey host f).toList :=
    trimmed_eq_self fun c hc => by
      obtain ⟨hlow, hhigh, -⟩ := visible_of_isHexDigit (hdigits c hc)
      exact not_isSpace_of_visible ⟨hlow, hhigh⟩
  have hsk : trimmed (UriComponent.encode sk).toList = (UriComponent.encode sk).toList :=
    trimmed_eq_self fun c hc => by
      obtain ⟨hlow, hhigh, -⟩ := UriComponent.visible_of_mem_encode hc
      exact not_isSpace_of_visible ⟨hlow, hhigh⟩
  have hkeyText : isKeyText (findingKey host f).toList = true := by
    simp only [isKeyText, hlength, decide_true, Bool.true_and]
    exact all_eq_true.2 hdigits
  have htilde : ((findingKey host f).toList ++ '~' :: (UriComponent.encode sk).toList).contains '~' = true := by simp
  unfold surfacePair
  rw [hpair, htilde, hsplit, hdrop]
  simp [hfk, hsk, hkeyText, UriComponent.decode_encode]

/-- The pairs of a round, as keys and surfaces. -/
def keyedSurfaces (seenFindingKeys : List String) (findings : List ReviewFinding) :
    List (String × String) :=
  match findings with
  | [] => []
  | f :: findings =>
    match surfaceKey host f with
    | none => keyedSurfaces seenFindingKeys findings
    | some sk =>
      if seenFindingKeys.contains (findingKey host f) then keyedSurfaces seenFindingKeys findings
      else (findingKey host f, sk) :: keyedSurfaces (findingKey host f :: seenFindingKeys) findings

lemma map_surfacePair_written (seen : List String) (findings : List ReviewFinding) :
    (surfacePairs host seen findings).map (fun pair => surfacePair pair.toList) =
      (keyedSurfaces host seen findings).map some := by
  induction findings generalizing seen with
  | nil => rfl
  | cons f findings ih =>
    rw [surfacePairs, keyedSurfaces]
    cases surfaceKey host f with
    | none => exact ih seen
    | some sk =>
      by_cases hseen : seen.contains (findingKey host f) = true
      · simp only [if_pos hseen]
        exact ih seen
      · simp only [if_neg hseen, map_cons, surfacePair_written, ih]

variable {seen : List String} {findings : List ReviewFinding} {pair : String}

lemma mem_surfacePairs (h : pair ∈ surfacePairs host seen findings) :
    ∃ f sk, pair = findingKey host f ++ "~" ++ UriComponent.encode sk := by
  induction findings generalizing seen with
  | nil => cases h
  | cons f findings ih =>
    rw [surfacePairs] at h
    cases hsk : surfaceKey host f with
    | none =>
      rw [hsk] at h
      exact ih h
    | some sk =>
      simp only [hsk] at h
      split at h
      · exact ih h
      · rcases mem_cons.1 h with rfl | h
        · exact ⟨f, sk, rfl⟩
        · exact ih h

lemma visible_of_mem_pair (h : pair ∈ surfacePairs host seen findings) :
    ∀ c ∈ pair.toList, 0x20 < c.toNat ∧ c.toNat < 0x7F ∧ c ≠ ',' := by
  obtain ⟨f, sk, rfl⟩ := mem_surfacePairs host h
  intro c hc
  rw [String.toList_append, String.toList_append, mem_append, mem_append] at hc
  rcases hc with (hc | hc) | hc
  · obtain ⟨hlow, hhigh, -, hcomma⟩ := visible_of_isHexDigit ((findingKey_digits host f).2 c hc)
    exact ⟨hlow, hhigh, hcomma⟩
  · obtain rfl : c = '~' := by simpa using hc
    decide
  · exact UriComponent.visible_of_mem_encode hc

lemma get?_foldl_keyedSurfaces (seen : List String) (findings : List ReviewFinding)
    (surfaces : JsObject String) (key : String) :
    ((keyedSurfaces host seen findings).foldl (fun o p => o.set p.1 p.2) surfaces).get? key =
      if key ∈ seen then surfaces.get? key
      else ((firstOfKey host findings key).bind (surfaceKey host)).or (surfaces.get? key) := by
  induction findings generalizing seen surfaces with
  | nil =>
    rw [keyedSurfaces, foldl_nil, firstOfKey, find?_nil]
    split <;> rfl
  | cons f findings ih =>
    have hskip : findingKey host f ≠ key ∨ surfaceKey host f = none →
        firstOfKey host (f :: findings) key = firstOfKey host findings key := by
      intro h
      refine find?_cons_of_neg ?_
      rcases h with h | h <;> simp [h]
    rw [keyedSurfaces]
    cases hsk : surfaceKey host f with
    | none =>
      rw [hskip (.inr hsk)]
      exact ih seen surfaces
    | some sk =>
      by_cases hseen : findingKey host f ∈ seen
      · simp only [contains_iff_mem, if_pos hseen]
        rw [ih seen surfaces]
        by_cases hkey : key ∈ seen
        · rw [if_pos hkey, if_pos hkey]
        · have hne : findingKey host f ≠ key := fun heq => hkey (heq ▸ hseen)
          rw [if_neg hkey, if_neg hkey, hskip (.inl hne)]
      · simp only [contains_iff_mem, if_neg hseen, foldl_cons]
        rw [ih, JsObject.get?_set]
        by_cases hkey : key = findingKey host f
        · subst hkey
          have hfirst : firstOfKey host (f :: findings) (findingKey host f) = some f :=
            find?_cons_of_pos (by simp [hsk])
          simp [hseen, hfirst, hsk]
        · rw [hskip (.inl (Ne.symm hkey))]
          simp [hkey]

/-- What a pair assigns. -/
def assignSurface (surfaces : JsObject String) : Option (String × String) → JsObject String
  | some (fk, sk) => surfaces.set fk sk
  | none => surfaces

/-- The surfaces that are read after any text are those of the first finding of every key. -/
theorem get?_extractBlockingSurfaces_written (text : List Char) (findings : List ReviewFinding)
    (key : String) :
    (extractBlockingSurfacesFromComment
      (text ++ '\n' :: (formatBlockingSurfacesMarker host findings).toList)).get? key =
        (firstOfKey host findings key).bind (surfaceKey host) := by
  have hmarker : (formatBlockingSurfacesMarker host findings).toList = "<!-- pipeline-blocking-surfaces: ".toList ++
        ([','].intercalate ((surfacePairs host [] findings).map String.toList) ++ " -->".toList) := by
    unfold formatBlockingSurfacesMarker
    rw [String.toList_append, String.toList_append, String.toList_intercalate, append_assoc]
    rfl
  have hvalue : ∀ c ∈ [','].intercalate ((surfacePairs host [] findings).map String.toList),
      isDot c = true ∧ c ≠ ' ' := by
    intro c hc
    have hvisible : 0x20 < c.toNat ∧ c.toNat < 0x7F := by
      rcases mem_intercalate hc with hcomma | ⟨pair, hpair, hmem⟩
      · obtain rfl : c = ',' := by simpa using hcomma
        decide
      · obtain ⟨written, hwritten, rfl⟩ := mem_map.1 hpair
        obtain ⟨hlow, hhigh, -⟩ := visible_of_mem_pair host hwritten c hmem
        exact ⟨hlow, hhigh⟩
    refine ⟨isDot_of_visible hvisible, ?_⟩
    rintro rfl
    exact absurd hvisible.1 (by decide)
  -- what is assigned, pair by pair
  have hassign : (splitCommas ([','].intercalate
      ((surfacePairs host [] findings).map String.toList))).foldl
        (fun surfaces pair => assignSurface surfaces (surfacePair pair)) .empty =
      (keyedSurfaces host [] findings).foldl (fun o p => o.set p.1 p.2) .empty := by
    have hkeyed := map_surfacePair_written host [] findings
    by_cases hpairs : surfacePairs host [] findings = []
    · rw [hpairs] at hkeyed ⊢
      rw [map_eq_nil_iff.1 hkeyed.symm]
      rfl
    · rw [splitCommas_intercalate ?_ (by simpa using hpairs), ← foldl_map (g := assignSurface), map_map]
      · have hcomp : (surfacePair ∘ String.toList) = fun pair => surfacePair pair.toList := rfl
        rw [hcomp, hkeyed, foldl_map]
        rfl
      · intro pair hpair hcomma
        obtain ⟨written, hwritten, rfl⟩ := mem_map.1 hpair
        exact (visible_of_mem_pair host hwritten ',' hcomma).2.2 rfl
  have hlast := lastMarker_written "<!-- pipeline-blocking-surfaces: " text
    (all_eq_true.1 (by decide)) hvalue
  rw [extractBlockingSurfacesFromComment, hmarker, pipelineBlockingSurfacesRe, hlast]
  refine (congrArg (JsObject.get? · key) hassign).trans ?_
  rw [get?_foldl_keyedSurfaces]
  simp

end AgentPipeline.Review
