import AgentPipeline.Foundation.JsMatches
import AgentPipeline.Pin.Record
import Mathlib.Data.List.Infix

/-!
# Release.Milestone: the milestone of a release

A release takes its plan from the milestone whose title names the version. A title is free text; its
version token is its run of digits and dots.

* `findMilestoneMatchingVersion`: the one milestone whose title matches;
* `titleMatches_iff`: what a title with one token matches: the token is the version, or the token
  stands after a `v` and starts with the version;
* `findMilestone_exact_iff`: when the selection goes by the token.
-/

namespace AgentPipeline.Release

open List JsRegExp
open Pin (PinVersion)

/-- A milestone as GitHub lists it. -/
structure ReleaseMilestoneApiRaw where
  number : Nat
  /-- `none` is a title that is not there. -/
  title : Option String
deriving DecidableEq, Repr

/-- `m.title ?? ""`. -/
def ReleaseMilestoneApiRaw.titleText (m : ReleaseMilestoneApiRaw) : List Char := (m.title.getD "").toList

/-- `[0-9.]`. -/
def isVersionChar (c : Char) : Bool := c.isDigit || c = '.'

/-- `(?:^|[^0-9.])X.Y.Z(?:[^0-9.]|$)`. -/
def versionToken (version : String) : Regex :=
  .sequence [.alt .textStart (.oneOf fun c => !isVersionChar c), .text version,
    .alt (.oneOf fun c => !isVersionChar c) (.plain .atEnd)]

/-- The test of one title. -/
def titleMatches (version : String) (title : List Char) : Bool :=
  decide (('v' :: version.toList) <:+: title) || test (versionToken version) title

/-- `ambiguousMilestoneError(version, matches)`. -/
def ambiguousMilestoneError (version : String) (found : List ReleaseMilestoneApiRaw) : String :=
  "[pipeline release] ambiguous GitHub milestones matching version " ++ version ++ ": " ++
    "; ".intercalate (found.map fun m => "#" ++ toString m.number ++ " \"" ++ m.title.getD "" ++ "\"") ++
    ". Release plan membership requires exactly one matching milestone. Rename or close the extras so " ++
    "only one title matches v" ++ version ++ " (or bare " ++ version ++ "), then retry."

/-- `findMilestoneMatchingVersion(milestones, version)`; an error is the message that it throws. -/
def findMilestoneMatchingVersion (milestones : List ReleaseMilestoneApiRaw) (version : String) :
    Except String (Option ReleaseMilestoneApiRaw) :=
  match milestones.filter fun m => titleMatches version m.titleText with
  | [] => .ok none
  | [m] => .ok (some m)
  | found => .error (ambiguousMilestoneError version found)

/-! ## Tokens -/

/-- What stands before the first digit or dot. -/
def beforeToken (title : List Char) : List Char := title.takeWhile fun c => !isVersionChar c

/-- The first run of digits and dots; it is empty where there is none. -/
def titleToken (title : List Char) : List Char :=
  (title.dropWhile fun c => !isVersionChar c).takeWhile isVersionChar

def afterToken (title : List Char) : List Char :=
  (title.dropWhile fun c => !isVersionChar c).dropWhile isVersionChar

/-- No digit and no dot stands after the first run. -/
def HasOneToken (title : List Char) : Prop := (afterToken title).all (fun c => !isVersionChar c) = true

/-- The token of the milestone is the version. -/
def ReleaseMilestoneApiRaw.names (version : PinVersion) (m : ReleaseMilestoneApiRaw) : Bool :=
  titleToken m.titleText = version.text.toList

/-- The token stands after a `v` and goes on after the version. -/
def ReleaseMilestoneApiRaw.extendsVersion (version : PinVersion) (m : ReleaseMilestoneApiRaw) : Bool :=
  (beforeToken m.titleText).getLast? = some 'v' &&
    version.text.toList.isPrefixOf (titleToken m.titleText) && titleToken m.titleText ≠ version.text.toList

/-- The answer that goes by the tokens. -/
def Selects (named : List ReleaseMilestoneApiRaw) (result : Except String (Option ReleaseMilestoneApiRaw)) :
    Prop :=
  match named with
  | [] => result = .ok none
  | [m] => result = .ok (some m)
  | _ => ∃ message, result = .error message

/-! ## What a title matches -/

lemma versionChars_text (version : PinVersion) : ∀ c ∈ version.text.toList, isVersionChar c = true := by
  have hnumber := version.isNumber
  unfold Pin.isReleaseNumber at hnumber
  split at hnumber
  · next major minor patch hsplit =>
    have hjoin : ['.'].intercalate (version.text.toList.splitOn '.') = version.text.toList :=
      intercalate_splitOn '.'
    have hdigits : ∀ part ∈ [major, minor, patch], ∀ c ∈ part, isVersionChar c = true := by
      intro part hpart c hc
      have hall := (Bool.and_eq_true_iff.1 (all_eq_true.1 hnumber part hpart)).2
      simp [isVersionChar, all_eq_true.1 hall c hc]
    intro c hc
    have hparts : ['.'].intercalate [major, minor, patch] = major ++ '.' :: (minor ++ '.' :: patch) := by
      simp [List.intercalate]
    rw [← hjoin, hsplit, hparts] at hc
    simp only [mem_append, mem_cons] at hc
    rcases hc with hc | rfl | hc | rfl | hc
    · exact hdigits major (by simp) c hc
    · rfl
    · exact hdigits minor (by simp) c hc
    · rfl
    · exact hdigits patch (by simp) c hc
  · cases hnumber

lemma text_ne_nil (version : PinVersion) : version.text.toList ≠ [] := by
  intro hnil
  have hnumber := version.isNumber
  rw [Pin.isReleaseNumber, hnil] at hnumber
  cases hnumber

lemma title_eq (title : List Char) : title = beforeToken title ++ (titleToken title ++ afterToken title) := by
  rw [titleToken, afterToken, takeWhile_append_dropWhile, beforeToken, takeWhile_append_dropWhile]

lemma not_versionChar_of_mem_before {title : List Char} {c : Char} (h : c ∈ beforeToken title) :
    isVersionChar c = false := by
  simpa using mem_takeWhile_imp h

lemma token_of_run {pre run post : List Char} (hone : HasOneToken (pre ++ (run ++ post)))
    (hne : run ≠ []) (hrun : ∀ c ∈ run, isVersionChar c = true)
    (hlead : pre.getLast?.all (fun x => !isVersionChar x) = true) :
    beforeToken (pre ++ (run ++ post)) = pre ∧
      titleToken (pre ++ (run ++ post)) = run ++ post.takeWhile isVersionChar := by
  obtain ⟨d, rest, rfl⟩ := exists_cons_of_ne_nil hne
  have hd : isVersionChar d = true := hrun d mem_cons_self
  have hpre : ∀ c ∈ pre, isVersionChar c = false := by
    by_contra hsome
    push Not at hsome
    obtain ⟨c, hc, hversion⟩ := hsome
    obtain ⟨start, x, rfl⟩ : ∃ start x, pre = start ++ [x] :=
      ⟨_, _, (dropLast_append_getLast (ne_nil_of_mem hc)).symm⟩
    have hx : isVersionChar x = false := by simpa using hlead
    have hstart : (start.dropWhile fun c => !isVersionChar c) ≠ [] := by
      intro hnil
      have hall := dropWhile_eq_nil_iff.1 hnil
      rcases mem_append.1 hc with hc | hc
      · have hnot := hall c hc
        simp_all
      · simp_all
    -- the token ends before the last character of `pre`, and the run comes after it
    have hafter : d ∈ afterToken (start ++ [x] ++ (d :: rest ++ post)) := by
      rw [afterToken, append_assoc, dropWhile_append, if_neg (by simpa using hstart), dropWhile_append]
      split
      · simp [hx]
      · simp
    have hnone := all_eq_true.1 hone d hafter
    simp [hd] at hnone
  have hbefore : ∀ c ∈ pre, (!isVersionChar c) = true := fun c hc => by rw [hpre c hc]; rfl
  have hdrop : (pre ++ (d :: rest ++ post)).dropWhile (fun c => !isVersionChar c) = d :: rest ++ post := by
    rw [dropWhile_append_of_pos hbefore, cons_append, dropWhile_cons, if_neg (by simp [hd])]
  constructor
  · rw [beforeToken, takeWhile_append_of_pos hbefore, cons_append, takeWhile_cons, if_neg (by simp [hd]), append_nil]
  · rw [titleToken, hdrop, takeWhile_append_of_pos hrun]

lemma exists_mem_lead_iff {title lead : List Char} {c : Cursor} (hlead : Spans ⟨none, title⟩ lead c) :
    (∃ pre d, Spans ⟨none, title⟩ pre d ∧
      (⟨c, []⟩ : Place) ∈ ends (.alt .textStart (.oneOf fun x => !isVersionChar x)) { cursor := d }) ↔
      lead.getLast?.all (fun x => !isVersionChar x) = true := by
  constructor
  · rintro ⟨pre, d, hpre, h⟩
    rcases mem_ends_alt.1 h with hstart | hother
    · obtain ⟨heq, hnone⟩ := mem_ends_textStart.1 hstart
      obtain rfl : c = d := congrArg Place.cursor heq
      have hlast : c.before = none := hnone
      rw [hlead.before, Option.or_none, getLast?_eq_none_iff] at hlast
      rw [hlast]
      rfl
    · obtain ⟨-, x, hx, hspans⟩ := mem_ends_oneOf.1 hother
      have hwhole := hpre.trans hspans
      have hsame : lead = pre ++ [x] := append_cancel_right (hlead.rest.symm.trans hwhole.rest)
      rw [hsame]
      simpa using hx
  · intro hall
    rcases eq_nil_or_concat lead with rfl | ⟨pre, x, rfl⟩
    · obtain rfl := spans_nil_iff.1 hlead
      exact ⟨[], _, .refl _, mem_ends_alt.2 (.inl (mem_ends_textStart.2 ⟨rfl, rfl⟩))⟩
    · rw [concat_eq_append] at hlead hall
      obtain ⟨d, hpre, hlast⟩ := hlead.split
      exact ⟨pre, d, hpre, mem_ends_alt.2 (.inr (mem_ends_oneOf.2 ⟨rfl, x, by simpa using hall, hlast⟩))⟩

lemma exists_mem_trail_iff {s : Place} :
    (∃ e, e ∈ ends (.alt (.oneOf fun x => !isVersionChar x) (.plain .atEnd)) s) ↔
      s.cursor.rest.takeWhile isVersionChar = [] := by
  have hend : ∀ e, e ∈ ends (.plain .atEnd) s → s.cursor.rest = [] := by
    intro e he
    obtain ⟨-, he⟩ := mem_ends_plain.1 he
    by_contra hsome
    simp [matchAt, hsome] at he
  constructor
  · rintro ⟨e, he⟩
    rcases mem_ends_alt.1 he with hother | hlast
    · obtain ⟨-, y, hy, hspans⟩ := mem_ends_oneOf.1 hother
      have hy : isVersionChar y = false := by simpa using hy
      rw [hspans.rest, singleton_append, takeWhile_cons, hy]
      rfl
    · rw [hend e hlast]
      rfl
  · intro hstop
    cases hrest : s.cursor.rest with
    | nil =>
      refine ⟨s, mem_ends_alt.2 (.inr (mem_ends_plain.2 ⟨rfl, ?_⟩))⟩
      simp [matchAt, hrest]
    | cons y rest =>
      have hy : isVersionChar y = false := by
        by_contra hversion
        simp [hrest, hversion] at hstop
      have hspans := @exists_spans s.cursor [y] rest hrest
      exact ⟨⟨⟨[y].getLast?.or s.cursor.before, rest⟩, s.groups⟩, mem_ends_alt.2 (.inl 
        (mem_ends_oneOf.2 ⟨rfl, y, by rw [hy]; rfl, hspans⟩))⟩

lemma test_versionToken_iff {version : String} {title : List Char} :
    test (versionToken version) title = true ↔ ∃ lead rest, title = lead ++ (version.toList ++ rest) ∧
      lead.getLast?.all (fun x => !isVersionChar x) = true ∧ rest.takeWhile isVersionChar = [] := by
  rw [test_eq_true_iff]
  constructor
  · rintro ⟨pre, c, e, hpre, he⟩
    obtain ⟨s₁, h₁, h⟩ := mem_ends_sequence_cons.1 he
    obtain ⟨s₂, h₂, h⟩ := mem_ends_sequence_cons.1 h
    obtain ⟨s₃, h₃, h⟩ := mem_ends_sequence_cons.1 h
    obtain ⟨used, hused⟩ := spans_of_mem_ends h₁
    obtain ⟨hgroups, hversion⟩ := mem_ends_text.1 h₂
    have hlead := hpre.trans hused
    have hnone : s₁ = ⟨s₁.cursor, []⟩ := by
      have hgroups : s₁.groups = [] := by
        rcases mem_ends_alt.1 h₁ with hstart | hother
        · rw [(mem_ends_textStart.1 hstart).1]
        · exact (mem_ends_oneOf.1 hother).1
      rw [← hgroups]
    rw [hnone] at h₁
    refine ⟨pre ++ used, s₂.cursor.rest, ?_, (exists_mem_lead_iff hlead).1 ⟨pre, c, hpre, h₁⟩,
      exists_mem_trail_iff.1 ⟨s₃, h₃⟩⟩
    rw [← hversion.rest, ← hlead.rest]
  · rintro ⟨lead, rest, htitle, hbefore, hstop⟩
    have hlead := @exists_spans ⟨none, title⟩ _ _ htitle
    obtain ⟨pre, c, hpre, h₁⟩ := (exists_mem_lead_iff hlead).2 hbefore
    let stop : Place := ⟨⟨version.toList.getLast?.or (lead.getLast?.or none), rest⟩, []⟩
    have h₂ : stop ∈ ends (.text version) ⟨⟨lead.getLast?.or none, version.toList ++ rest⟩, []⟩ :=
      mem_ends_text.2 ⟨rfl, @exists_spans _ version.toList rest rfl⟩
    obtain ⟨s₃, h₃⟩ := (@exists_mem_trail_iff stop).2 hstop
    exact ⟨pre, c, s₃, hpre, mem_ends_sequence_cons.2 ⟨_, h₁, mem_ends_sequence_cons.2
      ⟨stop, h₂, mem_ends_sequence_cons.2 ⟨s₃, h₃, mem_ends_sequence_nil.2 rfl⟩⟩⟩⟩

/-- A title matches where the version is its token, or starts it after a `v`. -/
theorem titleMatches_iff (version : PinVersion) {m : ReleaseMilestoneApiRaw} (hone : HasOneToken m.titleText) :
    titleMatches version.text m.titleText = true ↔ m.names version = true ∨ m.extendsVersion version = true := by
  have hchars := versionChars_text version
  have hne := text_ne_nil version
  have hnames : m.names version = true ↔ titleToken m.titleText = version.text.toList := by
    simp [ReleaseMilestoneApiRaw.names]
  have hextends : m.extendsVersion version = true ↔ (beforeToken m.titleText).getLast? = some 'v' ∧
      version.text.toList <+: titleToken m.titleText ∧ titleToken m.titleText ≠ version.text.toList := by
    simp [ReleaseMilestoneApiRaw.extendsVersion, and_assoc]
  rw [titleMatches, Bool.or_eq_true, decide_eq_true_iff, test_versionToken_iff, hnames, hextends]
  generalize m.titleText = title at *
  constructor
  · rintro (⟨pre, post, htitle⟩ | ⟨lead, rest, rfl, hlead, hstop⟩)
    · obtain rfl : (pre ++ ['v']) ++ (version.text.toList ++ post) = title := by
        rw [← htitle]
        simp
      obtain ⟨hbefore, htoken⟩ := token_of_run hone hne hchars (by simp [isVersionChar])
      by_cases hsame : titleToken (pre ++ ['v'] ++ (version.text.toList ++ post)) = version.text.toList
      · exact .inl hsame
      · refine .inr ⟨by rw [hbefore]; simp, ?_, hsame⟩
        rw [htoken]
        exact prefix_append _ _
    · obtain ⟨-, htoken⟩ := token_of_run hone hne hchars hlead
      rw [hstop, append_nil] at htoken
      exact .inl htoken
  · rintro (hsame | ⟨hv, ⟨rest, hrest⟩, -⟩)
    · refine .inr ⟨beforeToken title, afterToken title, ?_, ?_, ?_⟩
      · rw [← hsame]
        exact title_eq title
      · cases hlast : (beforeToken title).getLast? with
        | none => rfl
        | some x => simp [not_versionChar_of_mem_before (mem_of_getLast? hlast)]
      · cases hafter : afterToken title with
        | nil => rfl
        | cons y rest =>
          have hy := all_eq_true.1 hone y (by rw [hafter]; simp)
          simpa using hy
    · left
      obtain ⟨start, hstart⟩ := getLast?_eq_some_iff.1 hv
      refine ⟨start, rest ++ afterToken title, ?_⟩
      conv => rhs; rw [title_eq title, hstart, ← hrest]
      simp

/-! ## The selection -/

lemma filter_eq_filter_iff {α : Type} {l : List α} {p q : α → Bool} (hsub : ∀ a ∈ l, p a = true → q a = true) :
    l.filter q = l.filter p ↔ ∀ a ∈ l, q a = true → p a = true := by
  constructor
  · intro h a ha hq
    have hmem : a ∈ l.filter p := h ▸ mem_filter.2 ⟨ha, hq⟩
    exact (mem_filter.1 hmem).2
  · intro h
    refine filter_congr fun a ha => ?_
    rw [Bool.eq_iff_iff]
    exact ⟨h a ha, hsub a ha⟩

/-- The selection goes by the tokens, unless the token of another milestone stands after a `v` and starts with
the version; with two milestones of the version it throws all the same. -/
theorem findMilestone_exact_iff (version : PinVersion) (milestones : List ReleaseMilestoneApiRaw)
    (htitles : ∀ m ∈ milestones, HasOneToken m.titleText) :
    Selects (milestones.filter (·.names version)) (findMilestoneMatchingVersion milestones version.text) ↔
      (∀ m ∈ milestones, m.extendsVersion version = false) ∨ 2 ≤ (milestones.filter (·.names version)).length := by
  have hmatches : (milestones.filter fun m => titleMatches version.text m.titleText) =
      milestones.filter fun m => m.names version || m.extendsVersion version := by
    refine filter_congr fun m hm => ?_
    rw [Bool.eq_iff_iff, titleMatches_iff version (htitles m hm), Bool.or_eq_true]
  have hdisjoint : ∀ m : ReleaseMilestoneApiRaw, m.extendsVersion version = true → m.names version = false := by
    intro m h
    simp_all [ReleaseMilestoneApiRaw.extendsVersion, ReleaseMilestoneApiRaw.names]
  have hsublist : (milestones.filter (·.names version)).Sublist
      (milestones.filter fun m => m.names version || m.extendsVersion version) :=
    monotone_filter_right _ fun m hm => by simp_all
  have hsame : (milestones.filter fun m => m.names version || m.extendsVersion version) =
      milestones.filter (·.names version) ↔ ∀ m ∈ milestones, m.extendsVersion version = false := by
    rw [filter_eq_filter_iff fun m _ hm => by simp [hm]]
    refine forall₂_congr fun m _ => ?_
    cases hextends : m.extendsVersion version with
    | false => simp
    | true => simp [hdisjoint m hextends]
  rw [findMilestoneMatchingVersion, hmatches, ← hsame]
  generalize (milestones.filter fun m => m.names version || m.extendsVersion version) = found at *
  generalize milestones.filter (·.names version) = named at *
  cases named with
  | nil =>
    rcases found with _ | ⟨m, _ | ⟨m', rest⟩⟩ <;> simp [Selects]
  | cons a named =>
    cases named with
    | nil => rcases found with _ | ⟨m, _ | ⟨m', rest⟩⟩ <;> simp [Selects]
    | cons b named =>
      have hlength := hsublist.length_le
      rcases found with _ | ⟨m, _ | ⟨m', rest⟩⟩
      · simp at hlength
      · simp at hlength
      · simp [Selects]

def firstPatch : PinVersion := ⟨"1.2.3", by decide⟩

/-- The milestone of the version is selected beside one of another minor version. -/
theorem findMilestone_firstPatch :
    Selects [⟨1, some "v1.2.3 - fixes"⟩]
      (findMilestoneMatchingVersion [⟨1, some "v1.2.3 - fixes"⟩, ⟨2, some "v1.3.0"⟩] "1.2.3") :=
  (findMilestone_exact_iff firstPatch [⟨1, some "v1.2.3 - fixes"⟩, ⟨2, some "v1.3.0"⟩]
    (by unfold HasOneToken; decide +kernel)).2 (.inl (by decide +kernel))

/-- `v1.2.30` is selected for 1.2.3, and makes the milestone of 1.2.3 ambiguous. -/
theorem longer_patch_selected :
    findMilestoneMatchingVersion [⟨2, some "v1.2.30"⟩] firstPatch.text = .ok (some ⟨2, some "v1.2.30"⟩) ∧
      (∃ message, findMilestoneMatchingVersion [⟨1, some "v1.2.3"⟩, ⟨2, some "v1.2.30"⟩] firstPatch.text =
        .error message) ∧
      titleToken "v1.2.3".toList = firstPatch.text.toList ∧ titleToken "v1.2.30".toList ≠ firstPatch.text.toList ∧
      HasOneToken "v1.2.3".toList ∧ HasOneToken "v1.2.30".toList := by
  refine ⟨by decide +kernel, ⟨_, by rfl⟩, by decide +kernel, by decide +kernel, ?_, ?_⟩
  · unfold HasOneToken
    decide +kernel
  · unfold HasOneToken
    decide +kernel

end AgentPipeline.Release
