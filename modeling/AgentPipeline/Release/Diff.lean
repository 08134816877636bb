import Mathlib.Algebra.Order.Ring.Nat
import Mathlib.Order.Bounds.Defs

/-!
# Release.Diff: unified diffs

* `diffLines`: the edits between two lists of lines, out of a table of common lengths;
* `computeUnifiedDiff`: the edits around the changes, as hunks;
* `computeUnifiedDiff_correct`: the hunks apply, and no line edit script has fewer changes.
-/

namespace AgentPipeline.Release

open List

inductive EditKind where
  | eq | del | ins
deriving DecidableEq

structure Edit (α : Type) where
  kind : EditKind
  val : α

section DiffLines

variable {α : Type} [DecidableEq α]

/-! ## Edits

A list of lines stands here with its last line first, as the loops go. -/

/-- `dp[i]` from `dp[i - 1]`, where `x` is `a[i - 1]`. -/
def dpRow (above : List α → Nat) (x : α) : List α → Nat
  | [] => 0
  | y :: bs => if x = y then above bs + 1 else max (above (y :: bs)) (dpRow above x bs)

/-- `dp[i][j]`. -/
def dp : List α → List α → Nat
  | [] => fun _ => 0
  | x :: as => dpRow (dp as) x

/-- The edits from `i` and `j` on; `above` has them from `i - 1` on. -/
def backRow (above : List α → List (Edit α)) (as : List α) (x : α) : List α → List (Edit α)
  | [] => ⟨.del, x⟩ :: above []
  | y :: bs =>
    if x = y then ⟨.eq, x⟩ :: above bs
    else if dp as (y :: bs) ≤ dp (x :: as) bs then ⟨.ins, y⟩ :: backRow above as x bs
    else ⟨.del, x⟩ :: above (y :: bs)

/-- The loop back through the table. -/
def back : List α → List α → List (Edit α)
  | [] => fun bs => bs.map (⟨.ins, ·⟩)
  | x :: as => backRow (back as) as x

/-- `diffLines(a, b)`. -/
def diffLines (a b : List α) : List (Edit α) := (back a.reverse b.reverse).reverse

/-- The lines before the edits. -/
def oldSide (es : List (Edit α)) : List α := (es.filter (·.kind ≠ .ins)).map (·.val)

/-- The lines after the edits. -/
def newSide (es : List (Edit α)) : List α := (es.filter (·.kind ≠ .del)).map (·.val)

/-- The deleted and inserted lines. -/
def changes (es : List (Edit α)) : Nat := es.countP (·.kind ≠ .eq)

omit [DecidableEq α] in
lemma sides_append {es es' : List (Edit α)} :
    oldSide (es ++ es') = oldSide es ++ oldSide es' ∧ newSide (es ++ es') = newSide es ++ newSide es' := by
  simp [oldSide, newSide]

omit [DecidableEq α] in
lemma sides_reverse (es : List (Edit α)) :
    oldSide es.reverse = (oldSide es).reverse ∧ newSide es.reverse = (newSide es).reverse := by
  simp [oldSide, newSide, filter_reverse]

lemma sides_back (as bs : List α) : oldSide (back as bs) = as ∧ newSide (back as bs) = bs := by
  induction as generalizing bs with
  | nil =>
    induction bs with
    | nil => exact ⟨rfl, rfl⟩
    | cons y bs ih => exact ⟨ih.1, congrArg (y :: ·) ih.2⟩
  | cons x as ih =>
    induction bs with
    | nil => exact ⟨congrArg (x :: ·) (ih []).1, (ih []).2⟩
    | cons y bs ihRow =>
      simp only [back, backRow] at ihRow ⊢
      split_ifs with hsame
      · subst hsame
        exact ⟨congrArg (x :: ·) (ih bs).1, congrArg (x :: ·) (ih bs).2⟩
      · exact ⟨ihRow.1, congrArg (y :: ·) ihRow.2⟩
      · exact ⟨congrArg (x :: ·) (ih (y :: bs)).1, (ih (y :: bs)).2⟩

/-! ## Minimality -/

/-- One more line adds one common line at most. -/
def Smooth (f : List α → Nat) : Prop := f [] = 0 ∧ ∀ y bs, f bs ≤ f (y :: bs) ∧ f (y :: bs) ≤ f bs + 1

lemma dpRow_near {above : List α → Nat} (h : Smooth above) (x : α) (bs : List α) :
    above bs ≤ dpRow above x bs ∧ dpRow above x bs ≤ above bs + 1 := by
  induction bs with
  | nil => simp [dpRow, h.1]
  | cons y bs ih =>
    have hstep := h.2 y bs
    simp only [dpRow]
    split_ifs
    · omega
    · omega

lemma smooth_dp (as : List α) : Smooth (dp as) := by
  induction as with
  | nil => exact ⟨rfl, fun _ _ => ⟨Nat.le_refl _, Nat.zero_le _⟩⟩
  | cons x as ih =>
    refine ⟨rfl, fun y bs => ?_⟩
    have hnear := dpRow_near ih x bs
    have hstep := ih.2 y bs
    simp only [dp, dpRow]
    split_ifs
    · omega
    · omega

omit [DecidableEq α] in
lemma changes_cons (e : Edit α) (es : List (Edit α)) :
    changes (e :: es) = changes es + if e.kind = .eq then 0 else 1 := by
  by_cases h : e.kind = .eq <;> simp [changes, h]

lemma changes_back (as bs : List α) : changes (back as bs) + 2 * dp as bs = as.length + bs.length := by
  induction as generalizing bs with
  | nil =>
    induction bs with
    | nil => rfl
    | cons y bs ih =>
      have hcons : back [] (y :: bs) = ⟨.ins, y⟩ :: back [] bs := rfl
      rw [hcons, changes_cons]
      simp only [dp, length_cons, length_nil, reduceCtorEq, if_false] at ih ⊢
      omega
  | cons x as ih =>
    induction bs with
    | nil =>
      have hrest := ih []
      have hzero := (smooth_dp as).1
      simp only [back, backRow, changes_cons, dp, dpRow, length_cons, length_nil, reduceCtorEq, if_false]
        at hrest ⊢
      omega
    | cons y bs ihRow =>
      have hup := ih bs
      have hleft := ih (y :: bs)
      have hedits : back (x :: as) (y :: bs) = if x = y then ⟨.eq, x⟩ :: back as bs
        else if dp as (y :: bs) ≤ dp (x :: as) bs then ⟨.ins, y⟩ :: back (x :: as) bs
        else ⟨.del, x⟩ :: back as (y :: bs) := rfl
      have hdp : dp (x :: as) (y :: bs) = if x = y then dp as bs + 1 else max (dp as (y :: bs)) (dp (x :: as) bs) := rfl
      simp only [length_cons] at ihRow hup hleft ⊢
      rw [hedits, hdp]
      split_ifs
      · rw [changes_cons, if_pos rfl]
        omega
      · rw [changes_cons, if_neg (by simp)]
        omega
      · rw [changes_cons, if_neg (by simp)]
        omega

lemma length_sides_le (es : List (Edit α)) :
    (oldSide es).length + (newSide es).length ≤ changes es + 2 * dp (oldSide es) (newSide es) := by
  induction es with
  | nil => exact Nat.le_refl _
  | cons e es ih =>
    obtain ⟨kind, x⟩ := e
    rw [changes_cons]
    cases kind with
    | eq =>
      have hdp : dp (x :: oldSide es) (x :: newSide es) = dp (oldSide es) (newSide es) + 1 := if_pos rfl
      have hsides : oldSide (⟨.eq, x⟩ :: es) = x :: oldSide es ∧ newSide (⟨.eq, x⟩ :: es) = x :: newSide es :=
        ⟨rfl, rfl⟩
      simp only [hsides.1, hsides.2, hdp, length_cons, if_true]
      omega
    | del =>
      have hdp := (dpRow_near (smooth_dp (oldSide es)) x (newSide es)).1
      have hsides : oldSide (⟨.del, x⟩ :: es) = x :: oldSide es ∧ newSide (⟨.del, x⟩ :: es) = newSide es := ⟨rfl, rfl⟩
      simp only [hsides.1, hsides.2, dp, length_cons, reduceCtorEq, if_false] at hdp ⊢
      omega
    | ins =>
      have hdp := ((smooth_dp (oldSide es)).2 x (newSide es)).1
      have hsides : oldSide (⟨.ins, x⟩ :: es) = oldSide es ∧ newSide (⟨.ins, x⟩ :: es) = x :: newSide es := ⟨rfl, rfl⟩
      simp only [hsides.1, hsides.2, length_cons, reduceCtorEq, if_false] at hdp ⊢
      omega

lemma sides_diffLines (a b : List α) : oldSide (diffLines a b) = a ∧ newSide (diffLines a b) = b := by
  simp [diffLines, sides_reverse, sides_back]

/-- No script between the same lines has fewer changes. -/
lemma changes_diffLines_le (es : List (Edit α)) : changes (diffLines (oldSide es) (newSide es)) ≤ changes es := by
  have hback := changes_back (oldSide es).reverse (newSide es).reverse
  have hscript := length_sides_le es.reverse
  have hreverse : ∀ es : List (Edit α), changes es.reverse = changes es := fun es => countP_reverse
  rw [sides_reverse es |>.1, sides_reverse es |>.2, hreverse] at hscript
  simp only [length_reverse] at hback hscript
  rw [diffLines, hreverse]
  omega

end DiffLines

/-! ## Hunks -/

abbrev Text := List Char

/-- An edit with its line numbers. -/
structure Tagged extends Edit Text where
  aLine : Option Nat := none
  bLine : Option Nat := none

/-- The edits with their line numbers, after so many lines. -/
def tag (aLine bLine : Nat) : List (Edit Text) → List Tagged
  | [] => []
  | e :: es =>
    match e.kind with
    | .eq => ⟨e, some (aLine + 1), some (bLine + 1)⟩ :: tag (aLine + 1) (bLine + 1) es
    | .del => ⟨e, some (aLine + 1), none⟩ :: tag (aLine + 1) bLine es
    | .ins => ⟨e, none, some (bLine + 1)⟩ :: tag aLine (bLine + 1) es

structure HunkRange where
  start : Nat
  stop : Nat

/-- `ranges` and `cur` after one more change. -/
def growRange (contextLines last : Nat) (st : List HunkRange × Option HunkRange) (ci : Nat) :
    List HunkRange × Option HunkRange :=
  let s := ci - contextLines
  let e := min last (ci + contextLines)
  match st.2 with
  | none => (st.1, some ⟨s, e⟩)
  | some cur =>
    if s ≤ cur.stop + 1 then (st.1, some ⟨cur.start, max cur.stop e⟩) else (st.1 ++ [cur], some ⟨s, e⟩)

def hunkRanges (contextLines last : Nat) (changeIdxs : List Nat) : List HunkRange :=
  let st := changeIdxs.foldl (growRange contextLines last) ([], none)
  st.1 ++ st.2.toList

structure Hunk where
  oldStart : Nat
  oldCount : Nat
  newStart : Nat
  newCount : Nat
  body : List (Edit Text)

def hunkOf (slice : List Tagged) : Hunk :=
  let aSlice := slice.filter (·.aLine.isSome)
  let bSlice := slice.filter (·.bLine.isSome)
  { oldStart := (aSlice.head?.bind (·.aLine)).getD 1
    oldCount := aSlice.length
    newStart := (bSlice.head?.bind (·.bLine)).getD 1
    newCount := bSlice.length
    body := slice.map (·.toEdit) }

def Edit.print (e : Edit Text) : Text :=
  match e.kind with
  | .eq => ' ' :: e.val
  | .del => '-' :: e.val
  | .ins => '+' :: e.val

/-- A hunk under its header. -/
def Hunk.print (h : Hunk) : List Text :=
  ("@@ -" ++ toString h.oldStart ++ "," ++ toString h.oldCount ++ " +" ++ toString h.newStart ++ "," ++
    toString h.newCount ++ " @@").toList :: h.body.map Edit.print

/-- `text.split("\n")`. -/
def linesOf (text : Text) : List Text := text.splitOn '\n'

def changeIdxs (es : List (Edit Text)) : List Nat :=
  (List.range es.length).filter fun i => es[i]?.any (·.kind ≠ .eq)

/-- The hunk of a range of the edits. -/
def hunkAt (es : List (Edit Text)) (r : HunkRange) : Hunk := hunkOf (((tag 0 0 es).take (r.stop + 1)).drop r.start)

def hunksOf (contextLines : Nat) (es : List (Edit Text)) : List Hunk :=
  (hunkRanges contextLines (es.length - 1) (changeIdxs es)).map (hunkAt es)

/-- `computeUnifiedDiff(oldText, newText, oldLabel, newLabel, contextLines)`. -/
def computeUnifiedDiff (oldText newText oldLabel newLabel : Text) (contextLines : Nat := 3) : Text :=
  if oldText = newText then []
  else
    let edits := diffLines (linesOf oldText) (linesOf newText)
    if changeIdxs edits = [] then []
    else
      ['\n'].intercalate (("--- ".toList ++ oldLabel) :: ("+++ ".toList ++ newLabel) ::
        (hunksOf contextLines edits).flatMap Hunk.print)

/-! ## Applying hunks -/

/-- The lines that come out when hunks are applied to the lines that follow the first `taken` ones. -/
def applyHunks (taken : Nat) (old : List Text) : List Hunk → Option (List Text)
  | [] => some old
  | h :: hunks =>
    let kept := old.take (h.oldStart - 1 - taken)
    let rest := old.drop (h.oldStart - 1 - taken)
    if taken < h.oldStart ∧ rest.take h.oldCount = oldSide h.body then
      (applyHunks (h.oldStart - 1 + h.oldCount) (rest.drop h.oldCount) hunks).map fun lines =>
        kept ++ (newSide h.body ++ lines)
    else none

lemma take_tag (aLine bLine : Nat) (es : List (Edit Text)) (n : Nat) :
    (tag aLine bLine es).take n = tag aLine bLine (es.take n) := by
  induction es generalizing aLine bLine n with
  | nil => simp [tag]
  | cons e es ih =>
    obtain ⟨kind, x⟩ := e
    cases n with
    | zero => rfl
    | succ n => cases kind <;> simp [tag, ih]

lemma drop_tag (aLine bLine : Nat) (es : List (Edit Text)) (n : Nat) :
    ∃ bLine', (tag aLine bLine es).drop n = tag ((oldSide (es.take n)).length + aLine) bLine' (es.drop n) := by
  induction es generalizing aLine bLine n with
  | nil => exact ⟨0, by simp [tag]⟩
  | cons e es ih =>
    obtain ⟨kind, x⟩ := e
    cases n with
    | zero => exact ⟨bLine, by simp [oldSide]⟩
    | succ n =>
      cases kind with
      | eq => simpa [tag, oldSide, Nat.add_assoc, Nat.add_comm 1] using ih (aLine + 1) (bLine + 1) n
      | del => simpa [tag, oldSide, Nat.add_assoc, Nat.add_comm 1] using ih (aLine + 1) bLine n
      | ins => exact ih aLine (bLine + 1) n

lemma toEdit_tag (aLine bLine : Nat) (es : List (Edit Text)) : (tag aLine bLine es).map (·.toEdit) = es := by
  induction es generalizing aLine bLine with
  | nil => rfl
  | cons e es ih =>
    obtain ⟨kind, x⟩ := e
    cases kind <;> simp [tag, ih]

lemma hunkOf_tag (aLine bLine : Nat) (es : List (Edit Text)) (ha : oldSide es ≠ []) :
    (hunkOf (tag aLine bLine es)).oldStart = aLine + 1 ∧
      (hunkOf (tag aLine bLine es)).oldCount = (oldSide es).length ∧ (hunkOf (tag aLine bLine es)).body = es := by
  refine ⟨?_, ?_, toEdit_tag aLine bLine es⟩
  · induction es generalizing bLine with
    | nil => exact absurd rfl ha
    | cons e es ih =>
      obtain ⟨kind, x⟩ := e
      cases kind with
      | eq => rfl
      | del => rfl
      | ins => exact ih (bLine + 1) ha
  · clear ha
    simp only [hunkOf]
    induction es generalizing aLine bLine with
    | nil => rfl
    | cons e es ih =>
      obtain ⟨kind, x⟩ := e
      cases kind <;> simp [tag, oldSide, ih]

/-! ## The ranges cover the changes -/

section Ranges

variable {contextLines : Nat} {es : List (Edit Text)} {pos : Nat}

/-- Edit `i` deletes or inserts. -/
def IsChange (es : List (Edit Text)) (i : Nat) : Prop := ∃ e, es[i]? = some e ∧ e.kind ≠ .eq

/-- The ranges are in order from `pos` on, with an old line in each and every change in one of them. -/
def Covers (es : List (Edit Text)) : Nat → List HunkRange → Prop
  | pos, [] => ∀ i, pos ≤ i → ¬ IsChange es i
  | pos, r :: ranges =>
    (pos ≤ r.start ∧ ∀ i, pos ≤ i → i < r.start → ¬ IsChange es i) ∧
      oldSide ((es.take (r.stop + 1)).drop r.start) ≠ [] ∧ Covers es (r.stop + 1) ranges

/-- The ranges from `cur` on. -/
def rangesFrom (contextLines last : Nat) (cur : HunkRange) : List Nat → List HunkRange
  | [] => [cur]
  | ci :: idxs =>
    if ci - contextLines ≤ cur.stop + 1 then
      rangesFrom contextLines last ⟨cur.start, max cur.stop (min last (ci + contextLines))⟩ idxs
    else cur :: rangesFrom contextLines last ⟨ci - contextLines, min last (ci + contextLines)⟩ idxs

lemma foldl_growRange (last : Nat) (ranges : List HunkRange) (cur : HunkRange) (idxs : List Nat) :
    let st := idxs.foldl (growRange contextLines last) (ranges, some cur)
    st.1 ++ st.2.toList = ranges ++ rangesFrom contextLines last cur idxs := by
  induction idxs generalizing ranges cur with
  | nil => rfl
  | cons ci idxs ih =>
    simp only [foldl_cons, growRange, rangesFrom]
    split_ifs
    · exact ih ranges _
    · simpa using ih (ranges ++ [cur]) _

lemma mem_oldSide {e : Edit Text} {es : List (Edit Text)} (h : e ∈ es) (hkind : e.kind ≠ .ins) : oldSide es ≠ [] :=
  ne_nil_of_mem (mem_map_of_mem (mem_filter.2 ⟨h, by simpa using hkind⟩))

/-- A range has an old line: it stops at an unchanged line on one side, or it is everything. -/
lemma oldSide_range {r : HunkRange} (hold : oldSide es ≠ []) (hle : r.start ≤ r.stop) (hlt : r.stop < es.length)
    (hstart : r.start = 0 ∨ ¬ IsChange es r.start) (hstop : r.stop + 1 = es.length ∨ ¬ IsChange es r.stop) :
    oldSide ((es.take (r.stop + 1)).drop r.start) ≠ [] := by
  have hplain : ∀ i, r.start ≤ i → i ≤ r.stop → ¬ IsChange es i →
      oldSide ((es.take (r.stop + 1)).drop r.start) ≠ [] := by
    intro i hi hi' hchange
    have hlt' : i < es.length := by omega
    have hkept : es[i].kind ≠ .ins := fun hkind => hchange ⟨es[i], by simp, by simp [hkind]⟩
    refine mem_oldSide (mem_iff_getElem?.2 ⟨i - r.start, ?_⟩) hkept
    rw [getElem?_drop, Nat.add_sub_cancel' hi, getElem?_take, if_pos (by omega), getElem?_eq_getElem hlt']
  rcases hstart with hstart | hstart
  · rcases hstop with hstop | hstop
    · simpa [hstart, hstop] using hold
    · exact hplain _ hle (Nat.le_refl _) hstop
  · exact hplain _ (Nat.le_refl _) hle hstart

/-- `cur` after the changes up to `prev`; `idxs` are the changes to come. -/
lemma covers_rangesFrom (hcontext : 1 ≤ contextLines) (hold : oldSide es ≠ []) {idxs : List Nat} {prev : Nat}
    {cur : HunkRange} (hsorted : (prev :: idxs).Pairwise (· < ·)) (hlt : prev < es.length)
    (hidxs : ∀ i, IsChange es i → i ≤ prev ∨ i ∈ idxs) (hmem : ∀ i ∈ idxs, i < es.length)
    (hpos : pos ≤ cur.start) (hgap : ∀ i, pos ≤ i → i < cur.start → ¬ IsChange es i) (hle : cur.start ≤ prev)
    (hstart : cur.start = 0 ∨ ¬ IsChange es cur.start) (hstop : cur.stop = min (es.length - 1) (prev + contextLines)) :
    Covers es pos (rangesFrom contextLines (es.length - 1) cur idxs) := by
  induction idxs generalizing prev cur pos with
  | nil =>
    have hrest : ∀ i, prev < i → ¬ IsChange es i := fun i hi hchange => by simpa [Nat.not_le.2 hi] using hidxs i hchange
    refine ⟨⟨hpos, hgap⟩, oldSide_range hold (by omega) (by omega) hstart ?_, fun i hi => hrest i (by omega)⟩
    by_cases hend : cur.stop + 1 = es.length
    · exact .inl hend
    · exact .inr (hrest _ (by omega))
  | cons ci idxs ih =>
    obtain ⟨hprev, hsorted'⟩ := pairwise_cons.1 hsorted
    have hci := hprev ci (by simp)
    have hcilt := hmem ci (by simp)
    have hbetween : ∀ i, prev < i → i < ci → ¬ IsChange es i := by
      intro i hi hi' hchange
      rcases hidxs i hchange with hbad | hbad
      · omega
      · rcases mem_cons.1 hbad with rfl | hbad
        · omega
        · exact absurd (rel_of_pairwise_cons hsorted' hbad) (by omega)
    have hnext : ∀ i, IsChange es i → i ≤ ci ∨ i ∈ idxs := by
      intro i hchange
      rcases hidxs i hchange with hi | hi
      · exact .inl (by omega)
      · exact (mem_cons.1 hi).imp_left Nat.le_of_eq
    have hmem' : ∀ i ∈ idxs, i < es.length := fun i hi => hmem i (by simp [hi])
    simp only [rangesFrom]
    split_ifs with hmerge
    · exact ih hsorted' hcilt hnext hmem' hpos hgap (by simp; omega) hstart (by simp; omega)
    · have hstop' : ¬ IsChange es cur.stop := hbetween _ (by omega) (by omega)
      refine ⟨⟨hpos, hgap⟩, oldSide_range hold (by omega) (by omega) hstart (.inr hstop'), ?_⟩
      exact ih hsorted' hcilt hnext hmem' (by simp; omega)
        (fun i hi hi' => hbetween i (by omega) (by simp at hi'; omega))
        (by simp) (.inr (hbetween _ (by simp; omega) (by simp; omega))) rfl

lemma mem_changeIdxs (es : List (Edit Text)) (i : Nat) : i ∈ changeIdxs es ↔ IsChange es i := by
  simp only [changeIdxs, IsChange, mem_filter, mem_range]
  cases h : es[i]? with
  | none => simp
  | some e => simp [(List.getElem?_eq_some_iff.1 h).1]

lemma covers_hunkRanges (hcontext : 1 ≤ contextLines) (hold : oldSide es ≠ []) :
    Covers es 0 (hunkRanges contextLines (es.length - 1) (changeIdxs es)) := by
  have hsorted : (changeIdxs es).Pairwise (· < ·) := pairwise_lt_range.filter _
  have hmem := mem_changeIdxs es
  have hlt : ∀ i ∈ changeIdxs es, i < es.length := fun i hi => mem_range.1 (mem_filter.1 hi).1
  unfold hunkRanges
  cases hidxs : changeIdxs es with
  | nil => exact fun i _ hchange => by simpa [hidxs] using (hmem i).2 hchange
  | cons ci idxs =>
    rw [hidxs] at hsorted hmem hlt
    have hbefore : ∀ i, i < ci → ¬ IsChange es i := by
      intro i hi hchange
      rcases mem_cons.1 ((hmem i).2 hchange) with rfl | hbad
      · omega
      · exact absurd (rel_of_pairwise_cons hsorted hbad) (by omega)
    simp only [foldl_cons, growRange, foldl_growRange, nil_append]
    refine covers_rangesFrom hcontext hold hsorted (hlt ci (by simp))
      (fun i hchange => (mem_cons.1 ((hmem i).2 hchange)).imp_left Nat.le_of_eq)
      (fun i hi => hlt i (by simp [hi])) (Nat.zero_le _) (fun i _ hi => hbefore i (by simp at hi; omega)) (by simp)
      ?_ rfl
    by_cases hzero : ci - contextLines = 0
    · exact .inl hzero
    · exact .inr (hbefore _ (by simp; omega))

lemma oldSide_eq_newSide (es : List (Edit Text)) (h : ∀ i, ¬ IsChange es i) :
    oldSide es = newSide es ∧ changes es = 0 := by
  have heq : ∀ e ∈ es, e.kind = .eq := by
    intro e he
    obtain ⟨i, hi⟩ := mem_iff_getElem?.1 he
    exact not_not.1 fun hkind => h i ⟨e, hi, hkind⟩
  have hold : es.filter (·.kind ≠ .ins) = es := filter_eq_self.2 fun e he => by simp [heq e he]
  have hnew : es.filter (·.kind ≠ .del) = es := filter_eq_self.2 fun e he => by simp [heq e he]
  exact ⟨by rw [oldSide, newSide, hold, hnew], countP_eq_zero.2 fun e he => by simp [heq e he]⟩

lemma take_drop_split (es : List (Edit Text)) {n k : Nat} (h : n ≤ k) :
    es.take k = es.take n ++ (es.take k).drop n ∧ es.drop n = (es.take k).drop n ++ es.drop k := by
  obtain ⟨d, rfl⟩ := Nat.exists_eq_add_of_le h
  have hmid : (es.take (n + d)).drop n = (es.drop n).take d := by simp [drop_take]
  rw [hmid, ← drop_drop, take_append_drop]
  exact ⟨take_add, rfl⟩

lemma hunkAt_spec {r : HunkRange} (hold : oldSide ((es.take (r.stop + 1)).drop r.start) ≠ [])
    (hle : r.start ≤ r.stop + 1) : (hunkAt es r).oldStart = (oldSide (es.take r.start)).length + 1 ∧
      (hunkAt es r).oldCount = (oldSide ((es.take (r.stop + 1)).drop r.start)).length ∧
      (hunkAt es r).body = (es.take (r.stop + 1)).drop r.start := by
  obtain ⟨bLine, htag⟩ := drop_tag 0 0 (es.take (r.stop + 1)) r.start
  rw [take_take, Nat.min_eq_left hle] at htag
  rw [hunkAt, take_tag, htag]
  exact hunkOf_tag _ bLine _ hold

lemma applyHunks_covers {ranges : List HunkRange} (h : Covers es pos ranges) :
    applyHunks (oldSide (es.take pos)).length (oldSide (es.drop pos)) (ranges.map (hunkAt es)) =
        some (newSide (es.drop pos)) ∧
      (ranges.map fun r => changes (hunkAt es r).body).sum = changes (es.drop pos) := by
  induction ranges generalizing pos with
  | nil =>
    have hsame := oldSide_eq_newSide (es.drop pos) fun i hchange => by
      obtain ⟨e, he, hkind⟩ := hchange
      exact h (pos + i) (Nat.le_add_right _ _) ⟨e, by simpa using he, hkind⟩
    exact ⟨congrArg some hsame.1, hsame.2.symm⟩
  | cons r ranges ih =>
    obtain ⟨⟨hpos, hgap⟩, hslice, hrest⟩ := h
    obtain ⟨happly, hsum⟩ := ih hrest
    have hle : r.start ≤ r.stop + 1 := by
      by_contra hlt
      have hnil : (es.take (r.stop + 1)).drop r.start = [] := by
        rw [drop_eq_nil_iff, length_take]
        omega
      simp [hnil, oldSide] at hslice
    have hsame := oldSide_eq_newSide ((es.take r.start).drop pos) fun i ⟨e, he, hkind⟩ => by
      rw [getElem?_drop, getElem?_take] at he
      split_ifs at he with hi
      exact hgap (pos + i) (by omega) hi ⟨e, he, hkind⟩
    obtain ⟨hstart, hcount, hbody⟩ := hunkAt_spec hslice hle
    obtain ⟨htake, hdrop⟩ := take_drop_split es hpos
    obtain ⟨htake', hdrop'⟩ := take_drop_split es hle
    rw [htake', htake, sides_append.1, sides_append.1] at happly
    rw [htake, sides_append.1] at hstart
    rw [hdrop, hdrop', map_cons, map_cons, sum_cons, hsum, hbody]
    -- the gap before the range, and the range
    generalize (es.take (r.stop + 1)).drop r.start = slice at *
    generalize (es.take r.start).drop pos = gap at *
    constructor
    · have htaken : (oldSide (es.take pos)).length < (oldSide (es.take pos) ++ oldSide gap).length + 1 := by
        rw [length_append]
        omega
      have hskip : (oldSide (es.take pos) ++ oldSide gap).length + 1 - 1 - (oldSide (es.take pos)).length =
          (oldSide gap).length := by simp
      simp only [applyHunks, hstart, hcount, hbody, hskip, sides_append, take_left, drop_left]
      rw [if_pos ⟨htaken, trivial⟩, Nat.add_sub_cancel, ← length_append, happly, hsame.1]
      rfl
    · have hzero : gap.countP (·.kind ≠ .eq) = 0 := hsame.2
      rw [changes, changes, changes, countP_append, countP_append, hzero, Nat.zero_add]

/-- Hunks that apply are in order and apart. -/
lemma pairwise_of_applyHunks {taken : Nat} {old new : List Text} {hunks : List Hunk}
    (h : applyHunks taken old hunks = some new) :
    (∀ h ∈ hunks, taken < h.oldStart) ∧ hunks.Pairwise fun h h' => h.oldStart + h.oldCount ≤ h'.oldStart := by
  induction hunks generalizing taken old new with
  | nil => exact ⟨by simp, .nil⟩
  | cons hunk hunks ih =>
    simp only [applyHunks] at h
    split_ifs at h with hfits
    obtain ⟨lines, hlines, -⟩ := Option.map_eq_some_iff.1 h
    obtain ⟨hafter, hpairs⟩ := ih hlines
    refine ⟨forall_mem_cons.2 ⟨hfits.1, fun h hh => ?_⟩, .cons (fun h hh => ?_) hpairs⟩
    · have := hafter h hh
      omega
    · have := hafter h hh
      omega

end Ranges

/-- For two texts and a context of a line or more, the diff is empty exactly when they are equal. Else it prints
hunks that are in order and apart and turn the old lines into the new ones, with the fewest changes of all scripts
of line edits between the two. -/
theorem computeUnifiedDiff_correct (oldText newText oldLabel newLabel : Text) {contextLines : Nat}
    (hcontext : 1 ≤ contextLines) :
    (computeUnifiedDiff oldText newText oldLabel newLabel contextLines = [] ↔ oldText = newText) ∧
      (oldText ≠ newText → ∃ hunks, computeUnifiedDiff oldText newText oldLabel newLabel contextLines =
            ['\n'].intercalate (
              ("--- ".toList ++ oldLabel) :: ("+++ ".toList ++ newLabel) :: hunks.flatMap Hunk.print) ∧
          applyHunks 0 (linesOf oldText) hunks = some (linesOf newText) ∧
          (hunks.Pairwise fun h h' => h.oldStart + h.oldCount ≤ h'.oldStart) ∧
          IsLeast {n | ∃ es, oldSide es = linesOf oldText ∧ newSide es = linesOf newText ∧ changes es = n}
            (hunks.map fun h => changes h.body).sum) := by
  have hsides := sides_diffLines (linesOf oldText) (linesOf newText)
  have hunsplit : ∀ text : Text, ['\n'].intercalate (linesOf text) = text := fun text => intercalate_splitOn '\n'
  have hchanged : oldText ≠ newText → changeIdxs (diffLines (linesOf oldText) (linesOf newText)) ≠ [] := by
    intro hne hnone
    have hsame := (oldSide_eq_newSide (diffLines (linesOf oldText) (linesOf newText)) fun i hchange => by
      simpa [hnone] using (mem_changeIdxs _ i).2 hchange).1
    rw [hsides.1, hsides.2] at hsame
    exact hne (by rw [← hunsplit oldText, hsame, hunsplit])
  have hprint : oldText ≠ newText → computeUnifiedDiff oldText newText oldLabel newLabel contextLines =
      ['\n'].intercalate (("--- ".toList ++ oldLabel) :: ("+++ ".toList ++ newLabel) ::
        (hunksOf contextLines (diffLines (linesOf oldText) (linesOf newText))).flatMap Hunk.print) := by
    intro hne
    simp only [computeUnifiedDiff]
    rw [if_neg hne, if_neg (hchanged hne)]
  refine ⟨⟨fun hempty => ?_, fun heq => if_pos heq⟩, fun hne => ?_⟩
  · by_contra hne
    have := hprint hne
    simp [hempty, List.intercalate] at this
  · have hold : oldSide (diffLines (linesOf oldText) (linesOf newText)) ≠ [] := by
      rw [hsides.1]
      exact splitOn_ne_nil _ _
    obtain ⟨happly, hsum⟩ := applyHunks_covers (covers_hunkRanges hcontext hold)
    rw [drop_zero, hsides.1, hsides.2] at happly
    refine ⟨_, hprint hne, happly, (pairwise_of_applyHunks happly).2, ⟨_, hsides.1, hsides.2, ?_⟩, ?_⟩
    · rw [hunksOf, map_map]
      exact hsum.symm
    · rintro _ ⟨es, hes, hes', rfl⟩
      have hleast := changes_diffLines_le es
      rw [hes, hes', ← drop_zero (l := diffLines _ _), ← hsum] at hleast
      rwa [hunksOf, map_map]

theorem computeUnifiedDiff_correct_inserted :
    computeUnifiedDiff "a\nb".toList "a\nx\nb".toList "old".toList "new".toList 3 =
        "--- old\n+++ new\n@@ -1,2 +1,3 @@\n a\n+x\n b".toList ∧
      ∃ hunks, applyHunks 0 (linesOf "a\nb".toList) hunks = some (linesOf "a\nx\nb".toList) ∧
        (hunks.map fun h => changes h.body).sum ≤ 1 := by
  obtain ⟨hunks, -, happly, -, hleast⟩ := (computeUnifiedDiff_correct "a\nb".toList "a\nx\nb".toList "old".toList
    "new".toList (by decide : 1 ≤ 3)).2 (by decide)
  exact ⟨by decide +kernel, hunks, happly,
    hleast.2 ⟨[⟨.eq, ['a']⟩, ⟨.ins, ['x']⟩, ⟨.eq, ['b']⟩], by decide +kernel, by decide +kernel, rfl⟩⟩

end AgentPipeline.Release
