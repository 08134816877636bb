import Mathlib.Data.List.Nodup
import Mathlib.Tactic.Common

/-!
# JsObject: plain objects used as dictionaries

A dictionary `Record<string, α>` is the list of its entries in enumeration order, and no key
occurs twice. This file defines:

* `get?`, `set`, `values`: reading, assigning and listing properties;
* `mapEntries`: a new object with the same keys;
* `traverse`: a loop over the entries whose body may throw.

Each operation has one lemma that says what `get?` returns afterwards.
-/

universe u v w

structure JsObject (α : Type u) where
  entries : List (String × α)
  nodup : (entries.map Prod.fst).Nodup
deriving DecidableEq

namespace JsObject

open List

variable {α : Type u} {β : Type v} {ε : Type w}

def empty : JsObject α where
  entries := []
  nodup := by simp

def get? (o : JsObject α) (k : String) : Option α :=
  o.entries.lookup k

@[simp] lemma get?_empty (k : String) : (empty : JsObject α).get? k = none := rfl

def values (o : JsObject α) : List α :=
  o.entries.map Prod.snd

variable {k j : String}

lemma lookup_cons_of_ne (h : k ≠ j) (b : α) (l : List (String × α)) : ((j, b) :: l).lookup k = l.lookup k := by
  have hkj : (k == j) = false := by simp [h]
  simp [lookup_cons, hkj]

variable {l : List (String × α)} {a : α}

lemma lookup_eq_some_iff (h : (l.map Prod.fst).Nodup) : l.lookup k = some a ↔ (k, a) ∈ l := by
  induction l with
  | nil => simp
  | cons e l ih =>
    obtain ⟨j, b⟩ := e
    have hnd : j ∉ l.map Prod.fst ∧ (l.map Prod.fst).Nodup := by simpa using h
    by_cases hk : k = j
    -- a second entry with this key would make the keys repeat
    · have hnot : (j, a) ∉ l := fun hm => hnd.1 (mem_map_of_mem (f := Prod.fst) hm)
      subst hk
      simp [hnot, eq_comm]
    · simp [lookup_cons_of_ne hk, hk, ih hnd.2]

variable {o : JsObject α}

lemma get?_eq_some_iff : o.get? k = some a ↔ (k, a) ∈ o.entries := lookup_eq_some_iff o.nodup

lemma mem_values : a ∈ o.values ↔ ∃ k, o.get? k = some a := by
  simp [values, get?_eq_some_iff]

/-! ## Assignment -/

/-- Assign in place when the key is there, append when it is new. -/
def setEntry (k : String) (a : α) : List (String × α) → List (String × α)
  | [] => [(k, a)]
  | (j, b) :: l => if k = j then (j, a) :: l else (j, b) :: setEntry k a l

lemma mem_keys_setEntry : j ∈ (setEntry k a l).map Prod.fst ↔ j = k ∨ j ∈ l.map Prod.fst := by
  induction l with
  | nil => simp [setEntry]
  | cons e l ih =>
    obtain ⟨i, b⟩ := e
    by_cases hk : k = i
    · simp [setEntry, hk]
    · simp only [setEntry, hk, if_false, map_cons, mem_cons, ih]
      tauto

lemma nodup_setEntry (h : (l.map Prod.fst).Nodup) : ((setEntry k a l).map Prod.fst).Nodup := by
  induction l with
  | nil => simp [setEntry]
  | cons e l ih =>
    obtain ⟨i, b⟩ := e
    have hnd : i ∉ l.map Prod.fst ∧ (l.map Prod.fst).Nodup := by simpa using h
    by_cases hk : k = i
    · simpa [setEntry, hk] using h
    · have hne : i ≠ k := fun h' => hk h'.symm
      simp only [setEntry, hk, if_false, map_cons, nodup_cons]
      -- the assignment adds `k` to the tail's keys and nothing else
      exact ⟨fun hm => (mem_keys_setEntry.1 hm).elim hne hnd.1, ih hnd.2⟩

def set (o : JsObject α) (k : String) (a : α) : JsObject α where
  entries := setEntry k a o.entries
  nodup := nodup_setEntry o.nodup

lemma lookup_setEntry (k j : String) (a : α) (l : List (String × α)) :
    (setEntry k a l).lookup j = if j = k then some a else l.lookup j := by
  induction l with
  | nil =>
    by_cases hj : j = k
    · simp [setEntry, hj]
    · simp [setEntry, lookup_cons_of_ne hj, hj]
  | cons e l ih =>
    obtain ⟨i, b⟩ := e
    by_cases hk : k = i
    · subst hk
      by_cases hj : j = k
      · simp [setEntry, hj]
      · simp [setEntry, lookup_cons_of_ne hj, hj]
    · by_cases hj : j = i
      · simp [setEntry, hk, hj, Ne.symm hk]
      · simp [setEntry, hk, lookup_cons_of_ne hj, ih]

@[simp] lemma get?_set (o : JsObject α) (k j : String) (a : α) :
    (o.set k a).get? j = if j = k then some a else o.get? j := lookup_setEntry k j a o.entries

lemma get?_foldl_set {γ : Type w} (f : γ → String) (g : γ → α) (l : List γ) (o : JsObject α)
    (k : String) :
    (l.foldl (fun o c => o.set (f c) (g c)) o).get? k = ((l.reverse.find? fun c => f c = k).map g).or (o.get? k) := by
  induction l generalizing o with
  | nil => simp
  | cons c l ih =>
    rw [foldl_cons, ih, reverse_cons, find?_append]
    by_cases hk : f c = k
    · cases l.reverse.find? fun c => f c = k <;> simp [hk]
    · have hne : k ≠ f c := fun h => hk h.symm
      cases l.reverse.find? fun c => f c = k <;> simp [hk, hne]

lemma get?_foldl_turn {γ : Type w} (key : γ → String) (turn : Option α → γ → α) (k : String)
    (l : List γ) (o : JsObject α) :
    (l.foldl (fun o x => o.set (key x) (turn (o.get? (key x)) x)) o).get? k =
      (l.filter fun x => key x = k).foldl (fun a x => some (turn a x)) (o.get? k) := by
  induction l generalizing o with
  | nil => rfl
  | cons x l ih =>
    rw [foldl_cons, ih]
    by_cases hkey : key x = k
    · simp [hkey]
    · simp [hkey, Ne.symm hkey]

lemma countP_setEntry (p : α → Bool) {b : α}
    (h : l.lookup k = some a) :
    ((setEntry k b l).map Prod.snd).countP p + (if p a then 1 else 0) =
      (l.map Prod.snd).countP p + if p b then 1 else 0 := by
  induction l with
  | nil => simp at h
  | cons e l ih =>
    obtain ⟨i, c⟩ := e
    by_cases hk : k = i
    · obtain rfl : c = a := by simpa [hk] using h
      simp only [setEntry, hk, if_true, map_cons, countP_cons]
      omega
    · have hrest := ih (by simpa [lookup_cons_of_ne hk] using h)
      simp only [setEntry, hk, if_false, map_cons, countP_cons]
      omega

lemma countP_set (p : α → Bool) (h : o.get? k = some a)
    (b : α) :
    (o.set k b).values.countP p + (if p a then 1 else 0) = o.values.countP p + if p b then 1 else 0 :=
  countP_setEntry p h

/-! ## Loops over the entries -/

def mapEntries (f : String → α → β) (o : JsObject α) : JsObject β where
  entries := o.entries.map fun e => (e.1, f e.1 e.2)
  nodup := by simpa [Function.comp_def] using o.nodup

lemma lookup_map (f : String → α → β) (k : String) (l : List (String × α)) :
    (l.map fun e => (e.1, f e.1 e.2)).lookup k = (l.lookup k).map (f k) := by
  induction l with
  | nil => simp
  | cons e l ih =>
    obtain ⟨j, b⟩ := e
    by_cases hk : k = j
    · simp [hk]
    · simp [lookup_cons_of_ne hk, ih]

@[simp] lemma get?_mapEntries (f : String → α → β) (o : JsObject α) (k : String) :
    (o.mapEntries f).get? k = (o.get? k).map (f k) := lookup_map f k o.entries

lemma mapEntries_set (f : α → β) (o : JsObject α) (k : String) (a : α) :
    (o.set k a).mapEntries (fun _ => f) = (o.mapEntries fun _ => f).set k (f a) := by
  have hentries : ∀ l : List (String × α), (setEntry k a l).map (fun e => (e.1, f e.2)) =
      setEntry k (f a) (l.map fun e => (e.1, f e.2)) := by
    intro l
    induction l with
    | nil => rfl
    | cons e l ih =>
      obtain ⟨j, b⟩ := e
      by_cases hk : k = j
      · simp [setEntry, hk]
      · simp [setEntry, hk, ih]
  unfold mapEntries set
  congr 1
  exact hentries o.entries

def traverseList (f : String → α → Except ε β) : List (String × α) → Except ε (List (String × β))
  | [] => .ok []
  | (k, a) :: l =>
    match f k a with
    | .error e => .error e
    | .ok b =>
      match traverseList f l with
      | .error e => .error e
      | .ok l' => .ok ((k, b) :: l')

variable {f : String → α → Except ε β}

lemma traverseList_eq_ok {l' : List (String × β)} (h : traverseList f l = .ok l') : l'.map Prod.fst = l.map Prod.fst ∧
      ∀ k, (l.lookup k = none ∧ l'.lookup k = none) ∨
        ∃ a b, l.lookup k = some a ∧ f k a = .ok b ∧ l'.lookup k = some b := by
  induction l generalizing l' with
  | nil =>
    have hl' : l' = [] := by simpa [traverseList, eq_comm] using h
    simp [hl']
  | cons e l ih =>
    obtain ⟨j, a⟩ := e
    cases hf : f j a with
    | error e => simp [traverseList, hf] at h
    | ok b =>
      cases hl : traverseList f l with
      | error e => simp [traverseList, hf, hl] at h
      | ok m =>
        -- neither the body nor the rest threw, so the result is kept at the head
        have hm : l' = (j, b) :: m := by simpa [traverseList, hf, hl, eq_comm] using h
        obtain ⟨hkeys, hall⟩ := ih hl
        subst hm
        refine ⟨by simp [hkeys], fun k => ?_⟩
        by_cases hk : k = j
        · exact .inr ⟨a, b, by simp [hk], by rw [hk]; exact hf, by simp [hk]⟩
        · simpa only [lookup_cons_of_ne hk] using hall k

lemma traverseList_isOk (h : ∀ k a, (k, a) ∈ l → ∃ b, f k a = .ok b) : ∃ l', traverseList f l = .ok l' := by
  induction l with
  | nil => exact ⟨[], rfl⟩
  | cons e l ih =>
    obtain ⟨j, a⟩ := e
    obtain ⟨b, hb⟩ := h j a (by simp)
    obtain ⟨m, hm⟩ := ih fun k a' hmem => h k a' (mem_cons_of_mem _ hmem)
    exact ⟨(j, b) :: m, by simp [traverseList, hb, hm]⟩

lemma traverseList_eq_error {e : ε} (h : traverseList f l = .error e) : ∃ k a, (k, a) ∈ l ∧ f k a = .error e := by
  induction l with
  | nil => simp [traverseList] at h
  | cons entry l ih =>
    obtain ⟨j, a⟩ := entry
    cases hf : f j a with
    | error e' =>
      have he : e' = e := by simpa [traverseList, hf] using h
      exact ⟨j, a, by simp, he ▸ hf⟩
    | ok b =>
      cases hl : traverseList f l with
      | error e' =>
        have he : e' = e := by simpa [traverseList, hf, hl] using h
        obtain ⟨k, a', hmem, hk⟩ := ih (he ▸ hl)
        exact ⟨k, a', mem_cons_of_mem _ hmem, hk⟩
      | ok m => simp [traverseList, hf, hl] at h

def traverse (f : String → α → Except ε β) (o : JsObject α) : Except ε (JsObject β) :=
  match h : traverseList f o.entries with
  | .error e => .error e
  | .ok l => .ok ⟨l, (traverseList_eq_ok h).1 ▸ o.nodup⟩

lemma traverse_entries {o' : JsObject β} : traverse f o = .ok o' ↔ traverseList f o.entries = .ok o'.entries := by
  unfold traverse
  split
  · next e he => simp [he]
  · next l hl =>
    constructor
    · intro h
      cases h
      exact hl
    · intro h
      have hentries : l = o'.entries := by simpa [hl] using h
      cases o'
      subst hentries
      rfl

lemma get?_traverse {o' : JsObject β} (h : traverse f o = .ok o') (k : String) : (o.get? k = none ∧ o'.get? k = none) ∨
      ∃ a b, o.get? k = some a ∧ f k a = .ok b ∧ o'.get? k = some b := (traverseList_eq_ok (traverse_entries.1 h)).2 k

lemma traverse_isOk (h : ∀ k a, o.get? k = some a → ∃ b, f k a = .ok b) : ∃ o', traverse f o = .ok o' := by
  obtain ⟨l, hl⟩ := traverseList_isOk (f := f) (l := o.entries)
    fun k a hm => h k a (get?_eq_some_iff.2 hm)
  exact ⟨⟨l, (traverseList_eq_ok hl).1 ▸ o.nodup⟩, traverse_entries.2 hl⟩

lemma traverse_eq_error {e : ε} (h : traverse f o = .error e) : ∃ k a, o.get? k = some a ∧ f k a = .error e := by
  have hlist : traverseList f o.entries = .error e := by
    unfold traverse at h
    split at h
    · next e' he =>
      have : e' = e := by simpa using h
      exact this ▸ he
    · simp at h
  obtain ⟨k, a, hmem, hk⟩ := traverseList_eq_error hlist
  exact ⟨k, a, get?_eq_some_iff.2 hmem, hk⟩

end JsObject
