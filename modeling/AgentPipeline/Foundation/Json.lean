import Mathlib.Data.List.Lemmas
import Mathlib.Data.Rat.Defs
import Mathlib.Tactic.Common

/-!
# Json: numbers and values of JSON texts

The values that `JSON.parse` returns. A literal beyond the range of doubles parses to an infinity,
which `JSON.stringify` prints as `null`; `printed` is what a value reads as after it was printed.

* `get?`, `set`: a property of an object, and the object with a property assigned;
* `objectAssign`, `without`: `Object.assign` and `delete`;
* `same`: deep equality, up to the order of keys;
* `isFinite`: no number of the value is lost when it is printed (`printed_eq_self_iff`).
-/

namespace AgentPipeline

open List

/-- A number of the language; doubles are rationals. -/
inductive JsNumber where
  | finite (value : ℚ)
  | infinity (negative : Bool)
  | nan
deriving DecidableEq, Repr

/-- A parsed JSON text. The fields of an object are in enumeration order. -/
inductive Json where
  | null
  | bool (value : Bool)
  | num (value : JsNumber)
  | str (value : String)
  | arr (elems : List Json)
  | obj (fields : List (String × Json))
deriving Repr

namespace Json

/-! ## Properties -/

/-- The own property of an object; `none` is `undefined`. -/
def get? : Json → String → Option Json
  | .obj fields, key => fields.lookup key
  | _, _ => none

def text? : Json → Option String
  | .str value => some value
  | _ => none

def bool? : Json → Option Bool
  | .bool value => some value
  | _ => none

def number? : Json → Option JsNumber
  | .num value => some value
  | _ => none

/-- A number that is neither infinite nor `NaN`. -/
def rational? : Json → Option ℚ
  | .num (.finite value) => some value
  | _ => none

/-- A number for which `Number.isInteger(n) && n >= 0`. -/
def natural? (value : Json) : Option Nat :=
  value.rational?.bind fun q => if q.den = 1 ∧ 0 ≤ q.num then some q.num.toNat else none

def elems? : Json → Option (List Json)
  | .arr elems => some elems
  | _ => none

def fields? : Json → Option (List (String × Json))
  | .obj fields => some fields
  | _ => none

def isPlainObject (value : Json) : Bool := value.fields?.isSome

def textAt (value : Json) (key : String) : Option String := (value.get? key).bind text?

def rationalAt (value : Json) (key : String) : Option ℚ := (value.get? key).bind rational?

/-- `value[key] != null`: neither absent nor `null`. -/
def isPresentAt (value : Json) (key : String) : Bool :=
  match value.get? key with
  | none | some .null => false
  | some _ => true

/-! ## Assignment -/

/-- Assign in place when the key is there, append when it is new. -/
def setField (key : String) (value : Json) : List (String × Json) → List (String × Json)
  | [] => [(key, value)]
  | (k, v) :: fields =>
    if k = key then (k, value) :: fields else (k, v) :: setField key value fields

/-- `{ ...object, [key]: value }`. -/
def set (object : Json) (key : String) (value : Json) : Json :=
  match object with
  | .obj fields => .obj (setField key value fields)
  | other => other

/-- `object[key] = value`: assigning `__proto__` makes no property. -/
def assign (object : Json) (key : String) (value : Json) : Json :=
  if key = "__proto__" then object else object.set key value

lemma lookup_setField_self (key : String) (value : Json) (fields : List (String × Json)) :
    (setField key value fields).lookup key = some value := by
  induction fields with
  | nil => simp [setField]
  | cons field fields ih =>
    obtain ⟨k, v⟩ := field
    by_cases hk : k = key
    · simp [setField, hk]
    · have hne : (key == k) = false := by simpa using Ne.symm hk
      simp [setField, hk, lookup_cons, hne, ih]

variable {key other : String}

lemma lookup_setField_of_ne (h : other ≠ key) (value : Json) (fields : List (String × Json)) :
    (setField key value fields).lookup other = fields.lookup other := by
  induction fields with
  | nil =>
    have hne : (other == key) = false := by simpa using h
    simp [setField, lookup_cons, hne]
  | cons field fields ih =>
    obtain ⟨k, v⟩ := field
    by_cases hk : k = key
    · subst hk
      have hne : (other == k) = false := by simpa using h
      simp [setField, lookup_cons, hne]
    · simp [setField, hk, lookup_cons, ih]

variable {value : Json}

lemma setField_of_lookup {fields : List (String × Json)}
    (h : fields.lookup key = some value) : setField key value fields = fields := by
  induction fields with
  | nil => simp at h
  | cons field fields ih =>
    obtain ⟨k, v⟩ := field
    by_cases hk : k = key
    · subst hk
      obtain rfl : v = value := by simpa [lookup_cons] using h
      simp [setField]
    · have hne : (key == k) = false := by simpa using Ne.symm hk
      simp [setField, hk, ih (by simpa [lookup_cons, hne] using h)]

@[simp] lemma isPlainObject_set (object : Json) (key : String) (value : Json) :
    (object.set key value).isPlainObject = object.isPlainObject := by
  cases object <;> rfl

variable {object : Json}

lemma get?_set_self (h : object.isPlainObject = true) (key : String)
    (value : Json) : (object.set key value).get? key = some value := by
  cases object with
  | obj fields => exact lookup_setField_self key value fields
  | _ => simp [isPlainObject, fields?] at h

lemma get?_set_of_ne (h : other ≠ key) (object value : Json) :
    (object.set key value).get? other = object.get? other := by
  cases object with
  | obj fields => exact lookup_setField_of_ne h value fields
  | _ => rfl

lemma set_of_get? (h : object.get? key = some value) : object.set key value = object := by
  cases object with
  | obj fields => exact congrArg obj (setField_of_lookup h)
  | _ => rfl

/-- `Object.assign(object, source)`: the fields that are there are assigned in place, the new ones
follow; assigning `__proto__` makes no property. -/
def objectAssign (object source : Json) : Json :=
  match object, source with
  | .obj fields, .obj assigned =>
    .obj ((fields.map fun field =>
        (field.1, if field.1 = "__proto__" then field.2 else (assigned.lookup field.1).getD field.2)) ++
      assigned.filter fun field =>
        field.1 ≠ "__proto__" && !(fields.map Prod.fst).contains field.1)
  | object, _ => object

/-- `delete object[key]`. -/
def without (object : Json) (key : String) : Json :=
  match object with
  | .obj fields => .obj (fields.filter fun field => field.1 ≠ key)
  | other => other

lemma lookup_mapValues (f : String → Json → Json) (fields : List (String × Json)) (key : String) :
    (fields.map fun field => (field.1, f field.1 field.2)).lookup key = (fields.lookup key).map (f key) := by
  induction fields with
  | nil => rfl
  | cons field fields ih =>
    obtain ⟨k, v⟩ := field
    by_cases hk : key = k
    · simp [hk]
    · have hne : (key == k) = false := by simpa using hk
      simp [lookup_cons, hne, ih]

lemma lookup_filterKeys (p : String → Bool) (fields : List (String × Json)) (key : String) :
    (fields.filter fun field => p field.1).lookup key = if p key then fields.lookup key else none := by
  induction fields with
  | nil => simp
  | cons field fields ih =>
    obtain ⟨k, v⟩ := field
    by_cases hk : key = k
    · subst hk
      by_cases hp : p key = true
      · simp [hp]
      · simp [ih, hp]
    · have hne : (key == k) = false := by simpa using hk
      by_cases hp : p k = true
      · rw [filter_cons_of_pos (by exact hp), lookup_cons, lookup_cons, hne, ih]
      · rw [filter_cons_of_neg (by exact hp), lookup_cons, hne, ih]

lemma get?_objectAssign {source : Json} (hobject : object.isPlainObject = true)
    (hsource : source.isPlainObject = true) (hkey : key ≠ "__proto__") :
    (objectAssign object source).get? key = (source.get? key).or (object.get? key) := by
  cases object with
  | obj fields =>
    cases source with
    | obj assigned =>
      simp only [objectAssign, get?, lookup_append]
      rw [lookup_mapValues fun k v =>
          if k = "__proto__" then v else (assigned.lookup k).getD v]
      rw [lookup_filterKeys fun k => decide (k ≠ "__proto__") && !(fields.map Prod.fst).contains k]
      cases hthere : fields.lookup key with
      | some value => cases assigned.lookup key <;> simp [hkey]
      | none =>
        have habsent : (fields.map Prod.fst).contains key = false := by
          rw [contains_eq_mem, decide_eq_false_iff_not, mem_map]
          rintro ⟨field, hmem, rfl⟩
          have hne := lookup_eq_none_iff.1 hthere field hmem
          simp at hne
        simp only [habsent, Bool.not_false, Bool.and_true, decide_eq_true hkey, Option.map_none,
          Option.none_or, Option.or_none, if_true]
    | _ => simp [isPlainObject, fields?] at hsource
  | _ => simp [isPlainObject, fields?] at hobject

lemma get?_without_of_ne (h : other ≠ key) (object : Json) : (object.without key).get? other = object.get? other := by
  cases object with
  | obj fields =>
    simp only [without, get?]
    rw [lookup_filterKeys fun k => decide (k ≠ key)]
    simp [h]
  | _ => rfl

/-! ## Deep equality -/

mutual

/-- Equal scalars, arrays of equal elements, objects with equal values under the same keys. -/
def same : Json → Json → Bool
  | .null, .null => true
  | .bool a, .bool b => a = b
  | .num a, .num b => a = b
  | .str a, .str b => a = b
  | .arr as, .arr bs => sameElems as bs
  | .obj as, .obj bs => as.length = bs.length && sameFields as bs
  | _, _ => false
termination_by structural a => a

def sameElems : List Json → List Json → Bool
  | [], [] => true
  | a :: as, b :: bs => same a b && sameElems as bs
  | _, _ => false
termination_by structural as => as

def sameFields : List (String × Json) → List (String × Json) → Bool
  | [], _ => true
  | field :: fields, bs => sameField field bs && sameFields fields bs
termination_by structural as => as

def sameField : String × Json → List (String × Json) → Bool
  | (key, a), bs =>
    match bs.lookup key with
    | some b => same a b
    | none => false
termination_by structural field => field

end

/-! ## Printing -/

mutual

/-- `JSON.parse(JSON.stringify(value))`. -/
def printed : Json → Json
  | .num (.finite q) => .num (.finite q)
  | .num _ => .null
  | .arr elems => .arr (printedElems elems)
  | .obj fields => .obj (printedFields fields)
  | .null => .null
  | .bool b => .bool b
  | .str s => .str s

def printedElems : List Json → List Json
  | [] => []
  | value :: elems => printed value :: printedElems elems

def printedFields : List (String × Json) → List (String × Json)
  | [] => []
  | field :: fields => printedField field :: printedFields fields

def printedField : String × Json → String × Json
  | (key, value) => (key, printed value)

end

/-! What a value prints as is read off its own properties. -/

lemma printedElems_eq_map (elems : List Json) : printedElems elems = elems.map printed := by
  induction elems with
  | nil => rfl
  | cons value elems ih => rw [printedElems, ih, map_cons]

lemma printedFields_eq_map (fields : List (String × Json)) :
    printedFields fields = fields.map fun field => (field.1, printed field.2) := by
  induction fields with
  | nil => rfl
  | cons field fields ih => rw [printedFields, ih, map_cons, printedField]

lemma lookup_printedFields (fields : List (String × Json)) (key : String) :
    (printedFields fields).lookup key = (fields.lookup key).map printed := by
  induction fields with
  | nil => rfl
  | cons field fields ih =>
    obtain ⟨k, v⟩ := field
    cases hk : key == k <;> simp [printedFields, printedField, lookup_cons, hk, ih]

@[simp] lemma get?_printed (value : Json) (key : String) : (printed value).get? key = (value.get? key).map printed := by
  cases value with
  | obj fields => exact lookup_printedFields fields key
  | num n => cases n <;> rfl
  | _ => rfl

@[simp] lemma text?_printed (value : Json) : (printed value).text? = value.text? := by
  cases value with
  | num n => cases n <;> rfl
  | _ => rfl

@[simp] lemma rational?_printed (value : Json) : (printed value).rational? = value.rational? := by
  cases value with
  | num n => cases n <;> rfl
  | _ => rfl

@[simp] lemma natural?_printed (value : Json) : (printed value).natural? = value.natural? := by
  simp [natural?]

@[simp] lemma elems?_printed (value : Json) : (printed value).elems? = value.elems?.map (·.map printed) := by
  cases value with
  | arr elems => exact congrArg some (printedElems_eq_map elems)
  | num n => cases n <;> rfl
  | _ => rfl

@[simp] lemma fields?_printed (value : Json) : (printed value).fields? = value.fields?.map printedFields := by
  cases value with
  | num n => cases n <;> rfl
  | _ => rfl

@[simp] lemma isPlainObject_printed (value : Json) : (printed value).isPlainObject = value.isPlainObject := by
  simp [isPlainObject]

@[simp] lemma textAt_printed (value : Json) (key : String) : (printed value).textAt key = value.textAt key := by
  simp [textAt, Option.bind_map]

@[simp] lemma rationalAt_printed (value : Json) (key : String) :
    (printed value).rationalAt key = value.rationalAt key := by
  simp [rationalAt, Option.bind_map]

lemma isPresentAt_of_printed (h : (printed value).isPresentAt key = true) : value.isPresentAt key = true := by
  unfold isPresentAt at h ⊢
  rw [get?_printed] at h
  cases hget : value.get? key with
  | none => simp [hget] at h
  | some field =>
    cases field with
    | null => simp [hget, printed] at h
    | _ => rfl

mutual

/-- Every number is finite. -/
def isFinite : Json → Bool
  | .num (.finite _) => true
  | .num _ => false
  | .arr elems => isFiniteElems elems
  | .obj fields => isFiniteFields fields
  | .null | .bool _ | .str _ => true

def isFiniteElems : List Json → Bool
  | [] => true
  | value :: elems => isFinite value && isFiniteElems elems

def isFiniteFields : List (String × Json) → Bool
  | [] => true
  | field :: fields => isFiniteField field && isFiniteFields fields

def isFiniteField : String × Json → Bool
  | (_, value) => isFinite value

end

lemma isFiniteElems_eq_all (elems : List Json) : isFiniteElems elems = elems.all isFinite := by
  induction elems with
  | nil => rfl
  | cons value elems ih => simp [isFiniteElems, ih]

lemma isFiniteFields_eq_all (fields : List (String × Json)) :
    isFiniteFields fields = fields.all fun field => isFinite field.2 := by
  induction fields with
  | nil => rfl
  | cons field fields ih =>
    obtain ⟨key, value⟩ := field
    simp [isFiniteFields, isFiniteField, ih]

mutual

lemma printed_eq_self_iff : ∀ value : Json, printed value = value ↔ isFinite value = true
  | .null | .bool _ | .str _ => by simp [printed, isFinite]
  | .num (.finite _) | .num (.infinity _) | .num .nan => by simp [printed, isFinite]
  | .arr elems => by simpa [printed, isFinite] using printedElems_eq_self_iff elems
  | .obj fields => by simpa [printed, isFinite] using printedFields_eq_self_iff fields

lemma printedElems_eq_self_iff :
    ∀ elems : List Json, printedElems elems = elems ↔ isFiniteElems elems = true
  | [] => by simp [printedElems, isFiniteElems]
  | value :: elems => by
      simp [printedElems, isFiniteElems, printed_eq_self_iff value, printedElems_eq_self_iff elems]

lemma printedFields_eq_self_iff :
    ∀ fields : List (String × Json), printedFields fields = fields ↔ isFiniteFields fields = true
  | [] => by simp [printedFields, isFiniteFields]
  | field :: fields => by
      simp [printedFields, isFiniteFields, printedField_eq_self_iff field, printedFields_eq_self_iff fields]

lemma printedField_eq_self_iff :
    ∀ field : String × Json, printedField field = field ↔ isFiniteField field = true
  | (_, value) => by simp [printedField, isFiniteField, printed_eq_self_iff value]

end

mutual

lemma isFinite_printed : ∀ value : Json, isFinite (printed value) = true
  | .null | .bool _ | .str _ => rfl
  | .num (.finite _) | .num (.infinity _) | .num .nan => rfl
  | .arr elems => isFinite_printedElems elems
  | .obj fields => isFinite_printedFields fields

lemma isFinite_printedElems : ∀ elems : List Json, isFiniteElems (printedElems elems) = true
  | [] => rfl
  | value :: elems => by
      simp [printedElems, isFiniteElems, isFinite_printed value, isFinite_printedElems elems]

lemma isFinite_printedFields :
    ∀ fields : List (String × Json), isFiniteFields (printedFields fields) = true
  | [] => rfl
  | field :: fields => by
      simp [printedFields, isFiniteFields, isFinite_printedField field, isFinite_printedFields fields]

lemma isFinite_printedField : ∀ field : String × Json, isFiniteField (printedField field) = true
  | (_, value) => isFinite_printed value

end

lemma isFinite_set (hobject : object.isFinite = true)
    (hvalue : value.isFinite = true) (key : String) : (object.set key value).isFinite = true := by
  cases object with
  | obj fields =>
    have hfields : ∀ field ∈ fields, isFinite field.2 = true := by
      simpa [isFinite, isFiniteFields_eq_all] using hobject
    suffices h : ∀ field ∈ setField key value fields, isFinite field.2 = true by
      simpa [set, isFinite, isFiniteFields_eq_all] using h
    clear hobject
    induction fields with
    | nil => simpa [setField] using hvalue
    | cons first fields ih =>
      have hrest := ih fun field hmem => hfields field (by simp [hmem])
      have hfirst := hfields first (by simp)
      simp only [setField]
      split
      · simpa [hvalue] using fun a b hmem => hfields (a, b) (by simp [hmem])
      · simpa [hfirst] using hrest
  | _ => exact hobject

lemma isFinite_of_get? (hobject : object.isFinite = true)
    (h : object.get? key = some value) : value.isFinite = true := by
  cases object with
  | obj fields =>
    have hmem : (key, value) ∈ fields := by
      obtain ⟨before, after, hsplit, _⟩ := lookup_eq_some_iff.1 h
      simp [hsplit]
    have hfields : ∀ field ∈ fields, isFinite field.2 = true := by
      simpa [isFinite, isFiniteFields_eq_all] using hobject
    exact hfields _ hmem
  | _ => simp [get?] at h

end Json
end AgentPipeline
