import AgentPipeline.Foundation.JsonPrint
import AgentPipeline.Foundation.NodeHost

/-!
# Grill.Hash: canonical texts of JSON values

* `canonicalJson`: `JSON.stringify` with the keys of every object sorted by code units.
-/

namespace AgentPipeline.Grill

/-- An assignment to the key `__proto__` makes no own property. -/
def assignable (field : String × Json) : Bool := field.1 ≠ "__proto__"

/-- `Object.keys(o).sort()`, with the values. -/
def sortFields (fields : List (String × Json)) : List (String × Json) :=
  fields.insertionSort fun a b => utf16Units a.1 ≤ utf16Units b.1

mutual

/-- `canonicalize(value)`. Enumeration puts the keys that are array indices first again. -/
def canonicalize : Json → Json
  | .arr elems => .arr (canonicalizeElems elems)
  | .obj fields =>
    .obj (JsonText.ofMembers ((sortFields (canonicalizeFields fields)).filter assignable))
  | .null => .null
  | .bool b => .bool b
  | .num n => .num n
  | .str s => .str s

def canonicalizeElems : List Json → List Json
  | [] => []
  | value :: elems => canonicalize value :: canonicalizeElems elems

def canonicalizeFields : List (String × Json) → List (String × Json)
  | [] => []
  | field :: fields => canonicalizeField field :: canonicalizeFields fields

def canonicalizeField : String × Json → String × Json
  | (key, value) => (key, canonicalize value)

end

def canonicalJson (host : NodeHost) (value : Json) : String :=
  String.ofList (JsonText.print .compact host.numberText 0 (canonicalize value))

end AgentPipeline.Grill
