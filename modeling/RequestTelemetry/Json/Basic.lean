import RequestTelemetry.Json.Number

/-!
# JSON values

A value as a document holds it. `Json.ofFields` builds the object that a list of members denotes:
its keys are in increasing order, and of several members with one key the last counts. A record
that is written out may keep another order.
-/

namespace RequestTelemetry

/-- A JSON value. -/
inductive Json where
  | null
  | bool (b : Bool)
  | number (n : Number)
  | string (s : String)
  | array (items : List Json)
  | object (fields : List (String × Json))
  deriving Repr, Inhabited

namespace Json

/-- A whole number. -/
def ofNat (n : Nat) : Json := number (.integer n)

/-- A text or null. -/
def ofText? : Option String → Json
  | some s => string s
  | none => null

mutual

/-- Whether two values are equal member by member. -/
def same : Json → Json → Bool
  | null, null => true
  | bool a, bool b => a == b
  | number a, number b => a == b
  | string a, string b => a == b
  | array xs, array ys => sameItems xs ys
  | object xs, object ys => sameFields xs ys
  | _, _ => false

/-- Whether two lists of values are equal item by item. -/
def sameItems : List Json → List Json → Bool
  | [], [] => true
  | x :: xs, y :: ys => same x y && sameItems xs ys
  | _, _ => false

/-- Whether two lists of members are equal in keys and values. -/
def sameFields : List (String × Json) → List (String × Json) → Bool
  | [], [] => true
  | (k, x) :: xs, (l, y) :: ys => k == l && same x y && sameFields xs ys
  | _, _ => false

end

instance : BEq Json := ⟨same⟩

/-- Sets a member of a list of members in increasing order of keys. -/
def insertField (key : String) (value : Json) : List (String × Json) → List (String × Json)
  | [] => [(key, value)]
  | (k, v) :: rest =>
    if key < k then (key, value) :: (k, v) :: rest
    else if key = k then (key, value) :: rest
    else (k, v) :: insertField key value rest

/-- The members in increasing order of keys, the last of each key. -/
def sortFields (fields : List (String × Json)) : List (String × Json) :=
  fields.foldl (fun sorted f ↦ insertField f.1 f.2 sorted) []

/-- The object with the given members. -/
def ofFields (fields : List (String × Json)) : Json := object (sortFields fields)

/-- The value of a member. -/
def field? (key : String) : Json → Option Json
  | object fields => fields.lookup key
  | _ => none

end Json
end RequestTelemetry
