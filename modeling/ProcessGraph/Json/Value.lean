import ProcessGraph.Json.Number
import ProcessGraph.Keyed

/-!
# Document values

* `Value`: a document value. Objects keep the order of their members.
* `Members`: the members of an object by key.
* `Value.same`: equality of values, with objects compared as unordered maps.
* `Value.Distinct`: every object lists each key once.
-/

namespace ProcessGraph.Json

/-- A document value. -/
inductive Value where
  | null
  | bool (value : Bool)
  | number (value : Number)
  | string (value : String)
  | array (items : List Value)
  | object (members : List (String × Value))
deriving Inhabited

/-- The members of an object, in document order. -/
abbrev Members := Keyed String Value

namespace Value

/-- A member of an object; none of any other value. -/
def get? (key : String) : Value → Option Value
  | object ms => Keyed.find? key ms
  | _ => none

/-- Is the value an object? -/
def isObject : Value → Bool
  | object _ => true
  | _ => false

/-- The object without members. -/
def emptyObject : Value := object []

mutual

/-- Equality of values: same kind, equal parts, objects equal whatever the order of members. -/
def same : Value → Value → Bool
  | null, null => true
  | bool a, bool b => a == b
  | number a, number b => a.same b
  | string a, string b => a == b
  | array xs, array ys => sameItems xs ys
  | object xs, object ys => xs.length == ys.length && sameMembers xs ys
  | _, _ => false

/-- Equality of the items of two arrays. -/
def sameItems : List Value → List Value → Bool
  | [], [] => true
  | x :: xs, y :: ys => same x y && sameItems xs ys
  | _, _ => false

/-- Does the second object hold every member of the first? -/
def sameMembers : List (String × Value) → List (String × Value) → Bool
  | [], _ => true
  | (k, v) :: rest, ys =>
    (match Keyed.find? k ys with
      | some v' => same v v'
      | none => false) && sameMembers rest ys

end

mutual

/-- Every object in the value lists each key once. -/
def Distinct : Value → Prop
  | array items => DistinctItems items
  | object ms => (ms.map Prod.fst).Nodup ∧ DistinctMembers ms
  | _ => True

/-- `Distinct` for the items of an array. -/
def DistinctItems : List Value → Prop
  | [] => True
  | v :: rest => Distinct v ∧ DistinctItems rest

/-- `Distinct` for the values of an object. -/
def DistinctMembers : List (String × Value) → Prop
  | [] => True
  | (_, v) :: rest => Distinct v ∧ DistinctMembers rest

end

mutual

/-- How deep arrays and objects nest. -/
def depth : Value → Nat
  | array items => itemsDepth items + 1
  | object ms => membersDepth ms + 1
  | _ => 0

/-- The greatest depth among the items of an array. -/
def itemsDepth : List Value → Nat
  | [] => 0
  | v :: rest => max (depth v) (itemsDepth rest)

/-- The greatest depth among the values of an object. -/
def membersDepth : List (String × Value) → Nat
  | [] => 0
  | (_, v) :: rest => max (depth v) (membersDepth rest)

end

end Value

end ProcessGraph.Json
