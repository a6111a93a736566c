import ProcessGraph.Json.Printer
import ProcessGraph.Text.Quoted

/-!
# The shape of documents

* `Found`: what stands in a document where something else is wanted.
* `Expected`: what is wanted.
* `ShapeError`: why a well-formed document is refused; `ShapeError.message` is the wording.
* `Value.asString`, `Value.asStrings`, `Value.asOption`: readers of parts.
-/

namespace ProcessGraph.Json

/-- What stands in a document, as far as a message tells. -/
inductive Found where
  | null
  | bool (value : Bool)
  | integer (value : Int)
  | real (value : Decimal.Double)
  | string (value : String)
  | sequence
  | map
deriving DecidableEq

namespace Found

/-- What a value is. -/
def ofValue : Value → Found
  | .null => null
  | .bool b => bool b
  | .number (.integer i _) => integer i
  | .number (.real x) => real x
  | .string s => string s
  | .array _ => sequence
  | .object _ => map

/-- The wording of what stands in a document. -/
def text : Found → String
  | null => "null"
  | bool true => "boolean `true`"
  | bool false => "boolean `false`"
  | integer i => "integer `" ++ String.ofList (Number.intChars i) ++ "`"
  | real x => "floating point `" ++ String.ofList (Number.doubleChars x) ++ "`"
  | string s => "string " ++ Text.quoted s
  | sequence => "sequence"
  | map => "map"

end Found

/-- What a document is wanted to hold. -/
inductive Expected where
  | string
  | sequence
  | map
  | natural
  | path
  | unit
  | stringOrMap
  | record (name : String)
deriving DecidableEq

/-- The wording of what is wanted. -/
def Expected.text : Expected → String
  | string => "a string"
  | sequence => "a sequence"
  | map => "a map"
  | natural => "u64"
  | path => "path string"
  | unit => "unit"
  | stringOrMap => "string or map"
  | record name => "struct " ++ name

/-- Why a well-formed document is refused. -/
inductive ShapeError where
  | invalidType (found : Found) (expected : Expected)
  | negative (value : Int)
  | notOneMember
  | missingField (name : String)
  | tooLong (length : Nat)
  | unknownVariant (name : String) (known : List String)
deriving DecidableEq

/-- The wording of a refusal. -/
def ShapeError.message : ShapeError → String
  | invalidType found expected => "invalid type: " ++ found.text ++ ", expected " ++ expected.text
  | negative i =>
    "invalid value: integer `" ++ String.ofList (Number.intChars i) ++ "`, expected u64"
  | notOneMember => "invalid value: map, expected map with a single key"
  | missingField name => "missing field `" ++ name ++ "`"
  | tooLong n =>
    "invalid length " ++ String.ofList (Nat.toDigits 10 n) ++ ", expected fewer elements in array"
  | unknownVariant name known =>
    "unknown variant `" ++ name ++ "`, expected " ++
      " or ".intercalate (known.map fun k => "`" ++ k ++ "`")

namespace Value

/-- The refusal of a value where something else is wanted. -/
def refuse {α : Type} (v : Value) (expected : Expected) : Except ShapeError α :=
  .error (.invalidType (Found.ofValue v) expected)

/-- The text of a string. -/
def asString (v : Value) : Except ShapeError String :=
  match v with
  | string s => .ok s
  | v => v.refuse .string

/-- The texts of a list of strings. -/
def asStringList : List Value → Except ShapeError (List String)
  | [] => .ok []
  | v :: rest => do
    let s ← v.asString
    return s :: (← asStringList rest)

/-- The texts of an array of strings. -/
def asStrings (v : Value) : Except ShapeError (List String) :=
  match v with
  | array items => asStringList items
  | v => v.refuse .sequence

/-- A part that may be missing: `null` stands for nothing. -/
def asOption {α : Type} (read : Value → Except ShapeError α) (v : Value) :
    Except ShapeError (Option α) :=
  match v with
  | null => .ok none
  | v => (read v).map some

/-- An unsigned 64-bit integer. -/
def asNatural (v : Value) : Except ShapeError Nat :=
  match v with
  | number (.integer i _) => if i < 0 then .error (.negative i) else .ok i.toNat
  | v => v.refuse .natural

end Value

end ProcessGraph.Json
