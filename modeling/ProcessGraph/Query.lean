import ProcessGraph.Json.Shape

/-!
# Queries

* `Query`: what a container or process among its siblings is looked up by.
* `Query.ofDocument`, `Query.toDocument`: a query as a document.
-/

namespace ProcessGraph

open Json (Value Members ShapeError)

/-- The criterion of a lookup. Without a type name it matches nothing. -/
structure Query where
  typeName : Option String
deriving DecidableEq, Repr

namespace Query

/-- The query without a criterion. -/
def any : Query := ⟨none⟩

/-- The query for an exact type name. -/
def byType (name : String) : Query := ⟨some name⟩

/-- The query of a document: an object, or an array of its fields. -/
def ofDocument (document : Value) : Except ShapeError Query :=
  match document with
  | .object ms =>
    match Keyed.find? "type_name" ms with
    | some v => (v.asOption Value.asString).map Query.mk
    | none => .ok any
  | .array [] => .ok any
  | .array (v :: rest) => do
    let name ← v.asOption Value.asString
    if rest.isEmpty then return ⟨name⟩ else throw (.tooLong (rest.length + 1))
  | v => v.refuse (.record "Query")

/-- The document of a query. -/
def toDocument (q : Query) : Value :=
  .object [("type_name", match q.typeName with
    | some name => .string name
    | none => .null)]

end Query

end ProcessGraph
