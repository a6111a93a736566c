/-!
# Identifiers and kinds

* `Identifier`: the opaque key of a container or process, ordered by the bytes of its text.
* `Kind`: the three kinds of entities that have a profile, with the names used in routes.
-/

namespace ProcessGraph

/-- The opaque key of a container or process on the remote side. -/
structure Identifier where
  text : String
deriving DecidableEq, Repr, Inhabited

namespace Identifier

/-- The order of identifiers. The order of UTF-8 bytes is the order of code points. -/
def le (a b : Identifier) : Bool := decide (a.text ≤ b.text)

/-- A list of identifiers in ascending order. -/
def sort (ids : List Identifier) : List Identifier := ids.mergeSort le

end Identifier

/-- The kinds of entities that have a profile. -/
inductive Kind where
  | system
  | container
  | process
deriving DecidableEq, Repr

/-- The name of a kind in a route. -/
def Kind.className : Kind → String
  | system => "system"
  | container => "container"
  | process => "container_process"

end ProcessGraph
