import ProcessGraph.Json.Value
import ProcessGraph.Text.Utf8

/-!
# Results of invocations

* `Payload`: the body of a successful invocation, a document or bytes.
* `Payload.same`: equality of results.
-/

namespace ProcessGraph

/-- The body of a successful invocation. -/
inductive Payload where
  | json (value : Json.Value)
  | binary (contentType : Option String) (bytes : Text.Bytes)

namespace Payload

/-- The document of a result. -/
def document? : Payload → Option Json.Value
  | json v => some v
  | binary _ _ => none

/-- The bytes of a result that is no document. -/
def bytes? : Payload → Option Text.Bytes
  | json _ => none
  | binary _ bytes => some bytes

/-- Equality of results: equal documents, or equal bytes of equal content type. -/
def same : Payload → Payload → Bool
  | json a, json b => a.same b
  | binary t a, binary t' b => t == t' && a == b
  | _, _ => false

/-- Equality of results of calls, a failed call being equal to a failed call alone. -/
def sameResult : Option Payload → Option Payload → Bool
  | none, none => true
  | some a, some b => a.same b
  | _, _ => false

end Payload

end ProcessGraph
