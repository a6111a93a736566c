import ProcessGraph.Http.Status
import ProcessGraph.Json.Shape
import ProcessGraph.Url.Error

/-!
# Failures of reads and of the entities

* `DecodeFault`: a document that is no document, or has the wrong shape.
* `ClientError`: why a read or an operation on an entity failed. A failed invocation is no error: it
  has no result.
* `ClientError.message`, `ClientError.messageWithCause`: the wording.
* `ClientError.isTransient`: may the same request succeed later?
-/

namespace ProcessGraph

/-- What is wrong with a document. -/
inductive DecodeFault where
  | malformed
  | shape (error : Json.ShapeError)
deriving DecidableEq

/-- Why a read or an operation on an entity failed. That a client cannot be built is left out: nothing here decides
it. -/
inductive ClientError where
  | network (url : String)
  | decode (target : String) (fault : DecodeFault)
  | status (url : String) (code : Nat)
  | uninitialized (entity : String)
  | invalidUrl (cause : Url.Error)
  | invalidHeader (name reason : String)
deriving DecidableEq

namespace ClientError

/-- The wording of a failure. Where transport fails, and where a document is malformed, a colon and the words of the
transport or of the parser would follow: they are left out. -/
def message : ClientError → String
  | network url => "request to " ++ url ++ " failed"
  | decode target .malformed => target ++ " is not a valid profile document"
  | decode target (.shape e) => target ++ " is not a valid profile document: " ++ e.message
  | status url code =>
    "request to " ++ url ++ " answered with status " ++ Http.statusText code
  | uninitialized entity => entity ++ " used before setup() completed"
  | invalidUrl cause => "invalid endpoint url: " ++ cause.message
  | invalidHeader name reason => "invalid default header '" ++ name ++ "': " ++ reason

/-- The wording of a failure followed by that of its cause, where the cause is known: the words of the transport and of
the parser are not. -/
def messageWithCause (e : ClientError) : String :=
  match e with
  | decode _ (.shape cause) => e.message ++ ": " ++ cause.message
  | invalidUrl cause => e.message ++ ": " ++ cause.message
  | _ => e.message

/-- May the same request succeed later? So do failures of transport and of status. -/
def isTransient : ClientError → Bool
  | network _ | status _ _ => true
  | _ => false

end ClientError

end ProcessGraph
