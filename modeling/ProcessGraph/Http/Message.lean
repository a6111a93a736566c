import ProcessGraph.Http.Header
import ProcessGraph.Text.Blank
import ProcessGraph.Url.Basic

/-!
# Requests and responses

* `Http.Request`: what a client sends to a URL.
* `Http.Response`: what comes back. The body is missing if the connection ended within it.
* `Http.Response.contentType?`: the declared type of the body, if it can be read as text.
* `Http.isJsonType`: is a content type that of documents, whatever its parameters?
* `Http.Outcome`, `Http.Peer`: who answers requests, and how an exchange ends.
-/

namespace ProcessGraph.Http

/-- A request to a URL. -/
structure Request where
  method : String
  url : Url
  headers : Headers
  body : Text.Bytes

/-- A response. There is no body if the connection ended within it. -/
structure Response where
  status : Nat
  headers : Fields
  body : Option Text.Bytes

/-- The status of success. -/
def ok : Nat := 200

/-- Does a response of this status have no body? -/
def isBodiless (status : Nat) : Bool := status = 101 || status = 204 || status = 304

/-- Is the byte a blank around a value? -/
def isBlankByte (b : UInt8) : Bool := b = 0x20 || b = 0x09

/-- A value without the blanks at its ends. -/
def trimValue (bytes : Text.Bytes) : Text.Bytes :=
  ((bytes.dropWhile isBlankByte).reverse.dropWhile isBlankByte).reverse

/-- Is the byte a visible character, a space or a tab? -/
def isVisible (b : UInt8) : Bool := (32 ≤ b.toNat && b.toNat < 127) || b.toNat = 9

/-- The text of a value, if all of it is visible. -/
def valueText? (bytes : Text.Bytes) : Option String :=
  if bytes.all isVisible then some (String.ofList (bytes.map fun b => Char.ofNat b.toNat)) else none

/-- The value of the first header of a name, given in lower case. -/
def headerValue? (name : String) (headers : Fields) : Option Text.Bytes :=
  (headers.find? fun h => lowerName h.1 = name).map fun h => trimValue h.2

/-- The text of the first header of a name. -/
def headerText? (name : String) (headers : Fields) : Option String :=
  (headerValue? name headers).bind valueText?

/-- The name of the header that declares the type of a body. -/
def contentTypeName : String := "content-type"

/-- The declared type of the body, if it can be read as text. -/
def Response.contentType? (r : Response) : Option String := headerText? contentTypeName r.headers

/-- The type of documents. -/
def jsonType : String := "application/json"

/-- Is a content type that of documents? What follows a semicolon does not matter, nor do blanks
around the rest and the case of its letters. -/
def isJsonType (contentType : String) : Bool :=
  let essence := Text.trim (contentType.toList.takeWhile (· ≠ ';'))
  String.ofList (essence.map Char.toLower) = jsonType

/-- How an exchange ends: with a response, or without one. -/
inductive Outcome where
  | unreachable
  | response (r : Response)

/-- Who answers requests. There is no outcome if the exchange never ends. -/
class Peer (π : Type) where
  exchange : π → Request → Option Outcome × π

end ProcessGraph.Http
