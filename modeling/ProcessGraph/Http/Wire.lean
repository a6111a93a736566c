import ProcessGraph.Http.Framing
import ProcessGraph.Http.Target

/-!
# Messages on the wire

* `Request.target`: the target of a request that is sent to the host itself.
* `Request.canSend`: can a request be sent to its URL?
* `Request.wire`: the bytes of a request; `Request.last`, the request after which the connection is to
  be closed.
* `Response.ofWire?`: the response that the bytes of a whole connection spell.
-/

namespace ProcessGraph.Http

/-! ## requests -/

/-- The target of a request: the path and the query. -/
def Request.target (r : Request) : List Char := r.url.path.chars ++ r.url.queryChars

/-- Can a request be sent to its URL? Hosts may be written in more ways than in a message, and the
length of a target is limited. -/
def Request.canSend (r : Request) : Bool :=
  let chars := r.url.chars
  r.url.host.isSome && chars.length ≤ maxTargetLength && (Target.parse? chars).isSome

/-- The bytes of a request. -/
def Request.wire (r : Request) : Text.Bytes :=
  let r := r.framed
  message (requestLine r.method r.target) r.headers r.body

/-- The request after which the connection is to be closed. -/
def Request.last (r : Request) : Request :=
  { r with headers := Headers.withDefaults [("connection", Text.utf8 "close")] r.headers }

/-! ## responses -/

/-- The body of a response with a head. There is none if it is incomplete or ill-formed. -/
def bodyOf (line : StatusLine) (fields : Fields) (bytes : Text.Bytes) :
    Option (Option Text.Bytes) :=
  if isBodiless line.status then some (some [])
  else (responseFraming? line.minor fields).map fun framing => framing.body? bytes

/-- The response that the bytes of a connection spell; what is merely announced before it is passed
over. -/
def responseOfWire? : Nat → Text.Bytes → Option Response
  | 0, _ => none
  | fuel + 1, bytes => do
    let (line, rest) ← StatusLine.read? bytes
    let (fields, rest) ← (readHead bytes rest).toOption
    if line.status < 200 ∧ line.status ≠ 101 then responseOfWire? fuel rest
    else return ⟨line.status, fields, ← bodyOf line fields rest⟩

/-- The response that the bytes of a whole connection spell. -/
def Response.ofWire? (bytes : Text.Bytes) : Option Response :=
  responseOfWire? (bytes.length + 1) bytes

end ProcessGraph.Http
