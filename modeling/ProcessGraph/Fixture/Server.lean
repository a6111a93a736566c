import ProcessGraph.Fixture.Basic
import ProcessGraph.Http.Wire
import ProcessGraph.Json.Parser

/-!
# Fixture servers

* `Fixture.Server`: a fixture, and what has been asked of it.
* `Fixture.Arrival`: a request as it arrives, if its head is well formed.
* `Fixture.Server.serve`: the response to a request, and the server after it. Only routes of the form
  `/api/<class>/<function>` are known; reads and invocations on them are recorded.
* `Fixture.Site`: a server at a port of the local host, as a peer.
-/

namespace ProcessGraph.Fixture

/-- An invocation, as it was received. The body is `null` if it was no document. -/
structure RecordedCall where
  function : String
  identifier : String
  body : Json.Value
  contentType : Option String
  accept : Option String

/-- A fixture, and what has been asked of it, the earliest first. -/
structure Server where
  fixture : Fixture
  reads : List String
  calls : List RecordedCall

/-- A request as it arrives: the path and the query as they are written, and the body, if it can be
read. -/
structure Arrival where
  method : String
  target : Http.Target
  headers : Http.Fields
  body : Option Text.Bytes

namespace Arrival

/-- The request of a head, with its body at the front of the bytes after it. -/
def ofHead (line : Http.RequestLine) (headers : Http.Fields) (bytes : Text.Bytes) :
    Except Http.Fault Arrival :=
  if Http.maxTargetLength < (Text.Utf8.encode line.target).length then .error .targetTooLong
  else
    match Http.Target.parse? line.target with
    | none => .error .malformed
    | some target =>
      (Http.requestFraming line.minor headers).map fun framing =>
        ⟨line.method, target, headers, framing.body? bytes⟩

/-- The request that the bytes of a connection spell. -/
def ofWire (bytes : Text.Bytes) : Except Http.Fault Arrival := do
  let some (line, rest) := Http.RequestLine.read? bytes | throw .malformed
  let (headers, rest) ← Http.readHead bytes rest
  ofHead line headers rest

end Arrival

namespace Server

/-- A server that has not been asked anything. -/
def start (f : Fixture) : Server := ⟨f, [], []⟩

/-- Keeps an answer for a slot. -/
def set (s : Server) (slot : Slot) (r : Response) : Server :=
  { s with fixture := s.fixture.set slot r }

/-- How many reads begin with a text. -/
def readCount (s : Server) (start : String) : Nat :=
  (s.reads.filter fun r => r.startsWith start).length

/-! ## routes -/

/-- The two segments below the root of all routes, as they are written. -/
def segments? (path : List Char) : Option (List Char × List Char) :=
  match Text.splitWhere (· = '/') path with
  | [[], ['a', 'p', 'i'], first, second] => if second.isEmpty then none else some (first, second)
  | _ => none

/-- The text of a segment. -/
def segmentText? (segment : List Char) : Option String :=
  Text.ofUtf8? (Text.Percent.decode (Text.Utf8.encode segment))

/-- The refusal of a segment that is no text. -/
def badSegment (name : String) : Http.Response :=
  Response.plainText 400 ("Invalid URL: Invalid UTF-8 in `" ++ name ++ "`")

/-- The identifier in a query, or the refusal of a query with two. -/
def identifierOf (query : List Char) : Except Http.Response (Option String) :=
  let named :=
    (Text.FormEncoded.pairs (Text.Utf8.encode query)).filter fun p => p.1 = "identifier".toList
  match named with
  | [] => .ok none
  | [(_, id)] => .ok (some (String.ofList id))
  | _ => .error (Response.plainText 400
      "Failed to deserialize query string: duplicate field `identifier`")

/-- The class, the function and the identifier that a request names. -/
def addressOf (segments : List Char × List Char) (query : List Char) :
    Except Http.Response (String × String × Option String) :=
  match segmentText? segments.1, segmentText? segments.2 with
  | none, _ => .error (badSegment "class")
  | _, none => .error (badSegment "function")
  | some className, some function => (identifierOf query).map fun id => (className, function, id)

/-- The response for an answer that may not be there. -/
def respond : Option Response → Http.Response
  | some r => r.toHttp
  | none => Response.blank 404

/-- A read as it is recorded. -/
def readRecord (className function : String) (id : Option String) : String :=
  className ++ "/" ++ function ++ (id.map fun id => "?" ++ id).getD ""

/-- Serves a read. -/
def read (s : Server) (className function : String) (id : Option String) :
    Http.Response × Server :=
  let answer := (Slot.ofRead? className function id).bind s.fixture.get?
  (respond answer, { s with reads := s.reads ++ [readRecord className function id] })

/-- Is the function one that invokes processes? -/
def isInvocation (className function : String) : Bool :=
  className = "container_process" && (function = "call" || function = "execute")

/-- Serves an invocation. -/
def invoke (s : Server) (className function : String) (id : Option String)
    (headers : Http.Fields) (body : Text.Bytes) : Http.Response × Server :=
  if !isInvocation className function then (Response.blank 404, s)
  else
    match id with
    | none => (Response.blank 400, s)
    | some id =>
      let call : RecordedCall :=
        ⟨function, id, (Json.Value.ofBytes? body).getD .null,
          Http.headerText? Http.contentTypeName headers, Http.headerText? "accept" headers⟩
      (respond (s.fixture.get? (.call id)), { s with calls := s.calls ++ [call] })

/-- The most bytes of a body that is accepted. -/
def maxBody : Nat := 2097152

/-- The refusal of a body. -/
def badBody (code : Nat) (why : String) : Http.Response :=
  Response.plainText code ("Failed to buffer the request body: " ++ why)

/-- The response without its body. -/
def withoutBody (r : Http.Response) : Http.Response := { r with body := some [] }

/-- The response as it is sent. Some statuses have no body, and those of mere progress cannot be
sent. -/
def sendable (r : Http.Response) : Http.Response :=
  if r.status < 200 ∧ r.status ≠ 101 then Response.blank 500
  else if r.status = 101 ∨ r.status = 204 ∨ r.status = 304 then withoutBody r
  else r

/-- Serves a request on a known route. -/
def serveRoute (s : Server) (segments : List Char × List Char) (a : Arrival) :
    Http.Response × Server :=
  if a.method = "GET" ∨ a.method = "HEAD" then
    match addressOf segments a.target.query with
    | .error refusal => (refusal, s)
    | .ok (className, function, id) => s.read className function id
  else if a.method = "PATCH" then
    match addressOf segments a.target.query, a.body with
    | .error refusal, _ => (refusal, s)
    | .ok _, none => (badBody 400 "error reading a body from connection", s)
    | .ok (className, function, id), some body =>
      if maxBody < body.length then (badBody 413 "length limit exceeded", s)
      else s.invoke className function id a.headers body
  else (Response.blank 405, s)

/-- Serves a request. -/
def serve (s : Server) (a : Arrival) : Http.Response × Server :=
  let (r, s) :=
    match segments? a.target.path with
    | none => (Response.blank 404, s)
    | some segments => s.serveRoute segments a
  (if a.method = "HEAD" then withoutBody (sendable r) else sendable r, s)

/-! ## messages -/

/-- The status that a fault is answered with. -/
def faultStatus : Http.Fault → Nat
  | .malformed => 400
  | .headTooLarge => 431
  | .targetTooLong => 414

/-- Serves a request that may be ill-formed. -/
def serveArrival (s : Server) : Except Http.Fault Arrival → Http.Response × Server
  | .ok a => s.serve a
  | .error e => (Response.blank (faultStatus e), s)

/-- The bytes of a hand-written request. The host and the end of the connection come before its
headers, the length of its body after them. -/
def written (host method : String) (target : List Char) (headers : Http.Fields)
    (body : Text.Bytes) : Text.Bytes :=
  let before := [("host", Text.utf8 host), ("connection", Text.utf8 "close")]
  let after := [(Http.lengthName, Text.utf8 (toString body.length))]
  Http.message (Http.requestLine method target) (before ++ (headers ++ after)) body

end Server

/-- A server at a port of the local host, which can be reached or not. -/
structure Site where
  port : Nat
  isUp : Bool
  server : Server

namespace Site

/-- The address of the local host. -/
def localHost : Nat := 0x7F000001

/-- The host and the port, as they are written. -/
def authority (s : Site) : String := "127.0.0.1:" ++ toString s.port

/-- The root of all URLs of the server. -/
def baseUrl (s : Site) : String := "http://" ++ s.authority

/-- Is the URL one of the server? -/
def covers (s : Site) (url : Url) : Bool :=
  url.scheme = "http".toList && url.host = some (.ipv4 localHost) &&
    url.port.or (Url.defaultPort url.scheme) = some s.port

/-- Serves a hand-written request. -/
def serveWritten (s : Site) (method : String) (target : List Char) (headers : Http.Fields)
    (body : Text.Bytes) : Http.Response × Server :=
  s.server.serveArrival (Arrival.ofWire (Server.written s.authority method target headers body))

/-- Exchanges a request with the server. -/
def exchange (s : Site) (r : Http.Request) : Option Http.Outcome × Site :=
  if s.isUp && s.covers r.url then
    let (response, server) := s.server.serveArrival (Arrival.ofWire r.wire)
    (some (.response response), { s with server := server })
  else (some .unreachable, s)

instance : Http.Peer Site where
  exchange := exchange

end Site

end ProcessGraph.Fixture
