import ProcessGraph.Config.Basic
import ProcessGraph.Http.Wire
import ProcessGraph.Remote
import ProcessGraph.Text.Base64

/-!
# Gateways

* `Gateway`: the root of all routes and the default headers, both checked.
* `Gateway.route`: the URL of a function of an entity.
* `Gateway.readRequest`, `Gateway.invocationRequest`: the requests.
* `interpretRead`, `interpretInvocation`: what their outcomes mean.
* `Connection`: a gateway and the peer behind it, as a remote side.
-/

namespace ProcessGraph

/-- What is asked of an entity. -/
inductive Function where
  | profile
  | list
  | call
  | execute
deriving DecidableEq, Repr

/-- The name of a function in a route. -/
def Function.name : Function → String
  | profile => "profile_full"
  | list => "list"
  | call => "call"
  | execute => "execute"

/-- The root of all routes and the headers sent with every request. -/
structure Gateway where
  apiRoot : String
  headers : Http.Headers

namespace Gateway

/-- A text without the slashes at its end. -/
def dropSlashes (text : String) : String := String.ofList (Text.dropTrailing (· = '/') text.toList)

/-- A text as a URL. -/
def parseUrl (text : String) : Except ClientError Url := (Url.parse text).mapError .invalidUrl

/-- The gateway of an endpoint. Its URL is checked first, then the root of the routes, then the
headers. -/
def ofEndpoint (e : Config.Endpoint) : Except ClientError Gateway := do
  let base ← parseUrl e.baseUrl
  let apiRoot := dropSlashes base.text ++ dropSlashes e.apiPrefix
  let _ ← parseUrl apiRoot
  let headers ← Http.Headers.ofPairs e.headers
  return ⟨apiRoot, headers⟩

/-- The name of the pair that holds an identifier. -/
def identifierName : String := "identifier"

/-- The text of a route without its identifier. -/
def routeText (g : Gateway) (kind : Kind) (function : Function) : String :=
  g.apiRoot ++ "/" ++ kind.className ++ "/" ++ function.name

/-- The URL of a function of an entity. -/
def route (g : Gateway) (kind : Kind) (function : Function) (id : Option Identifier) :
    Except Url.Error Url := do
  let url ← Url.parse (g.routeText kind function)
  match id with
  | none => return url
  | some id => return url.appendPair identifierName.toList id.text.toList

/-! ## requests -/

/-- The characters that percent-encoded ones stand for. -/
def decoded? (chars : List Char) : Option (List Char) :=
  Text.Utf8.decode? (Text.Percent.decode (Text.Utf8.encode chars))

/-- The header for the credentials in a URL. There is none for a name that is no text; a password that
is none counts as missing. -/
def credentials? (url : Url) : Option (String × Text.Bytes) := do
  let user ← decoded? url.username
  let password := if url.password.isEmpty then none else decoded? url.password
  if user.isEmpty && password.isNone then none
  else
    let pair := Text.Utf8.encode (user ++ ':' :: password.getD [])
    return ("authorization", Text.utf8 "Basic " ++ Text.utf8 (String.ofList (Text.Base64.encode pair)))

/-- A URL without its credentials. -/
def withoutCredentials (url : Url) : Url := { url with username := [], password := [] }

/-- The value that accepts every type. -/
def anyType : Text.Bytes := Text.utf8 "*/*"

/-- The header for the host of a URL. -/
def hostHeader (url : Url) : String × Text.Bytes :=
  ("host", Text.Utf8.encode (((url.host.map Url.Host.chars).getD []) ++ url.portChars))

/-- A request with headers of its own. They come before the default ones, and all of them before
what is implied. Credentials leave the URL if there is a header for them. -/
def request (g : Gateway) (method : String) (url : Url) (own : Http.Headers) (body : Text.Bytes) :
    Http.Request :=
  let login := credentials? url
  let bare := if login.isSome then withoutCredentials url else url
  { method := method
    url := { bare with fragment := none }
    headers :=
      Http.Headers.withDefaults [("accept", anyType), hostHeader url]
        (Http.Headers.withDefaults g.headers (Http.Headers.withDefaults login.toList own))
    body := body }

/-- The request for a document. -/
def readRequest (g : Gateway) (url : Url) : Http.Request := g.request "GET" url [] []

/-- The request of an invocation. -/
def invocationRequest (g : Gateway) (url : Url) (args : Json.Value) : Http.Request :=
  g.request "PATCH" url
    [("accept", anyType), (Http.contentTypeName, Text.utf8 Http.jsonType)] (Text.utf8 args.compact)

/-! ## outcomes -/

/-- What the outcome of a read means. -/
def interpretRead (target : String) : Http.Outcome → Except ClientError Json.Value
  | .unreachable => .error (.network target)
  | .response r =>
    if r.status ≠ Http.ok then .error (.status target r.status)
    else
      match r.body with
      | none => .error (.network target)
      | some bytes =>
        match Json.Value.ofBytes? bytes with
        | none => .error (.decode target .malformed)
        | some v => .ok v

/-- What the outcome of a read of a list means. -/
def interpretList (target : String) (o : Http.Outcome) : Except ClientError (List Identifier) :=
  (interpretRead target o).bind fun document =>
    (identifiersOfDocument document).mapError fun e => .decode target (.shape e)

/-- Warns of an invocation without a result. Where transport or a parser is to blame, a field `error` would give its
words: it is left out. -/
def warning (id : Identifier) (function : Function) (more : List (String × Log.Field))
    (message : String) : Log.Event :=
  .plain .warn .fetcher message
    ([("identifier", .text id.text), ("function", .text function.name)] ++ more)

/-- Warns of an invocation that has no URL. The field `error` is left out here as well. -/
def noUrlWarning (id : Identifier) : Log.Event :=
  .plain .warn .fetcher "unable to compose invocation url" [("identifier", .text id.text)]

/-- What the outcome of an invocation means: its result, or none and a warning. -/
def interpretInvocation (id : Identifier) (function : Function) :
    Http.Outcome → Option Payload × List Log.Event
  | .unreachable => (none, [warning id function [] "invocation transport failure"])
  | .response r =>
    if r.status ≠ Http.ok then
      (none, [warning id function [("status", .text (Http.statusText r.status))]
        "invocation rejected by server"])
    else
      match r.body with
      | none => (none, [warning id function [] "invocation body could not be read"])
      | some bytes =>
        if r.contentType?.any Http.isJsonType then
          match Json.Value.ofBytes? bytes with
          | some v => (some (.json v), [])
          | none => (none, [warning id function [] "invocation returned malformed json"])
        else (some (.binary r.contentType? bytes), [])

end Gateway

/-- A gateway and the peer behind it. -/
structure Connection (π : Type) where
  gateway : Gateway
  peer : π

namespace Connection

variable {π α : Type} [Http.Peer π]

/-- The time that every exchange takes: more than none, so that requests made together all start
before the first one ends. -/
def exchangeTime : Nat := 1

/-- Exchanges a request, and interprets the outcome. -/
def exchange (c : Connection π) (r : Http.Request) (interpret : Http.Outcome → α × List Log.Event) :
    Option (Answer α) × Connection π :=
  let answer (o : Http.Outcome) : Answer α :=
    let (reply, events) := interpret o
    ⟨exchangeTime, reply, events⟩
  if r.canSend then
    let (outcome, peer) := Http.Peer.exchange c.peer r
    (outcome.map answer, { c with peer := peer })
  else (some (answer .unreachable), c)

/-- Reads from a route. -/
def read (c : Connection π) (kind : Kind) (function : Function) (id : Option Identifier)
    (interpret : String → Http.Outcome → Except ClientError α) :
    Option (Answer (Except ClientError α)) × Connection π :=
  match c.gateway.route kind function id with
  | .error e => (some ⟨0, .error (.invalidUrl e), []⟩, c)
  | .ok url => c.exchange (c.gateway.readRequest url) fun o => (interpret url.text o, [])

/-- Invokes a process. -/
def invoke (c : Connection π) (function : Function) (id : Identifier) (args : Json.Value) :
    Option (Answer (Option Payload)) × Connection π :=
  match c.gateway.route .process function (some id) with
  | .error _ => (some ⟨0, none, [Gateway.noUrlWarning id]⟩, c)
  | .ok url =>
    c.exchange (c.gateway.invocationRequest url args) (Gateway.interpretInvocation id function)

/-- The answer to a request. -/
def answer (c : Connection π) : (r : Request) → Option (Answer r.Reply) × Connection π
  | .fetch kind id => c.read kind .profile id Gateway.interpretRead
  | .list kind => c.read kind .list none Gateway.interpretList
  | .call id args => c.invoke .call id args
  | .execute id => c.invoke .execute id .emptyObject

instance : Remote (Connection π) where
  answer := answer

end Connection

end ProcessGraph
