import ProcessGraph.Http.Wire

/-!
# A scripted peer

* `ScriptedReply`: what the peer does with a request, and `ScriptedReply.wire`, the bytes it sends.
* `ScriptedPeer`: answers every request with one reply, and remembers the requests.
-/

namespace ProcessGraph.Http

/-- What a scripted peer does with a request. A reply may declare a length that its body does not
have. -/
inductive ScriptedReply where
  | respond (status : Nat) (headers : Fields) (body : Text.Bytes) (length : Option Nat)
  | hangUp

namespace ScriptedReply

/-- The reply of a peer that knows nothing. -/
def notFound : ScriptedReply := respond 404 [] [] none

/-- The bytes of a reply, after which the connection is closed. -/
def wire : ScriptedReply → Text.Bytes
  | hangUp => []
  | respond status headers body length =>
    message ("HTTP/1.1 " ++ statusText status)
      (headers ++ [(lengthName, Text.utf8 (toString (length.getD body.length))),
        ("connection", Text.utf8 "close")]) body

/-- The outcome of an exchange that a reply ends. -/
def outcome (r : ScriptedReply) : Outcome :=
  match Response.ofWire? r.wire with
  | some response => .response response
  | none => .unreachable

end ScriptedReply

/-- A peer that can be reached or not, its reply, and the requests that it has seen. -/
structure ScriptedPeer where
  isUp : Bool
  reply : ScriptedReply
  seen : List Request

namespace ScriptedPeer

/-- Is the URL one that the peer stands behind? Its port 1 on the local host is closed. -/
def covers (url : Url) : Bool :=
  url.scheme = "http".toList &&
    !(url.host = some (.ipv4 0x7F000001) && url.port = some 1)

/-- The number that a value spells, with or without a plus sign. -/
def signedNumber? : Text.Bytes → Option Nat
  | 0x2B :: digits => number? digits
  | digits => number? digits

/-- A request as the peer sees it: its body is as long as the request declares. One that ends before
cannot be seen, nor can one whose length is no number. -/
def seen? (r : Request) : Option Request :=
  let r := r.framed
  match headerValue? lengthName r.headers with
  | none => some { r with body := [] }
  | some value =>
    match signedNumber? value with
    | none => none
    | some n => if n ≤ r.body.length then some { r with body := r.body.take n } else none

/-- Exchanges a request for the reply. -/
def exchange (p : ScriptedPeer) (r : Request) : Option Outcome × ScriptedPeer :=
  if p.isUp && covers r.url then
    match seen? r with
    | some r => (some p.reply.outcome, { p with seen := p.seen ++ [r] })
    | none => (some .unreachable, p)
  else (some .unreachable, p)

instance : Peer ScriptedPeer where
  exchange := exchange

end ScriptedPeer

end ProcessGraph.Http
