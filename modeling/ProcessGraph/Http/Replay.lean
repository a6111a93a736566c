import ProcessGraph.Http.Message

/-!
# Replaying exchanges

* `Replay`: a peer that gives the outcomes it is told, one for each request, and asks for the next
  one when it has no more.
-/

namespace ProcessGraph.Http

/-- The outcomes still to be given, and the requests that wait for one. -/
structure Replay where
  outcomes : List Outcome
  waiting : List Request

namespace Replay

/-- Gives the next outcome, or lets the request wait. -/
def exchange (p : Replay) (r : Request) : Option Outcome × Replay :=
  match p.outcomes with
  | o :: rest => (some o, { p with outcomes := rest })
  | [] => (none, { p with waiting := p.waiting ++ [r] })

instance : Peer Replay where
  exchange := exchange

end Replay

end ProcessGraph.Http
