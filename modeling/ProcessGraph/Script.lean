import ProcessGraph.Keyed
import ProcessGraph.Remote

/-!
# A scripted remote side

* `Script`: for each entity the replies it gives one after another, and the time they take. The
  last reply repeats.
* `Script.replace`: a script with some of its entries replaced.
-/

namespace ProcessGraph

/-- What a script answers to a read. -/
inductive Script.Reply where
  | document (value : Json.Value)
  | status (code : Nat)

/-- The replies of each entity, used up from the front; the system has the empty name. Delays are in
milliseconds; without an entry an answer takes no time. -/
structure Script where
  system : Keyed String (List Script.Reply)
  containers : Keyed String (List Script.Reply)
  processes : Keyed String (List Script.Reply)
  lists : Keyed String (List Script.Reply)
  calls : Keyed String (List (Option Payload))
  delays : Keyed String Nat
  callDelays : Keyed String Nat

namespace Script

/-- The script that answers nothing. -/
def empty : Script := ⟨[], [], [], [], [], [], []⟩

/-- The script with the entries of another one in place of its own. -/
def replace (s t : Script) : Script where
  system := Keyed.insertAll t.system s.system
  containers := Keyed.insertAll t.containers s.containers
  processes := Keyed.insertAll t.processes s.processes
  lists := Keyed.insertAll t.lists s.lists
  calls := Keyed.insertAll t.calls s.calls
  delays := Keyed.insertAll t.delays s.delays
  callDelays := Keyed.insertAll t.callDelays s.callDelays

/-- The next of some replies, and those that follow it. -/
def next {α : Type} : List α → Option α × List α
  | [] => (none, [])
  | [a] => (some a, [a])
  | a :: b :: rest => (some a, b :: rest)

/-- The next reply under a name, and the entries that follow it. -/
def nextOf {α : Type} (key : String) (entries : Keyed String (List α)) : Option α × Keyed String (List α) :=
  match Keyed.find? key entries with
  | none => (none, entries)
  | some replies =>
    let (reply, rest) := next replies
    (reply, Keyed.insert key rest entries)

/-- The address that a script gives to a document. -/
def url (kind : Kind) (rest : String) : String := "stub://" ++ kind.className ++ "/" ++ rest

/-- What a reply means to a reader. Without one the document is not found. -/
def read (url : String) : Option Reply → Except ClientError Json.Value
  | none => .error (.status url 404)
  | some (.status code) => .error (.status url code)
  | some (.document v) => .ok v

/-- The next reply for the profile of an entity. -/
def nextProfile (s : Script) (kind : Kind) (key : String) : Option Reply × Script :=
  match kind with
  | .system =>
    let (reply, rest) := nextOf key s.system
    (reply, { s with system := rest })
  | .container =>
    let (reply, rest) := nextOf key s.containers
    (reply, { s with containers := rest })
  | .process =>
    let (reply, rest) := nextOf key s.processes
    (reply, { s with processes := rest })

/-- The next result of an invocation. -/
def invoke (s : Script) (id : Identifier) : Answer (Option Payload) × Script :=
  let (result, rest) := nextOf id.text s.calls
  (⟨(Keyed.find? id.text s.callDelays).getD 0, result.join, []⟩, { s with calls := rest })

/-- The answer to a request. -/
def answer (s : Script) : (r : Request) → Option (Answer r.Reply) × Script
  | .fetch kind id =>
    let key := (id.map Identifier.text).getD ""
    let (reply, s') := s.nextProfile kind key
    (some ⟨(Keyed.find? key s.delays).getD 0, read (url kind key) reply, []⟩, s')
  | .list kind =>
    let (reply, rest) := nextOf kind.className s.lists
    let target := url kind "list"
    let ids := (read target reply).bind fun document =>
      (identifiersOfDocument document).mapError fun e => .decode target (.shape e)
    (some ⟨0, ids, []⟩, { s with lists := rest })
  | .call id _ =>
    let (a, s') := s.invoke id
    (some a, s')
  | .execute id =>
    let (a, s') := s.invoke id
    (some a, s')

instance : Remote Script where
  answer := answer

end Script

end ProcessGraph
