import ProcessGraph.Http.Message

/-!
# Fixtures

* `Fixture.Slot`: what an answer can be kept for.
* `Fixture.Response`: an answer as it is kept.
* `Fixture`: the answer kept last for each slot, in one table for each kind of slot.
* `Fixture.Response.toHttp`: the response that is made of an answer.

`Fixture.get?_set`: an answer that is kept for a slot is found there, and nowhere else.
-/

namespace ProcessGraph

/-- What an answer can be kept for. Both ways to invoke a process share one slot. -/
inductive Fixture.Slot where
  | system
  | container (id : String)
  | process (id : String)
  | list (className : String)
  | call (id : String)
deriving DecidableEq, Repr

/-- An answer as it is kept: a document, a body of some type, an empty body with a status, or all of
these chosen freely. -/
inductive Fixture.Response where
  | json (value : Json.Value)
  | binary (contentType : String) (body : Text.Bytes)
  | status (code : Nat)
  | raw (code : Nat) (contentType : String) (body : Text.Bytes)

/-- The answer kept last for each slot. -/
structure Fixture where
  system : Option Fixture.Response
  containers : Keyed String Fixture.Response
  processes : Keyed String Fixture.Response
  lists : Keyed String Fixture.Response
  calls : Keyed String Fixture.Response

namespace Fixture

/-- The fixture that keeps nothing. -/
def empty : Fixture := ⟨none, [], [], [], []⟩

/-- The answer kept for a slot. -/
def get? (f : Fixture) : Slot → Option Response
  | .system => f.system
  | .container id => Keyed.find? id f.containers
  | .process id => Keyed.find? id f.processes
  | .list className => Keyed.find? className f.lists
  | .call id => Keyed.find? id f.calls

/-- Keeps an answer for a slot. -/
def set (f : Fixture) (slot : Slot) (r : Response) : Fixture :=
  match slot with
  | .system => { f with system := some r }
  | .container id => { f with containers := Keyed.insert id r f.containers }
  | .process id => { f with processes := Keyed.insert id r f.processes }
  | .list className => { f with lists := Keyed.insert className r f.lists }
  | .call id => { f with calls := Keyed.insert id r f.calls }

/-- Keeps answers one after another. -/
def ofPairs (answers : List (Slot × Response)) : Fixture :=
  answers.foldl (fun f (slot, r) => f.set slot r) empty

theorem get?_empty (slot : Slot) : empty.get? slot = none := by
  cases slot <;> rfl

theorem get?_set (f : Fixture) (slot slot' : Slot) (r : Response) :
    (f.set slot r).get? slot' = if slot = slot' then some r else f.get? slot' := by
  cases slot <;> cases slot' <;> simp [set, get?, Keyed.find?_insert]

/-- The slot that a read designates. -/
def Slot.ofRead? (className function : String) (id : Option String) : Option Slot :=
  if function = "profile_full" then
    if className = "system" then some system
    else if className = "container" then id.map container
    else if className = "container_process" then id.map process
    else none
  else if function = "list" then some (list className)
  else none

namespace Response

/-- The answer that claims to be a document and is none. -/
def malformed : Response := raw 200 Http.jsonType (Text.utf8 "\x7bnot json")

/-- A response with a body of a type. -/
def typed (code : Nat) (contentType body : Text.Bytes) : Http.Response :=
  ⟨code, [(Http.contentTypeName, contentType)], some body⟩

/-- A response with an empty body. -/
def blank (code : Nat) : Http.Response := ⟨code, [], some []⟩

/-- A response with a text. -/
def plainText (code : Nat) (text : String) : Http.Response :=
  typed code (Text.utf8 "text/plain; charset=utf-8") (Text.utf8 text)

/-- A status that a response can have; any other is an error of the server. -/
def statusOf (code : Nat) : Nat := if 100 ≤ code ∧ code < 1000 then code else 500

/-- A response with a body of a type that may be ill-formed. -/
def checkedType (code : Nat) (contentType : String) (body : Text.Bytes) : Http.Response :=
  if Http.isValue (Text.utf8 contentType) then typed code (Text.utf8 contentType) body
  else plainText 500 Http.invalidValue

/-- The response that is made of an answer. -/
def toHttp : Response → Http.Response
  | json v => typed 200 (Text.utf8 Http.jsonType) (Text.utf8 v.compact)
  | binary contentType body => checkedType 200 contentType body
  | status code => blank (statusOf code)
  | raw code contentType body => checkedType (statusOf code) contentType body

end Response

end Fixture

end ProcessGraph
