/-!
# Log events

* `Log.Context`: the entity an event is about.
* `Log.Event`: a level, the part of the library that speaks, and named fields.
* `Event.note`: a message about an entity; `Event.lifecycle`: the outcome of a setup or refresh.
-/

namespace ProcessGraph.Log

/-- How grave an event is. -/
inductive Level where
  | debug
  | info
  | warn
  | error
deriving DecidableEq, Repr

/-- The part of the library that speaks. -/
inductive Origin where
  | lifecycle
  | fetcher
  | process
  | refreshLoop
  | watch
deriving DecidableEq, Repr

/-- The value of a field. -/
inductive Field where
  | text (value : String)
  | number (value : Nat)
deriving DecidableEq, Repr

/-- A log event. -/
structure Event where
  level : Level
  origin : Origin
  fields : List (String × Field)
deriving DecidableEq, Repr

/-- The entity that an event is about. -/
structure Context where
  container : Option String := none
  process : Option String := none
  identifier : Option String := none
  tick : Option Nat := none
deriving DecidableEq, Repr

/-- The fields of a context; what is not given is empty. -/
def Context.fields (c : Context) : List (String × Field) :=
  [("container", .text (c.container.getD "")), ("process", .text (c.process.getD "")),
    ("identifier", .text (c.identifier.getD "")), ("tick", .number (c.tick.getD 0))]

/-- How a setup or refresh ended. -/
inductive Outcome where
  | success
  | fault
deriving DecidableEq, Repr

/-- The name of an outcome. -/
def Outcome.name : Outcome → String
  | success => "success"
  | fault => "fault"

namespace Event

/-- An event with a message and fields of its own. -/
def plain (level : Level) (origin : Origin) (message : String) (fields : List (String × Field)) :
    Event :=
  ⟨level, origin, fields ++ [("message", .text message)]⟩

/-- A message about an entity. -/
def note (level : Level) (origin : Origin) (context : Context) (message : String) : Event :=
  plain level origin message context.fields

/-- The outcome of a setup or refresh. A fault is a mere warning, since the caller is told of the
failure as well. -/
def lifecycle (context : Context) (name message : String) (outcome : Outcome) : Event :=
  let level := match outcome with
    | .success => .info
    | .fault => .warn
  plain level .lifecycle message
    (("event", .text name) :: ("outcome", .text outcome.name) :: context.fields)

end Event

end ProcessGraph.Log
