import ProcessGraph.SystemHandle

/-!
# Looking into entities

* `Inspect.value`: a document value with the name of its kind.
* `Inspect.process`, `Inspect.container`, `Inspect.system`: an entity with all that it holds.
-/

namespace ProcessGraph.Inspect

open Json (Value)

/-! ## brackets -/

/-- A name with one part in parentheses. -/
def wrap (name part : String) : String := name ++ "(" ++ part ++ ")"

/-- A name with fields in braces. -/
def record (name : String) (fields : List (String × String)) : String :=
  name ++ " \x7b " ++ ", ".intercalate (fields.map fun (k, v) => k ++ ": " ++ v) ++ " \x7d"

/-- Parts in brackets. -/
def list (parts : List String) : String := "[" ++ ", ".intercalate parts ++ "]"

/-- Entries in braces. -/
def map (entries : List (String × String)) : String :=
  "\x7b" ++ ", ".intercalate (entries.map fun (k, v) => k ++ ": " ++ v) ++ "\x7d"

/-- A part that may be missing. -/
def option {α : Type} (text : α → String) : Option α → String
  | none => "None"
  | some a => wrap "Some" (text a)

/-! ## values -/

mutual

/-- A document value with the name of its kind. -/
def value : Value → String
  | .null => "Null"
  | .bool true => "Bool(true)"
  | .bool false => "Bool(false)"
  | .number n => wrap "Number" (String.ofList n.chars)
  | .string s => wrap "String" (Text.quoted s)
  | .array vs => "Array " ++ list (items vs)
  | .object ms => "Object " ++ map (members ms)

/-- The items of an array. -/
def items : List Value → List String
  | [] => []
  | v :: rest => value v :: items rest

/-- The members of an object. -/
def members : List (String × Value) → List (String × String)
  | [] => []
  | (k, v) :: rest => (Text.quoted k, value v) :: members rest

end

/-! ## entities -/

/-- An identifier. -/
def identifier (id : Identifier) : String := wrap "Identifier" (Text.quoted id.text)

/-- The profile of a process. -/
def processProfile (p : ProcessProfile) : String :=
  record "ProcessProfile"
    [("type_name", Text.quoted p.typeName), ("extra", map (members p.extra))]

/-- A process. -/
def process (p : ProcessHandle) : String :=
  record "ContainerProcess"
    [("identifier", identifier p.identifier), ("profile", option processProfile p.profile)]

/-- The profile of a container. -/
def containerProfile (p : ContainerProfile) : String :=
  record "ContainerProfile"
    [("type_name", Text.quoted p.typeName), ("processes", list (p.processes.map identifier)),
      ("extra", map (members p.extra))]

/-- A container. -/
def container (c : ContainerHandle) : String :=
  record "Container"
    [("identifier", identifier c.identifier), ("profile", option containerProfile c.profile),
      ("processes", option (fun ps => list (ps.map process)) c.processes)]

/-- The profile of a system. -/
def systemProfile (p : SystemProfile) : String :=
  record "SystemProfile"
    [("containers", map (p.containers.map fun (id, v) => (identifier id, value v))),
      ("document", value p.document)]

/-- A system. -/
def system (s : SystemHandle) : String :=
  record "System"
    [("profile", option systemProfile s.profile),
      ("containers", option (fun cs => list (cs.map container)) s.containers)]

end ProcessGraph.Inspect
