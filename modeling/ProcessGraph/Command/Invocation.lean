import ProcessGraph.Command.Basic

/-!
# Invoking a process

* `parseArguments`: the arguments of an invocation, which must be an object.
* `resolve`: the first process of a type in the first container of a type.
* `render`: the text of a result.
* `Command.call`: invokes a process once and prints the result.
-/

namespace ProcessGraph.Command

variable {ρ : Type}

/-- The arguments that a text gives. -/
def parseArguments : Option String → Except Error (Option Json.Value)
  | none => .ok none
  | some text =>
    match Json.Value.parse? text with
    | none => .error (.malformedArguments text)
    | some v => if v.isObject then .ok (some v) else .error .argumentsNoObject

/-- The first process of a type in the first container of a type. -/
def resolve [Remote ρ] (container process : String) : Action ρ SystemHandle Error ProcessHandle := do
  match ← onSystem (SystemHandle.find (.byType container)) with
  | none => Action.fail (.noContainer container)
  | some i =>
    match ← onContainer (.noContainer container) i (ContainerHandle.find (.byType process)) with
    | some p => return p
    | none => Action.fail (.noProcess container process)

/-- The text of a result. -/
def render : Option Payload → String
  | some (.json v) => v.pretty
  | some (.binary contentType bytes) =>
    "<binary: " ++ toString bytes.length ++ " bytes, " ++
      contentType.getD "unknown content type" ++ ">"
  | none => "no result"

/-- What is invoked, and how. -/
structure Call where
  container : String
  process : String
  arguments : Option String
  execute : Bool
deriving DecidableEq, Repr

/-- Invokes a process once and prints the result. The arguments are checked before anything is
asked of the server. -/
def call [Remote ρ] (c : Call) : Action ρ SystemHandle Error Unit := do
  let arguments ← Action.ofExcept (parseArguments c.arguments)
  let _ ← onSystem SystemHandle.setup
  let process ← resolve c.container c.process
  let result ←
    if c.execute then Action.apart process ProcessHandle.execute
    else Action.apart process (ProcessHandle.call arguments)
  Action.printLine (render result)

end ProcessGraph.Command
