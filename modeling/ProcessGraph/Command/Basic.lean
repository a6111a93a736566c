import ProcessGraph.SystemHandle

/-!
# Commands

* `Command.Error`: why a command failed; `Command.Error.message` is the wording.
* `Command.onSystem`, `Command.onContainer`: actions on entities as parts of a command.
-/

namespace ProcessGraph.Command

/-- Why a command failed. -/
inductive Error where
  | client (cause : ClientError)
  | malformedArguments (text : String)
  | argumentsNoObject
  | noContainer (typeName : String)
  | noProcess (container process : String)
deriving DecidableEq

namespace Error

/-- The wording of a failure. -/
def message : Error → String
  | client cause => cause.message
  | malformedArguments text => "--args is not valid JSON: " ++ text
  | argumentsNoObject => "--args must be a JSON object"
  | noContainer name => "no container with type name '" ++ name ++ "'"
  | noProcess container process =>
    "container '" ++ container ++ "' has no process with type name '" ++ process ++ "'"

/-- The wording of a failure followed by that of its cause. -/
def messageWithCause : Error → String
  | client cause => cause.messageWithCause
  | e => e.message

end Error

variable {ρ α : Type}

/-- An action on the system as part of a command. -/
def onSystem (x : Action ρ SystemHandle ClientError α) : Action ρ SystemHandle Error α :=
  Action.mapError .client x

/-- An action on one of the enumerated containers as part of a command; `missing` is the error where
there is none. -/
def onContainer (missing : Error) (i : Nat) (x : Action ρ ContainerHandle ClientError α) :
    Action ρ SystemHandle Error α := do
  match ← onSystem (SystemHandle.onContainer i x) with
  | some a => return a
  | none => Action.fail missing

end ProcessGraph.Command
