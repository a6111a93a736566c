import ProcessGraph.Command.Basic

/-!
# Listing what is there

* `Command.containers`: one line for each container.
* `Command.processes`: one line for each process of the first container of a type.
* `Command.list`: the identifiers that the server lists.
-/

namespace ProcessGraph.Command

variable {ρ : Type}

/-- Texts with tabs between them. -/
def tabbed (texts : List String) : String := "\t".intercalate texts

/-- The line of a container: its identifier, its type name and the number of its processes. -/
def containerLine (id : Identifier) (typeName : String) (processes : List ProcessHandle) : String :=
  tabbed [id.text, typeName, toString processes.length]

/-- Enumerates the processes of a container and prints its line. -/
def printContainer [Remote ρ] : Action ρ ContainerHandle ClientError Unit := do
  let c ← Action.read
  let name ← Action.ofExcept c.typeName?
  let processes ← ContainerHandle.enumerate
  Action.printLine (containerLine c.identifier name processes)

/-- Prints the lines of the containers at some positions. -/
def printContainers [Remote ρ] : List Nat → Action ρ SystemHandle ClientError Unit
  | [] => return ()
  | i :: rest => do
    let _ ← SystemHandle.onContainer i printContainer
    printContainers rest

/-- Prints one line for each container, in profile order, as soon as its processes have been
read. -/
def containers [Remote ρ] : Action ρ SystemHandle Error Unit :=
  onSystem do
    let _ ← SystemHandle.setup
    let containers ← SystemHandle.enumerate
    printContainers (List.range containers.length)

/-- Prints the identifiers and type names of processes. -/
def printProcesses : List ProcessHandle → Action ρ SystemHandle ClientError Unit
  | [] => return ()
  | p :: rest => do
    let name ← Action.ofExcept p.typeName?
    Action.printLine (tabbed [p.identifier.text, name])
    printProcesses rest

/-- Prints one line for each process of the first container of a type. -/
def processes [Remote ρ] (container : String) : Action ρ SystemHandle Error Unit := do
  let _ ← onSystem SystemHandle.setup
  match ← onSystem (SystemHandle.find (.byType container)) with
  | none => Action.fail (.noContainer container)
  | some i =>
    let processes ← onContainer (.noContainer container) i ContainerHandle.enumerate
    onSystem (printProcesses processes)

/-- What the server can list. -/
inductive ListTarget where
  | containers
  | processes
deriving DecidableEq, Repr

/-- The kind of entity that is listed. -/
def ListTarget.kind : ListTarget → Kind
  | containers => .container
  | processes => .process

/-- Prints identifiers. -/
def printIdentifiers : List Identifier → Action ρ SystemHandle ClientError Unit
  | [] => return ()
  | id :: rest => do
    Action.printLine id.text
    printIdentifiers rest

/-- Prints the identifiers that the server lists. -/
def list [Remote ρ] (target : ListTarget) : Action ρ SystemHandle Error Unit :=
  onSystem do
    let ids ← SystemHandle.listIds target.kind
    printIdentifiers ids

end ProcessGraph.Command
