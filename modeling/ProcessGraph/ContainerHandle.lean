import ProcessGraph.ProcessHandle
import ProcessGraph.Query

/-!
# Containers

* `ContainerHandle`: a handle to one remote container and, once enumerated, its processes.
* `ContainerHandle.setup`: fetches the profile and forgets the processes.
* `ContainerHandle.enumerate`: the processes in declared order, fetched on first use.
* `ContainerHandle.find`, `ContainerHandle.findAll`: processes by type name.
-/

namespace ProcessGraph

/-- A handle to one remote container. -/
structure ContainerHandle where
  identifier : Identifier
  profile : Option ContainerProfile
  processes : Option (List ProcessHandle)

namespace ContainerHandle

variable {ρ : Type}

/-- A handle that has not been set up. -/
def new (id : Identifier) : ContainerHandle := ⟨id, none, none⟩

/-- Has the handle been set up? -/
def isReady (c : ContainerHandle) : Bool := c.profile.isSome

/-- The profile, once there is one. -/
def profile? (c : ContainerHandle) : Except ClientError ContainerProfile :=
  match c.profile with
  | some profile => .ok profile
  | none => .error (.uninitialized ("container '" ++ c.identifier.text ++ "'"))

/-- The type name, once there is a profile. -/
def typeName? (c : ContainerHandle) : Except ClientError String := c.profile?.map (·.typeName)

/-- Does the container have a type name? -/
def hasType (name : String) (c : ContainerHandle) : Bool :=
  (c.profile.map fun profile => decide (profile.typeName = name)).getD false

/-- The number of processes that a profile declares, in words. -/
def declared (profile : ContainerProfile) : String :=
  toString profile.processes.length ++ " process(es) declared"

/-- What is made of the answer to a fetch of the profile, with what is logged. -/
def receive (id : Identifier) (reply : Except ClientError Json.Value) :
    List Log.Event × Except ClientError ContainerProfile :=
  let result := reply.bind fun document =>
    (ContainerProfile.ofDocument document).mapError fun e =>
      .decode ("container profile '" ++ id.text ++ "'") (.shape e)
  match result with
  | .ok profile =>
    let context : Log.Context :=
      { container := some profile.typeName, identifier := some id.text }
    ([.lifecycle context "container.setup" (declared profile) .success], .ok profile)
  | .error e =>
    ([.lifecycle { identifier := some id.text } "container.setup" e.message .fault], .error e)

/-- Fetches the profile and forgets the processes enumerated before. -/
def setup [Remote ρ] : Action ρ ContainerHandle ClientError ContainerProfile := do
  let c ← Action.read
  let reply ← Action.ask (.fetch .container (some c.identifier))
  let (events, result) := receive c.identifier reply
  Action.logAll events
  let profile ← Action.ofExcept result
  Action.update fun c => { c with profile := some profile, processes := none }
  return profile

/-- A new handle that is set up, as one of several. -/
def opening (id : Identifier) : Branch ContainerHandle where
  kind := .container
  identifier := id
  finish reply :=
    let (events, result) := receive id reply
    (events, result.map fun profile => ⟨id, some profile, none⟩)

/-- The processes in the order the profile declares them, each set up. A failure of one fails them
all, and nothing is kept. -/
def enumerate [Remote ρ] : Action ρ ContainerHandle ClientError (List ProcessHandle) := do
  let c ← Action.read
  match c.processes with
  | some processes => return processes
  | none =>
    let profile ← Action.ofExcept c.profile?
    let processes ← Action.fanOut (profile.processes.map ProcessHandle.opening)
    Action.update fun c => { c with processes := some processes }
    return processes

/-- The first process that a query matches, in declared order. -/
def find [Remote ρ] (q : Query) : Action ρ ContainerHandle ClientError (Option ProcessHandle) :=
  match q.typeName with
  | none => return none
  | some name => do
    let processes ← enumerate
    return processes.find? (ProcessHandle.hasType name)

/-- Every process with a type name, in declared order. -/
def findAll [Remote ρ] (name : String) : Action ρ ContainerHandle ClientError (List ProcessHandle) := do
  let processes ← enumerate
  return processes.filter (ProcessHandle.hasType name)

end ContainerHandle

end ProcessGraph
