import ProcessGraph.FanOut

/-!
# Processes

* `ProcessHandle`: a handle to one remote process.
* `ProcessHandle.setup`: fetches the profile; a failure leaves the previous one in place.
* `ProcessHandle.call`, `ProcessHandle.execute`: one invocation, whose result is not kept.
-/

namespace ProcessGraph

/-- A handle to one remote process. -/
structure ProcessHandle where
  identifier : Identifier
  profile : Option ProcessProfile

namespace ProcessHandle

variable {ρ ε : Type}

/-- A handle that has not been set up. -/
def new (id : Identifier) : ProcessHandle := ⟨id, none⟩

/-- Has the handle been set up? -/
def isReady (p : ProcessHandle) : Bool := p.profile.isSome

/-- The profile, once there is one. -/
def profile? (p : ProcessHandle) : Except ClientError ProcessProfile :=
  match p.profile with
  | some profile => .ok profile
  | none => .error (.uninitialized ("container process '" ++ p.identifier.text ++ "'"))

/-- The type name, once there is a profile. -/
def typeName? (p : ProcessHandle) : Except ClientError String := p.profile?.map (·.typeName)

/-- Does the process have a type name? -/
def hasType (name : String) (p : ProcessHandle) : Bool :=
  (p.profile.map fun profile => decide (profile.typeName = name)).getD false

/-- What is made of the answer to a fetch of the profile, with what is logged. -/
def receive (id : Identifier) (reply : Except ClientError Json.Value) :
    List Log.Event × Except ClientError ProcessProfile :=
  match reply with
  | .error e => ([], .error e)
  | .ok document =>
    match ProcessProfile.ofDocument document with
    | .error e =>
      ([], .error (.decode ("container_process profile '" ++ id.text ++ "'") (.shape e)))
    | .ok profile =>
      let context : Log.Context :=
        { process := some profile.typeName, identifier := some id.text }
      ([.note .debug .process context "process profile fetched"], .ok profile)

/-- Fetches the profile, which replaces the previous one. -/
def setup [Remote ρ] : Action ρ ProcessHandle ClientError ProcessProfile := do
  let p ← Action.read
  let reply ← Action.ask (.fetch .process (some p.identifier))
  let (events, result) := receive p.identifier reply
  Action.logAll events
  let profile ← Action.ofExcept result
  Action.update fun p => { p with profile := some profile }
  return profile

/-- A new handle that is set up, as one of several. -/
def opening (id : Identifier) : Branch ProcessHandle where
  kind := .process
  identifier := id
  finish reply :=
    let (events, result) := receive id reply
    (events, result.map fun profile => ⟨id, some profile⟩)

/-- Invokes the process with arguments, or with an empty object. -/
def call [Remote ρ] (args : Option Json.Value) : Action ρ ProcessHandle ε (Option Payload) := do
  let p ← Action.read
  let result ← Action.ask (.call p.identifier (args.getD .emptyObject))
  if result.isNone then
    let name := (p.profile.map (·.typeName)).getD ""
    let context : Log.Context := { process := some name, identifier := some p.identifier.text }
    Action.log (.note .debug .process context "call produced no result")
  return result

/-- Runs the process with the arguments it holds on the server. -/
def execute [Remote ρ] : Action ρ ProcessHandle ε (Option Payload) := do
  let p ← Action.read
  Action.ask (.execute p.identifier)

end ProcessHandle

end ProcessGraph
