import ProcessGraph.ContainerHandle

/-!
# Systems

* `SystemHandle`: the root handle, its profile and, once enumerated, its containers.
* `SystemHandle.setup`: fetches the profile and forgets the containers.
* `SystemHandle.enumerate`: the containers in profile order, fetched on first use.
* `SystemHandle.find`, `SystemHandle.findAll`: positions of containers by type name.
* `SystemHandle.refresh`: fetches the profile again; enumerated containers that are still listed stay,
  new ones are opened, the others are dropped.
* `SystemHandle.onContainer`: an action on one of the enumerated containers.
-/

namespace ProcessGraph

/-- The root handle to a remote system. -/
structure SystemHandle where
  profile : Option SystemProfile
  containers : Option (List ContainerHandle)

namespace SystemHandle

variable {ρ : Type}

/-- A handle that has not been set up. -/
def new : SystemHandle := ⟨none, none⟩

/-- Has the handle been set up? -/
def isReady (s : SystemHandle) : Bool := s.profile.isSome

/-- The profile, once there is one. -/
def profile? (s : SystemHandle) : Except ClientError SystemProfile :=
  match s.profile with
  | some profile => .ok profile
  | none => .error (.uninitialized "system")

/-- The container identifiers, once there is a profile. -/
def containerIds? (s : SystemHandle) : Except ClientError (List Identifier) :=
  s.profile?.map (·.containerIds)

/-- What is made of the answer to a fetch of the profile. -/
def receive (reply : Except ClientError Json.Value) : Except ClientError SystemProfile :=
  reply.bind fun document =>
    (SystemProfile.ofDocument document).mapError fun e => .decode "system profile" (.shape e)

/-- The number of containers that a profile lists, in words. -/
def declared (count : Nat) : String := toString count ++ " container(s) declared"

/-- The event for the end of a setup or refresh that gives the number of containers. -/
def report (name : String) : Except ClientError Nat → Log.Event
  | .ok count => .lifecycle {} name (declared count) .success
  | .error e => .lifecycle {} name e.message .fault

/-- Fetches the profile and forgets the containers enumerated before. -/
def setup [Remote ρ] : Action ρ SystemHandle ClientError SystemProfile := do
  let reply ← Action.ask (.fetch .system none)
  let result := receive reply
  Action.log (report "system.setup" (result.map fun p => p.containers.length))
  let profile ← Action.ofExcept result
  Action.update fun _ => { profile := some profile, containers := none }
  return profile

/-- The containers in profile order, each set up. A failure of one fails them all, and nothing is
kept. -/
def enumerate [Remote ρ] : Action ρ SystemHandle ClientError (List ContainerHandle) := do
  let s ← Action.read
  match s.containers with
  | some containers => return containers
  | none =>
    let ids ← Action.ofExcept s.containerIds?
    let containers ← Action.fanOut (ids.map ContainerHandle.opening)
    Action.update fun s => { s with containers := some containers }
    return containers

/-- The position of the first container that a query matches, in profile order. -/
def find [Remote ρ] (q : Query) : Action ρ SystemHandle ClientError (Option Nat) :=
  match q.typeName with
  | none => return none
  | some name => do
    let containers ← enumerate
    return containers.findIdx? (ContainerHandle.hasType name)

/-- The positions of all containers with a type name, in profile order. -/
def findAll [Remote ρ] (name : String) : Action ρ SystemHandle ClientError (List Nat) := do
  let containers ← enumerate
  return (List.range containers.length).filter fun i =>
    (containers[i]?.map (ContainerHandle.hasType name)).getD false

/-- The listed identifiers that no enumerated container has. -/
def added (profile : SystemProfile) (cached : List ContainerHandle) : List Identifier :=
  profile.containerIds.filter fun id => !(cached.any fun c => c.identifier = id)

/-- Containers by identifier. -/
def pool (cs : List ContainerHandle) : Keyed Identifier ContainerHandle :=
  Keyed.ofPairs (cs.map fun c => (c.identifier, c))

/-- Takes the container of each identifier out of a pool, in order; identifiers that the pool does
not have are passed over. -/
def drain : List Identifier → Keyed Identifier ContainerHandle → List ContainerHandle
  | [], _ => []
  | id :: rest, pool =>
    match Keyed.find? id pool with
    | some c => c :: drain rest (Keyed.erase id pool)
    | none => drain rest pool

/-- Fetches the profile and, where containers were enumerated, opens the new ones. Nothing is
stored before the last answer. Gives the number of containers listed. -/
def reconcile [Remote ρ] : Action ρ SystemHandle ClientError Nat := do
  let reply ← Action.ask (.fetch .system none)
  let profile ← Action.ofExcept (receive reply)
  let s ← Action.read
  match s.containers with
  | none => Action.update fun s => { s with profile := some profile }
  | some cached =>
    let fresh ← Action.fanOut ((added profile cached).map ContainerHandle.opening)
    Action.update fun _ =>
      { profile := some profile
        containers := some (drain profile.containerIds (pool (cached ++ fresh))) }
  return profile.containers.length

/-- Fetches the profile again. Whatever fails, profile and containers stay as they were. -/
def refresh [Remote ρ] : Action ρ SystemHandle ClientError SystemProfile := do
  let s ← Action.read
  if s.isReady then
    let result ← Action.attempt reconcile
    Action.log (report "system.refresh" result)
    let _ ← Action.ofExcept result
    let s ← Action.read
    Action.ofExcept s.profile?
  else
    Action.fail (.uninitialized "system")

/-- An action on the enumerated container at a position; nothing if there is none. -/
def onContainer {ε α : Type} (i : Nat) (x : Action ρ ContainerHandle ε α) :
    Action ρ SystemHandle ε (Option α) := fun s w =>
  match s.containers with
  | none => (.done none, s, w)
  | some containers =>
    match containers[i]? with
    | none => (.done none, s, w)
    | some c =>
      match x c w with
      | (.done a, c, w) => (.done (some a), { s with containers := some (containers.set i c) }, w)
      | (.failed e, c, w) => (.failed e, { s with containers := some (containers.set i c) }, w)
      | (.waiting, c, w) => (.waiting, { s with containers := some (containers.set i c) }, w)

/-- The identifiers that the server lists for a kind. -/
def listIds [Remote ρ] (kind : Kind) : Action ρ SystemHandle ClientError (List Identifier) := do
  let reply ← Action.ask (.list kind)
  Action.ofExcept reply

end SystemHandle

end ProcessGraph
