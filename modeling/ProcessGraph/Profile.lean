import ProcessGraph.Identifier
import ProcessGraph.Json.Parser
import ProcessGraph.Json.Shape

/-!
# Profiles

* `SystemProfile`: the container mapping of a system document, beside the document itself.
* `ContainerProfile`, `ProcessProfile`: the type name of an entity, the processes a container
  declares, and all other members as they stand.
* `ofDocument`: a profile read from a document. Members are checked in document order, a missing
  type name after them.
* `toDocument`: the document of a profile.
-/

namespace ProcessGraph

open Json (Value Members ShapeError Expected)

/-! ## systems -/

/-- The root profile. Only the container mapping is interpreted. It names no container twice. -/
structure SystemProfile where
  containers : Keyed Identifier Value
  document : Value
  nodup : (Keyed.keys containers).Nodup

namespace SystemProfile

/-- The container identifiers, in the order the server lists them. -/
def containerIds (p : SystemProfile) : List Identifier := Keyed.keys p.containers

/-- The container mapping of a document, where there is one: its own, or else that of its core
store. -/
def mapping? (document : Value) : Option Value :=
  match document.get? "containers" with
  | some mapping => some mapping
  | none => (document.get? "core_store").bind fun store => store.get? "containers"

/-- The entries of a container mapping. -/
def entries : Option Value → Except ShapeError (List (Identifier × Value))
  | none | some .null => .ok []
  | some (.object ms) => .ok (ms.map fun (key, v) => (⟨key⟩, v))
  | some v => v.refuse .map

/-- The profile of a system document. -/
def ofDocument (document : Value) : Except ShapeError SystemProfile :=
  (entries (mapping? document)).map fun pairs =>
    ⟨Keyed.ofPairs pairs, document, Keyed.nodup_keys_ofPairs pairs⟩

/-- The container mapping as an object. -/
def mapping (p : SystemProfile) : Value :=
  .object (p.containers.map fun (id, v) => (id.text, v))

end SystemProfile

/-! ## containers -/

/-- The profile of a container. -/
structure ContainerProfile where
  typeName : String
  processes : List Identifier
  extra : Members

/-- What the members of a container document have given so far. -/
structure ContainerDraft where
  typeName : Option String
  processes : Option (List Identifier)
  extra : Members

namespace ContainerProfile

/-- Reads the members of a container document from the first to the last. -/
def readMembers : Members → Except ShapeError ContainerDraft
  | [] => .ok ⟨none, none, []⟩
  | (key, v) :: rest =>
    if key = "type_name" then do
      let name ← v.asString
      let draft ← readMembers rest
      return { draft with typeName := some name }
    else if key = "processes" then do
      let ids ← v.asStrings
      let draft ← readMembers rest
      return { draft with processes := some (ids.map Identifier.mk) }
    else do
      let draft ← readMembers rest
      return { draft with extra := (key, v) :: draft.extra }

/-- The profile of a container document. -/
def ofDocument (document : Value) : Except ShapeError ContainerProfile :=
  match document with
  | .object ms => do
    let draft ← readMembers ms
    match draft.typeName with
    | some name => return ⟨name, draft.processes.getD [], draft.extra⟩
    | none => throw (.missingField "type_name")
  | v => v.refuse (.record "ContainerProfile")

/-- The document of a profile. -/
def toDocument (p : ContainerProfile) : Value :=
  .object (("type_name", .string p.typeName) ::
    ("processes", .array (p.processes.map fun id => .string id.text)) :: p.extra)

end ContainerProfile

/-! ## processes -/

/-- The profile of a process. -/
structure ProcessProfile where
  typeName : String
  extra : Members

/-- What the members of a process document have given so far. -/
structure ProcessDraft where
  typeName : Option String
  extra : Members

namespace ProcessProfile

/-- Reads the members of a process document from the first to the last. -/
def readMembers : Members → Except ShapeError ProcessDraft
  | [] => .ok ⟨none, []⟩
  | (key, v) :: rest =>
    if key = "type_name" then do
      let name ← v.asString
      let draft ← readMembers rest
      return { draft with typeName := some name }
    else do
      let draft ← readMembers rest
      return { draft with extra := (key, v) :: draft.extra }

/-- The profile of a process document. -/
def ofDocument (document : Value) : Except ShapeError ProcessProfile :=
  match document with
  | .object ms => do
    let draft ← readMembers ms
    match draft.typeName with
    | some name => return ⟨name, draft.extra⟩
    | none => throw (.missingField "type_name")
  | v => v.refuse (.record "ProcessProfile")

/-- The document of a profile. -/
def toDocument (p : ProcessProfile) : Value :=
  .object (("type_name", .string p.typeName) :: p.extra)

end ProcessProfile

/-- The identifiers of a list document. -/
def identifiersOfDocument (document : Value) : Except ShapeError (List Identifier) :=
  document.asStrings.map fun names => names.map Identifier.mk

end ProcessGraph
