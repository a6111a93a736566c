import ProcessGraph.Config.Basic
import ProcessGraph.Json.Shape

/-!
# Configurations as documents

* `Config.Reading`: what a notation leaves open about the shape of documents.
* `Endpoint.fieldDefaults` and the like: what the fields of a record hold that a document does not list.
* `Config.ofDocument`: the configuration of a document: objects member by member, or arrays of the
  fields in declared order. A field that is missing has its own default, what is unknown is passed over.
-/

namespace ProcessGraph.Config

open Json (Value Members ShapeError Expected)

/-- What a notation leaves open about the shape of documents. -/
structure Reading where
  /-- May an array hold more items than there are fields? -/
  surplusItems : Bool
  /-- May an empty array or object stand where there is nothing to say? -/
  emptyUnits : Bool

/-- The strict reading: nothing is left open. -/
def Reading.strict : Reading := ⟨false, false⟩

/-- The reading of configuration files. -/
def Reading.lenient : Reading := ⟨true, true⟩

/-- A field of a record: its name, and how its value is read into the record. -/
abbrev Field (α : Type) := String × (Value → α → Except ShapeError α)

/-- Reads the members of an object into a record, in their order. -/
def readMembers {α : Type} (fields : List (Field α)) : Members → α → Except ShapeError α
  | [], a => .ok a
  | (key, v) :: rest, a =>
    match fields.find? fun f => f.1 = key with
    | some (_, set) =>
      match set v a with
      | .ok a => readMembers fields rest a
      | .error e => .error e
    | none => readMembers fields rest a

/-- Reads the items of an array into the fields of a record, in declared order. -/
def readItems {α : Type} (reading : Reading) (length : Nat) :
    List (Field α) → List Value → α → Except ShapeError α
  | [], items, a =>
    if items.isEmpty || reading.surplusItems then .ok a else .error (.tooLong length)
  | _, [], a => .ok a
  | (_, set) :: fields, v :: items, a =>
    match set v a with
    | .ok a => readItems reading length fields items a
    | .error e => .error e

/-- Reads a record. A field that is not there holds what it does in `unlisted`. -/
def readRecord {α : Type} (reading : Reading) (name : String) (fields : List (Field α))
    (unlisted : α) (v : Value) : Except ShapeError α :=
  match v with
  | .object ms => readMembers fields ms unlisted
  | .array items => readItems reading items.length fields items unlisted
  | v => v.refuse (.record name)

/-! ## parts -/

/-- A path. -/
def readPath (v : Value) : Except ShapeError String :=
  match v with
  | .string s => .ok s
  | v => v.refuse .path

/-- The values of headers. -/
def readHeaderValues : Members → Except ShapeError (List (String × String))
  | [] => .ok []
  | (name, v) :: rest => do
    let value ← v.asString
    return (name, value) :: (← readHeaderValues rest)

/-- Headers: an object of strings. -/
def readHeaders (v : Value) : Except ShapeError (List (String × String)) :=
  match v with
  | .object ms => readHeaderValues ms
  | v => v.refuse .map

/-- Checks a value where there is nothing to say. -/
def readUnit (reading : Reading) (v : Value) : Except ShapeError Unit :=
  match v with
  | .null => .ok ()
  | .array [] => if reading.emptyUnits then .ok () else v.refuse .unit
  | .object [] => if reading.emptyUnits then .ok () else v.refuse .unit
  | v => v.refuse .unit

/-- The form of log lines of a name. -/
def LogFormat.ofName (name : String) : Except ShapeError LogFormat :=
  match LogFormat.all.find? fun f => f.name = name with
  | some f => .ok f
  | none => .error (.unknownVariant name (LogFormat.all.map LogFormat.name))

/-- The form of log lines: a name, or an object with that name as its only key. -/
def LogFormat.ofDocument (reading : Reading) (v : Value) : Except ShapeError LogFormat :=
  match v with
  | .string name => LogFormat.ofName name
  | .object [(name, content)] => do
    let f ← LogFormat.ofName name
    readUnit reading content
    return f
  | .object _ => .error .notOneMember
  | v => v.refuse .stringOrMap

/-! ## records -/

/-- The fields of an endpoint. -/
def Endpoint.fields : List (Field Endpoint) := [
  ("base_url", fun v e => v.asString.map fun s => { e with baseUrl := s }),
  ("api_prefix", fun v e => v.asString.map fun s => { e with apiPrefix := s }),
  ("timeout_ms", fun v e => v.asNatural.map fun n => { e with timeout := n }),
  ("headers", fun v e => (readHeaders v).map fun hs => { e with headers := hs })]

/-- The defaults of the single fields of an endpoint. -/
def Endpoint.fieldDefaults : Endpoint where
  baseUrl := defaultBaseUrl
  apiPrefix := defaultApiPrefix
  timeout := defaultTimeout
  headers := []

/-- The endpoint of a document. -/
def Endpoint.ofDocument (reading : Reading) : Value → Except ShapeError Endpoint :=
  readRecord reading "EndpointConfig" Endpoint.fields Endpoint.fieldDefaults

/-- The fields of the settings of a refresh loop. -/
def Poll.fields : List (Field Poll) := [
  ("interval_ms", fun v p => v.asNatural.map fun n => { p with interval := n }),
  ("max_ticks", fun v p => (v.asOption Value.asNatural).map fun n => { p with maxTicks := n })]

/-- The defaults of the single settings of a refresh loop. -/
def Poll.fieldDefaults : Poll where
  interval := defaultInterval
  maxTicks := none

/-- The settings of a refresh loop of a document. -/
def Poll.ofDocument (reading : Reading) : Value → Except ShapeError Poll :=
  readRecord reading "PollConfig" Poll.fields Poll.fieldDefaults

/-- The fields of the settings of logging. -/
def Logging.fields (reading : Reading) : List (Field Logging) := [
  ("directory", fun v l => (v.asOption readPath).map fun d => { l with directory := d }),
  ("format", fun v l => (LogFormat.ofDocument reading v).map fun f => { l with format := f }),
  ("file_prefix", fun v l =>
    (v.asOption Value.asString).map fun s => { l with filePrefix := s })]

/-- The defaults of the single settings of logging. -/
def Logging.fieldDefaults : Logging where
  directory := none
  format := defaultFormat
  filePrefix := none

/-- The settings of logging of a document. -/
def Logging.ofDocument (reading : Reading) : Value → Except ShapeError Logging :=
  readRecord reading "LoggingConfig" (Logging.fields reading) Logging.fieldDefaults

/-- The sections of a configuration. -/
def sections (reading : Reading) : List (Field Config) := [
  ("endpoint", fun v c => (Endpoint.ofDocument reading v).map fun e => { c with endpoint := e }),
  ("poll", fun v c => (Poll.ofDocument reading v).map fun p => { c with poll := p }),
  ("logging", fun v c => (Logging.ofDocument reading v).map fun l => { c with logging := l })]

/-- The defaults of the sections: of each that is missing, its own default. -/
def fieldDefaults : Config where
  endpoint := {}
  poll := {}
  logging := {}

/-- The configuration of a document. -/
def ofDocument (reading : Reading) : Value → Except ShapeError Config :=
  readRecord reading "ClientConfig" (sections reading) fieldDefaults

end ProcessGraph.Config
