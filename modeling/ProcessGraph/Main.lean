import ProcessGraph.Command.Tool
import ProcessGraph.Http.Replay
import ProcessGraph.Http.Wire
import Std.Async.DNS
import Std.Async.TCP
import Std.Time

/-!
# The program

Reads files and the environment, exchanges messages over the network, and prints. An action is run
against the outcomes known so far; when it waits for one more, the exchange is made and the action is
run again.
-/

namespace ProcessGraph.Main

open Command (Options Stop)

/-! ## the network -/

/-- The addresses of a host. -/
def addressesOf : Url.Host → IO (Array Std.Net.IPAddr)
  | .ipv4 n =>
    let byte (k : Nat) := (n / Nat.pow 256 k).toUInt8
    return #[.v4 (.ofParts (byte 3) (byte 2) (byte 1) (byte 0))]
  | .ipv6 pieces =>
    match pieces.map Nat.toUInt16 with
    | [a, b, c, d, e, f, g, h] => return #[.v6 (.ofParts a b c d e f g h)]
    | _ => return #[]
  | .name cs => (Std.Async.DNS.getAddrInfo (String.ofList cs) "").block

/-- An address with a port. -/
def socketAddress (port : UInt16) : Std.Net.IPAddr → Std.Net.SocketAddress
  | .v4 a => .v4 ⟨a, port⟩
  | .v6 a => .v6 ⟨a, port⟩

/-- All bytes that arrive until the connection is closed. -/
partial def receiveAll (client : Std.Async.TCP.Socket.Client) (seen : ByteArray) :
    Std.Async.Async ByteArray := do
  match ← client.recv? 65536 with
  | some bytes => receiveAll client (seen ++ bytes)
  | none => return seen

/-- Sends bytes to the first address that accepts a connection, and gives all that comes back. -/
def converse (addresses : List Std.Net.SocketAddress) (bytes : ByteArray) :
    Std.Async.Async ByteArray := do
  match addresses with
  | [] => throw (IO.userError "no address")
  | address :: rest =>
    let client ← Std.Async.TCP.Socket.Client.mk
    let connected ← try client.connect address; pure true catch _ => pure false
    if connected then
      client.send bytes
      receiveAll client .empty
    else converse rest bytes

/-- Waits for a task for some milliseconds. -/
partial def waitFor {α : Type} (task : Task (Except IO.Error α)) (deadline : Nat) : IO α := do
  if ← IO.hasFinished task then IO.ofExcept task.get
  else if deadline ≤ (← IO.monoMsNow) then throw (IO.userError "timeout")
  else
    IO.sleep 1
    waitFor task deadline

/-- Exchanges one request. Only plain connections are made. -/
def exchange (timeout : Nat) (r : Http.Request) : IO Http.Outcome := do
  try
    match r.url.host with
    | some host =>
      if r.url.scheme ≠ "http".toList then return .unreachable
      let deadline := (← IO.monoMsNow) + timeout
      let port := (r.url.port.getD 80).toUInt16
      let task ← (show IO ByteArray from do
        let addresses ← addressesOf host
        (converse (addresses.toList.map (socketAddress port)) ⟨r.last.wire.toArray⟩).block).asTask
      let bytes ← waitFor task deadline
      match Http.Response.ofWire? bytes.toList with
      | some response => return .response response
      | none => return .unreachable
    | none => return .unreachable
  catch _ => return .unreachable

/-! ## output -/

/-- Where log lines go: to the error output, if they are wanted there, and to a file. -/
structure LogSink where
  console : Bool
  file : Option IO.FS.Handle

/-- A log line. -/
def logLine (e : Log.Event) : String :=
  let level := match e.level with
    | .debug => "DEBUG"
    | .info => "INFO"
    | .warn => "WARN"
    | .error => "ERROR"
  let field : String × Log.Field → String
    | (name, .text value) => name ++ "=" ++ Text.quoted value
    | (name, .number n) => name ++ "=" ++ toString n
  level ++ " " ++ " ".intercalate (e.fields.map field)

/-- Writes a log line, unless it is only of use to developers. -/
def LogSink.write (sink : LogSink) (e : Log.Event) : IO Unit := do
  if e.level ≠ .debug then
    if sink.console then IO.eprintln (logLine e)
    if let some file := sink.file then file.putStrLn (logLine e)

/-- Shows what has happened. -/
def display (sink : LogSink) (h : Happening) : IO Unit :=
  match h with
  | .line text => IO.println text
  | .event e => sink.write e
  | .request _ => return ()

/-! ## actions -/

/-- What actions run in. -/
structure Session where
  gateway : Gateway
  timeout : Nat
  sink : LogSink

/-- Runs an action to its end, making the exchanges it waits for. Of what has happened, `shown` parts
have been shown already. -/
partial def Session.perform {σ ε α : Type} (session : Session)
    (x : Action (Connection Http.Replay) σ ε α) (s : σ) (outcomes : List Http.Outcome)
    (shown : Nat) : IO (Except ε α × σ) := do
  let world : World (Connection Http.Replay) :=
    .start ⟨session.gateway, ⟨outcomes, []⟩⟩
  let (outcome, s', w) := x s world
  for h in w.history.drop shown do
    display session.sink h
  match outcome, w.remote.peer.waiting with
  | .done a, _ => return (.ok a, s')
  | .failed e, _ => return (.error e, s')
  | .waiting, [] => throw (IO.userError "nothing to wait for")
  | .waiting, r :: _ =>
    let o ← exchange session.timeout r
    session.perform x s (outcomes ++ [o]) w.history.length

/-- Waits until a moment of the clock. -/
def sleepUntil (moment : Nat) : IO Unit := do
  let now ← IO.monoMsNow
  if now < moment then IO.sleep (moment - now).toUInt32

/-- Runs the ticks of a watch until the loop ends. -/
partial def Session.watchOn (session : Session) (watch : Command.Watch)
    (arguments : Option Json.Value) (plan : RefreshLoop) (s : SystemHandle × Command.Watcher)
    (due : Nat) (report : LoopReport) : IO LoopReport := do
  match plan.turn none report.ticks due (← IO.monoMsNow) with
  | .limit | .shutdown _ => return report
  | .tick moment =>
    sleepUntil moment
    let taken ← IO.monoMsNow
    let tick : Action (Connection Http.Replay) (SystemHandle × Command.Watcher) Empty Bool :=
      RefreshLoop.tick (watch.onTick arguments) report.ticks
    let (result, s) ← session.perform tick s [] 0
    let failed := result.toOption.getD false
    session.watchOn watch arguments plan s (Ticker.next plan.interval due taken)
      ⟨report.ticks + 1, report.failedRefreshes + (if failed then 1 else 0)⟩

/-- Watches a process. -/
def Session.watch (session : Session) (poll : Config.Poll) (watch : Command.Watch) :
    IO (Except Command.Error Unit) := do
  match Command.parseArguments watch.arguments with
  | .error e => return .error e
  | .ok arguments =>
    match ← session.perform (Command.onSystem SystemHandle.setup) .new [] 0 with
    | (.error e, _) => return .error e
    | (.ok _, system) =>
      let plan := watch.plan poll
      session.sink.write plan.startedEvent
      let report ← session.watchOn watch arguments plan (system, .start) (← IO.monoMsNow) ⟨0, 0⟩
      session.sink.write (RefreshLoop.stoppedEvent report)
      session.sink.write (Command.finishedEvent report)
      return .ok ()

/-- Does what a command line asks for. -/
def Session.run (session : Session) (poll : Config.Poll) :
    Command.Task → IO (Except Command.Error Unit)
  | .watch w => session.watch poll w
  | task => return (← session.perform (task.action poll) .new [] 0).1

/-! ## files -/

/-- A failed operation. -/
def fileError : IO.Error → FileError
  | .noFileOrDirectory .. => .notFound
  | .alreadyExists .. => .alreadyThere
  | .inappropriateType _ code _ =>
    if code = 20 then .notADirectory else if code = 21 then .isADirectory else .other "Invalid type"
  | e => .other (toString e)

/-- The bytes of a file. -/
def readFile (path : String) : IO (Except FileError Text.Bytes) := do
  try return .ok (← IO.FS.readBinFile path).toList
  catch e => return .error (fileError e)

/-- What there is to see of the files at some paths. -/
def viewOf (paths : List String) : IO FileView := do
  let contents ← paths.mapM fun path => return (path, ← readFile path)
  let find (path : String) := Keyed.find? path contents
  return {
    has := fun path =>
      match find path with
      | some (.ok _) | some (.error .isADirectory) => true
      | _ => false
    read := fun path => (find path).getD (.error .notFound) }

/-- The date of today in universal time. -/
def today : IO String := do
  let date := Std.Time.DateTime.ofTimestampWithZone (← Std.Time.Timestamp.now) .GMT
  return date.format "uuuu-MM-dd"

/-- Opens a log file. None, if it cannot be opened. -/
def openHandle (path : String) : IO (Option IO.FS.Handle) := do
  try return some (← IO.FS.Handle.mk path .append)
  catch _ => return none

/-- Opens a log file, after its directory has been made if need be. None, if it cannot be opened. -/
def openLogFile (path : String) : IO (Option IO.FS.Handle) := do
  match ← openHandle path, FileSystem.above path with
  | some handle, _ => return some handle
  | none, directory :: _ =>
    try IO.FS.createDirAll directory catch _ => pure ()
    openHandle path
  | none, [] => return none

/-- Begins logging. None, if the log file cannot be opened. -/
def openSink (logging : Config.Logging) : IO (Option LogSink) := do
  let console := (← IO.getEnv "RPG_LOG") ≠ some "off"
  match Command.logFile? logging (← today) with
  | none => return some ⟨console, none⟩
  | some (directory, name) =>
    unless directory.isEmpty do
      IO.FS.createDirAll directory
    return (← openLogFile (FileSystem.join directory name)).map fun handle => ⟨console, some handle⟩

/-! ## the program -/

/-- Ends with an error. -/
def fail (message : String) : IO UInt32 := do
  IO.eprintln ("Error: " ++ message)
  return 1

/-- Ends without having done anything. -/
def stopFor : Stop → IO UInt32
  | .usage => do
    IO.eprint Command.helpText
    return 2
  | .help => do
    IO.print Command.helpText
    return 0
  | .version => do
    IO.print Command.versionText
    return 0

/-- Runs the tool. -/
def run (words : List String) : IO UInt32 := do
  match Options.parse (← IO.getEnv "RPG_BASE_URL") words with
  | .error stop => stopFor stop
  | .ok options =>
    let configPath ← IO.getEnv "RPG_CONFIG"
    let files ← viewOf (Command.configCandidates ++ configPath.toList ++ options.config.toList)
    match Command.loadConfig files configPath options.config options.baseUrl with
    | .error e => fail e.message
    | .ok config =>
      let sink ← try (openSink config.logging).map .ok
        catch e => pure (.error (fileError e) : Except FileError (Option LogSink))
      match sink, Gateway.ofEndpoint config.endpoint with
      | .error e, _ => fail e.message
      | .ok none, _ => return Command.abortCode.toUInt32
      | _, .error e => fail e.message
      | .ok (some sink), .ok gateway =>
        match ← Session.run ⟨gateway, config.endpoint.timeout, sink⟩ config.poll options.task with
        | .ok () => return 0
        | .error e => fail e.message

end ProcessGraph.Main

/-- The entry of the program. -/
def main (words : List String) : IO UInt32 := ProcessGraph.Main.run words
