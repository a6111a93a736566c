import ProcessGraph.Command.Line
import ProcessGraph.Config.Discovery
import ProcessGraph.Gateway

/-!
# The command line tool

* `Surroundings`: what the tool finds around it.
* `loadConfig`: the configuration for a command line.
* `logFile?`: where log lines go.
* `Task.action`: what a task does to a system.
* `Report`: what can be seen of a run from outside; `run` is the tool as a whole.
-/

namespace ProcessGraph.Command

/-- The name of the tool. -/
def toolName : String := "rpgctl"

/-- The version of the tool. -/
def toolVersion : String := "0.1.0"

/-- The files that are looked for when no configuration is named. -/
def configCandidates : List String := ["rpg.toml", "configs/rpg.toml"]

/-- What the tool finds around it: the files, and from the environment the path of a configuration
and a base URL. -/
structure Surroundings where
  files : FileSystem
  configPath : Option String
  baseUrl : Option String

/-- The configuration for a command line: the file that it names, or else the one that is found, or
else the default one. A base URL given beside it replaces the configured one, and everything is
checked again. -/
def loadConfig (files : FileView) (configPath explicit baseUrl : Option String) :
    Except Config.Error Config := do
  let config ← match explicit with
    | some path => Config.load files path
    | none => (Config.loadOrDefault files configPath configCandidates).map Config.Found.config
  match baseUrl with
  | none => return config
  | some url =>
    let config := { config with endpoint := { config.endpoint with baseUrl := url } }
    config.validate
    return config

/-- The directory and the name of the log file of a day. -/
def logFile? (logging : Config.Logging) (date : String) : Option (String × String) :=
  logging.directory.map fun directory =>
    (directory, logging.filePrefix.getD toolName ++ ".log." ++ date)

/-- How logging begins. -/
inductive LogStart where
  | begun
  | refused (cause : FileError)
  | aborted
deriving DecidableEq, Repr

/-- The files once logging has begun, or has failed to. A log directory that cannot be made is
refused; a file in it that cannot be opened aborts the run. -/
def openLog (files : FileSystem) (logging : Config.Logging) (date : String) :
    FileSystem × LogStart :=
  match logFile? logging date with
  | none => (files, .begun)
  | some (directory, name) =>
    match files.makeDirectories directory with
    | (files, .error e) => (files, .refused e)
    | (files, .ok ()) =>
      match files.openFile (FileSystem.join directory name) with
      | (files, .error _) => (files, .aborted)
      | (files, .ok ()) => (files, .begun)

/-- What a task does to a system. -/
def Task.action {ρ : Type} [Remote ρ] (poll : Config.Poll) :
    Task → Action ρ SystemHandle Error Unit
  | containers => Command.containers
  | processes container => Command.processes container
  | list target => Command.list target
  | call c => Command.call c
  | watch w => Command.watch poll w

/-- The help text. -/
def helpText : String :=
  "Remote process graph control utility\n\n" ++
  "Usage: rpgctl [--config FILE] [--base-url URL] COMMAND\n\n" ++
  "Commands:\n" ++
  "  containers\n" ++
  "  processes --container TYPE\n" ++
  "  list containers|processes\n" ++
  "  call --container TYPE --process TYPE [--args JSON | --execute]\n" ++
  "  watch --container TYPE --process TYPE [--args JSON] [--interval-ms MS] [--ticks N]\n"

/-- The text for the version. -/
def versionText : String := toolName ++ " " ++ toolVersion ++ "\n"

/-- What can be seen of a run from outside. There is an error if the exit code is 1. -/
structure Report (π : Type) where
  code : Nat
  output : String
  error : Option String
  files : FileSystem
  peer : π

/-- The exit code of a run that is aborted. -/
def abortCode : Nat := 101

/-- The lines of an output. -/
def outputOf (lines : List String) : String := String.join (lines.map fun line => line ++ "\n")

/-- The report on a command line that leaves nothing to be done. -/
def Stop.report {π : Type} (stop : Stop) (files : FileSystem) (peer : π) : Report π :=
  match stop with
  | usage => ⟨2, "", none, files, peer⟩
  | help => ⟨0, helpText, none, files, peer⟩
  | version => ⟨0, versionText, none, files, peer⟩

/-- Runs a task against the peer behind a gateway. None, if it never ends. -/
def runTask {π : Type} [Http.Peer π] (files : FileSystem) (gateway : Gateway) (poll : Config.Poll)
    (task : Task) (peer : π) : Option (Report π) :=
  match task.action poll SystemHandle.new (World.start (⟨gateway, peer⟩ : Connection π)) with
  | (.done (), _, w) => some ⟨0, outputOf w.lines, none, files, w.remote.peer⟩
  | (.failed e, _, w) => some ⟨1, outputOf w.lines, some e.message, files, w.remote.peer⟩
  | (.waiting, _, _) => none

/-- Runs the tool on a day. None, if it never ends. -/
def run {π : Type} [Http.Peer π] (around : Surroundings) (date : String) (words : List String)
    (peer : π) : Option (Report π) :=
  let failure (message : String) (files : FileSystem) : Option (Report π) :=
    some ⟨1, "", some message, files, peer⟩
  match Options.parse around.baseUrl words with
  | .error stop => some (stop.report around.files peer)
  | .ok options =>
    match loadConfig around.files.view around.configPath options.config options.baseUrl with
    | .error e => failure e.message around.files
    | .ok config =>
      match openLog around.files config.logging date with
      | (files, .refused e) => failure e.message files
      | (files, .aborted) => some ⟨abortCode, "", none, files, peer⟩
      | (files, .begun) =>
        match Gateway.ofEndpoint config.endpoint with
        | .error e => failure e.message files
        | .ok gateway => runTask files gateway config.poll options.task peer

end ProcessGraph.Command
