import ProcessGraph.FileTree.Error
import ProcessGraph.Url.Parser

/-!
# Configurations

* `Config.defaultBaseUrl` and the like: the defaults of the fields.
* `Config`: the endpoint, the refreshing and the logging of a client. Each section has a default of its own, `{}`, which
  stands for a section that is missing as a whole; `Config.Document` has what stands for a field that is missing.
* `Config.Error`: why there is no configuration; `Config.Error.message` is the wording.
* `Config.validate`: the rules that types do not state.
-/

namespace ProcessGraph

/-- The form of log lines. -/
inductive Config.LogFormat where
  | structuredJson
  | pretty
deriving DecidableEq, Repr

namespace Config

/-- The base URL, if none is given. -/
def defaultBaseUrl : String := "http://localhost:8080"

/-- The prefix of all routes, if none is given. -/
def defaultApiPrefix : String := "/api"

/-- The timeout in milliseconds, if none is given. -/
def defaultTimeout : Nat := 5000

/-- The interval of a refresh loop in milliseconds, if none is given. -/
def defaultInterval : Nat := 100

/-- The form of log lines, if none is given. -/
def defaultFormat : LogFormat := .pretty

end Config

/-- Where the remote system lives and how to talk to it. The timeout is in milliseconds; the headers
are sent with every request. -/
structure Config.Endpoint where
  baseUrl : String := Config.defaultBaseUrl
  apiPrefix : String := Config.defaultApiPrefix
  timeout : Nat := Config.defaultTimeout
  headers : List (String × String) := []
deriving DecidableEq, Repr

/-- The interval of a refresh loop in milliseconds, and possibly a limit on its ticks. -/
structure Config.Poll where
  interval : Nat := Config.defaultInterval
  maxTicks : Option Nat := none
deriving DecidableEq, Repr

/-- Where log files go, if anywhere, and what log lines look like. -/
structure Config.Logging where
  directory : Option String := none
  format : Config.LogFormat := Config.defaultFormat
  filePrefix : Option String := none
deriving DecidableEq, Repr

/-- A configuration. -/
structure Config where
  endpoint : Config.Endpoint := {}
  poll : Config.Poll := {}
  logging : Config.Logging := {}
deriving DecidableEq, Repr

namespace Config

/-- The name of a form of log lines. -/
def LogFormat.name : LogFormat → String
  | structuredJson => "structured-json"
  | pretty => "pretty"

/-- Every form of log lines. -/
def LogFormat.all : List LogFormat := [structuredJson, pretty]

/-- Why there is no configuration. -/
inductive Error where
  | invalidBaseUrl (text : String) (cause : Url.Error)
  | unsupportedScheme (text : String)
  | relativeApiPrefix (text : String)
  | zeroTimeout
  | zeroInterval
  | malformed
  | malformedFile (path : String)
  | unreadableFile (path : String) (cause : FileError)
  | noneFound (candidates : List String)
deriving DecidableEq

/-- The wording of an error. -/
def Error.message : Error → String
  | invalidBaseUrl text _ => "endpoint base_url '" ++ text ++ "' is not a valid url"
  | unsupportedScheme text => "endpoint base_url '" ++ text ++ "' must use http or https"
  | relativeApiPrefix text => "endpoint api_prefix '" ++ text ++ "' must start with '/'"
  | zeroTimeout => "endpoint timeout_ms must be greater than zero"
  | zeroInterval => "poll interval_ms must be greater than zero"
  | malformed => "failed to parse configuration"
  | malformedFile path => "failed to parse config file " ++ path
  | unreadableFile path _ => "unable to read config file " ++ path
  | noneFound candidates =>
    "no configuration files found. inspected: " ++ ", ".intercalate candidates

/-- The wording of what lies behind an error. -/
def Error.cause? : Error → Option String
  | invalidBaseUrl _ cause => some cause.message
  | unreadableFile _ cause => some cause.message
  | _ => none

/-- May an endpoint have a URL of this scheme? -/
def supportsScheme (scheme : List Char) : Bool :=
  scheme = "http".toList || scheme = "https".toList

/-- Checks an endpoint: its URL first, then the route below it, then the timeout. -/
def Endpoint.validate (e : Endpoint) : Except Error Unit :=
  match Url.parse e.baseUrl with
  | .error cause => .error (.invalidBaseUrl e.baseUrl cause)
  | .ok url =>
    if !supportsScheme url.scheme then .error (.unsupportedScheme e.baseUrl)
    else if !e.apiPrefix.isEmpty && !e.apiPrefix.startsWith "/" then
      .error (.relativeApiPrefix e.apiPrefix)
    else if e.timeout = 0 then .error .zeroTimeout
    else .ok ()

/-- Checks the settings of a refresh loop. -/
def Poll.validate (p : Poll) : Except Error Unit :=
  if p.interval = 0 then .error .zeroInterval else .ok ()

end Config

/-- Checks a configuration. -/
def Config.validate (c : Config) : Except Config.Error Unit := do
  c.endpoint.validate
  c.poll.validate

end ProcessGraph
