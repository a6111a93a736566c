import ProcessGraph.Config.Document
import ProcessGraph.FileTree.Basic
import ProcessGraph.Text.Blank
import ProcessGraph.Toml.Parser

/-!
# Finding a configuration

* `FileView`: what a client sees of the files around it.
* `Config.parse`: the configuration of a text; `Config.load`: that of a file.
* `Config.choose`: the path that is used: the given one unless it is blank, or else the first
  candidate that is there.
* `Config.discover`: the configuration at the chosen path. Its failure is final: no other candidate
  takes its place.
-/

namespace ProcessGraph

/-- What a client sees of the files around it. -/
structure FileView where
  has : String → Bool
  read : String → Except FileError Text.Bytes

/-- The view of a file system. -/
def FileSystem.view (fs : FileSystem) : FileView := ⟨fs.has, fs.read⟩

namespace Config

/-- The unvalidated configuration of a text. -/
def decode? (text : String) : Option Config :=
  (Toml.parse? text).bind fun v => (ofDocument .lenient v).toOption

/-- The configuration of a text, with the error for a text that is none. -/
def parseOr (refusal : Error) (text : String) : Except Error Config := do
  match decode? text with
  | none => throw refusal
  | some config =>
    config.validate
    return config

/-- The configuration of a text. -/
def parse (text : String) : Except Error Config := parseOr .malformed text

/-- The text of a file. -/
def readText (files : FileView) (path : String) : Except FileError String := do
  match Text.ofUtf8? (← files.read path) with
  | some text => return text
  | none => throw .notUtf8

/-- The configuration of a file. -/
def load (files : FileView) (path : String) : Except Error Config :=
  match readText files path with
  | .error cause => .error (.unreadableFile path cause)
  | .ok text => parseOr (.malformedFile path) text

/-- A configuration, and the file that it comes from. -/
structure Found where
  config : Config
  source : Option String
deriving DecidableEq

/-- Is a text blank? -/
def isBlank (text : String) : Bool := text.toList.all Text.isBlank

/-- The path that is used: the given one unless it is blank, or else the first candidate that is
there. -/
def choose (files : FileView) (given : Option String) (candidates : List String) :
    Option String :=
  match given with
  | some path => if isBlank path then candidates.find? files.has else some path
  | none => candidates.find? files.has

/-- The configuration at the chosen path, if there is one. -/
def discover (files : FileView) (given : Option String) (candidates : List String) :
    Except Error (Option Found) :=
  match choose files given candidates with
  | none => .ok none
  | some path => (load files path).map fun config => some ⟨config, some path⟩

/-- The configuration at the chosen path, of which there must be one. -/
def loadFound (files : FileView) (given : Option String) (candidates : List String) :
    Except Error Found := do
  match ← discover files given candidates with
  | some found => return found
  | none => throw (.noneFound candidates)

/-- The configuration at the chosen path, or else the default one. -/
def loadOrDefault (files : FileView) (given : Option String) (candidates : List String) :
    Except Error Found := do
  match ← discover files given candidates with
  | some found => return found
  | none => return ⟨{}, none⟩

end Config

end ProcessGraph
