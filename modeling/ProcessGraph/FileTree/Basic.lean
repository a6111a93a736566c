import ProcessGraph.FileTree.Error
import ProcessGraph.Text.Blank
import ProcessGraph.Text.Split
import ProcessGraph.Text.Utf8

/-!
# File trees

* `FileTree`: a file or a directory of entries.
* `FileSystem`: a tree and the working directory in it.
* `FileSystem.walk`: the place a path leads to. Every step but the last must end in a directory, and
  so must the last one if the path ends in a slash.
* `FileSystem.read`, `FileSystem.has`: what stands at a path.
* `FileSystem.makeDirectory`, `FileSystem.createFile`: one more entry in a directory that is there.
* `FileSystem.makeDirectories`, `FileSystem.openFile`: the same, with the directories on the way.
  When they fail, what they have made stays.
-/

namespace ProcessGraph

/-- A file or a directory. -/
inductive FileTree where
  | file (contents : Text.Bytes)
  | directory (entries : List (String × FileTree))

namespace FileTree

/-- The entry of a name among some. -/
def child? (name : String) : List (String × FileTree) → Option FileTree
  | [] => none
  | (n, t) :: rest => if n = name then some t else child? name rest

/-- The tree at a place. -/
def at? : FileTree → List String → Option FileTree
  | t, [] => some t
  | file _, _ :: _ => none
  | directory entries, name :: rest => (child? name entries).bind fun t => t.at? rest

/-- The entries with one more, or another in its place. -/
def putEntry (name : String) (t : FileTree) : List (String × FileTree) → List (String × FileTree)
  | [] => [(name, t)]
  | (n, u) :: rest => if n = name then (n, t) :: rest else (n, u) :: putEntry name t rest

/-- The tree with another one at a place, whose directories are made where they are missing. -/
def put : FileTree → List String → FileTree → FileTree
  | _, [], new => new
  | file _, name :: rest, new => directory [(name, (directory []).put rest new)]
  | directory entries, name :: rest, new =>
    let old := (child? name entries).getD (directory [])
    directory (putEntry name (old.put rest new) entries)

mutual

/-- The paths of all that a directory holds, directories ending in a slash. -/
def paths (above : String) : FileTree → List String
  | file _ => []
  | directory entries => entryPaths above entries

/-- The paths of some entries and of all they hold. -/
def entryPaths (above : String) : List (String × FileTree) → List String
  | [] => []
  | (name, file _) :: rest => (above ++ name) :: entryPaths above rest
  | (name, directory entries) :: rest =>
    (above ++ name ++ "/") ::
      (entryPaths (above ++ name ++ "/") entries ++ entryPaths above rest)

end

end FileTree

/-- A tree and the working directory in it. -/
structure FileSystem where
  root : FileTree
  workingDirectory : List String

namespace FileSystem

/-- The most bytes of a name. -/
def maxName : Nat := 255

/-- The most bytes of a path. -/
def maxPath : Nat := 4095

/-- The steps of a path. -/
def steps (path : String) : List String :=
  (Text.splitWhere (· = '/') path.toList).map String.ofList

/-- Where the steps of a path begin. -/
def origin (fs : FileSystem) (path : String) : List String :=
  if path.startsWith "/" then [] else fs.workingDirectory

/-- Refuses paths that no operation takes. -/
def checkPath (path : String) : Except FileError Unit :=
  if path.contains (Char.ofNat 0) then .error .zeroByte
  else if path.isEmpty then .error .notFound
  else if path.utf8ByteSize > maxPath then .error .nameTooLong
  else .ok ()

/-- The place that steps lead to from a directory. -/
def walk (root : FileTree) : List String → List String → Except FileError (List String)
  | place, [] => .ok place
  | place, step :: rest =>
    match root.at? place with
    | some (.directory entries) =>
      if step = "" ∨ step = "." then walk root place rest
      else if step = ".." then walk root place.dropLast rest
      else if step.utf8ByteSize > maxName then .error .nameTooLong
      else
        match FileTree.child? step entries with
        | some _ => walk root (place ++ [step]) rest
        | none => .error .notFound
    | some (.file _) => .error .notADirectory
    | none => .error .notFound

/-- The tree that a path leads to. -/
def find (fs : FileSystem) (path : String) : Except FileError FileTree := do
  checkPath path
  let place ← walk fs.root (fs.origin path) (steps path)
  match fs.root.at? place with
  | some t => return t
  | none => throw .notFound

/-- Does a path lead anywhere? -/
def has (fs : FileSystem) (path : String) : Bool := (fs.find path).toOption.isSome

/-- The bytes of the file that a path leads to. -/
def read (fs : FileSystem) (path : String) : Except FileError Text.Bytes := do
  match ← fs.find path with
  | .file contents => return contents
  | .directory _ => throw .isADirectory

/-- Does a path lead to a directory? -/
def isDirectory (fs : FileSystem) (path : String) : Bool :=
  match fs.find path with
  | .ok (.directory _) => true
  | _ => false

/-! ## new entries -/

/-- Where the last step of a path starts, its name, and what is there by that name. The directory
that it starts in must be there. -/
def entryOf (fs : FileSystem) (path : String) :
    Except FileError (List String × String × Option FileTree) := do
  checkPath path
  let parts := Text.dropTrailing (· = "") (steps path)
  let name := parts.getLast?.getD ""
  let place ← walk fs.root (fs.origin path) parts.dropLast
  match fs.root.at? place with
  | some (.directory entries) =>
    if name = "" ∨ name = "." ∨ name = ".." then return (place, name, some (.directory []))
    else if name.utf8ByteSize > maxName then throw .nameTooLong
    else return (place, name, FileTree.child? name entries)
  | some (.file _) => throw .notADirectory
  | none => throw .notFound

/-- Makes a directory at the end of a path. -/
def makeDirectory (fs : FileSystem) (path : String) : Except FileError FileSystem := do
  match ← fs.entryOf path with
  | (_, _, some _) => throw .alreadyThere
  | (place, name, none) => return { fs with root := fs.root.put (place ++ [name]) (.directory []) }

/-- Makes an empty file at the end of a path, unless there is a file already. -/
def createFile (fs : FileSystem) (path : String) : Except FileError FileSystem := do
  match ← fs.entryOf path with
  | (_, _, some (.file _)) => return fs
  | (_, _, some (.directory _)) => throw .isADirectory
  | (place, name, none) => return { fs with root := fs.root.put (place ++ [name]) (.file []) }

/-- The path of a name below a directory. -/
def join (directory name : String) : String :=
  if name.startsWith "/" then name
  else if directory.isEmpty || directory.endsWith "/" then directory ++ name
  else directory ++ "/" ++ name

/-- The steps of a path that lead somewhere. -/
def properSteps (path : String) : List String := (steps path).filter fun s => s ≠ "" && s ≠ "."

/-- The path that some steps spell, from the root or from the working directory. -/
def ofSteps (fromRoot : Bool) (parts : List String) : String :=
  let relative := parts.foldl join ""
  if fromRoot then "/" ++ relative else relative

/-- The paths above a path, the nearest one first. -/
def above (path : String) : List String :=
  let parts := properSteps path
  (List.range parts.length).reverse.map fun n => ofSteps (path.startsWith "/") (parts.take n)

/-- Makes the first of some paths a directory; each of them lies in the next one, which is made
first if it is missing. The empty path is there already. -/
def makeAlong (fs : FileSystem) : List String → FileSystem × Except FileError Unit
  | [] => (fs, .ok ())
  | path :: rest =>
    if path.isEmpty then (fs, .ok ())
    else
      match fs.makeDirectory path with
      | .ok fs => (fs, .ok ())
      | .error .notFound =>
        match fs.makeAlong rest with
        | (fs, .ok ()) =>
          match fs.makeDirectory path with
          | .ok fs => (fs, .ok ())
          | .error e => (fs, if fs.isDirectory path then .ok () else .error e)
        | failed => failed
      | .error e => (fs, if fs.isDirectory path then .ok () else .error e)

/-- Makes the directory of a path and all directories on the way. -/
def makeDirectories (fs : FileSystem) (path : String) : FileSystem × Except FileError Unit :=
  fs.makeAlong (path :: above path)

/-- Makes an empty file at a path, unless there is one already, and the directories on the way if
it cannot be made without. -/
def openFile (fs : FileSystem) (path : String) : FileSystem × Except FileError Unit :=
  match fs.createFile path with
  | .ok fs => (fs, .ok ())
  | .error _ =>
    match fs.makeAlong (above path) with
    | (fs, .ok ()) =>
      match fs.createFile path with
      | .ok fs => (fs, .ok ())
      | .error e => (fs, .error e)
    | failed => failed

end FileSystem

end ProcessGraph
