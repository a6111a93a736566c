import ProcessGraph.Text.Blank
import ProcessGraph.Url.Basic

/-!
# Reading URLs

* `trim`, `dropBreaks`: the text without blanks and controls at its ends, and without tabs and line
  breaks.
* `scheme?`: the scheme, in lower case.
* `pathSegments`: the segments of a path, with `.` and `..` carried out.
* `Url.parse`: the absolute URL that a text spells, or why there is none.
-/

namespace ProcessGraph.Url

open Text (dropTrailing)

/-! ## characters to encode -/

/-- Characters encoded in a fragment. -/
def inFragmentSet (c : Char) : Bool := Host.isControl c || " \"<>`".toList.contains c

/-- Characters encoded in a query; an apostrophe only where the scheme is special. -/
def inQuerySet (special : Bool) (c : Char) : Bool :=
  Host.isControl c || " \"#<>".toList.contains c || (special && c = '\'')

/-- Characters encoded in a path. -/
def inPathSet (c : Char) : Bool := inFragmentSet c || "#?\x7b\x7d".toList.contains c

/-- Characters encoded in credentials. -/
def inUserinfoSet (c : Char) : Bool := inPathSet c || "/:;=@[\\]^|".toList.contains c

/-! ## scheme -/

/-- The text without blanks and controls at its ends. -/
def trim (cs : List Char) : List Char :=
  let atEnd (c : Char) := c.toNat ≤ 32
  dropTrailing atEnd (cs.dropWhile atEnd)

/-- Is it a tab or a line break? They are left out wherever they stand. -/
def isBreak (c : Char) : Bool := c = '\t' || c = '\n' || c = '\r'

/-- The text without tabs and line breaks. -/
def dropBreaks (cs : List Char) : List Char := cs.filter fun c => !isBreak c

/-- May the character stand in a scheme after its first letter? -/
def isSchemeChar (c : Char) : Bool := c.isAlphanum || c = '+' || c = '-' || c = '.'

/-- The scheme, in lower case: the text before the first colon, if it may be one. -/
def scheme? (cs : List Char) : Option (List Char) :=
  let scheme := cs.takeWhile isSchemeChar
  match scheme, cs.drop scheme.length with
  | first :: _, ':' :: _ => if first.isAlpha then some (scheme.map Char.toLower) else none
  | _, _ => none

/-- Does the character separate path segments? -/
def isSlash (special : Bool) (c : Char) : Bool := c = '/' || (special && c = '\\')

/-! ## authority -/

/-- Splits an authority from the path, query or fragment that follows it. -/
def spanAuthority (special : Bool) (cs : List Char) : List Char × List Char :=
  cs.span fun c => !(isSlash special c || c = '?' || c = '#')

/-- The credentials before the last at sign, if there is one, and what follows it. -/
def splitCredentials (cs : List Char) : Option (List Char) × List Char :=
  let back := cs.reverse.takeWhile (· ≠ '@')
  if back.length < cs.length then (some (cs.take (cs.length - back.length - 1)), back.reverse)
  else (none, cs)

/-- User name and password, encoded. -/
def credentials (cs : List Char) : List Char × List Char :=
  let user := cs.takeWhile (· ≠ ':')
  let encode := Text.Percent.encode inUserinfoSet
  (encode user, encode (cs.drop (user.length + 1)))

/-- Splits a host from the colon and port that follow it; colons between brackets belong to the
host. -/
def spanHost : Bool → List Char → List Char × List Char
  | _, [] => ([], [])
  | inside, c :: r =>
    if c = ':' ∧ !inside then ([], c :: r)
    else
      let inside := if c = '[' then true else if c = ']' then false else inside
      let (host, rest) := spanHost inside r
      (c :: host, rest)

/-- The port that the digits after a colon spell. The port that the scheme implies is left out. -/
def parsePort (scheme digits : List Char) : Except Error (Option Nat) :=
  if digits.isEmpty then .ok none
  else if digits.all Ipv4.isDigit then
    let n : Nat := digits.foldl (fun n c => n * 10 + (c.toNat - '0'.toNat)) 0
    if 65535 < n then .error .invalidPort
    else .ok (if defaultPort scheme = some n then none else some n)
  else .error .invalidPort

/-- The parts of an authority. -/
structure Authority where
  username : List Char
  password : List Char
  host : Host
  port : Option Nat

/-- The parts of an authority, and what of it belongs to the path: a backslash behind the port, and
all after it. `followed` tells that the text goes on after it. -/
def parseAuthority (scheme : List Char) (followed : Bool) (cs : List Char) :
    Except Error (Authority × List Char) := do
  let special := isSpecialScheme scheme
  let (given, rest) := splitCredentials cs
  if followed && given == some [] && rest.isEmpty then throw .emptyHost
  let (user, password) := credentials (given.getD [])
  let (hostChars, portPart) := spanHost false rest
  if special && hostChars.isEmpty then throw .emptyHost
  let host ← if special then Host.parse hostChars else Host.parseOpaque hostChars
  if hostChars.isEmpty && !portPart.isEmpty then throw .emptyHost
  let (digits, left) := (portPart.drop 1).span (· ≠ '\\')
  let port ← parsePort scheme digits
  if hostChars.isEmpty && !(user.isEmpty && password.isEmpty) then throw .emptyHost
  return (⟨user, password, host, port⟩, left)

/-! ## path -/

/-- Is it a segment that names its parent? -/
def isDoubleDot (segment : List Char) : Bool :=
  ["..", ".%2e", "%2e.", "%2e%2e"].any (·.toList == segment.map Char.toLower)

/-- Is it a segment that names itself? -/
def isSingleDot (segment : List Char) : Bool :=
  [".", "%2e"].any (·.toList == segment.map Char.toLower)

/-- Is it a drive letter with a colon or a bar? -/
def isDriveLetter (segment : List Char) : Bool :=
  match segment with
  | [letter, sign] => letter.isAlpha && (sign = ':' || sign = '|')
  | _ => false

/-- Does a segment begin with a drive that ends there or before a backslash? -/
def beginsWithDrive (segment : List Char) : Bool :=
  match segment with
  | letter :: sign :: rest => isDriveLetter [letter, sign] && rest.head?.all (· = '\\')
  | _ => false

/-- Drops the last segment. A drive stays. -/
def shorten (done : List (List Char)) : List (List Char) :=
  if done.getLast?.any beginsWithDrive then done else done.dropLast

/-- A drive with what follows it behind a tab or line break, at the front of a path. -/
def brokenDrive? (cs : List Char) : Option (List Char × List Char) :=
  match cs.dropWhile isBreak with
  | letter :: r =>
    match r.dropWhile isBreak with
    | ':' :: b :: r =>
      if letter.isAlpha && isBreak b && !(dropBreaks r).isEmpty then some ([letter, ':'], r) else none
    | _ => none
  | [] => none

/-- The segments that have been carried out, and whether the first one is a drive of its own. -/
structure Trail where
  segments : List (List Char)
  hasDrive : Bool

/-- Carries a segment out after the ones before it; `last` tells that no slash follows. The first
segment of the path of a local file may be a drive. What follows a drive behind a tab or line break
is a segment of its own, and is not carried out. -/
def addSegment (file last : Bool) (trail : Trail) (raw : List Char) : Trail :=
  let done := trail.segments
  let first := file && done.isEmpty
  match if first then brokenDrive? raw else none with
  | some (drive, rest) =>
    { trail with segments := [drive, Text.Percent.encode inPathSet (dropBreaks rest)] }
  | none =>
    let segment := dropBreaks raw
    if isDoubleDot segment then
      let kept := shorten done
      { trail with segments := if last then kept ++ [[]] else kept }
    else if isSingleDot segment then
      { trail with segments := if last then done ++ [[]] else done }
    else
      match segment with
      | [letter, _] =>
        if first && isDriveLetter segment then ⟨[[letter, ':']], true⟩
        else { trail with segments := done ++ [Text.Percent.encode inPathSet segment] }
      | _ => { trail with segments := done ++ [Text.Percent.encode inPathSet segment] }

/-- Carries segments out, in order. -/
def addSegments (file : Bool) : Trail → List (List Char) → Trail
  | trail, [] => trail
  | trail, [last] => addSegment file true trail last
  | trail, segment :: rest => addSegments file (addSegment file false trail segment) rest

/-- The path that follows its first slash, carried out. -/
def carryOut (special file : Bool) (cs : List Char) : Trail :=
  addSegments file ⟨[], false⟩ (Text.splitWhere (isSlash special) cs)

/-- The segments of the path that follows its first slash. -/
def pathSegments (special file : Bool) (cs : List Char) : List (List Char) :=
  (carryOut special file cs).segments

/-- The text without a leading slash. -/
def dropSlash (special : Bool) (cs : List Char) : List Char :=
  match cs with
  | c :: r => if isSlash special c then r else cs
  | [] => []

/-- The path after an authority. A special scheme always has one. -/
def pathAfterAuthority (special : Bool) (cs : List Char) : Path :=
  if cs.isEmpty && !special then .segments []
  else .segments (pathSegments special false (dropSlash special cs))

/-! ## local files -/

/-- The segments from the first one that is not empty, or the last one. -/
def dropEmptySegments : List (List Char) → List (List Char)
  | [] :: next :: rest => dropEmptySegments (next :: rest)
  | segments => segments

/-- The path of a local file. Slashes at its front count as one. -/
def filePath (cs : List Char) : Path := .segments (dropEmptySegments (pathSegments true true cs))

/-- What follows a slash at the front of a text. -/
def afterSlash? (cs : List Char) : Option (List Char) :=
  match cs.dropWhile isBreak with
  | c :: r => if isSlash true c then some r else none
  | [] => none

/-- Host and path of a local file, from the text behind two slashes. A drive in place of the host
begins the path; a drive at the front of the path leaves no host. -/
def parseFileHost (cs : List Char) : Except Error (Host × Path) := do
  let (authority, path) := spanAuthority true cs
  let hostChars := dropBreaks authority
  if isDriveLetter hostChars then return (.name [], filePath cs)
  let host ← if hostChars.isEmpty then .ok (Host.name []) else Host.parse hostChars
  if host = .name [] ∨ host = .name "localhost".toList then return (.name [], filePath path)
  let trail := carryOut true true (dropSlash true path)
  return (if trail.hasDrive then .name [] else host, .segments (dropEmptySegments trail.segments))

/-- Host and path of a local file. -/
def parseFile (body : List Char) : Except Error (Host × Path) :=
  match afterSlash? body with
  | none => .ok (.name [], filePath body)
  | some rest =>
    match afterSlash? rest with
    | none => .ok (.name [], filePath rest)
    | some rest => parseFileHost rest

/-! ## the whole -/

/-- Splits a text into the part before query and fragment, the query and the fragment. -/
def splitTail (cs : List Char) : List Char × Option (List Char) × Option (List Char) :=
  let (front, tail) := cs.span (· ≠ '#')
  let fragment := match tail with
    | _ :: f => some f
    | [] => none
  let (body, tail) := front.span (· ≠ '?')
  let query := match tail with
    | _ :: q => some q
    | [] => none
  (body, query, fragment)

/-- The parts of a URL from what follows the slashes before its authority. -/
def parseAfterSlashes (scheme : List Char) (query fragment : Option (List Char)) (cs : List Char) :
    Except Error Url := do
  let special := isSpecialScheme scheme
  let (text, path) := spanAuthority special cs
  let (a, left) ←
    parseAuthority scheme (query.isSome || fragment.isSome || !path.isEmpty) text
  return ⟨scheme, a.username, a.password, some a.host, a.port,
    pathAfterAuthority special (left ++ path), query, fragment⟩

/-- The absolute URL that a scheme and the text after its colon spell. -/
def parseAfterScheme (scheme cs : List Char) : Except Error Url := do
  let special := isSpecialScheme scheme
  let (body, query, fragment) := splitTail cs
  let query := query.map fun q => Text.Percent.encode (inQuerySet special) (dropBreaks q)
  let fragment := fragment.map fun f => Text.Percent.encode inFragmentSet (dropBreaks f)
  if isFileScheme scheme then
    let (host, path) ← parseFile body
    return ⟨scheme, [], [], some host, none, path, query, fragment⟩
  else if special then
    parseAfterSlashes scheme query fragment ((dropBreaks body).dropWhile (isSlash true))
  else
    match dropBreaks body with
    | '/' :: '/' :: r => parseAfterSlashes scheme query fragment r
    | '/' :: r =>
      return ⟨scheme, [], [], none, none, .segments (pathSegments false false r), query, fragment⟩
    | r =>
      return ⟨scheme, [], [], none, none, .plain (Text.Percent.encode Host.isControl r), query,
        fragment⟩

/-- The absolute URL that characters spell. -/
def parseChars (cs : List Char) : Except Error Url :=
  let text := trim cs
  match scheme? (dropBreaks text) with
  | some scheme => parseAfterScheme scheme ((text.dropWhile (· ≠ ':')).drop 1)
  | none => .error .relativeWithoutBase

/-- The absolute URL that a text spells. -/
def parse (text : String) : Except Error Url := parseChars text.toList

end ProcessGraph.Url
