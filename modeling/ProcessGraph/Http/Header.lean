import ProcessGraph.Error
import ProcessGraph.Keyed
import ProcessGraph.Text.Utf8

/-!
# Header fields

* `isName`, `isValue`: what a header may be called, and what it may hold.
* `Fields`: headers as they are written, where names may repeat.
* `Headers`: header fields by name in lower case, each name once.
* `Headers.ofPairs`: headers in declared order. Names that differ in case alone are one name, and
  the last value wins. The first pair at fault is named, its name before its value.
-/

namespace ProcessGraph.Http

/-- May the character stand in the name of a header? -/
def isNameChar (c : Char) : Bool := c.isAlphanum || "!#$%&'*+-.^_`|~".toList.contains c

/-- The most characters of a name. -/
def maxNameLength : Nat := 65535

/-- May a header have the name? -/
def isName (name : String) : Bool :=
  !name.isEmpty && name.length ≤ maxNameLength && name.toList.all isNameChar

/-- May the byte stand in the value of a header? -/
def isValueByte (b : UInt8) : Bool := (32 ≤ b.toNat && b.toNat ≠ 127) || b.toNat = 9

/-- May a header have the value? -/
def isValue (bytes : Text.Bytes) : Bool := bytes.all isValueByte

/-- A name in lower case. Only letters in ASCII have two cases. -/
def lowerName (name : String) : String := String.ofList (name.toList.map Char.toLower)

/-- Headers as they are written: names may repeat, and their letters are of either case. -/
abbrev Fields := List (String × Text.Bytes)

/-- Header fields by name in lower case, each name once. -/
abbrev Headers := Keyed String Text.Bytes

/-- What is wrong with a name. -/
def invalidName : String := "invalid HTTP header name"

/-- What is wrong with a value. -/
def invalidValue : String := "failed to parse header value"

/-- One header, checked. -/
def checkHeader (name value : String) : Except ClientError (String × Text.Bytes) :=
  if !isName name then .error (.invalidHeader name invalidName)
  else if !isValue (Text.utf8 value) then .error (.invalidHeader name invalidValue)
  else .ok (lowerName name, Text.utf8 value)

/-- Adds headers to some, checking them in their order. -/
def Headers.insertPairs : List (String × String) → Headers → Except ClientError Headers
  | [], hs => .ok hs
  | (name, value) :: rest, hs =>
    match checkHeader name value with
    | .ok (key, bytes) => insertPairs rest (Keyed.insert key bytes hs)
    | .error e => .error e

/-- The headers of pairs. -/
def Headers.ofPairs (pairs : List (String × String)) : Except ClientError Headers :=
  Headers.insertPairs pairs []

/-- Headers with others for the names that are not there. -/
def Headers.withDefaults (defaults hs : Headers) : Headers :=
  defaults.foldl (fun hs (name, value) => Keyed.insertNew name value hs) hs

end ProcessGraph.Http
