import ProcessGraph.Http.Message

/-!
# Heads of messages

* `Fault`: why a message is refused.
* `afterLineEnd?`: the end of a line.
* `readField?`, `readFields`: the fields of a head up to its empty line, at most so many of them.
* `RequestLine.read?`, `StatusLine.read?`: the first line of a head.
* `message`: the bytes of a message with a given first line.
-/

namespace ProcessGraph.Http

/-- Why a message is refused: it is ill-formed, or one of its parts is too large. -/
inductive Fault where
  | malformed
  | headTooLarge
  | targetTooLong
deriving DecidableEq, Repr

/-! ## lines -/

/-- The end of a line as it is written. -/
def lineEnd : Text.Bytes := [0x0D, 0x0A]

/-- The bytes after the end of a line: a line feed, with or without a carriage return before it. -/
def afterLineEnd? : Text.Bytes → Option Text.Bytes
  | 0x0A :: rest => some rest
  | 0x0D :: 0x0A :: rest => some rest
  | _ => none

/-- Some bytes without the empty lines at their front. -/
def dropEmptyLines : Text.Bytes → Text.Bytes
  | 0x0A :: rest => dropEmptyLines rest
  | 0x0D :: 0x0A :: rest => dropEmptyLines rest
  | bytes => bytes

/-- The characters of bytes in ASCII. -/
def asciiChars (bytes : Text.Bytes) : List Char := bytes.map fun b => Char.ofNat b.toNat

/-! ## fields -/

/-- May the byte stand in the name of a field? -/
def isNameByte (b : UInt8) : Bool := isNameChar (Char.ofNat b.toNat)

/-- The field in the first line of some bytes, and the bytes after that line. -/
def readField? (bytes : Text.Bytes) : Option ((String × Text.Bytes) × Text.Bytes) :=
  let (name, rest) := bytes.span isNameByte
  match name, rest with
  | [], _ => none
  | _, 0x3A :: rest =>
    let (value, rest) := rest.span isValueByte
    (afterLineEnd? rest).map fun rest => ((String.ofList (asciiChars name), trimValue value), rest)
  | _, _ => none

/-- The most fields of a head. -/
def maxFields : Nat := 100

/-- The fields up to the empty line, if there are at most `room` of them, and the bytes after it. -/
def readFields (room : Nat) (bytes : Text.Bytes) : Except Fault (Fields × Text.Bytes) :=
  match afterLineEnd? bytes, readField? bytes, room with
  | some rest, _, _ => .ok ([], rest)
  | none, none, _ => .error .malformed
  | none, some _, 0 => .error .headTooLarge
  | none, some (field, rest), room + 1 =>
    (readFields room rest).map fun (fields, rest) => (field :: fields, rest)

/-- The most bytes of a head. -/
def maxHead : Nat := 417792

/-- The fields of a head, and the bytes after it. The head starts with `bytes`, its fields with
`fromFields`. -/
def readHead (bytes fromFields : Text.Bytes) : Except Fault (Fields × Text.Bytes) :=
  match readFields maxFields fromFields with
  | .ok (fields, rest) =>
    if bytes.length - rest.length ≤ maxHead && fields.all fun f => f.1.length ≤ maxNameLength then
      .ok (fields, rest)
    else .error .headTooLarge
  | .error e => .error e

/-! ## first lines -/

/-- The second number of the version at the front of some bytes, and the bytes after it. -/
def afterVersion? (bytes : Text.Bytes) : Option (Nat × Text.Bytes) :=
  match (Text.utf8 "HTTP/1.").isPrefixOf? bytes with
  | some (0x30 :: rest) => some (0, rest)
  | some (0x31 :: rest) => some (1, rest)
  | _ => none

/-- The first line of a request: the method, the target as it is written, and the second number of
the version. -/
structure RequestLine where
  method : String
  target : List Char
  minor : Nat

/-- May the byte stand in the target of a request? -/
def isTargetByte (b : UInt8) : Bool := 0x20 < b.toNat && b.toNat ≠ 0x7F

/-- The first line of a request, and the bytes after it. -/
def RequestLine.read? (bytes : Text.Bytes) : Option (RequestLine × Text.Bytes) :=
  let (method, rest) := (dropEmptyLines bytes).span isNameByte
  match method, rest with
  | [], _ => none
  | _, 0x20 :: rest =>
    let (target, rest) := rest.span isTargetByte
    match target, rest with
    | [], _ => none
    | _, 0x20 :: rest => do
      let chars ← Text.Utf8.decode? target
      let (minor, rest) ← afterVersion? rest
      let rest ← afterLineEnd? rest
      return (⟨String.ofList (asciiChars method), chars, minor⟩, rest)
    | _, _ => none
  | _, _ => none

/-- The first line of a response: the second number of the version, and the status. -/
structure StatusLine where
  minor : Nat
  status : Nat

/-- The number of a byte that is a decimal digit. -/
def digit? (b : UInt8) : Option Nat :=
  if 0x30 ≤ b.toNat ∧ b.toNat ≤ 0x39 then some (b.toNat - 0x30) else none

/-- The number of some decimal digits. -/
def number? (bytes : Text.Bytes) : Option Nat :=
  if bytes.isEmpty then none
  else (bytes.mapM digit?).map fun ds => ds.foldl (fun n d => n * 10 + d) 0

/-- The bytes after the phrase that explains a status, which may be missing. -/
def afterReason? : Text.Bytes → Option Text.Bytes
  | 0x20 :: rest => afterLineEnd? (rest.dropWhile isValueByte)
  | rest => afterLineEnd? rest

/-- The first line of a response, and the bytes after it. -/
def StatusLine.read? (bytes : Text.Bytes) : Option (StatusLine × Text.Bytes) :=
  match afterVersion? (dropEmptyLines bytes) with
  | some (minor, 0x20 :: a :: b :: c :: rest) =>
    match number? [a, b, c], afterReason? rest with
    | some status, some rest => if 100 ≤ status then some (⟨minor, status⟩, rest) else none
    | _, _ => none
  | _ => none

/-! ## writing -/

/-- One line of a head. -/
def fieldLine (field : String × Text.Bytes) : Text.Bytes :=
  Text.utf8 (field.1 ++ ": ") ++ (field.2 ++ lineEnd)

/-- The bytes of a message. -/
def message (firstLine : String) (fields : Fields) (body : Text.Bytes) : Text.Bytes :=
  Text.utf8 firstLine ++ (lineEnd ++ (fields.flatMap fieldLine ++ (lineEnd ++ body)))

/-- The first line of a request. -/
def requestLine (method : String) (target : List Char) : String :=
  method ++ " " ++ String.ofList target ++ " HTTP/1.1"

end ProcessGraph.Http
