import ProcessGraph.Http.Chunks

/-!
# Where bodies end

* `length?`, `lengths?`: the length that a field declares.
* `endsInChunks`: does a field say that the body is in chunks?
* `Framing`: how the end of a body is found, and `Framing.body?`, the body so framed.
* `responseFraming?`, `requestFraming`: the framing that fields declare. A request must say where its
  body ends; a response need not.
* `Request.framed`: a request with the fields that frame its body, and its body as it is sent.
-/

namespace ProcessGraph.Http

/-- The name of the field that declares how long a body is. -/
def lengthName : String := "content-length"

/-- The name of the field that declares how a body is coded on its way. -/
def codingName : String := "transfer-encoding"

/-! ## fields -/

/-- The length that digits declare, if it fits into 64 bits. -/
def length? (digits : Text.Bytes) : Option Nat := (number? digits).filter (· < Nat.pow 2 64)

/-- The most bytes of a body. -/
def maxLength : Nat := Nat.pow 2 64 - 3

/-- The values of all fields of a name, given in lower case. -/
def valuesOf (name : String) (fields : Fields) : List Text.Bytes :=
  (fields.filter fun f => lowerName f.1 = name).map Prod.snd

/-- The parts of a value between commas, without the blanks around them. -/
def valueParts (value : Text.Bytes) : List Text.Bytes :=
  (Text.splitWhere (· = 0x2C) value).map trimValue

/-- The length that all values declare, each of them once or several times. -/
def lengths? (values : List Text.Bytes) : Option Nat := do
  let n :: rest ← (values.flatMap valueParts).mapM length? | none
  if rest.all (· = n) then return n else none

/-- Does a value name chunks as the last coding? -/
def endsInChunks (value : Text.Bytes) : Bool :=
  value.all isVisible &&
    ((valueParts value).getLast?.map fun part => (asciiChars part).map Char.toLower)
      = some "chunked".toList

/-! ## framings -/

/-- How the end of a body is found: by its length, by its chunks, or with the end of the
connection. -/
inductive Framing where
  | length (n : Nat)
  | chunks
  | untilEnd
deriving DecidableEq, Repr

/-- The body at the front of some bytes, if it is complete. -/
def Framing.body? : Framing → Text.Bytes → Option Text.Bytes
  | length n, bytes => if n ≤ bytes.length then some (bytes.take n) else none
  | chunks, bytes => Chunks.decode? bytes
  | untilEnd, bytes => some bytes

/-- The framing of a response. A coding counts for more than a length, and the last one decides. The
first version knows no codings. -/
def responseFraming? (minor : Nat) (fields : Fields) : Option Framing :=
  match (valuesOf codingName fields).getLast?, valuesOf lengthName fields with
  | some coding, _ =>
    if minor = 0 then none else some (if endsInChunks coding then .chunks else .untilEnd)
  | none, [] => some .untilEnd
  | none, values => ((lengths? values).filter (· ≤ maxLength)).map .length

/-- What the fields of a request have declared so far: a length, and whether the last coding names
chunks. -/
structure Announced where
  length : Option Nat
  coding : Option Bool

/-- Takes one more field into account. A length after a coding does not count; any other has to be
the same as the one before. -/
def Announced.add (minor : Nat) (a : Announced) (field : String × Text.Bytes) :
    Except Fault Announced :=
  if lowerName field.1 = codingName then
    if minor = 0 then .error .malformed
    else .ok { a with coding := some (endsInChunks field.2) }
  else if lowerName field.1 = lengthName && a.coding.isNone then
    match length? field.2, a.length with
    | none, _ => .error .malformed
    | some n, some m => if n = m then .ok a else .error .malformed
    | some n, none => if n ≤ maxLength then .ok { a with length := some n } else .error .headTooLarge
  else .ok a

/-- The framing of a request. Its last coding has to name chunks. -/
def requestFraming (minor : Nat) (fields : Fields) : Except Fault Framing := do
  let a ← fields.foldlM (Announced.add minor) ⟨none, none⟩
  match a.coding with
  | some true => return .chunks
  | some false => throw .malformed
  | none => return .length (a.length.getD 0)

/-! ## sending -/

/-- A coding that ends in chunks. -/
def chunkedCoding (value : Text.Bytes) : Text.Bytes :=
  if endsInChunks value then value else value ++ Text.utf8 ", chunked"

/-- A request with the fields that frame its body, and its body as it is sent. Fields that are there
already hold: a coding, which is made to end in chunks, then a well-formed length. A request without
a body has no coding. -/
def Request.framed (r : Request) : Request :=
  let declared := lengths? (valuesOf lengthName r.headers)
  if r.body.isEmpty then { r with headers := Keyed.erase codingName r.headers }
  else
    match Keyed.find? codingName r.headers, declared with
    | some coding, _ =>
      let headers := if declared.isSome then Keyed.erase lengthName r.headers else r.headers
      { r with
        headers := Keyed.insert codingName (chunkedCoding coding) headers
        body := Chunks.encode r.body }
    | none, some n => { r with body := r.body.take n }
    | none, none =>
      { r with headers := Keyed.insert lengthName (Text.utf8 (toString r.body.length)) r.headers }

end ProcessGraph.Http
