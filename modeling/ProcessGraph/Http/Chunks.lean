import ProcessGraph.Http.Head

/-!
# Bodies in chunks

A chunk is a line with its size and that many bytes. The last one is empty, and fields may follow it.

* `Chunks.encode`: a body as one chunk.
* `Chunks.Line.read?`: the line before a chunk, with an extension that means nothing.
* `Chunks.endsWell`: the fields after the last chunk.
* `Chunks.decode?`: the body of chunks, if the last one has arrived.
-/

namespace ProcessGraph.Http.Chunks

/-- A body as one chunk and the last one. -/
def encode (body : Text.Bytes) : Text.Bytes :=
  let last := Text.utf8 "0" ++ (lineEnd ++ lineEnd)
  if body.isEmpty then last
  else
    Text.utf8 (String.ofList (Text.Hex.upperNat body.length)) ++
      (lineEnd ++ (body ++ (lineEnd ++ last)))

/-! ## lines -/

/-- The number of a byte that is a hexadecimal digit. -/
def hexDigit? (b : UInt8) : Option Nat := Text.Hex.value? (Char.ofNat b.toNat)

/-- The line before a chunk: its size, how long its extension is, and the bytes after the line. -/
structure Line where
  size : Nat
  extension : Nat
  rest : Text.Bytes

/-- The extension at the front of some bytes, and the bytes after it. -/
def splitExtension : Text.Bytes → Text.Bytes × Text.Bytes
  | 0x3B :: rest => rest.span fun b => b ≠ 0x0D && b ≠ 0x0A
  | rest => ([], rest)

/-- The line before a chunk. Its size fits into 64 bits; blanks and an extension may follow. -/
def Line.read? (bytes : Text.Bytes) : Option Line :=
  let (digits, rest) := bytes.span fun b => (hexDigit? b).isSome
  let size := (digits.filterMap hexDigit?).foldl (fun n d => n * 16 + d) 0
  let (extension, rest) := splitExtension (rest.dropWhile isBlankByte)
  match digits, rest with
  | _ :: _, 0x0D :: 0x0A :: rest => if size < Nat.pow 2 64 then some ⟨size, extension.length, rest⟩ else none
  | _, _ => none

/-! ## the end -/

/-- The lines up to an empty one, if there are at most `room` of them. -/
def linesToEnd (room : Nat) (bytes : Text.Bytes) : Option (List Text.Bytes) :=
  match bytes.span (· ≠ 0x0D), room with
  | ([], 0x0D :: 0x0A :: _), _ => some []
  | (line, 0x0D :: 0x0A :: rest), room + 1 => (linesToEnd room rest).map (line :: ·)
  | _, _ => none

/-- The most bytes of all fields after the last chunk, and one more than those of all extensions. -/
def maxExtra : Nat := 16383

/-- Are the bytes after the last chunk fields, or at least an empty line? -/
def endsWell (bytes : Text.Bytes) : Bool :=
  match linesToEnd maxFields bytes with
  | none => false
  | some [] => true
  | some lines =>
    let fields := (lines.flatMap fun line => line ++ lineEnd) ++ lineEnd
    fields.length ≤ maxExtra && (readFields lines.length fields).toOption.isSome

/-! ## bodies -/

/-- The body of chunks whose extensions have no more than `room` bytes. -/
def decodeWithin : Nat → Nat → Text.Bytes → Option Text.Bytes
  | 0, _, _ => none
  | fuel + 1, room, bytes => do
    let line ← Line.read? bytes
    if room < line.extension then none
    else if line.size = 0 then
      if endsWell line.rest then return [] else none
    else
      match line.rest.splitAt line.size with
      | (payload, 0x0D :: 0x0A :: rest) =>
        return payload ++ (← decodeWithin fuel (room - line.extension) rest)
      | _ => none

/-- The body of chunks, if the last one has arrived. -/
def decode? (bytes : Text.Bytes) : Option Text.Bytes :=
  decodeWithin (bytes.length + 1) maxExtra bytes

end ProcessGraph.Http.Chunks
