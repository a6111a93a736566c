/-!
# Text as UTF-8 bytes

* `encode`: the bytes of a text.
* `scan`: bytes read as characters, `none` standing for an ill-formed stretch. A stretch is as long
  as some well-formed sequence begins with it.
* `decode?`, `decodeLossy`: the text of bytes, refused or patched where they are ill-formed.
-/

namespace ProcessGraph.Text

/-- A string of bytes. -/
abbrev Bytes := List UInt8

namespace Utf8

/-- The bytes of a character. -/
def encodeChar (c : Char) : Bytes :=
  let n := c.toNat
  if n < 0x80 then [n.toUInt8]
  else if n < 0x800 then [(0xC0 + n / 0x40).toUInt8, (0x80 + n % 0x40).toUInt8]
  else if n < 0x10000 then
    [(0xE0 + n / 0x1000).toUInt8, (0x80 + n / 0x40 % 0x40).toUInt8, (0x80 + n % 0x40).toUInt8]
  else
    [(0xF0 + n / 0x40000).toUInt8, (0x80 + n / 0x1000 % 0x40).toUInt8,
      (0x80 + n / 0x40 % 0x40).toUInt8, (0x80 + n % 0x40).toUInt8]

/-- The bytes of a text. -/
def encode (cs : List Char) : Bytes := cs.flatMap encodeChar

/-- A sequence that has begun: the value so far, how many bytes are missing, and the range of the
next one. -/
structure Pending where
  value : Nat
  missing : Nat
  low : Nat
  high : Nat

/-- What a byte means where a character may begin. -/
inductive Lead where
  | char (c : Char)
  | pending (p : Pending)
  | ill

/-- Reads the first byte of a character. -/
def lead (b : UInt8) : Lead :=
  let n := b.toNat
  if n < 0x80 then .char (Char.ofNat n)
  else if n < 0xC2 then .ill
  else if n < 0xE0 then .pending ⟨n - 0xC0, 1, 0x80, 0xBF⟩
  else if n = 0xE0 then .pending ⟨0, 2, 0xA0, 0xBF⟩
  else if n = 0xED then .pending ⟨0xD, 2, 0x80, 0x9F⟩
  else if n < 0xF0 then .pending ⟨n - 0xE0, 2, 0x80, 0xBF⟩
  else if n = 0xF0 then .pending ⟨0, 3, 0x90, 0xBF⟩
  else if n < 0xF4 then .pending ⟨n - 0xF0, 3, 0x80, 0xBF⟩
  else if n = 0xF4 then .pending ⟨4, 3, 0x80, 0x8F⟩
  else .ill

/-- Reads bytes as characters, in the middle of a sequence if one is pending. -/
def scan : Option Pending → Bytes → List (Option Char)
  | none, [] => []
  | some _, [] => [none]
  | none, b :: r =>
    match lead b with
    | .char c => some c :: scan none r
    | .pending p => scan (some p) r
    | .ill => none :: scan none r
  | some p, b :: r =>
    if p.low ≤ b.toNat ∧ b.toNat ≤ p.high then
      let value := p.value * 0x40 + (b.toNat - 0x80)
      if p.missing = 1 then some (Char.ofNat value) :: scan none r
      else scan (some ⟨value, p.missing - 1, 0x80, 0xBF⟩) r
    else
      none ::
        match lead b with
        | .char c => some c :: scan none r
        | .pending p => scan (some p) r
        | .ill => none :: scan none r

/-- The text of bytes, if they are well formed. -/
def decode? (bytes : Bytes) : Option (List Char) := (scan none bytes).mapM id

/-- The text of bytes, each ill-formed stretch replaced by U+FFFD. -/
def decodeLossy (bytes : Bytes) : List Char :=
  (scan none bytes).map fun c => c.getD (Char.ofNat 0xFFFD)

end Utf8

/-- The bytes of a string. -/
def utf8 (s : String) : Bytes := Utf8.encode s.toList

/-- The string of bytes in UTF-8. -/
def ofUtf8? (bytes : Bytes) : Option String := (Utf8.decode? bytes).map String.ofList

end ProcessGraph.Text
