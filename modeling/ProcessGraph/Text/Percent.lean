import ProcessGraph.Text.Hex

/-!
# Percent-encoding

* `encodeByte`: a byte as a percent sign and two upper-case digits.
* `encode`: a text with the bytes of the characters of a set encoded.
* `decode`: bytes with every complete escape replaced by its byte.
-/

namespace ProcessGraph.Text.Percent

/-- A byte as a percent sign and two digits. -/
def encodeByte (b : UInt8) : List Char :=
  ['%', Hex.upperDigit (b.toNat / 16), Hex.upperDigit (b.toNat % 16)]

/-- The escaped form of a character. -/
def encodeChar (c : Char) : List Char := (Utf8.encodeChar c).flatMap encodeByte

/-- A text with the characters of a set, and all outside ASCII, written as escapes. -/
def encode (reserved : Char → Bool) (cs : List Char) : List Char :=
  cs.flatMap fun c => if c.toNat ≥ 128 || reserved c then encodeChar c else [c]

/-- The number of a byte that is a hexadecimal digit in ASCII. -/
def digit? (b : UInt8) : Option Nat :=
  if b.toNat < 128 then Hex.value? (Char.ofNat b.toNat) else none

/-- Bytes with every complete escape replaced by its byte; a percent sign without two digits stays
as it is. -/
def decode : Bytes → Bytes
  | [] => []
  | p :: a :: b :: r =>
    if p = 0x25 then
      match digit? a, digit? b with
      | some x, some y => (x * 16 + y).toUInt8 :: decode r
      | _, _ => p :: decode (a :: b :: r)
    else p :: decode (a :: b :: r)
  | b :: r => b :: decode r

end ProcessGraph.Text.Percent
