import ProcessGraph.Text.Utf8

/-!
# Hexadecimal digits

* `lowerDigit`, `upperDigit`: the digit of a number below sixteen.
* `value?`: the number of a digit of either case.
* `nat`, `upperNat`: a number as digits.
* `encode`, `decode?`: bytes as pairs of lower-case digits.
-/

namespace ProcessGraph.Text.Hex

/-- The digit of a number below sixteen, in lower case. -/
def lowerDigit (n : Nat) : Char :=
  if n < 10 then Char.ofNat ('0'.toNat + n) else Char.ofNat ('a'.toNat + (n - 10))

/-- The digit of a number below sixteen, in upper case. -/
def upperDigit (n : Nat) : Char :=
  if n < 10 then Char.ofNat ('0'.toNat + n) else Char.ofNat ('A'.toNat + (n - 10))

/-- The number of a digit. -/
def value? (c : Char) : Option Nat :=
  if '0' ≤ c ∧ c ≤ '9' then some (c.toNat - '0'.toNat)
  else if 'a' ≤ c ∧ c ≤ 'f' then some (c.toNat - 'a'.toNat + 10)
  else if 'A' ≤ c ∧ c ≤ 'F' then some (c.toNat - 'A'.toNat + 10)
  else none

/-- Bytes as pairs of digits. -/
def encode (bytes : Bytes) : List Char :=
  bytes.flatMap fun b => [lowerDigit (b.toNat / 16), lowerDigit (b.toNat % 16)]

/-- The bytes of pairs of digits. -/
def decode? : List Char → Option Bytes
  | [] => some []
  | a :: b :: r => do
    let x ← value? a
    let y ← value? b
    return (x * 16 + y).toUInt8 :: (← decode? r)
  | [_] => none

/-- A number as digits in lower case. -/
def nat (n : Nat) : List Char := Nat.toDigits 16 n

/-- A number as digits in upper case. -/
def upperNat (n : Nat) : List Char := (nat n).map Char.toUpper

end ProcessGraph.Text.Hex
