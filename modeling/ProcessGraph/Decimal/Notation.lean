import ProcessGraph.Decimal.Shortest

/-!
# Writing a decimal

* `Notation`: the choices a format makes when it writes a decimal.
* `Notation.render`: the text of a sign and digits under those choices.
-/

namespace ProcessGraph.Decimal

/-- The choices of a format: which decimal exponents are written positionally. -/
structure Notation where
  /-- the smallest exponent of the leading digit that is written positionally -/
  lowest : Int
  /-- the first exponent of the leading digit that is written with a power of ten -/
  bound : Int

/-- A digit string with a point after its first `n` digits. -/
def withPoint (digits : List Char) (n : Nat) : List Char :=
  digits.take n ++ '.' :: digits.drop n

/-- The digits written positionally; `k` is the exponent of the leading digit. At least one digit
stands on each side of the point. -/
def positional (digits : List Char) (k : Int) : List Char :=
  if k < 0 then '0' :: '.' :: (List.replicate ((-k).toNat - 1) '0' ++ digits)
  else
    let n := k.toNat + 1
    if n < digits.length then withPoint digits n
    else digits ++ List.replicate (n - digits.length) '0' ++ ['.', '0']

/-- The digits written with a power of ten, its sign always given. -/
def scientific (digits : List Char) (k : Int) : List Char :=
  let mantissa := if digits.length = 1 then digits else withPoint digits 1
  mantissa ++ 'e' :: (if k < 0 then '-' else '+') :: Nat.toDigits 10 k.natAbs

/-- The text of a decimal of the given sign. -/
def Notation.render (f : Notation) (negative : Bool) (d : Digits) : List Char :=
  let digits := Nat.toDigits 10 d.digits
  let k := d.exponent + digits.length - 1
  let body :=
    if d.digits = 0 then ['0', '.', '0']
    else if f.lowest ≤ k ∧ k < f.bound then positional digits k
    else scientific digits k
  if negative then '-' :: body else body

end ProcessGraph.Decimal
