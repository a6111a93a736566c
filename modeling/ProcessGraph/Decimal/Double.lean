/-!
# Finite double-precision numbers

* `Double`: a sign and the 63 low bits of the binary64 pattern, so that codes are ordered as the
  magnitudes they stand for.
* `Double.parts`, `Double.ratio`: the magnitude as `m * 2 ^ q` and as a quotient of naturals.
* `Double.nearest`: the code nearest to a quotient, ties to the even code, `none` past the largest
  finite number.
* `Double.mul`, `Double.div`: arithmetic on magnitudes, rounded once.
-/

namespace ProcessGraph.Decimal

/-- The first code that stands for no finite number. -/
def Double.codeBound : Nat := 2047 * Nat.pow 2 52

/-- A finite binary64 number: `code` is its bit pattern without the sign. -/
structure Double where
  negative : Bool
  code : Nat
  code_lt : code < Double.codeBound
deriving DecidableEq

namespace Double

/-- Quotient rounded to the nearest natural number, a tie to the even one. -/
def roundDiv (n d : Nat) : Nat :=
  let q := n / d
  let r := n % d
  if 2 * r > d ∨ (2 * r = d ∧ q % 2 = 1) then q + 1 else q

/-- The magnitude of a code as `m * 2 ^ q`, given as `(m, q + 1074)`. -/
def parts (code : Nat) : Nat × Nat :=
  if code < Nat.pow 2 52 then (code, 0)
  else (Nat.pow 2 52 + code % Nat.pow 2 52, code / Nat.pow 2 52 - 1)

/-- The magnitude of a code as numerator and denominator. -/
def ratio (code : Nat) : Nat × Nat :=
  let (m, q) := parts code
  if q < 1074 then (m, Nat.pow 2 (1074 - q)) else (m * Nat.pow 2 (q - 1074), 1)

/-- The binary exponent of `n / d`: the `k` with `2 ^ k ≤ n / d < 2 ^ (k + 1)`, for `n, d ≠ 0`. -/
def log2Ratio (n d : Nat) : Int :=
  let k : Int := (Nat.log2 n : Int) - (Nat.log2 d : Int)
  let fits := if 0 ≤ k then d * Nat.pow 2 k.toNat ≤ n else d ≤ n * Nat.pow 2 (-k).toNat
  if fits then k else k - 1

/-- The code nearest to `n / d`, or `none` if the quotient rounds past the largest finite number. -/
def nearest (n d : Nat) : Option Nat :=
  if n = 0 then some 0
  else
    let q := max (log2Ratio n d - 52) (-1074)
    let m :=
      if 0 ≤ q then roundDiv n (d * Nat.pow 2 q.toNat) else roundDiv (n * Nat.pow 2 (-q).toNat) d
    let code := (q + 1074).toNat * Nat.pow 2 52 + m
    if code < codeBound then some code else none

/-- Product of two magnitudes. -/
def mul (a b : Nat) : Option Nat :=
  let (n, d) := ratio a
  let (n', d') := ratio b
  nearest (n * n') (d * d')

/-- Quotient of two magnitudes. -/
def div (a b : Nat) : Option Nat :=
  let (n, d) := ratio a
  let (n', d') := ratio b
  nearest (n * d') (d * n')

/-- The number with the given sign and code, if the code stands for one. -/
def ofCode (negative : Bool) (code : Nat) : Option Double :=
  if h : code < codeBound then some ⟨negative, code, h⟩ else none

/-- Zero of either sign. -/
def zero (negative : Bool) : Double := ⟨negative, 0, by decide⟩

/-- Numerical equality: the two zeros are equal. -/
def same (a b : Double) : Bool :=
  a.code == b.code && (a.negative == b.negative || a.code == 0)

end Double

end ProcessGraph.Decimal
