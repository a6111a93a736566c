import ProcessGraph.Decimal.Double

/-!
# The fewest digits that read back

* `Digits`: a decimal `digits * 10 ^ exponent`.
* `interval`: the numbers that round to a code.
* `Digits.ofCode`: on the coarsest decimal grid that meets the interval, the point nearest to the
  number.
-/

namespace ProcessGraph.Decimal

/-- The decimal `digits * 10 ^ exponent`. -/
structure Digits where
  digits : Nat
  exponent : Int
deriving DecidableEq, Repr

/-- The numbers that round to one code: from `low / scale` to `high / scale`, around
`middle / scale`, the ends included if `closed`. -/
structure Interval where
  low : Nat
  middle : Nat
  high : Nat
  scale : Nat
  closed : Bool

/-- The interval of a code. Below a power of two the gap is half as wide. -/
def interval (code : Nat) : Interval :=
  let (m, q) := Double.parts code
  let below := if m = Nat.pow 2 52 ∧ 0 < q then 1 else 2
  if q < 1074 then
    ⟨4 * m - below, 4 * m, 4 * m + 2, 4 * Nat.pow 2 (1074 - q), m % 2 = 0⟩
  else
    let u := Nat.pow 2 (q - 1074)
    ⟨(4 * m - below) * u, 4 * m * u, (4 * m + 2) * u, 4, m % 2 = 0⟩

/-- How many decimal digits a natural number is written with. -/
def width (n : Nat) : Nat := (Nat.toDigits 10 n).length

/-- The decimal exponent of `n / d`: the `k` with `10 ^ k ≤ n / d < 10 ^ (k + 1)`. -/
def log10Ratio (n d : Nat) : Int :=
  if d ≤ n then (width (n / d) : Int) - 1
  else
    let c := width (d / n)
    if n * Nat.pow 10 (c - 1) = d then -((c : Int) - 1) else -(c : Int)

namespace Interval

/-- Is `d * 10 ^ e` in the interval? -/
def holds (i : Interval) (d : Nat) (e : Int) : Bool :=
  let x := if 0 ≤ e then d * Nat.pow 10 e.toNat * i.scale else d * i.scale
  let s := if 0 ≤ e then 1 else Nat.pow 10 (-e).toNat
  if i.closed then i.low * s ≤ x && x ≤ i.high * s else i.low * s < x && x < i.high * s

/-- The two neighbours of the middle on the grid of step `10 ^ e`. The flag tells that the upper
one is the nearer. -/
def neighbours (i : Interval) (e : Int) : Nat × Nat × Bool :=
  let n := if 0 ≤ e then i.middle else i.middle * Nat.pow 10 (-e).toNat
  let d := if 0 ≤ e then i.scale * Nat.pow 10 e.toNat else i.scale
  let q := n / d
  let r := n % d
  (q, q + 1, 2 * r > d ∨ (2 * r = d ∧ q % 2 = 1))

/-- The point of the grid of step `10 ^ e` to write, if the interval meets the grid. -/
def pick (i : Interval) (e : Int) : Option Nat :=
  let (lower, upper, upperNearer) := i.neighbours e
  match i.holds lower e, i.holds upper e with
  | true, true => some (if upperNearer then upper else lower)
  | true, false => some lower
  | false, true => some upper
  | false, false => none

end Interval

/-- Drops trailing zeros, at most `fuel` of them. -/
def stripZeros : Nat → Digits → Digits
  | 0, d => d
  | fuel + 1, d =>
    if d.digits ≠ 0 ∧ d.digits % 10 = 0 then stripZeros fuel ⟨d.digits / 10, d.exponent + 1⟩ else d

/-- The fewest digits that read back as the code, and among those the nearest to it. Seventeen
digits always suffice. -/
def Digits.ofCode (code : Nat) : Digits :=
  if code = 0 then ⟨0, 0⟩
  else
    let i := interval code
    let k := log10Ratio i.middle i.scale
    let found := (List.range 17).findSome? fun (n : Nat) =>
      let e := k - n
      (i.pick e).map fun d => Digits.mk d e
    stripZeros 20 (found.getD ⟨0, 0⟩)

end ProcessGraph.Decimal
