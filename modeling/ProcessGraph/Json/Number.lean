import ProcessGraph.Decimal.Notation

/-!
# Numbers of a document

* `Number`: a 64-bit integer, signed or unsigned, or a finite double.
* `Number.scan`: reads a number literal. Digits gather in a 64-bit significand; a literal without
  point and exponent that fits an integer stays one, any other becomes a double.
* `Number.chars`: writes a number.
-/

namespace ProcessGraph.Json

open ProcessGraph.Decimal

/-- A number as a document holds it. An integer and a double are different numbers even where
their values agree. -/
inductive Number where
  | integer (value : Int) (inRange : -0x8000000000000000 ≤ value ∧ value < 0x10000000000000000)
  | real (value : Double)
deriving DecidableEq

namespace Number

/-- Doubles are written positionally from `1e-5` up to, not including, `1e16`. -/
def doubleNotation : Decimal.Notation := ⟨-5, 16⟩

/-- The text of a double. -/
def doubleChars (x : Double) : List Char :=
  doubleNotation.render x.negative (Digits.ofCode x.code)

/-- The decimal text of an integer. -/
def intChars (i : Int) : List Char :=
  if i < 0 then '-' :: Nat.toDigits 10 i.natAbs else Nat.toDigits 10 i.natAbs

/-- The text of a number. -/
def chars : Number → List Char
  | integer i _ => intChars i
  | real x => doubleChars x

/-- Equality of numbers: same kind and same value, the two zero doubles being equal. -/
def same : Number → Number → Bool
  | integer a _, integer b _ => a == b
  | real a, real b => a.same b
  | _, _ => false

/-- A natural number as a document number, if it is in range. -/
def ofNat? (n : Nat) : Option Number :=
  if h : n < 0x10000000000000000 then some (integer n (by omega)) else none

/-! ## reading a literal -/

/-- Is the character a decimal digit? -/
def isDigit (c : Char) : Bool := '0' ≤ c && c ≤ '9'

/-- The value of a decimal digit. -/
def digit (c : Char) : Nat := c.toNat - '0'.toNat

/-- Appends digits to a significand while the result fits 64 bits; gives the digits left over. -/
def absorb (significand : Nat) : List Char → Nat × List Char
  | [] => (significand, [])
  | c :: cs =>
    let next := significand * 10 + digit c
    if next < 0x10000000000000000 then absorb next cs else (significand, c :: cs)

/-- The code nearest to a power of ten up to `10 ^ 308`. -/
def powerOfTen (e : Nat) : Nat := (Double.nearest (Nat.pow 10 e) 1).getD 0

/-- Multiplies a magnitude by a power of ten. A step is one rounded multiplication or division by
a power of at most `10 ^ 308`; `none` if the result is past the largest finite number. -/
def scale : Nat → Nat → Int → Option Nat
  | 0, _, _ => some 0
  | fuel + 1, code, e =>
    if e.natAbs ≤ 308 then
      if 0 ≤ e then Double.mul code (powerOfTen e.natAbs) else Double.div code (powerOfTen e.natAbs)
    else if code = 0 then some 0
    else if 0 ≤ e then none
    else
      match Double.div code (powerOfTen 308) with
      | some smaller => scale fuel smaller (e + 308)
      | none => none

/-- The double of a significand and a decimal exponent. -/
def double? (negative : Bool) (significand : Nat) (e : Int) : Option Number := do
  let code ← Double.nearest significand 1
  let scaled ← scale 3 code e
  let x ← Double.ofCode negative scaled
  return .real x

/-- The number of a literal without point and exponent: its sign, its significand, and how many
digits did not fit. -/
def whole? (negative : Bool) (significand dropped : Nat) : Option Number :=
  if dropped ≠ 0 then double? negative significand dropped
  else if negative then
    if h : 0 < significand ∧ significand ≤ 0x8000000000000000 then
      some (.integer (-(significand : Int)) (by omega))
    else double? true significand 0
  else ofNat? significand

/-- Splits off the leading digits. -/
def spanDigits (cs : List Char) : List Char × List Char := cs.span isDigit

/-- The exponent after an `e`, with the text that follows it. -/
def scanExponent (cs : List Char) : Option (Int × List Char) :=
  let (negative, cs) := match cs with
    | '+' :: r => (false, r)
    | '-' :: r => (true, r)
    | r => (false, r)
  match spanDigits cs with
  | ([], _) => none
  | (ds, r) =>
    let n : Nat := ds.foldl (fun n c => n * 10 + digit c) 0
    some (if negative then -(n : Int) else n, r)

/-- The fraction after a point: the significand and exponent it leads to, with the text that
follows it. -/
def scanFraction (significand : Nat) (e : Int) (cs : List Char) :
    Option (Nat × Int × List Char) :=
  match spanDigits cs with
  | ([], _) => none
  | (ds, r) =>
    let (s, left) := absorb significand ds
    some (s, e - (ds.length - left.length : Nat), r)

/-- The digits before a point: a lone zero, or digits that begin with none. -/
def scanWhole (cs : List Char) : Option (List Char × List Char) :=
  match spanDigits cs with
  | ([], _) => none
  | ('0' :: _ :: _, _) => none
  | (ds, r) => some (ds, r)

/-- What follows the digits and the fraction: an exponent, or nothing of the literal. -/
def finishReal (negative : Bool) (significand : Nat) (e : Int) (cs : List Char) :
    Option (Number × List Char) :=
  match cs with
  | 'e' :: r | 'E' :: r => do
    let (x, r) ← scanExponent r
    let n ← double? negative significand (e + x)
    return (n, r)
  | r => do
    let n ← double? negative significand e
    return (n, r)

/-- Reads a number literal at the front of a text. -/
def scan (cs : List Char) : Option (Number × List Char) := do
  let (negative, cs) := match cs with
    | '-' :: r => (true, r)
    | r => (false, r)
  let (ds, r) ← scanWhole cs
  let (significand, left) := absorb 0 ds
  match r with
  | '.' :: r =>
    let (s, e, r) ← scanFraction significand left.length r
    finishReal negative s e r
  | 'e' :: _ | 'E' :: _ => finishReal negative significand left.length r
  | _ =>
    let n ← whole? negative significand left.length
    return (n, r)

end Number

end ProcessGraph.Json
