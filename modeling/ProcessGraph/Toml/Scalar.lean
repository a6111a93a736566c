import ProcessGraph.Json.Value
import ProcessGraph.Toml.Text

/-!
# Numbers and dates of a configuration file

* `scanNumber`: an integer of 64 bits or a float. No setting is a float, so that it is one is all
  that is kept of it.
* `scanDateTime`: a date, a time of day, or both, as a text of one form.
-/

namespace ProcessGraph.Toml

open Json (Value)

/-! ## numbers -/

/-- Is the character a decimal digit? -/
def isDigit (c : Char) : Bool := '0' ≤ c && c ≤ '9'

/-- The digits at the front of a text, after the first of which single underscores may stand between
two. An underscore elsewhere is refused. -/
def scanMoreDigits (p : Char → Bool) : List Char → Option (List Char × List Char)
  | [] => some ([], [])
  | '_' :: d :: r => if p d then onto [d] (scanMoreDigits p r) else none
  | c :: r =>
    if p c then onto [c] (scanMoreDigits p r) else if c = '_' then none else some ([], c :: r)

/-- At least one digit at the front of a text. -/
def scanDigits (p : Char → Bool) : List Char → Option (List Char × List Char)
  | [] => none
  | c :: r => if p c then onto [c] (scanMoreDigits p r) else none

/-- The number of digits in a base. -/
def valueOf (base : Nat) (digits : List Char) : Nat :=
  digits.foldl (fun n d => n * base + (Text.Hex.value? d).getD 0) 0

/-- An integer as a value, if it is in the signed range of 64 bits. -/
def integer? (i : Int) : Option Value :=
  if h : -0x8000000000000000 ≤ i ∧ i < 0x8000000000000000 then some (.number (.integer i (by omega)))
  else none

/-- The value that stands for every float. -/
def someFloat : Value := .number (.real (Decimal.Double.zero false))

/-- An integer in a base that is a power of two. -/
def scanRadix (base : Nat) (cs : List Char) : Option (Value × List Char) := do
  let (digits, r) ← scanDigits (fun c => (Text.Hex.value? c).any (· < base)) cs
  let v ← integer? (valueOf base digits)
  return (v, r)

/-- The digits before the point: no zero in front of another digit. -/
def scanWhole : List Char → Option (List Char × List Char)
  | '0' :: r => some (['0'], r)
  | cs => scanDigits isDigit cs

/-- The digits after the point, if there is one. -/
def scanFraction : List Char → Option (Option (List Char) × List Char)
  | '.' :: r => (scanDigits isDigit r).map fun (ds, r) => (some ds, r)
  | cs => some (none, cs)

/-- A sign at the front of a text: is it a minus, is there one at all, and the text after it. -/
def scanSign : List Char → Bool × Bool × List Char
  | '+' :: r => (false, true, r)
  | '-' :: r => (true, true, r)
  | cs => (false, false, cs)

/-- The exponent, if there is one. -/
def scanExponent : List Char → Option (Option Int × List Char)
  | c :: r =>
    if c = 'e' ∨ c = 'E' then
      let (negative, _, r) := scanSign r
      (scanDigits isDigit r).map fun (ds, r) =>
        let n : Int := valueOf 10 ds
        (some (if negative then -n else n), r)
    else some (none, c :: r)
  | [] => some (none, [])

/-- Is the decimal `digits · 10 ^ exponent` beyond the greatest double? -/
def overflows (digits : Nat) (exponent : Int) : Bool :=
  let limit := Nat.pow 2 1024 - Nat.pow 2 970
  if digits = 0 then false
  else if exponent > 400 then true
  else if 0 ≤ exponent then limit ≤ digits * Nat.pow 10 exponent.toNat
  else limit ≤ digits / Nat.pow 10 (min (-exponent).toNat (Nat.toDigits 10 digits).length)

/-- A decimal number after its sign. -/
def scanDecimal (negative : Bool) (cs : List Char) : Option (Value × List Char) := do
  let (whole, r) ← scanWhole cs
  let (fraction, r) ← scanFraction r
  let (exponent, r) ← scanExponent r
  if fraction.isNone ∧ exponent.isNone then
    let n : Int := valueOf 10 whole
    let v ← integer? (if negative then -n else n)
    return (v, r)
  else
    let fraction := fraction.getD []
    let scale : Int := exponent.getD 0 - (fraction.length : Int)
    if !negative && overflows (valueOf 10 (whole ++ fraction)) scale then none
    return (someFloat, r)

/-- A number. -/
def scanNumber (cs : List Char) : Option (Value × List Char) :=
  match scanSign cs with
  | (_, _, 'i' :: 'n' :: 'f' :: r) => some (someFloat, r)
  | (_, _, 'n' :: 'a' :: 'n' :: r) => some (someFloat, r)
  | (_, false, '0' :: 'x' :: r) => scanRadix 16 r
  | (_, false, '0' :: 'o' :: r) => scanRadix 8 r
  | (_, false, '0' :: 'b' :: r) => scanRadix 2 r
  | (negative, _, r) => scanDecimal negative r

/-! ## dates and times -/

/-- A number of two digits, at least `low` and at most `high`. -/
def twoDigits? (low high : Nat) (a b : Char) : Option Nat :=
  if isDigit a ∧ isDigit b then
    let n := valueOf 10 [a, b]
    if low ≤ n ∧ n ≤ high then some n else none
  else none

/-- The days of a month. -/
def daysIn (year month : Nat) : Nat :=
  if month = 2 then
    if year % 4 = 0 ∧ (year % 100 ≠ 0 ∨ year % 400 = 0) then 29 else 28
  else if month = 4 ∨ month = 6 ∨ month = 9 ∨ month = 11 then 30
  else 31

/-- A date at the front of a text: its text, and what follows. -/
def scanDate : List Char → Option (List Char × List Char)
  | y :: y' :: y'' :: y''' :: '-' :: m :: m' :: '-' :: d :: d' :: r =>
    if [y, y', y'', y'''].all isDigit then do
      let month ← twoDigits? 1 12 m m'
      let _ ← twoDigits? 1 (daysIn (valueOf 10 [y, y', y'', y''']) month) d d'
      return ([y, y', y'', y''', '-', m, m', '-', d, d'], r)
    else none
  | _ => none

/-- Does a text begin like a date? -/
def beginsDate : List Char → Bool
  | a :: b :: c :: d :: '-' :: _ => [a, b, c, d].all isDigit
  | _ => false

/-- The fraction of a second to nine places, without trailing zeros. -/
def scanSecondFraction : List Char → Option (List Char × List Char)
  | '.' :: r =>
    let digits := r.takeWhile isDigit
    if digits.isEmpty then none
    else
      let kept := ((digits.take 9).reverse.dropWhile (· = '0')).reverse
      some (if kept.isEmpty then [] else '.' :: kept, r.dropWhile isDigit)
  | cs => some ([], cs)

/-- A time of day at the front of a text. -/
def scanTime : List Char → Option (List Char × List Char)
  | h :: h' :: ':' :: m :: m' :: ':' :: s :: s' :: r => do
    let _ ← twoDigits? 0 23 h h'
    let _ ← twoDigits? 0 59 m m'
    let _ ← twoDigits? 0 60 s s'
    let (fraction, r) ← scanSecondFraction r
    return ([h, h', ':', m, m', ':', s, s'] ++ fraction, r)
  | _ => none

/-- Does a text begin like a time of day? -/
def beginsTime : List Char → Bool
  | h :: h' :: ':' :: _ => (twoDigits? 0 23 h h').isSome
  | _ => false

/-- The offset of a time from universal time, if there is one. -/
def scanOffset : List Char → Option (List Char × List Char)
  | 'Z' :: r | 'z' :: r => some (['Z'], r)
  | sign :: r =>
    if sign = '+' ∨ sign = '-' then
      match r with
      | h :: h' :: ':' :: m :: m' :: r => do
        let hours ← twoDigits? 0 23 h h'
        let minutes ← twoDigits? 0 59 m m'
        let sign := if hours = 0 ∧ minutes = 0 then '+' else sign
        return ([sign, h, h', ':', m, m'], r)
      | _ => none
    else some ([], sign :: r)
  | [] => some ([], [])

/-- The key under which a date-time stands in its document. -/
def dateTimeKey : String := "$__toml_private_datetime"

/-- A date-time as a value. -/
def dateTime (text : List Char) : Value := .object [(dateTimeKey, .string (String.ofList text))]

/-- A date-time at the front of a text that begins like one. -/
def scanDateTime (cs : List Char) : Option (Value × List Char) :=
  if beginsDate cs then
    match scanDate cs with
    | none => none
    | some (date, r) =>
      match r with
      | c :: r' =>
        if (c = 'T' || c = 't' || c = ' ') && beginsTime r' then do
          let (time, r) ← scanTime r'
          let (offset, r) ← scanOffset r
          return (dateTime (date ++ 'T' :: (time ++ offset)), r)
        else some (dateTime date, r)
      | [] => some (dateTime date, [])
  else (scanTime cs).map fun (time, r) => (dateTime time, r)

end ProcessGraph.Toml
