import ProcessGraph.Text.Split
import ProcessGraph.Url.Error

/-!
# IPv4 addresses

* `number?`: one part of an address, in octal, decimal or hexadecimal.
* `endsInNumber`: does the last part of a domain look like a number?
* `parse`: the address of up to four parts, the last one filling the bytes that remain.
* `chars`: an address as four decimal bytes.
-/

namespace ProcessGraph.Url.Ipv4

/-- Is the character a decimal digit? -/
def isDigit (c : Char) : Bool := '0' ≤ c && c ≤ '9'

/-- The value of a digit in a base, if it is one. -/
def digit? (base : Nat) (c : Char) : Option Nat :=
  let v :=
    if isDigit c then some (c.toNat - '0'.toNat)
    else if 'a' ≤ c ∧ c ≤ 'f' then some (c.toNat - 'a'.toNat + 10)
    else if 'A' ≤ c ∧ c ≤ 'F' then some (c.toNat - 'A'.toNat + 10)
    else none
  v.filter (· < base)

/-- The number that digits of a base stand for. -/
def ofDigits? (base : Nat) (cs : List Char) : Option Nat :=
  cs.foldl (fun n c => n.bind fun n => (digit? base c).map (n * base + ·)) (some 0)

/-- One part of an address. A prefix tells its base; a part that is a bare prefix is zero. -/
def number? (cs : List Char) : Option Nat :=
  match cs with
  | [] => none
  | '0' :: 'x' :: r | '0' :: 'X' :: r => ofDigits? 16 r
  | '0' :: c :: r => ofDigits? 8 (c :: r)
  | cs => ofDigits? 10 cs

/-- The parts of a domain, without an empty last one. -/
def parts (domain : List Char) : List (List Char) :=
  let ps := Text.splitWhere (· = '.') domain
  if ps.getLast? = some [] ∧ 1 < ps.length then ps.dropLast else ps

/-- Does the last part of a domain look like a number? -/
def endsInNumber (domain : List Char) : Bool :=
  match (parts domain).getLast? with
  | none => false
  | some last => (!last.isEmpty && last.all isDigit) || (number? last).isSome

/-- The address of numeric parts. All but the last are single bytes; the last one fills the rest. -/
def ofNumbers? (ns : List Nat) : Option Nat :=
  match ns.getLast? with
  | none => none
  | some last =>
    let front := ns.dropLast
    if 4 < ns.length ∨ front.any (255 < ·) ∨ Nat.pow 256 (4 - front.length) ≤ last then none
    else some (front.foldr (fun n acc => n * Nat.pow 256 3 + acc / 256) 0 + last)

/-- The address that a domain spells. -/
def parse (domain : List Char) : Except Error Nat :=
  match ((parts domain).mapM number?).bind ofNumbers? with
  | some address => .ok address
  | none => .error .invalidIpv4

/-- An address as four decimal bytes. -/
def chars (address : Nat) : List Char :=
  let byte (k : Nat) := Nat.toDigits 10 (address / Nat.pow 256 k % 256)
  byte 3 ++ '.' :: (byte 2 ++ '.' :: (byte 1 ++ '.' :: byte 0))

end ProcessGraph.Url.Ipv4
