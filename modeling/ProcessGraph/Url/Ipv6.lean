import ProcessGraph.Url.Ipv4

/-!
# IPv6 addresses

* `parse`: the eight pieces of an address, a double colon standing for a run of zeros and the last
  two pieces possibly written as an IPv4 address.
* `chars`: the shortest text, the first longest run of at least two zeros written as a double colon.
-/

namespace ProcessGraph.Url.Ipv6

/-- One piece: one to four hexadecimal digits. -/
def piece? (cs : List Char) : Option Nat :=
  if cs.isEmpty ∨ 4 < cs.length then none else Ipv4.ofDigits? 16 cs

/-- One byte of an embedded IPv4 address: decimal, without leading zeros. -/
def byte? (cs : List Char) : Option Nat :=
  match cs with
  | [] => none
  | '0' :: _ :: _ => none
  | cs => if cs.all Ipv4.isDigit then (Ipv4.ofDigits? 10 cs).filter (· < 256) else none

/-- The two pieces of an embedded IPv4 address. -/
def embedded? (cs : List Char) : Option (List Nat) := do
  match ← (Text.splitWhere (· = '.') cs).mapM byte? with
  | [a, b, c, d] => some [a * 256 + b, c * 256 + d]
  | _ => none

/-- The pieces of a colon-separated list. Only the very end may be an embedded IPv4 address. -/
def pieces? : List (List Char) → Option (List Nat)
  | [] => some []
  | [last] => if last.contains '.' then embedded? last else (piece? last).map ([·])
  | p :: rest => do
    let n ← piece? p
    return n :: (← pieces? rest)

/-- The pieces on one side of a double colon; an empty side has none. -/
def side? (cs : List Char) : Option (List Nat) :=
  if cs.isEmpty then some [] else pieces? (Text.splitWhere (· = ':') cs)

/-- The texts around the first double colon. -/
def splitDouble : List Char → Option (List Char × List Char)
  | [] => none
  | [_] => none
  | a :: b :: r =>
    if a = ':' ∧ b = ':' then some ([], r)
    else (splitDouble (b :: r)).map fun (front, back) => (a :: front, back)

/-- The eight pieces that a text spells. -/
def pieces8? (cs : List Char) : Option (List Nat) :=
  match splitDouble cs with
  | none => (side? cs).filter (·.length = 8)
  | some (front, back) => do
    if front.contains '.' then none
    else
      let a ← side? front
      let b ← side? back
      if a.length + b.length < 8 then some (a ++ List.replicate (8 - a.length - b.length) 0 ++ b)
      else none

/-- The address that a text between brackets spells. -/
def parse (cs : List Char) : Except Error (List Nat) :=
  match pieces8? cs with
  | some ps => .ok ps
  | none => .error .invalidIpv6

/-- The longest run of zeros as start and length, the first of equals. -/
def longestZeros (ps : List Nat) : Nat × Nat :=
  (List.range ps.length).foldl (fun best i =>
    let n := ((ps.drop i).takeWhile (· = 0)).length
    if best.2 < n then (i, n) else best) (0, 0)

/-- Pieces in hexadecimal, separated by colons. -/
def joined : List Nat → List Char
  | [] => []
  | [p] => Nat.toDigits 16 p
  | p :: q :: rest => Nat.toDigits 16 p ++ ':' :: joined (q :: rest)

/-- The shortest text of an address. -/
def chars (ps : List Nat) : List Char :=
  let (start, n) := longestZeros ps
  if n < 2 then joined ps
  else joined (ps.take start) ++ ':' :: ':' :: joined (ps.drop (start + n))

end ProcessGraph.Url.Ipv6
