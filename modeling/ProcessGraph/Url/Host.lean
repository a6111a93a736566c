import ProcessGraph.Text.Percent
import ProcessGraph.Url.Domain
import ProcessGraph.Url.Ipv4
import ProcessGraph.Url.Ipv6

/-!
# Hosts

* `Host`: a name or an address.
* `Host.parse`: the host of a web address. A name that ends in a number is an IPv4 address.
* `Host.parseOpaque`: the host of any other address, which is not interpreted.
* `Host.chars`: the text of a host.
-/

namespace ProcessGraph.Url

/-- The host of an address. A name may be empty where the scheme allows it. -/
inductive Host where
  | name (chars : List Char)
  | ipv4 (address : Nat)
  | ipv6 (pieces : List Nat)
deriving DecidableEq, Repr

namespace Host

/-- The text of a host. -/
def chars : Host → List Char
  | name cs => cs
  | ipv4 address => Ipv4.chars address
  | ipv6 pieces => '[' :: (Ipv6.chars pieces ++ [']'])

/-- The text between brackets, if it begins with one: the closing one must end it. -/
def bracketed (cs : List Char) : Option (Except Error Host) :=
  match cs with
  | '[' :: r =>
    if r.getLast? = some ']' then some ((Ipv6.parse r.dropLast).map ipv6)
    else some (.error .invalidIpv6)
  | _ => none

/-- The host that a text spells in a web address. -/
def parse (cs : List Char) : Except Error Host :=
  match bracketed cs with
  | some result => result
  | none => do
    let domain ← Domain.parse (Text.Percent.decode (Text.Utf8.encode cs))
    if Ipv4.endsInNumber domain then (Ipv4.parse domain).map ipv4 else .ok (name domain)

/-- May the character not stand in a host that is not interpreted? -/
def isForbidden (c : Char) : Bool :=
  c.toNat = 0 || "\t\n\r #/:<>?@[\\]^|".toList.contains c

/-- Is the character a control? -/
def isControl (c : Char) : Bool := c.toNat < 32 || c.toNat = 127

/-- The host that a text spells in an address of an unknown scheme. -/
def parseOpaque (cs : List Char) : Except Error Host :=
  match bracketed cs with
  | some result => result
  | none =>
    if cs.any isForbidden then .error .invalidDomainCharacter
    else .ok (name (Text.Percent.encode isControl cs))

end Host

end ProcessGraph.Url
