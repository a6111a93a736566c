/-!
# Why a text is no absolute URL

* `Url.Error`: the causes.
* `Url.Error.message`: their wording.
-/

namespace ProcessGraph.Url

/-- Why a text is no absolute URL. -/
inductive Error where
  | relativeWithoutBase
  | emptyHost
  | invalidPort
  | invalidDomain
  | invalidDomainCharacter
  | invalidIpv4
  | invalidIpv6
deriving DecidableEq, Repr

/-- The wording of a cause. -/
def Error.message : Error → String
  | relativeWithoutBase => "relative URL without a base"
  | emptyHost => "empty host"
  | invalidPort => "invalid port number"
  | invalidDomain => "invalid international domain name"
  | invalidDomainCharacter => "invalid domain character"
  | invalidIpv4 => "invalid IPv4 address"
  | invalidIpv6 => "invalid IPv6 address"

end ProcessGraph.Url
