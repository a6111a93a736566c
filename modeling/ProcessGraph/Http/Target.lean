import ProcessGraph.Text.Split

/-!
# Targets of requests

The target of a request is a path with a query, a whole URL, an authority or an asterisk.

* `isAuthority`: is a text a host with a port, perhaps after credentials?
* `Target.parse?`: the path and the query that a target designates.
-/

namespace ProcessGraph.Http

/-! ## authorities -/

/-- May the character stand in an authority as it is? -/
def isAuthorityChar (c : Char) : Bool := c.isAlphanum || "!$&'()*+,-.:;=@[]_~".toList.contains c

/-- What has been seen of an authority: the colons of the part at hand and whether there is a percent
sign in it, the brackets, and whether an at sign was last. -/
structure AuthorityScan where
  colons : Nat
  hasPercent : Bool
  isOpen : Bool
  isClosed : Bool
  endsInAt : Bool

/-- The most colons of one part. -/
def maxColons : Nat := 8

/-- Looks at one more character. What came before an at sign or a closing bracket is no port. -/
def AuthorityScan.step? (s : AuthorityScan) (c : Char) : Option AuthorityScan :=
  let s := { s with endsInAt := false }
  if c = ':' then if s.colons < maxColons then some { s with colons := s.colons + 1 } else none
  else if c = '[' then
    if s.hasPercent || s.isOpen then none else some { s with isOpen := true }
  else if c = ']' then
    if s.isOpen && !s.isClosed then some { s with colons := 0, hasPercent := false, isClosed := true }
    else none
  else if c = '@' then some { s with colons := 0, hasPercent := false, endsInAt := true }
  else if c = '%' then some { s with hasPercent := true }
  else if isAuthorityChar c then some s
  else none

/-- Is the text an authority? It has a port at most after the host, and no percent sign there. -/
def isAuthority (chars : List Char) : Bool :=
  match chars.foldlM AuthorityScan.step? ⟨0, false, false, false, false⟩ with
  | some s => s.isOpen == s.isClosed && s.colons ≤ 1 && !s.hasPercent && !s.endsInAt
  | none => false

/-! ## targets -/

/-- What a target designates. -/
structure Target where
  path : List Char
  query : List Char
deriving DecidableEq, Repr

/-- The most bytes of a target. -/
def maxTargetLength : Nat := 65534

/-- May the character stand in a path? -/
def isPathChar (c : Char) : Bool :=
  let n := c.toNat
  n = 0x21 || n = 0x22 || (0x24 ≤ n && n ≤ 0x3B) || n = 0x3D || (0x40 ≤ n && n ≠ 0x60)

/-- May the character stand in a query? -/
def isQueryChar (c : Char) : Bool :=
  let n := c.toNat
  n = 0x21 || (0x24 ≤ n && n ≤ 0x3B) || n = 0x3D || 0x3F ≤ n

/-- The target of a path and a query as they are written. The root stands for a missing path. What
follows a number sign does not count. -/
def Target.ofPath? (chars : List Char) : Option Target :=
  let chars := chars.takeWhile (· ≠ '#')
  let path := chars.takeWhile (· ≠ '?')
  let query := chars.drop (path.length + 1)
  if path.all isPathChar && query.all isQueryChar then
    some ⟨if path.isEmpty then ['/'] else path, query⟩
  else none

/-- May the character stand in the scheme of a target? -/
def isSchemeChar (c : Char) : Bool := c.isAlphanum || "+-.~".toList.contains c

/-- The most characters of a scheme. -/
def maxSchemeLength : Nat := 64

/-- A target without its scheme and the two slashes after it. -/
def afterScheme? (chars : List Char) : Option (List Char) :=
  let (scheme, rest) := chars.span isSchemeChar
  match rest with
  | ':' :: '/' :: '/' :: rest => if scheme.length ≤ maxSchemeLength then some rest else none
  | _ => none

/-- What a target designates. The path of an authority is empty. -/
def Target.parse? (chars : List Char) : Option Target :=
  match chars, afterScheme? chars with
  | [], _ => none
  | ['*'], _ => some ⟨['*'], []⟩
  | '/' :: _, _ => ofPath? chars
  | _, none => if isAuthority chars then some ⟨[], []⟩ else none
  | _, some rest =>
    let authority := rest.takeWhile fun c => c ≠ '/' && c ≠ '?' && c ≠ '#'
    if !authority.isEmpty && isAuthority authority then ofPath? (rest.drop authority.length)
    else none

end ProcessGraph.Http
