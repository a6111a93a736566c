import ProcessGraph.Text.Percent
import ProcessGraph.Text.Split

/-!
# Form-encoded pairs

* `encode`: a text with blanks as plus signs and all but letters, digits and `*-._` as escapes.
* `pair`: a name and a value joined by an equals sign.
* `pairs`: the decoded pairs of a query, ill-formed bytes replaced.
-/

namespace ProcessGraph.Text.FormEncoded

/-- Does the character stand for itself? -/
def isPlain (c : Char) : Bool := c.isAlphanum || c = '*' || c = '-' || c = '.' || c = '_'

/-- The encoded form of a text. -/
def encode (cs : List Char) : List Char :=
  cs.flatMap fun c =>
    if c = ' ' then ['+'] else if isPlain c then [c] else Percent.encodeChar c

/-- An encoded pair. -/
def pair (name value : List Char) : List Char := encode name ++ '=' :: encode value

/-- The text that encoded bytes stand for. -/
def decode (bytes : Bytes) : List Char :=
  Utf8.decodeLossy (Percent.decode (bytes.map fun b => if b = 0x2B then 0x20 else b))

/-- The name and the value of one encoded pair; the value is empty where there is no equals
sign. -/
def decodePair (bytes : Bytes) : List Char × List Char :=
  let name := bytes.takeWhile (· ≠ 0x3D)
  (decode name, decode (bytes.drop (name.length + 1)))

/-- The pairs of a query. Empty stretches between ampersands are none. -/
def pairs (query : Bytes) : List (List Char × List Char) :=
  ((splitWhere (· = 0x26) query).filter fun part => !part.isEmpty).map decodePair

end ProcessGraph.Text.FormEncoded
