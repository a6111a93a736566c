import ProcessGraph.Text.Normal
import ProcessGraph.Text.Printable
import ProcessGraph.Text.Split
import ProcessGraph.Text.Utf8
import ProcessGraph.Url.Direction
import ProcessGraph.Url.Error
import ProcessGraph.Url.Folding
import ProcessGraph.Url.Joining
import ProcessGraph.Url.Punycode

/-!
# Domain names

* `isForbidden`: the ASCII characters that no domain name holds.
* `isLabel`: the labels, not in ASCII, that may stand in a domain name.
* `label?`: a label as it is shown and as it is written. Labels that are not in ASCII are written in
  Punycode.
* `Domain.parse`: the ASCII form of the domain name that bytes spell.
-/

namespace ProcessGraph.Url.Domain

/-- Is it an ASCII character that no domain name holds? -/
def isForbidden (c : Char) : Bool :=
  c.toNat ≤ 32 || c.toNat = 127 || "%#/:<>?@[\\]^|".toList.contains c

/-- The characters of a domain name after folding, in normal form. -/
def fold (cs : List Char) : List Char := Text.normal (cs.flatMap foldChar)

/-- The boundaries of characters that have a glyph and yet stand in no label. -/
def refusedBoundaries : Array Nat := #[
  0x2024, 0x2027, 0x2488, 0x249c, 0x2ff0, 0x3000, 0x31ef, 0x31f0, 0x33c2, 0x33c3, 0x33c7, 0x33c8,
  0x33d8, 0x33d9, 0xfe12, 0xfe13, 0xfe19, 0xfe1a, 0xfe30, 0xfe31, 0xfe52, 0xfe53, 0xfffc, 0xfffe,
  0x1f100, 0x1f101]

/-- May the character stand in a label? Of the characters without a glyph only the joiners may. -/
def isAdmitted (c : Char) : Bool :=
  c.toNat < 128 || c.toNat = 0x200C || c.toNat = 0x200D
    || !(Text.isUnprintable c || Text.insideRanges refusedBoundaries c.toNat)

/-- The letters that a label in Punycode begins with. -/
def punycodeSign : List Char := ['x', 'n', '-', '-']

/-- May the label, not in ASCII, stand in a domain name? It is its own folding, its characters are
admitted, it does not begin with a mark, and its joiners stand where they may. -/
def isLabel (label : List Char) : Bool :=
  fold label == label && label.all isAdmitted && !label.head?.any Text.isMark
    && joinersAllowed [] label && !punycodeSign.isPrefixOf label

/-- Is every character in ASCII? -/
def isAscii (cs : List Char) : Bool := cs.all (·.toNat < 128)

/-- Is the text, which is its own folding, what a label not in ASCII is written as? -/
def isEncoding (encoded label : List Char) : Bool :=
  isAscii encoded && encoded.all (fun c => foldChar c == [c]) && !isAscii label && isLabel label
    && Punycode.decode? encoded == some label

/-- A label as it is shown, and as it is written in ASCII. -/
structure Label where
  shown : List Char
  written : List Char

/-- The label that a folded text spells. Long ones are refused, as are long ones in Punycode. -/
def label? (text : List Char) : Option Label :=
  match text with
  | 'x' :: 'n' :: '-' :: '-' :: encoded =>
    if 2000 < encoded.length then none
    else
      (Punycode.decode? encoded).bind fun shown =>
        if isEncoding encoded shown then some ⟨shown, text⟩ else none
  | _ =>
    if isAscii text then some ⟨text, text⟩
    else if 1000 < text.length then none
    else
      let encoded := Punycode.encode text
      if isEncoding encoded text then some ⟨text, punycodeSign ++ encoded⟩ else none

/-- Can the labels be told apart when they are shown beside each other? -/
def isOrderly (labels : List Label) : Bool :=
  !(labels.any fun l => l.shown.any Direction.turns)
    || labels.all fun l => Direction.isOrderly l.shown

/-- Labels joined by dots. -/
def join : List (List Char) → List Char
  | [] => []
  | [l] => l
  | l :: m :: rest => l ++ '.' :: join (m :: rest)

/-- The ASCII form of the domain name that bytes spell. -/
def ascii? (bytes : Text.Bytes) : Option (List Char) := do
  let cs ← Text.Utf8.decode? bytes
  let labels ← (Text.splitWhere (· = '.') (fold cs)).mapM label?
  let domain := join (labels.map Label.written)
  if isOrderly labels && !domain.any isForbidden then some domain else none

/-- The ASCII form of the domain name that bytes spell, or the cause why there is none. -/
def parse (bytes : Text.Bytes) : Except Error (List Char) :=
  match ascii? bytes with
  | some [] => .error .emptyHost
  | some domain => .ok domain
  | none => .error .invalidDomain

end ProcessGraph.Url.Domain
