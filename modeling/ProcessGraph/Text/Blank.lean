/-!
# Blanks around a text

* `isBlank`: the characters with the white-space property.
* `trim`: a text without the blanks at its ends.
-/

namespace ProcessGraph.Text

/-- Has the character the white-space property? -/
def isBlank (c : Char) : Bool :=
  let n := c.toNat
  (9 ≤ n && n ≤ 13) || n = 32 || n = 0x85 || n = 0xA0 || n = 0x1680 || (0x2000 ≤ n && n ≤ 0x200A)
    || n = 0x2028 || n = 0x2029 || n = 0x202F || n = 0x205F || n = 0x3000

/-- Drops the trailing elements that satisfy a test. -/
def dropTrailing {α : Type} (p : α → Bool) (as : List α) : List α :=
  (as.reverse.dropWhile p).reverse

/-- A text without the blanks at its ends. -/
def trim (cs : List Char) : List Char := dropTrailing isBlank (cs.dropWhile isBlank)

end ProcessGraph.Text
