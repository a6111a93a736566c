import ProcessGraph.Text.CombiningClass
import ProcessGraph.Text.Composite

/-!
# Normal form

Two texts that a reader cannot tell apart have one normal form: marks stand in the order of their
classes, and what can be written as one character is.

* `dissolve`: characters in their smallest parts.
* `arrange`: marks in the order of their classes; marks of one class keep their order.
* `compose`: each character with the marks that follow it, as far as there are composites.
* `normal`: the three in turn.
-/

namespace ProcessGraph.Text

/-- The smallest parts of a character, taken apart at most `depth` times. -/
def dissolveChar : Nat → Char → List Char
  | 0, c => [c]
  | depth + 1, c =>
    match parts? c with
    | some parts => parts.flatMap (dissolveChar depth)
    | none => [c]

/-- Characters in their smallest parts. No character is made of parts more than four deep. -/
def dissolve (cs : List Char) : List Char := cs.flatMap (dissolveChar 4)

/-- Puts a character in front of characters that are arranged: a mark moves behind the marks of
lower classes. -/
def place (c : Char) : List Char → List Char
  | [] => [c]
  | d :: ds =>
    if 0 < combiningClass d ∧ combiningClass d < combiningClass c then d :: place c ds
    else c :: d :: ds

/-- Characters with their marks in the order of their classes. -/
def arrange : List Char → List Char
  | [] => []
  | c :: cs => place c (arrange cs)

/-- Composes a character, behind which some marks already stand, with those that follow. A mark is
reached only past marks of lower classes. -/
def composeFrom (start : Char) (passed : List Char) : List Char → List Char
  | [] => start :: passed
  | c :: cs =>
    let reached := passed.all fun d => combiningClass d < combiningClass c
    match if reached then composite? start c else none with
    | some whole => composeFrom whole passed cs
    | none =>
      if combiningClass c = 0 then start :: (passed ++ composeFrom c [] cs)
      else composeFrom start (passed ++ [c]) cs

/-- Characters composed with the marks that follow them. -/
def compose : List Char → List Char
  | [] => []
  | c :: cs => composeFrom c [] cs

/-- The normal form of a text. -/
def normal (cs : List Char) : List Char := compose (arrange (dissolve cs))

end ProcessGraph.Text
