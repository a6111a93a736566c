import ProcessGraph.Json.Value
import ProcessGraph.Text.Hex

/-!
# Writing documents

* `Value.compact`: the text without blanks.
* `Value.pretty`: the text with one item per line, two blanks per level.
* `quote`: a string with its quotes; only the quote, the backslash and control characters are
  escaped.
-/

namespace ProcessGraph.Json

/-- One character of a string as it is written between quotes. -/
def escape (c : Char) : List Char :=
  if c = '"' then ['\\', '"']
  else if c = '\\' then ['\\', '\\']
  else if c = '\n' then ['\\', 'n']
  else if c = '\r' then ['\\', 'r']
  else if c = '\t' then ['\\', 't']
  else if c.toNat = 8 then ['\\', 'b']
  else if c.toNat = 12 then ['\\', 'f']
  else if c.toNat < 32 then
    ['\\', 'u', '0', '0', Text.Hex.lowerDigit (c.toNat / 16), Text.Hex.lowerDigit (c.toNat % 16)]
  else [c]

/-- A string between quotes. -/
def quote (s : String) : List Char :=
  '"' :: (s.toList.flatMap escape ++ ['"'])

namespace Value

mutual

/-- The compact text of a value. -/
def chars : Value → List Char
  | null => ['n', 'u', 'l', 'l']
  | bool true => ['t', 'r', 'u', 'e']
  | bool false => ['f', 'a', 'l', 's', 'e']
  | number n => n.chars
  | string s => quote s
  | array items => '[' :: (itemChars items ++ [']'])
  | object ms => '{' :: (memberChars ms ++ ['}'])

/-- The items of an array, separated by commas. -/
def itemChars : List Value → List Char
  | [] => []
  | [v] => chars v
  | v :: w :: rest => chars v ++ ',' :: itemChars (w :: rest)

/-- The members of an object, separated by commas. -/
def memberChars : List (String × Value) → List Char
  | [] => []
  | [(k, v)] => quote k ++ ':' :: chars v
  | (k, v) :: w :: rest => quote k ++ ':' :: (chars v ++ ',' :: memberChars (w :: rest))

end

/-- The compact text of a value. -/
def compact (v : Value) : String := String.ofList v.chars

/-- A line break and the indent of a level. -/
def newline (level : Nat) : List Char := '\n' :: List.replicate (2 * level) ' '

mutual

/-- The indented text of a value at a level. -/
def prettyChars (level : Nat) : Value → List Char
  | array [] => ['[', ']']
  | array items => '[' :: (prettyItems (level + 1) items ++ (newline level ++ [']']))
  | object [] => ['{', '}']
  | object ms => '{' :: (prettyMembers (level + 1) ms ++ (newline level ++ ['}']))
  | null => ['n', 'u', 'l', 'l']
  | bool true => ['t', 'r', 'u', 'e']
  | bool false => ['f', 'a', 'l', 's', 'e']
  | number n => n.chars
  | string s => quote s

/-- The items of an array, one per line. -/
def prettyItems (level : Nat) : List Value → List Char
  | [] => []
  | [v] => newline level ++ prettyChars level v
  | v :: w :: rest =>
    newline level ++ (prettyChars level v ++ ',' :: prettyItems level (w :: rest))

/-- The members of an object, one per line. -/
def prettyMembers (level : Nat) : List (String × Value) → List Char
  | [] => []
  | [(k, v)] => newline level ++ (quote k ++ ':' :: ' ' :: prettyChars level v)
  | (k, v) :: w :: rest =>
    newline level ++
      (quote k ++ ':' :: ' ' :: (prettyChars level v ++ ',' :: prettyMembers level (w :: rest)))

end

/-- The indented text of a value. -/
def pretty (v : Value) : String := String.ofList (v.prettyChars 0)

end Value

end ProcessGraph.Json
