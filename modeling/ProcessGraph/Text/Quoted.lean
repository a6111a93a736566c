import ProcessGraph.Text.Hex
import ProcessGraph.Text.Printable

/-!
# Quoted strings

* `escaped`: a character as it stands between quotes. Quotes, backslashes and line controls have
  short escapes; what has no glyph of its own is written by its code point.
* `quoted`: a string between quotes.
-/

namespace ProcessGraph.Text

/-- The code point of a character between braces. -/
def codePointEscape (c : Char) : List Char :=
  '\\' :: 'u' :: '\x7b' :: (Hex.nat c.toNat ++ ['\x7d'])

/-- A character as it stands between double quotes. -/
def escaped (c : Char) : List Char :=
  if c = '"' then ['\\', '"']
  else if c = '\\' then ['\\', '\\']
  else if c.toNat = 0 then ['\\', '0']
  else if c = '\t' then ['\\', 't']
  else if c = '\r' then ['\\', 'r']
  else if c = '\n' then ['\\', 'n']
  else if isUnprintable c || isExtending c then codePointEscape c
  else [c]

/-- A string between double quotes. -/
def quoted (s : String) : String :=
  String.ofList ('"' :: (s.toList.flatMap escaped ++ ['"']))

end ProcessGraph.Text
