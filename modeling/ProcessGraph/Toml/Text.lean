import ProcessGraph.Text.Hex

/-!
# Keys and strings of a configuration file

* `skipBlanks`, `newline?`, `comment?`: what stands between tokens.
* `scanBasic`, `scanLiteral`: strings of one line, after the opening quote.
* `scanLongBasic`, `scanLongLiteral`: strings of several lines, after the three opening quotes. The
  fuel of the former is never used up when it exceeds the length of the text.
* `scanString`: a string of any kind.
* `scanKey`: a dotted key.
-/

namespace ProcessGraph.Toml

/-- Is the character a blank within a line? -/
def isBlank (c : Char) : Bool := c = ' ' || c = '\t'

/-- The text after leading blanks. -/
def skipBlanks (cs : List Char) : List Char := cs.dropWhile isBlank

/-- May the character stand in a comment or a string? -/
def isText (c : Char) : Bool := c = '\t' || (32 ≤ c.toNat && c.toNat ≠ 127)

/-- The text after a line break at its front. -/
def newline? : List Char → Option (List Char)
  | '\n' :: r => some r
  | '\r' :: '\n' :: r => some r
  | _ => none

/-- The text after a line break or at the end. -/
def lineEnd? : List Char → Option (List Char)
  | [] => some []
  | cs => newline? cs

/-- The text after a comment at its front, if there is one. -/
def skipComment : List Char → List Char
  | '#' :: r => r.dropWhile isText
  | cs => cs

/-- The text after the rest of a line that has nothing more to say. -/
def endLine? (cs : List Char) : Option (List Char) := lineEnd? (skipComment (skipBlanks cs))

/-- The character of a code point in hexadecimal digits. -/
def codePoint? (digits : List Char) : Option Char := do
  let values ← digits.mapM Text.Hex.value?
  let n := values.foldl (fun n d => n * 16 + d) 0
  if n < 0xD800 ∨ (0xE000 ≤ n ∧ n < 0x110000) then some (Char.ofNat n) else none

/-- The character of a one-letter escape. -/
def simpleEscape? (c : Char) : Option Char :=
  match c with
  | 'b' => some (Char.ofNat 8)
  | 't' => some '\t'
  | 'n' => some '\n'
  | 'f' => some (Char.ofNat 12)
  | 'r' => some '\r'
  | '"' => some '"'
  | '\\' => some '\\'
  | _ => none

/-- The character of an escape after its backslash, and the text after it. -/
def escape? : List Char → Option (Char × List Char)
  | 'u' :: a :: b :: c :: d :: r => (codePoint? [a, b, c, d]).map fun x => (x, r)
  | 'U' :: a :: b :: c :: d :: e :: f :: g :: h :: r =>
    (codePoint? [a, b, c, d, e, f, g, h]).map fun x => (x, r)
  | c :: r => (simpleEscape? c).map fun x => (x, r)
  | [] => none

/-- Puts characters in front of a scanned string. -/
def onto (front : List Char) : Option (List Char × List Char) → Option (List Char × List Char)
  | some (s, r) => some (front ++ s, r)
  | none => none

/-- The characters of a string up to its closing quote, and the text after that quote. -/
def scanBasic : Nat → List Char → Option (List Char × List Char)
  | 0, _ => none
  | fuel + 1, cs =>
    match cs with
    | [] => none
    | '"' :: r => some ([], r)
    | '\\' :: r => (escape? r).bind fun (c, r) => onto [c] (scanBasic fuel r)
    | c :: r => if isText c then onto [c] (scanBasic fuel r) else none

/-- The characters of a string without escapes. -/
def scanLiteral : List Char → Option (List Char × List Char)
  | [] => none
  | '\'' :: r => some ([], r)
  | c :: r => if isText c then onto [c] (scanLiteral r) else none

/-- The text after leading blanks and line breaks. -/
def skipLines : Nat → List Char → List Char
  | 0, cs => cs
  | fuel + 1, cs =>
    match newline? (skipBlanks cs) with
    | some r => skipLines fuel r
    | none => skipBlanks cs

/-- The characters of a string of several lines. A backslash at the end of a line joins it to the
next text; up to two quotes may stand before the closing ones. -/
def scanLongBasic : Nat → List Char → Option (List Char × List Char)
  | 0, _ => none
  | fuel + 1, cs =>
    match cs with
    | [] => none
    | '"' :: '"' :: '"' :: '"' :: '"' :: r => some (['"', '"'], r)
    | '"' :: '"' :: '"' :: '"' :: r => some (['"'], r)
    | '"' :: '"' :: '"' :: r => some ([], r)
    | '"' :: r => onto ['"'] (scanLongBasic fuel r)
    | '\\' :: r =>
      match newline? (skipBlanks r) with
      | some r => scanLongBasic fuel (skipLines r.length r)
      | none => (escape? r).bind fun (c, r) => onto [c] (scanLongBasic fuel r)
    | '\n' :: r | '\r' :: '\n' :: r => onto ['\n'] (scanLongBasic fuel r)
    | c :: r => if isText c then onto [c] (scanLongBasic fuel r) else none

/-- The characters of a string of several lines without escapes. -/
def scanLongLiteral : List Char → Option (List Char × List Char)
  | [] => none
  | '\'' :: '\'' :: '\'' :: '\'' :: '\'' :: r => some (['\'', '\''], r)
  | '\'' :: '\'' :: '\'' :: '\'' :: r => some (['\''], r)
  | '\'' :: '\'' :: '\'' :: r => some ([], r)
  | '\'' :: r => onto ['\''] (scanLongLiteral r)
  | '\n' :: r => onto ['\n'] (scanLongLiteral r)
  | '\r' :: '\n' :: r => onto ['\n'] (scanLongLiteral r)
  | c :: r => if isText c then onto [c] (scanLongLiteral r) else none

/-- The text after a line break that may stand at its front. -/
def skipNewline (cs : List Char) : List Char := (newline? cs).getD cs

/-- A string of any kind at the front of a text. -/
def scanString : List Char → Option (List Char × List Char)
  | '"' :: '"' :: '"' :: r => scanLongBasic (r.length + 1) (skipNewline r)
  | '"' :: r => scanBasic (r.length + 1) r
  | '\'' :: '\'' :: '\'' :: r => scanLongLiteral (skipNewline r)
  | '\'' :: r => scanLiteral r
  | _ => none

/-- May the character stand in a key without quotes? -/
def isKeyChar (c : Char) : Bool := c.isAlphanum || c = '-' || c = '_'

/-- One step of a key, with the blanks around it. -/
def scanStep (cs : List Char) : Option (String × List Char) :=
  let step :=
    match skipBlanks cs with
    | '"' :: r => scanBasic (r.length + 1) r
    | '\'' :: r => scanLiteral r
    | r =>
      let name := r.takeWhile isKeyChar
      if name.isEmpty then none else some (name, r.dropWhile isKeyChar)
  step.map fun (name, r) => (String.ofList name, skipBlanks r)

/-- The steps before the last one of a dotted key, and the last one. -/
def scanSteps : Nat → List Char → Option (List String × String × List Char)
  | 0, _ => none
  | fuel + 1, cs =>
    match scanStep cs with
    | none => none
    | some (name, '.' :: r) =>
      (scanSteps fuel r).map fun (steps, key, r) => (name :: steps, key, r)
    | some (name, r) => some ([], name, r)

/-- The most steps of a dotted key. -/
def maxSteps : Nat := 79

/-- A dotted key: the steps before the last one, and the last one. -/
def scanKey (cs : List Char) : Option (List String × String × List Char) := scanSteps maxSteps cs

end ProcessGraph.Toml
