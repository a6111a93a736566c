import ProcessGraph.Json.Value
import ProcessGraph.Text.Hex

/-!
# Reading documents

* `scanString`: a string after its opening quote.
* `scanValue`: a value at the front of a text. The fuel bounds the number of values met and is
  never used up when it exceeds the length of the text; `depth` bounds nesting.
* `Value.parse?`: a whole document of at most 127 levels.
* `Value.ofBytes?`: a document in UTF-8.
-/

namespace ProcessGraph.Json

/-- Is the character a blank between tokens? -/
def isBlank (c : Char) : Bool := c = ' ' || c = '\n' || c = '\t' || c = '\r'

/-- The text after leading blanks. -/
def skipBlanks (cs : List Char) : List Char := cs.dropWhile isBlank

/-- Four hexadecimal digits. -/
def hex4? (a b c d : Char) : Option Nat := do
  let a ← Text.Hex.value? a
  let b ← Text.Hex.value? b
  let c ← Text.Hex.value? c
  let d ← Text.Hex.value? d
  return ((a * 16 + b) * 16 + c) * 16 + d

/-- The character of a one-letter escape. -/
def simpleEscape? (c : Char) : Option Char :=
  match c with
  | '"' => some '"'
  | '\\' => some '\\'
  | '/' => some '/'
  | 'b' => some (Char.ofNat 8)
  | 'f' => some (Char.ofNat 12)
  | 'n' => some '\n'
  | 'r' => some '\r'
  | 't' => some '\t'
  | _ => none

/-- The character of two surrogate halves. -/
def surrogatePair? (high low : Nat) : Option Char :=
  if 0xD800 ≤ high ∧ high < 0xDC00 ∧ 0xDC00 ≤ low ∧ low < 0xE000 then
    some (Char.ofNat (0x10000 + (high - 0xD800) * 0x400 + (low - 0xDC00)))
  else none

/-- Puts a character in front of a scanned string. -/
def consScanned (c : Char) : Option (List Char × List Char) → Option (List Char × List Char)
  | some (s, r) => some (c :: s, r)
  | none => none

/-- The characters of a string up to its closing quote, and the text after that quote. -/
def scanString : List Char → Option (List Char × List Char)
  | [] => none
  | '"' :: r => some ([], r)
  | '\\' :: 'u' :: a :: b :: c :: d :: r =>
    match hex4? a b c d with
    | none => none
    | some high =>
      if high < 0xD800 ∨ 0xE000 ≤ high then consScanned (Char.ofNat high) (scanString r)
      else
        match r with
        | '\\' :: 'u' :: a' :: b' :: c' :: d' :: r' =>
          match (hex4? a' b' c' d').bind (surrogatePair? high) with
          | some x => consScanned x (scanString r')
          | none => none
        | _ => none
  | '\\' :: e :: r =>
    match simpleEscape? e with
    | some x => consScanned x (scanString r)
    | none => none
  | c :: r => if c = '\\' ∨ c.toNat < 32 then none else consScanned c (scanString r)

/-- Removes an expected word from the front of a text. -/
def expect? : List Char → List Char → Option (List Char)
  | [], cs => some cs
  | w :: ws, c :: cs => if w = c then expect? ws cs else none
  | _ :: _, [] => none

mutual

/-- Reads a value after leading blanks. -/
def scanValue (fuel depth : Nat) (cs : List Char) : Option (Value × List Char) :=
  match fuel with
  | 0 => none
  | fuel + 1 =>
    match skipBlanks cs with
    | [] => none
    | '[' :: r =>
      match depth with
      | 0 => none
      | depth + 1 =>
        match skipBlanks r with
        | ']' :: r => some (.array [], r)
        | r =>
          match scanItems fuel depth r with
          | some (items, r) => some (.array items, r)
          | none => none
    | '{' :: r =>
      match depth with
      | 0 => none
      | depth + 1 =>
        match skipBlanks r with
        | '}' :: r => some (.object [], r)
        | r =>
          match scanMembers fuel depth r with
          | some (pairs, r) => some (.object (Keyed.ofPairs pairs), r)
          | none => none
    | '"' :: r => (scanString r).map fun (s, r) => (.string (String.ofList s), r)
    | 'n' :: r => (expect? ['u', 'l', 'l'] r).map fun r => (.null, r)
    | 't' :: r => (expect? ['r', 'u', 'e'] r).map fun r => (.bool true, r)
    | 'f' :: r => (expect? ['a', 'l', 's', 'e'] r).map fun r => (.bool false, r)
    | r => (Number.scan r).map fun (n, r) => (.number n, r)

/-- Reads the items of an array up to its closing bracket. -/
def scanItems (fuel depth : Nat) (cs : List Char) : Option (List Value × List Char) :=
  match fuel with
  | 0 => none
  | fuel + 1 =>
    match scanValue fuel depth cs with
    | none => none
    | some (v, r) =>
      match skipBlanks r with
      | ']' :: r => some ([v], r)
      | ',' :: r =>
        match scanItems fuel depth r with
        | some (items, r) => some (v :: items, r)
        | none => none
      | _ => none

/-- Reads the members of an object up to its closing brace. -/
def scanMembers (fuel depth : Nat) (cs : List Char) :
    Option (List (String × Value) × List Char) :=
  match fuel with
  | 0 => none
  | fuel + 1 =>
    match skipBlanks cs with
    | '"' :: r =>
      match scanString r with
      | none => none
      | some (key, r) =>
        match skipBlanks r with
        | ':' :: r =>
          match scanValue fuel depth r with
          | none => none
          | some (v, r) =>
            match skipBlanks r with
            | '}' :: r => some ([(String.ofList key, v)], r)
            | ',' :: r =>
              match scanMembers fuel depth r with
              | some (pairs, r) => some ((String.ofList key, v) :: pairs, r)
              | none => none
            | _ => none
        | _ => none
    | _ => none

end

namespace Value

/-- The deepest nesting a document may have. -/
def maxDepth : Nat := 127

/-- Reads a whole document of at most `depth` levels. -/
def parseWithin? (depth : Nat) (cs : List Char) : Option Value :=
  match scanValue (2 * cs.length + 2) depth cs with
  | some (v, r) => if (skipBlanks r).isEmpty then some v else none
  | none => none

/-- Reads a whole document. -/
def parse? (text : String) : Option Value := parseWithin? maxDepth text.toList

/-- Reads a whole document from its bytes. -/
def ofBytes? (bytes : Text.Bytes) : Option Value :=
  (Text.Utf8.decode? bytes).bind (parseWithin? maxDepth)

end Value

end ProcessGraph.Json
