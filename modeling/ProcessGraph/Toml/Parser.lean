import ProcessGraph.Toml.Scalar
import ProcessGraph.Toml.Table

/-!
# Reading configuration files

* `scanValue`: a value at the front of a text. The fuel is never used up when it exceeds the length
  of the text; `depth` bounds nesting.
* `scanLines`: the entries and sections of a file, line by line.
* `parse?`: the object of a whole file.
-/

namespace ProcessGraph.Toml

open Json (Value)

/-- The most arrays and inline tables that nest. -/
def maxDepth : Nat := 79

/-- The text after blanks, comments and line breaks. -/
def skipGaps : Nat → List Char → Option (List Char)
  | 0, _ => none
  | fuel + 1, cs =>
    match skipBlanks cs with
    | '#' :: r => (newline? (r.dropWhile isText)).bind (skipGaps fuel)
    | r =>
      match newline? r with
      | some r => skipGaps fuel r
      | none => some r

/-- The text after gaps, an ill-formed comment being left where it is. -/
def afterGaps (cs : List Char) : List Char := (skipGaps (cs.length + 1) cs).getD cs

/-- Removes an expected word from the front of a text. -/
def word? (word : String) (cs : List Char) : Option (List Char) :=
  if word.toList.isPrefixOf cs then some (cs.drop word.length) else none

/-- A value that is no array and no inline table. -/
def scanScalar (cs : List Char) : Option (Value × List Char) :=
  match cs with
  | '"' :: _ | '\'' :: _ => (scanString cs).map fun (s, r) => (.string (String.ofList s), r)
  | 't' :: _ => (word? "true" cs).map fun r => (.bool true, r)
  | 'f' :: _ => (word? "false" cs).map fun r => (.bool false, r)
  | _ => if beginsDate cs || beginsTime cs then scanDateTime cs else scanNumber cs

mutual

/-- Reads a value. -/
def scanValue (fuel depth : Nat) (cs : List Char) : Option (Value × List Char) :=
  match fuel with
  | 0 => none
  | fuel + 1 =>
    match cs with
    | '[' :: r =>
      match depth with
      | 0 => none
      | depth + 1 => (scanItems fuel depth r).map fun (items, r) => (.array items, r)
    | '{' :: r =>
      match depth with
      | 0 => none
      | depth + 1 =>
        match skipBlanks r with
        | '}' :: r => some (.object [], r)
        | r =>
          match scanPairs fuel depth r with
          | some (pairs, r) => (inlineTable pairs).map fun v => (v, r)
          | none => none
    | cs => scanScalar cs

/-- Reads the items of an array up to its closing bracket. -/
def scanItems (fuel depth : Nat) (cs : List Char) : Option (List Value × List Char) :=
  match fuel with
  | 0 => none
  | fuel + 1 =>
    match afterGaps cs with
    | ']' :: r => some ([], r)
    | cs =>
      match scanValue fuel depth cs with
      | none => none
      | some (v, r) =>
        match afterGaps r with
        | ']' :: r => some ([v], r)
        | ',' :: r =>
          match scanItems fuel depth r with
          | some (items, r) => some (v :: items, r)
          | none => none
        | _ => none

/-- Reads the entries of an inline table up to its closing brace. -/
def scanPairs (fuel depth : Nat) (cs : List Char) :
    Option (List (List String × String × Value) × List Char) :=
  match fuel with
  | 0 => none
  | fuel + 1 =>
    match scanKey cs with
    | some (steps, key, '=' :: r) =>
      match scanValue fuel depth (skipBlanks r) with
      | none => none
      | some (v, r) =>
        match skipBlanks r with
        | '}' :: r => some ([(steps, key, v)], r)
        | ',' :: r =>
          match scanPairs fuel depth r with
          | some (pairs, r) => some ((steps, key, v) :: pairs, r)
          | none => none
        | _ => none
    | _ => none

end

/-- One entry with the rest of its line. -/
def scanEntry (cs : List Char) : Option ((List String × String × Value) × List Char) :=
  match scanKey cs with
  | some (steps, key, '=' :: r) => do
    let (v, r) ← scanValue (2 * r.length + 2) maxDepth (skipBlanks r)
    let r ← endLine? r
    return ((steps, key, v), r)
  | _ => none

/-- One header with the rest of its line: the steps, the key, and whether it opens one table of an
array. -/
def scanHeader (cs : List Char) : Option ((List String × String × Bool) × List Char) :=
  match cs with
  | '[' :: '[' :: r =>
    match scanKey r with
    | some (steps, key, ']' :: ']' :: r) => (endLine? r).map fun r => ((steps, key, true), r)
    | _ => none
  | '[' :: r =>
    match scanKey r with
    | some (steps, key, ']' :: r) => (endLine? r).map fun r => ((steps, key, false), r)
    | _ => none
  | _ => none

/-- The entries before the next header, and the sections from there on. -/
def scanLines : Nat → List Char →
    Option (List (List String × String × Value) × List Section)
  | 0, _ => none
  | fuel + 1, cs =>
    match skipBlanks cs with
    | [] => some ([], [])
    | '#' :: r => (lineEnd? (r.dropWhile isText)).bind (scanLines fuel)
    | '\n' :: r | '\r' :: '\n' :: r => scanLines fuel r
    | '[' :: r =>
      match scanHeader ('[' :: r) with
      | none => none
      | some ((steps, key, isItem), r) =>
        (scanLines fuel r).map fun (pairs, sections) => ([], ⟨steps, key, isItem, pairs⟩ :: sections)
    | r =>
      match scanEntry r with
      | none => none
      | some (pair, r) =>
        (scanLines fuel r).map fun (pairs, sections) => (pair :: pairs, sections)

/-- The text after a byte order mark that may stand at its front. -/
def skipByteOrderMark : List Char → List Char
  | c :: r => if c.toNat = 0xFEFF then r else c :: r
  | [] => []

/-- The object of a file. -/
def parse? (text : String) : Option Value := do
  let cs := skipByteOrderMark text.toList
  let (pairs, sections) ← scanLines (cs.length + 1) cs
  build pairs sections

end ProcessGraph.Toml
