import ProcessGraph.Text.Hex

/-!
# Tables written as text

* `Table.rows`: the rows of a table. Numbers are hexadecimal, a semicolon ends a row.
-/

namespace ProcessGraph.Text.Table

/-- What has been read: the rows that are done, the numbers of the row at hand from the last to the
first, and the number whose digits come in. -/
structure Progress where
  rows : Array (List Nat)
  row : List Nat
  number : Option Nat

/-- The row at hand with the number that comes in, from the last number to the first. -/
def Progress.numbers (p : Progress) : List Nat :=
  match p.number with
  | some n => n :: p.row
  | none => p.row

/-- Reads one character. -/
def Progress.step (p : Progress) (c : Char) : Progress :=
  match Hex.value? c with
  | some d => { p with number := some (p.number.getD 0 * 16 + d) }
  | none =>
    if c = ';' then ⟨p.rows.push p.numbers.reverse, [], none⟩ else ⟨p.rows, p.numbers, none⟩

/-- The rows of a table. -/
def rows (text : String) : Array (List Nat) := (text.foldl Progress.step ⟨#[], [], none⟩).rows

end ProcessGraph.Text.Table
