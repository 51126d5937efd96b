/-
`TableTest.Row` — the rows of a script table

A row names a command and gives it two columns.  Rows of fewer than three cells are titles
and remarks.
-/
import TableTest.Text.Blank

namespace TableTest

/-- One instruction of a script. -/
structure Row where
  command : String
  target : String
  value : String
deriving DecidableEq, Repr

namespace Row

/-- The instruction that the cells hold; cells after the third do not count. -/
def ofCells? : List String → Option Row
  | command :: target :: value :: _ => some ⟨Text.trim command, target, value⟩
  | _ => none

/-- The instructions of a script table. -/
def ofTable (table : List (List String)) : List Row :=
  table.filterMap ofCells?

end Row

end TableTest
