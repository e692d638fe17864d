/-
Rows of a table: values by column. Of columns with the same name the later one counts.
-/
import AccessibleWalk.Text.Dictionary

namespace AccessibleWalk

/-- why a record is no row -/
inductive RecordError where
  | unequalLengths
  | notUtf8
  /-- the names of the columns are not UTF-8 -/
  | unnamed
  deriving DecidableEq

/-- values by column -/
structure Row where
  columns : Dictionary

namespace Row

def find? (row : Row) (column : String) : Option String := row.columns.find? column

def ofPairs (pairs : List (String × String)) : Row := ⟨.ofPairs pairs⟩

end Row

end AccessibleWalk
