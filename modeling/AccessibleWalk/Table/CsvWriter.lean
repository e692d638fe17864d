/-
Writing comma-separated records. A field is quoted only where it must be: if it holds a comma, a quote or the end of a
line.
-/
import AccessibleWalk.Number.Layout

namespace AccessibleWalk

/-- numbers in tables: a point is kept, and leading exponents from -5 to 15 are positional -/
def Layout.csv : Layout :=
  { positional := fun e => decide (-5 ≤ e ∧ e ≤ 15), keepsPoint := true, plusExponent := false, tie := .even }

namespace Csv

def needsQuotes (field : List Char) : Bool :=
  field.any fun c => c == ',' || c == '"' || c == '\n' || c == '\r'

def writeField (field : List Char) : List Char :=
  if needsQuotes field then '"' :: (field.flatMap (fun c => if c = '"' then ['"', '"'] else [c]) ++ ['"'])
  else field

/-- a record with the end of its line -/
def writeRecord (fields : List (List Char)) : List Char :=
  (fields.map writeField).intersperse [','] |>.flatten |>.append ['\n']

end Csv

end AccessibleWalk
