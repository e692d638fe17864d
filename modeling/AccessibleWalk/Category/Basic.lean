/-
Closed vocabularies of tag values. A category lists its values in a fixed order, which for graded categories runs from
best to worst. Each value has a name in snake case and a label, the spelling found in map data; most labels are the
name.
-/
import AccessibleWalk.Tag.Error
import AccessibleWalk.Text.Blank

namespace AccessibleWalk

/-- a closed list of tag values -/
class Category (α : Type) extends BEq α, LawfulBEq α where
  description : String
  all : List α
  name : α → String
  label : α → String := name

namespace Category

variable {α : Type} [Category α]

/-- the place in the list, which is the order of grades -/
def rank (c : α) : Nat := (all : List α).idxOf c

/-- the value with exactly this label -/
def ofLabel? (text : String) : Option α := all.find? fun c => label c == text

/-- the value with exactly this label or name -/
def ofText (text : String) : Except TagError α :=
  match all.find? fun c : α => label c == text || name c == text with
  | some c => .ok c
  | none => .error (.unknownCategory (description α) text)

/-- the values listed in a tag with several entries between semicolons; entries that are no label are dropped and so
are repeats, the first place of each stays -/
def ofLabels (raw : String) : List α :=
  ((Text.pieces ';' raw.toList).filterMap fun piece =>
    (ofLabel? (String.ofList (Text.trimChars piece)) : Option α)).eraseDups

end Category

end AccessibleWalk
