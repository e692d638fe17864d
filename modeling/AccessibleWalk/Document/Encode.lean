/-
Putting values into documents.
-/
import AccessibleWalk.Category.Basic
import AccessibleWalk.Document.Basic

namespace AccessibleWalk.Encode

/-- a value, or null where there is none -/
def optional {α : Type} (encode : α → Document) : Option α → Document
  | some v => encode v
  | none => .null

/-- a value of a category, by its label -/
def category {α : Type} [Category α] (c : α) : Document := .text (Category.label c)

end AccessibleWalk.Encode
