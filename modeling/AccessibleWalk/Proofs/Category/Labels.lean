/-
Labels of categories. A lawful category lists its values under labels that tell them apart and that no trimming or
splitting touches, so a label reads back to its value, alone or as an entry of a list of values.

- `ofLabel?_eq_some_iff`: a text is read as a value exactly if it is the label of the value.
- `parse_label`: a label is a tag of its value.
- `firstLabel?_eq_bind`: a list of values counts for its first entry that is a label.
-/
import AccessibleWalk.Category.Ground
import AccessibleWalk.Category.Street
import AccessibleWalk.Proofs.Text.Plain
import AccessibleWalk.Way.Import

namespace AccessibleWalk

/-- a category whose labels are good spellings of its values -/
class LawfulCategory (α : Type) [Category α] : Prop where
  ofLabel?_label : ∀ c : α, Category.ofLabel? (Category.label c) = some c
  label_ne : ∀ c : α, Category.label c ≠ ""
  label_all : ∀ c : α, ((Category.label c).toList.all fun ch => !Text.isBlank ch && ch != ';') = true

theorem LawfulCategory.label_plain {α : Type} [Category α] [LawfulCategory α] (c : α) :
    ∀ ch ∈ (Category.label c).toList, Text.isBlank ch = false ∧ ch ≠ ';' := by
  simpa using LawfulCategory.label_all c

theorem LawfulCategory.label_injective {α : Type} [Category α] [LawfulCategory α] :
    Function.Injective (Category.label : α → String) := by
  intro c d h
  have hread := LawfulCategory.ofLabel?_label c
  rw [h, LawfulCategory.ofLabel?_label] at hread
  exact (Option.some.inj hread).symm

instance : LawfulCategory Surface := by constructor <;> intro c <;> cases c <;> decide

instance : LawfulCategory Smoothness := by constructor <;> intro c <;> cases c <;> decide

instance : LawfulCategory Highway := by constructor <;> intro c <;> cases c <;> decide

instance : LawfulCategory Footway := by constructor <;> intro c <;> cases c <;> decide

instance : LawfulCategory BevEtat := by constructor <;> intro c <;> cases c <;> decide

instance : LawfulCategory InclineDirection := by constructor <;> intro c <;> cases c <;> decide

/-- a category whose names are read as its values -/
class NamedCategory (α : Type) [Category α] : Prop where
  ofText_name : ∀ c : α, Category.ofText (Category.name c) = .ok c

theorem NamedCategory.name_injective {α : Type} [Category α] [NamedCategory α] :
    Function.Injective (Category.name : α → String) := by
  intro c d h
  have hread := NamedCategory.ofText_name c
  rw [h, NamedCategory.ofText_name] at hread
  exact (Except.ok.inj hread).symm

instance : NamedCategory Surface := ⟨fun c => by cases c <;> rfl⟩

instance : NamedCategory Smoothness := ⟨fun c => by cases c <;> rfl⟩

instance : NamedCategory Highway := ⟨fun c => by cases c <;> rfl⟩

instance : NamedCategory Footway := ⟨fun c => by cases c <;> rfl⟩

instance : NamedCategory BevEtat := ⟨fun c => by cases c <;> rfl⟩

namespace Category

variable {α : Type} [Category α] [LawfulCategory α]

/-! ## Single labels -/

theorem ofLabel?_eq_some_iff {t : String} {c : α} : ofLabel? t = some c ↔ label c = t := by
  refine ⟨fun h => ?_, fun h => h ▸ LawfulCategory.ofLabel?_label c⟩
  simpa using List.find?_some h

theorem mem_all (c : α) : c ∈ (all : List α) := List.mem_of_find?_eq_some (LawfulCategory.ofLabel?_label c)

theorem ofLabel?_empty : (ofLabel? "" : Option α) = none := by
  cases h : (ofLabel? "" : Option α) with
  | none => rfl
  | some c => exact absurd (ofLabel?_eq_some_iff.1 h) (LawfulCategory.label_ne c)

theorem trim_label (c : α) : Text.trim (label c) = label c :=
  Text.trim_eq_self fun ch hch => (LawfulCategory.label_plain c ch hch).1

/-- a tag of a category is read without the blanks around it -/
theorem parse_eq (raw : String) : (Tag.parse raw : Except TagError (Option α)) = .ok (ofLabel? (Text.trim raw)) := by
  unfold Tag.parse
  by_cases h : (Text.trim raw).isEmpty
  · rw [if_pos h, String.isEmpty_iff.1 h, ofLabel?_empty]
  · rw [if_neg h]; rfl

/-- **A label is a tag of its value.** -/
theorem parse_label (c : α) : (Tag.parse (label c) : Except TagError (Option α)) = .ok (some c) := by
  rw [parse_eq, trim_label, LawfulCategory.ofLabel?_label]

/-! ## Lists of values -/

/-- the entries of a tag between its semicolons, without blanks around them -/
def entries (raw : String) : List String :=
  (Text.pieces ';' raw.toList).map fun piece => String.ofList (Text.trimChars piece)

/-- the first entry that is a label of the category -/
def firstLabelled? (α : Type) [Category α] (raw : String) : Option String :=
  (entries raw).find? fun entry => entry ∈ (all : List α).map label

omit [LawfulCategory α] in
theorem firstLabel?_eq_findSome? (raw : String) : (firstLabel? raw : Option α) = (entries raw).findSome? ofLabel? := by
  have head (l : List α) : l.eraseDups.head? = l.head? := by cases l <;> simp [List.eraseDups_cons]
  rw [firstLabel?, ofLabels, head, List.head?_filterMap, entries, List.findSome?_map]
  rfl

/-- **A list of values counts for its first entry that is a label.** -/
theorem firstLabel?_eq_bind (raw : String) : (firstLabel? raw : Option α) = (firstLabelled? α raw).bind ofLabel? := by
  rw [firstLabel?_eq_findSome?, firstLabelled?]
  induction entries raw with
  | nil => rfl
  | cons entry rest ih =>
    by_cases h : entry ∈ (all : List α).map label
    · obtain ⟨c, -, rfl⟩ := List.mem_map.1 h
      rw [List.find?_cons_of_pos (by simpa using h), List.findSome?_cons, LawfulCategory.ofLabel?_label]
      exact (LawfulCategory.ofLabel?_label c).symm
    · have hnone : (ofLabel? entry : Option α) = none := by
        cases hc : (ofLabel? entry : Option α) with
        | none => rfl
        | some c => exact absurd (List.mem_map.2 ⟨c, mem_all c, ofLabel?_eq_some_iff.1 hc⟩) h
      rw [List.find?_cons_of_neg (by simpa using h), List.findSome?_cons, hnone]
      exact ih

/-- the first entry that is a label is a tag of what the list counts for -/
theorem parse_firstLabelled {raw entry : String} (h : firstLabelled? α raw = some entry) :
    (Tag.parse entry : Except TagError (Option α)) = .ok (firstLabel? raw) := by
  have hmem : entry ∈ (all : List α).map label := by simpa using List.find?_some h
  obtain ⟨c, -, rfl⟩ := List.mem_map.1 hmem
  rw [firstLabel?_eq_bind, h, Option.bind_some, LawfulCategory.ofLabel?_label, parse_label]

theorem firstLabel?_of_no_semicolon {raw : String} (h : ';' ∉ raw.toList) :
    (Tag.parse raw : Except TagError (Option α)) = .ok (firstLabel? raw) := by
  rw [parse_eq, firstLabel?_eq_findSome?, entries, Text.pieces_eq_singleton h]
  simp [Text.trim]

/-- a label counts for its value -/
theorem firstLabel?_label (c : α) : firstLabel? (label c) = some c := by
  have h : ';' ∉ (label c).toList := fun hm => (LawfulCategory.label_plain c ';' hm).2 rfl
  simpa [parse_label, eq_comm] using firstLabel?_of_no_semicolon (α := α) h

end Category

end AccessibleWalk
