/-
The accessibility facts of a way, from its tags. A categorical tag may list several values, the first known one counts.
Unreadable numbers stop a strict import and are left out by a lenient one.
-/
import AccessibleWalk.Property.Sheet
import AccessibleWalk.Way.Tags

namespace AccessibleWalk

/-- the first value listed in a tag that is a label of the category -/
def Category.firstLabel? {α : Type} [Category α] (raw : String) : Option α := (Category.ofLabels raw).head?

/-- the payload of a way's tag -/
def Content.ofWayTag : (c : Content) → String → Except TagError (Option c.Value)
  | .surface, raw => .ok (Category.firstLabel? raw)
  | .smoothness, raw => .ok (Category.firstLabel? raw)
  | .highway, raw => .ok (Category.firstLabel? raw)
  | .footway, raw => .ok (Category.firstLabel? raw)
  | .bevEtat, raw => .ok (Category.firstLabel? raw)
  | .number, raw => Tag.parse raw
  | .flag, raw => Tag.parse raw
  | .incline, raw => Tag.parse raw

namespace WayTags

/-- fills one slot if its tag holds something -/
def importSlot (tags : WayTags) (lenient : Bool) (sheet : Sheet) (s : Slot) : Except TagError Sheet :=
  match tags.get? s.key with
  | none => .ok sheet
  | some raw =>
    match s.content.ofWayTag raw with
    | .ok (some v) => .ok (sheet.put s (some v))
    | .ok none => .ok sheet
    | .error e => if lenient then .ok sheet else .error e

/-- the facts that the tags state -/
def sheet (tags : WayTags) (lenient : Bool) : Except TagError Sheet :=
  Slot.all.foldlM (tags.importSlot lenient) Sheet.empty

end WayTags

end AccessibleWalk
