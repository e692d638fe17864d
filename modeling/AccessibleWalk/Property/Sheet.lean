/-
The accessibility facts of one edge: for every slot a payload or nothing. A sheet is its look-up function, so filling
and clearing a slot are changes at one point and two sheets with the same look-ups are one sheet.
-/
import AccessibleWalk.Property.Slot

namespace AccessibleWalk

/-- the facts known about an edge -/
@[ext] structure Sheet where
  get : (s : Slot) → Option s.Payload

namespace Sheet

def empty : Sheet := ⟨fun _ => none⟩

instance : Inhabited Sheet := ⟨empty⟩

@[simp] theorem get_empty (s : Slot) : empty.get s = none := rfl

/-- puts a payload, or nothing, into a slot -/
def put (sheet : Sheet) (s : Slot) (value : Option s.Payload) : Sheet :=
  ⟨fun k => if h : s = k then h ▸ value else sheet.get k⟩

@[simp] theorem get_put_self (sheet : Sheet) (s : Slot) (value : Option s.Payload) :
    (sheet.put s value).get s = value := by
  simp [put]

@[simp] theorem get_put_of_ne {s k : Slot} (h : s ≠ k) (sheet : Sheet) (value : Option s.Payload) :
    (sheet.put s value).get k = sheet.get k := by
  simp [put, h]

/-- fills a slot -/
def fill (sheet : Sheet) (p : Property) : Sheet := sheet.put p.slot (some p.payload)

/-- empties a slot -/
def clear (sheet : Sheet) (s : Slot) : Sheet := sheet.put s none

@[simp] theorem get_fill_self (sheet : Sheet) (p : Property) : (sheet.fill p).get p.slot = some p.payload :=
  get_put_self sheet p.slot (some p.payload)

@[simp] theorem get_fill_of_ne {p : Property} {k : Slot} (h : p.slot ≠ k) (sheet : Sheet) :
    (sheet.fill p).get k = sheet.get k :=
  get_put_of_ne h sheet (some p.payload)

@[simp] theorem get_clear_self (sheet : Sheet) (s : Slot) : (sheet.clear s).get s = none := get_put_self sheet s none

@[simp] theorem get_clear_of_ne {s k : Slot} (h : s ≠ k) (sheet : Sheet) : (sheet.clear s).get k = sheet.get k :=
  get_put_of_ne h sheet none

/-- fills a slot from a raw tag, or empties it if the tag holds nothing usable -/
def putTag (sheet : Sheet) (s : Slot) (raw : String) : Except TagError Sheet :=
  (Property.parse s raw).map fun
    | some p => sheet.fill p
    | none => sheet.clear s

/-- the property of a slot -/
def property? (sheet : Sheet) (s : Slot) : Option Property := (sheet.get s).map (Property.mk s)

/-- the filled slots, in slot order -/
def present (sheet : Sheet) : List Property := Slot.all.filterMap sheet.property?

def isEmpty (sheet : Sheet) : Bool := sheet.present.isEmpty

/-- agreement in one slot: both empty, or both filled with agreeing payloads -/
def sameAt (a b : Sheet) (s : Slot) : Bool :=
  match a.get s, b.get s with
  | none, none => true
  | some v, some w => TagValue.same v w
  | _, _ => false

/-- agreement in every slot -/
def same (a b : Sheet) : Bool := Slot.all.all (a.sameAt b)

end Sheet

end AccessibleWalk
