/-
Typed payloads of tags. A payload type says which shape of tag it belongs to, how a trimmed raw value is read, and the
text that reads back to it. A raw value that holds nothing usable counts as no tag; only an unreadable number is an
error.
-/
import AccessibleWalk.Category.Street
import AccessibleWalk.Number.Layout
import AccessibleWalk.Number.Literal

namespace AccessibleWalk

/-- numbers in tags: all places written out and no point in whole numbers -/
def Layout.tag : Layout :=
  { positional := fun _ => true, keepsPoint := false, plusExponent := false, tie := .upper }

/-- a payload that is read from a raw tag -/
class TagValue (α : Type) where
  shape : Shape
  /-- the payload of a raw value that has no blanks around it -/
  read : String → Except TagError (Option α)
  text : α → String
  /-- agreement of payloads; numbers are compared as numbers -/
  same : α → α → Bool

instance {α : Type} [Category α] : TagValue α where
  shape := .category
  read raw := .ok (Category.ofLabel? raw)
  text := Category.label
  same a b := a == b

/-- the usual spellings of yes and no -/
def flagOf? (raw : String) : Option Bool :=
  if raw = "yes" ∨ raw = "true" ∨ raw = "1" then some true
  else if raw = "no" ∨ raw = "false" ∨ raw = "0" then some false
  else none

instance : TagValue Bool where
  shape := .flag
  read raw := .ok (flagOf? raw)
  text b := if b then "true" else "false"
  same a b := a == b

/-- a number, which must be finite -/
def readFinite (raw : String) : Except TagError Binary64 :=
  match Binary64.ofLiteral raw with
  | .error e => .error (.unreadable .number raw e.message)
  | .ok x => if x.isFinite then .ok x else .error (.unreadable .number raw "value is not finite")

instance : TagValue Binary64 where
  shape := .number
  read raw := (readFinite raw).map some
  text x := String.ofList (Layout.tag.write x)
  same := Binary64.equals

/-- a slope: a direction, or a signed percentage -/
inductive Incline where
  | direction (d : InclineDirection)
  | percent (p : Binary64)
  deriving DecidableEq

namespace Incline

/-- a text without one percent sign at its end -/
def withoutPercent (cs : List Char) : List Char :=
  if cs.getLast? = some '%' then cs.dropLast else cs

/-- a percentage, with or without its sign; what is no finite number is no percentage -/
def percentOf? (raw : String) : Option Binary64 :=
  (readFinite (String.ofList (Text.trimChars (withoutPercent raw.toList)))).toOption

/-- the direction word is tried first -/
def ofRaw? (raw : String) : Option Incline :=
  match (Category.ofLabel? raw : Option InclineDirection) with
  | some d => some (.direction d)
  | none => (percentOf? raw).map .percent

def text : Incline → String
  | .direction d => d.name
  | .percent p => String.ofList (Layout.tag.write p)

def same : Incline → Incline → Bool
  | .direction d, .direction e => d == e
  | .percent p, .percent q => p.equals q
  | _, _ => false

end Incline

instance : TagValue Incline where
  shape := .categoryOrNumber
  read raw := .ok (Incline.ofRaw? raw)
  text := Incline.text
  same := Incline.same

namespace Tag

variable {α : Type} [TagValue α]

/-- reads a raw tag; a blank one is absent -/
def parse (raw : String) : Except TagError (Option α) :=
  let trimmed := Text.trim raw
  if trimmed.isEmpty then .ok none else TagValue.read trimmed

/-- reads a raw tag, an unreadable one being absent -/
def parseLenient (raw : String) : Option α := (parse raw).toOption.join

/-- the payload of a tag that must be there -/
def demand (slot : Option α) : Except TagError α :=
  match slot with
  | some v => .ok v
  | none => .error .noValue

end Tag

end AccessibleWalk
