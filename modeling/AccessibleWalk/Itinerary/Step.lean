/-
The accessibility of one step of an itinerary, as travellers see it: some of the facts known about its edge,
categories by their names and slopes by their tag texts.
-/
import AccessibleWalk.Document.Decode
import AccessibleWalk.Document.Encode
import AccessibleWalk.Property.Sheet

namespace AccessibleWalk

/-- what a traveller is told about a step -/
structure WalkStep where
  width : Option Binary64 := none
  lit : Option Bool := none
  surface : Option String := none
  tactilePaving : Option Bool := none
  smoothness : Option String := none
  highway : Option String := none
  footway : Option String := none
  incline : Option String := none
  travHTrt : Option Binary64 := none
  deriving DecidableEq

namespace WalkStep

/-- both numbers are missing, or both are there and are the same number -/
def sameNumber : Option Binary64 → Option Binary64 → Bool
  | none, none => true
  | some x, some y => x.equals y
  | _, _ => false

/-- agreement in every field; numbers are compared as numbers -/
def same (a b : WalkStep) : Bool :=
  sameNumber a.width b.width && a.lit == b.lit && a.surface == b.surface && a.tactilePaving == b.tactilePaving &&
    a.smoothness == b.smoothness && a.highway == b.highway && a.footway == b.footway && a.incline == b.incline &&
    sameNumber a.travHTrt b.travHTrt

def ofSheet (sheet : Sheet) : WalkStep where
  width := sheet.get .width
  lit := sheet.get .lit
  surface := Option.map Surface.name (sheet.get .surface)
  tactilePaving := sheet.get .tactilePaving
  smoothness := Option.map Smoothness.name (sheet.get .smoothness)
  highway := Option.map Highway.name (sheet.get .highway)
  footway := Option.map Footway.name (sheet.get .footway)
  incline := Option.map Incline.text (sheet.get .incline)
  travHTrt := sheet.get .travHTrt

def toDocument (step : WalkStep) : Document :=
  .record [
    ("width", Encode.optional .real step.width),
    ("lit", Encode.optional .flag step.lit),
    ("surface", Encode.optional .text step.surface),
    ("tactile_paving", Encode.optional .flag step.tactilePaving),
    ("smoothness", Encode.optional .text step.smoothness),
    ("highway", Encode.optional .text step.highway),
    ("footway", Encode.optional .text step.footway),
    ("incline", Encode.optional .text step.incline),
    ("trav_h_trt", Encode.optional .real step.travHTrt)]

def fields : List (Decode.Field WalkStep) :=
  [
    .of "width" (Decode.optional Decode.number) fun v step => { step with width := v },
    .of "lit" (Decode.optional Decode.flag) fun v step => { step with lit := v },
    .of "surface" (Decode.optional Decode.text) fun v step => { step with surface := v },
    .of "tactile_paving" (Decode.optional Decode.flag) fun v step => { step with tactilePaving := v },
    .of "smoothness" (Decode.optional Decode.text) fun v step => { step with smoothness := v },
    .of "highway" (Decode.optional Decode.text) fun v step => { step with highway := v },
    .of "footway" (Decode.optional Decode.text) fun v step => { step with footway := v },
    .of "incline" (Decode.optional Decode.text) fun v step => { step with incline := v },
    .of "trav_h_trt" (Decode.optional Decode.number) fun v step => { step with travHTrt := v }]

def decode : Decoder WalkStep := Decode.record fields false {}

end WalkStep

end AccessibleWalk
