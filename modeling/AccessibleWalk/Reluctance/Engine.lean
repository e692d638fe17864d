/-
How reluctant a traveller is to use an edge.

A walker without a profile states thresholds, and every known fact that breaches one doubles the reluctance; facts that
are not known breach nothing. A profile takes the place of all thresholds: the reluctance is multiplied by the impact
class of every known fact. Stairs come before either, other modes have one number each, and wheelchair users are scored
by slope alone.
-/
import AccessibleWalk.Impact.Table
import AccessibleWalk.Property.Sheet
import AccessibleWalk.Reluctance.Mode
import AccessibleWalk.Routing.Preferences

namespace AccessibleWalk

/-! ## Thresholds -/

namespace WalkPreferences

/-- does a fact breach the threshold of its slot? -/
def breaches (walk : WalkPreferences) : (s : Slot) → s.Payload → Bool
  | .width, x => Binary64.less x (walk.get .minimalWidth)
  | .lit, b => !b && walk.get .lightRequired
  | .surface, c => List.contains (walk.get .reluctedSurfaces) c
  | .tactilePaving, b => !b && walk.get .tactilePavingRequired
  | .smoothness, c => decide (Category.rank (walk.get .reluctedSmoothness) < Category.rank c)
  | .highway, c => c == Highway.steps && walk.get .reluctanceOnHighway
  | .footway, _ => false
  | .incline, .direction _ => false
  | .incline, .percent p => (Binary64.abs (walk.get .maximalIncline)).less p.abs
  | .ressautMax, x => Binary64.less (walk.get .ressautMax) x
  | .ressautMin, x => Binary64.less x (walk.get .ressautMin)
  | .bevEtat, c => decide (Category.rank (walk.get .bevEtat) < Category.rank c)
  | .bevCtrast, b => !b && walk.get .bevCtrastRequired
  | .travHTrt, _ => false

def breachedBy (walk : WalkPreferences) (p : Property) : Bool := walk.breaches p.slot p.payload

/-- the base, doubled for every breach among the facts -/
def doubled (walk : WalkPreferences) (base : Binary64) (facts : List Property) : Binary64 :=
  (facts.filter walk.breachedBy).foldl (fun r _ => r * 2) base

end WalkPreferences

def thresholdReluctance (base : Binary64) (walk : WalkPreferences) (sheet : Sheet) : Binary64 :=
  walk.doubled base sheet.present

/-! ## Profiles -/

/-- the base, multiplied by the class of every fact -/
def ImpactTable.weighted (table : ImpactTable) (base : Binary64) (facts : List Property) : Binary64 :=
  facts.foldl (fun r p => r * (table.classify p).factor) base

def profileReluctance (base : Binary64) (table : ImpactTable) (sheet : Sheet) : Binary64 :=
  table.weighted base sheet.present

/-! ## Edges -/

/-- the reluctance of a walker on an edge without stairs, by profile or by thresholds -/
def WalkPreferences.edgeReluctance (walk : WalkPreferences) (tables : ImpactTables) (sheet : Sheet) : Binary64 :=
  match tables.table? (walk.get .accessibilityProfile) with
  | some table => profileReluctance (walk.get .reluctance) table sheet
  | none => thresholdReluctance (walk.get .reluctance) walk sheet

/-- the factor for a slope beyond the limit: one, and a hundred times what exceeds it weighted by the preferences -/
def WheelchairPreferences.slopeFactor? (wheelchair : WheelchairPreferences) (slope : Binary64) : Option Binary64 :=
  let excess := slope.abs - wheelchair.maxSlope
  if (0 : Binary64).less excess && (0 : Binary64).less wheelchair.slopeExceededReluctance then
    some (1 + (100 * excess) * wheelchair.slopeExceededReluctance)
  else none

namespace RoutingPreferences

/-- the reluctance of an edge. Stairs have a number of their own in every mode. -/
def reluctance (preferences : RoutingPreferences) (tables : ImpactTables) (mode : TravelMode)
    (walkingBike stairs : Bool) (sheet : Sheet) : Except ReluctanceError Binary64 :=
  if stairs then .ok (preferences.walk.get .stairsReluctance)
  else match mode with
    | .walk =>
      if walkingBike then .ok preferences.bike.walkingReluctance
      else .ok (preferences.walk.edgeReluctance tables sheet)
    | .bicycle => .ok preferences.bike.reluctance
    | .car => .ok preferences.car.reluctance
    | other => .error (.invalidMode other)

/-- the reluctance of an edge for a wheelchair, slope left aside -/
def flatWheelchairReluctance (preferences : RoutingPreferences) (accessible stairs : Bool) : Binary64 :=
  let base := if accessible then 1 else preferences.wheelchair.inaccessibleStreetReluctance
  let walked := base * preferences.walk.get .reluctance
  if stairs then walked * preferences.wheelchair.stairsReluctance else walked

/-- the reluctance of an edge for a wheelchair -/
def wheelchairReluctance (preferences : RoutingPreferences) (slope : Binary64) (accessible stairs : Bool) : Binary64 :=
  let flat := preferences.flatWheelchairReluctance accessible stairs
  match preferences.wheelchair.slopeFactor? slope with
  | some factor => flat * factor
  | none => flat

end RoutingPreferences

end AccessibleWalk
