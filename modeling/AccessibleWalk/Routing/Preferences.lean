/-
The preferences of one routing request: a walker's wishes and a section for each other way to move. Sections are numbers
taken as they are given.
-/
import AccessibleWalk.Walk.Builder

namespace AccessibleWalk

structure BikePreferences where
  reluctance : Binary64 := 2
  /-- used while a bicycle is pushed -/
  walkingReluctance : Binary64 := 5
  deriving DecidableEq

structure CarPreferences where
  reluctance : Binary64 := 2
  deriving DecidableEq

structure WheelchairPreferences where
  /-- the base factor of an edge that wheelchairs cannot use -/
  inaccessibleStreetReluctance : Binary64 := 25
  stairsReluctance : Binary64 := 100
  /-- the steepest slope, rise over run, that costs nothing -/
  maxSlope : Binary64 := 0.083
  slopeExceededReluctance : Binary64 := 1
  deriving DecidableEq

/-- equality of sections, number by number -/
def BikePreferences.equals (a b : BikePreferences) : Bool :=
  a.reluctance.equals b.reluctance && a.walkingReluctance.equals b.walkingReluctance

def CarPreferences.equals (a b : CarPreferences) : Bool := a.reluctance.equals b.reluctance

def WheelchairPreferences.equals (a b : WheelchairPreferences) : Bool :=
  a.inaccessibleStreetReluctance.equals b.inaccessibleStreetReluctance &&
    a.stairsReluctance.equals b.stairsReluctance && a.maxSlope.equals b.maxSlope &&
    a.slopeExceededReluctance.equals b.slopeExceededReluctance

/-- what one routing request asks for -/
structure RoutingPreferences where
  walk : WalkPreferences := .default
  bike : BikePreferences := {}
  car : CarPreferences := {}
  wheelchair : WheelchairPreferences := {}

def RoutingPreferences.same (a b : RoutingPreferences) : Bool :=
  a.walk.same b.walk && a.bike.equals b.bike && a.car.equals b.car && a.wheelchair.equals b.wheelchair

end AccessibleWalk
