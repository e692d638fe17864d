/-
Routing configurations: what a document may say about the preferences of a request. Walking preferences are partial, the
other sections have a number for every field. Reading and writing go field by field; what is written reads back.
-/
import AccessibleWalk.Document.Decode
import AccessibleWalk.Document.Encode
import AccessibleWalk.Routing.Preferences

namespace AccessibleWalk

/-! ## Walking -/

namespace Setting

def decode : (k : Setting) → Decoder k.Value
  | .number => Decode.number
  | .cost => Decode.integer
  | .flag => Decode.flag
  | .surfaces => Decode.list Decode.category
  | .smoothness => Decode.category
  | .bevEtat => Decode.category
  | .profile => Decode.oneOf Profile.spellings

def encode : (k : Setting) → k.Value → Document
  | .number, x => .real x
  | .cost, i => .integer i
  | .flag, b => .flag b
  | .surfaces, l => .list (l.map Encode.category)
  | .smoothness, s => Encode.category s
  | .bevEtat, b => Encode.category b
  | .profile, p => .text p.name

end Setting

namespace WalkConfig

def field (f : WalkField) : Decode.Field WalkConfig :=
  .of f.name (Decode.optional f.setting.decode) fun v c => c.put f v

/-- all fields or none may be missing, but a list gives every one -/
def decode : Decoder WalkConfig := Decode.record (WalkField.all.map field) false empty

def toDocument (c : WalkConfig) : Document :=
  .record (WalkField.all.map fun f => (f.name, Encode.optional f.setting.encode (c.get f)))

end WalkConfig

/-! ## Other sections -/

namespace BikePreferences

def fields : List (Decode.Field BikePreferences) :=
  [
    .of "reluctance" Decode.number fun x p => { p with reluctance := x },
    .of "walking_reluctance" Decode.number fun x p => { p with walkingReluctance := x }]

def decode : Decoder BikePreferences := Decode.record fields true {}

def toDocument (p : BikePreferences) : Document :=
  .record [("reluctance", .real p.reluctance), ("walking_reluctance", .real p.walkingReluctance)]

end BikePreferences

namespace CarPreferences

def fields : List (Decode.Field CarPreferences) :=
  [.of "reluctance" Decode.number fun x p => { p with reluctance := x }]

def decode : Decoder CarPreferences := Decode.record fields true {}

def toDocument (p : CarPreferences) : Document := .record [("reluctance", .real p.reluctance)]

end CarPreferences

namespace WheelchairPreferences

def fields : List (Decode.Field WheelchairPreferences) :=
  [
    .of "inaccessible_street_reluctance" Decode.number fun x p => { p with inaccessibleStreetReluctance := x },
    .of "stairs_reluctance" Decode.number fun x p => { p with stairsReluctance := x },
    .of "max_slope" Decode.number fun x p => { p with maxSlope := x },
    .of "slope_exceeded_reluctance" Decode.number fun x p => { p with slopeExceededReluctance := x }]

def decode : Decoder WheelchairPreferences := Decode.record fields true {}

def toDocument (p : WheelchairPreferences) : Document :=
  .record [
    ("inaccessible_street_reluctance", .real p.inaccessibleStreetReluctance),
    ("stairs_reluctance", .real p.stairsReluctance),
    ("max_slope", .real p.maxSlope),
    ("slope_exceeded_reluctance", .real p.slopeExceededReluctance)]

end WheelchairPreferences

/-! ## All sections -/

/-- what is configured for a routing request -/
structure RoutingConfig where
  walk : WalkConfig := .empty
  bike : BikePreferences := {}
  car : CarPreferences := {}
  wheelchair : WheelchairPreferences := {}

namespace RoutingConfig

def fields : List (Decode.Field RoutingConfig) :=
  [
    .of "walk" WalkConfig.decode fun v c => { c with walk := v },
    .of "bike" BikePreferences.decode fun v c => { c with bike := v },
    .of "car" CarPreferences.decode fun v c => { c with car := v },
    .of "wheelchair" WheelchairPreferences.decode fun v c => { c with wheelchair := v }]

def decode : Decoder RoutingConfig := Decode.record fields true {}

def toDocument (c : RoutingConfig) : Document :=
  .record [
    ("walk", c.walk.toDocument),
    ("bike", c.bike.toDocument),
    ("car", c.car.toDocument),
    ("wheelchair", c.wheelchair.toDocument)]

def equals (c d : RoutingConfig) : Bool :=
  c.walk.equals d.walk && c.bike.equals d.bike && c.car.equals d.car && c.wheelchair.equals d.wheelchair

/-- the preferences of a request: walking preferences are built over the defaults, the rest is taken as it is -/
def preferences (c : RoutingConfig) : RoutingPreferences where
  walk := (c.walk.build 1).value
  bike := c.bike
  car := c.car
  wheelchair := c.wheelchair

end RoutingConfig

end AccessibleWalk
