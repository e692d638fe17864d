/-
What kind of way an edge is, the state of its tactile paving at crossings, and the direction of a slope.
-/
import AccessibleWalk.Category.Basic

namespace AccessibleWalk

/-- the kind of a way -/
inductive Highway where
  | any | pedestrian | footway | steps | elevator | corridor | residential
  deriving DecidableEq

namespace Highway

def name : Highway → String
  | .any => "any"
  | .pedestrian => "pedestrian"
  | .footway => "footway"
  | .steps => "steps"
  | .elevator => "elevator"
  | .corridor => "corridor"
  | .residential => "residential"

instance : Category Highway where
  description := "highway"
  all := [.any, .pedestrian, .footway, .steps, .elevator, .corridor, .residential]
  name := name

end Highway

/-- the kind of a footway -/
inductive Footway where
  | sidewalk | crossing | trafficIsland | accessAisle | link
  deriving DecidableEq

namespace Footway

def name : Footway → String
  | .sidewalk => "sidewalk"
  | .crossing => "crossing"
  | .trafficIsland => "traffic_island"
  | .accessAisle => "access_aisle"
  | .link => "link"

instance : Category Footway where
  description := "footway"
  all := [.sidewalk, .crossing, .trafficIsland, .accessAisle, .link]
  name := name

end Footway

/-- the state of the tactile warning strip of a curb ramp, from best to worst -/
inductive BevEtat where
  | yes | bad | no
  deriving DecidableEq

namespace BevEtat

def name : BevEtat → String
  | .yes => "yes"
  | .bad => "bad"
  | .no => "no"

instance : Category BevEtat where
  description := "bev_etat"
  all := [.yes, .bad, .no]
  name := name

end BevEtat

/-- a slope of which only the direction is known -/
inductive InclineDirection where
  | up | down
  deriving DecidableEq

namespace InclineDirection

def name : InclineDirection → String
  | .up => "up"
  | .down => "down"

instance : Category InclineDirection where
  description := "incline direction"
  all := [.up, .down]
  name := name

end InclineDirection

end AccessibleWalk
