/-
The fields of walking preferences. A field has a name, a kind of value, a default and a normal form; how values agree
and what a cache key takes from them is said once per kind.
-/
import AccessibleWalk.Category.Ground
import AccessibleWalk.Category.Street
import AccessibleWalk.Walk.Profile
import AccessibleWalk.Walk.Units

namespace AccessibleWalk

/-- the kinds of preference values -/
inductive Setting where
  | number | cost | flag | surfaces | smoothness | bevEtat | profile
  deriving DecidableEq

namespace Setting

/-- the value type of a kind -/
abbrev Value : Setting → Type
  | .number => Binary64
  | .cost => Int
  | .flag => Bool
  | .surfaces => List Surface
  | .smoothness => Smoothness
  | .bevEtat => BevEtat
  | .profile => Profile

/-- agreement of values: numbers agree by rank, so that not-a-number agrees with itself -/
def same : (k : Setting) → k.Value → k.Value → Bool
  | .number, x, y => x.same y
  | .cost, x, y => x == y
  | .flag, x, y => x == y
  | .surfaces, x, y => x == y
  | .smoothness, x, y => x == y
  | .bevEtat, x, y => x == y
  | .profile, x, y => x == y

/-- equality of values: numbers compare as numbers, so that not-a-number differs from itself -/
def equals : (k : Setting) → k.Value → k.Value → Bool
  | .number, x, y => x.equals y
  | .cost, x, y => x == y
  | .flag, x, y => x == y
  | .surfaces, x, y => x == y
  | .smoothness, x, y => x == y
  | .bevEtat, x, y => x == y
  | .profile, x, y => x == y

/-- one of the values that a cache key is fed with -/
inductive Hashed where
  | length (n : Nat)
  | rank (r : Option Int)
  | cost (i : Int)
  | flag (b : Bool)
  | surface (s : Surface)
  | smoothness (s : Smoothness)
  | bevEtat (b : BevEtat)
  | profile (p : Profile)
  deriving DecidableEq

/-- what a cache key is fed with for a value; surfaces are announced by how many they are -/
def hashed : (k : Setting) → k.Value → List Hashed
  | .number, x => [.rank x.rank?]
  | .cost, i => [.cost i]
  | .flag, b => [.flag b]
  | .surfaces, l => .length l.length :: l.map .surface
  | .smoothness, s => [.smoothness s]
  | .bevEtat, b => [.bevEtat b]
  | .profile, p => [.profile p]

end Setting

/-- the fields, in the order of a configuration -/
inductive WalkField where
  | speed | reluctance | boardCost | stairsReluctance | stairsTimeFactor | safetyFactor | minimalWidth
  | lightRequired | reluctedSurfaces | tactilePavingRequired | reluctedSmoothness | maximalIncline
  | ressautMax | ressautMin | bevCtrastRequired | bevEtat | reluctanceOnHighway | accessibilityProfile
  deriving DecidableEq

namespace WalkField

def all : List WalkField :=
  [.speed, .reluctance, .boardCost, .stairsReluctance, .stairsTimeFactor, .safetyFactor, .minimalWidth,
    .lightRequired, .reluctedSurfaces, .tactilePavingRequired, .reluctedSmoothness, .maximalIncline,
    .ressautMax, .ressautMin, .bevCtrastRequired, .bevEtat, .reluctanceOnHighway, .accessibilityProfile]

theorem mem_all (f : WalkField) : f ∈ all := by cases f <;> decide

theorem all_nodup : all.Nodup := by decide

/-- the fields that are numbers with a fraction -/
def numbers : List WalkField :=
  [.speed, .reluctance, .stairsReluctance, .stairsTimeFactor, .safetyFactor, .minimalWidth, .maximalIncline,
    .ressautMax, .ressautMin]

/-- the fields that are not -/
def others : List WalkField :=
  [.boardCost, .lightRequired, .reluctedSurfaces, .tactilePavingRequired, .reluctedSmoothness, .bevCtrastRequired,
    .bevEtat, .reluctanceOnHighway, .accessibilityProfile]

def name : WalkField → String
  | .speed => "speed"
  | .reluctance => "reluctance"
  | .boardCost => "board_cost"
  | .stairsReluctance => "stairs_reluctance"
  | .stairsTimeFactor => "stairs_time_factor"
  | .safetyFactor => "safety_factor"
  | .minimalWidth => "minimal_width"
  | .lightRequired => "light_required"
  | .reluctedSurfaces => "relucted_surfaces"
  | .tactilePavingRequired => "tactile_paving_required"
  | .reluctedSmoothness => "relucted_smoothness"
  | .maximalIncline => "maximal_incline"
  | .ressautMax => "ressaut_max"
  | .ressautMin => "ressaut_min"
  | .bevCtrastRequired => "bev_ctrast_required"
  | .bevEtat => "bev_etat"
  | .reluctanceOnHighway => "reluctance_on_highway"
  | .accessibilityProfile => "accessibility_profile"

@[reducible] def setting : WalkField → Setting
  | .speed | .reluctance | .stairsReluctance | .stairsTimeFactor | .safetyFactor | .minimalWidth
  | .maximalIncline | .ressautMax | .ressautMin => .number
  | .boardCost => .cost
  | .lightRequired | .tactilePavingRequired | .bevCtrastRequired | .reluctanceOnHighway => .flag
  | .reluctedSurfaces => .surfaces
  | .reluctedSmoothness => .smoothness
  | .bevEtat => .bevEtat
  | .accessibilityProfile => .profile

/-- the value type of a field -/
abbrev Value (f : WalkField) : Type := f.setting.Value

/-- what a walker wants who asks for nothing: every edge passes every threshold -/
def default : (f : WalkField) → f.Value
  | .speed => (1.33 : Binary64)
  | .reluctance => (2 : Binary64)
  | .boardCost => (600 : Int)
  | .stairsReluctance => (2 : Binary64)
  | .stairsTimeFactor => (3 : Binary64)
  | .safetyFactor => (1 : Binary64)
  | .minimalWidth => (0 : Binary64)
  | .lightRequired => false
  | .reluctedSurfaces => []
  | .tactilePavingRequired => false
  | .reluctedSmoothness => Smoothness.impassable
  | .maximalIncline => Binary64.greatest
  | .ressautMax => Binary64.greatest
  | .ressautMin => (0 : Binary64)
  | .bevCtrastRequired => false
  | .bevEtat => BevEtat.no
  | .reluctanceOnHighway => false
  | .accessibilityProfile => Profile.none

/-- the normal form of a value: numbers in their units, surfaces once each and in their order -/
def normalize : (f : WalkField) → f.Value → f.Value
  | .speed, x => Units.speed x
  | .reluctance, x => Units.reluctance x
  | .boardCost, i => Units.cost i
  | .stairsReluctance, x => Units.reluctance x
  | .stairsTimeFactor, x => Units.reluctance x
  | .safetyFactor, x => Units.ratio x
  | .minimalWidth, x => Units.length x
  | .lightRequired, b => b
  | .reluctedSurfaces, l => Surface.all.filter l.contains
  | .tactilePavingRequired, b => b
  | .reluctedSmoothness, s => s
  | .maximalIncline, x => Units.incline x
  | .ressautMax, x => Units.height x
  | .ressautMin, x => Units.height x
  | .bevCtrastRequired, b => b
  | .bevEtat, b => b
  | .reluctanceOnHighway, b => b
  | .accessibilityProfile, p => p

/-- agreement of two values of a field -/
def same (f : WalkField) (v w : f.Value) : Bool := f.setting.same v w

end WalkField

end AccessibleWalk
