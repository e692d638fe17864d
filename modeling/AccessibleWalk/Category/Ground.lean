/-
What a path is made of and how even it is.
-/
import AccessibleWalk.Category.Basic

namespace AccessibleWalk

/-- the material of a path -/
inductive Surface where
  | paved | asphalt | chipseal | concrete | concreteLanes | concretePlates | metal | pavingStones | sett
  | cobblestone | unhewnCobblestone | wood | steppingStones | rubber | unpaved | compacted | fineGravel | gravel
  | rock | pebblestone | ground | dirt | earth | grass | grassPaver | metalGrid | mud | sand | woodchips | snow
  | ice | clay | tartan | artificialTurf | acrylic | carpet
  deriving DecidableEq

namespace Surface

def all : List Surface :=
  [.paved, .asphalt, .chipseal, .concrete, .concreteLanes, .concretePlates, .metal, .pavingStones, .sett,
    .cobblestone, .unhewnCobblestone, .wood, .steppingStones, .rubber, .unpaved, .compacted, .fineGravel, .gravel,
    .rock, .pebblestone, .ground, .dirt, .earth, .grass, .grassPaver, .metalGrid, .mud, .sand, .woodchips, .snow,
    .ice, .clay, .tartan, .artificialTurf, .acrylic, .carpet]

def name : Surface → String
  | .paved => "paved"
  | .asphalt => "asphalt"
  | .chipseal => "chipseal"
  | .concrete => "concrete"
  | .concreteLanes => "concrete_lanes"
  | .concretePlates => "concrete_plates"
  | .metal => "metal"
  | .pavingStones => "paving_stones"
  | .sett => "sett"
  | .cobblestone => "cobblestone"
  | .unhewnCobblestone => "unhewn_cobblestone"
  | .wood => "wood"
  | .steppingStones => "stepping_stones"
  | .rubber => "rubber"
  | .unpaved => "unpaved"
  | .compacted => "compacted"
  | .fineGravel => "fine_gravel"
  | .gravel => "gravel"
  | .rock => "rock"
  | .pebblestone => "pebblestone"
  | .ground => "ground"
  | .dirt => "dirt"
  | .earth => "earth"
  | .grass => "grass"
  | .grassPaver => "grass_paver"
  | .metalGrid => "metal_grid"
  | .mud => "mud"
  | .sand => "sand"
  | .woodchips => "woodchips"
  | .snow => "snow"
  | .ice => "ice"
  | .clay => "clay"
  | .tartan => "tartan"
  | .artificialTurf => "artificial_turf"
  | .acrylic => "acrylic"
  | .carpet => "carpet"

def label : Surface → String
  | .concreteLanes => "concrete:lane"
  | .concretePlates => "concrete:plates"
  | other => other.name

instance : Category Surface where
  description := "surface"
  all := all
  name := name
  label := label

end Surface

/-- how even a path is, from best to worst -/
inductive Smoothness where
  | excellent | good | intermediate | bad | veryBad | horrible | veryHorrible | impassable
  deriving DecidableEq

namespace Smoothness

def name : Smoothness → String
  | .excellent => "excellent"
  | .good => "good"
  | .intermediate => "intermediate"
  | .bad => "bad"
  | .veryBad => "very_bad"
  | .horrible => "horrible"
  | .veryHorrible => "very_horrible"
  | .impassable => "impassable"

instance : Category Smoothness where
  description := "smoothness"
  all := [.excellent, .good, .intermediate, .bad, .veryBad, .horrible, .veryHorrible, .impassable]
  name := name

end Smoothness

end AccessibleWalk
