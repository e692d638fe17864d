/-
Impact tables: for each profile, the class of every possible fact about an edge. Facts without a rule of their own
have no impact. Not-a-number fails every comparison, so it lands in the last row of a scale.
-/
import AccessibleWalk.Impact.Class
import AccessibleWalk.Property.Slot
import AccessibleWalk.Walk.Profile

namespace AccessibleWalk

/-- the class of every fact, for one profile -/
structure ImpactTable where
  classOf : (s : Slot) → s.Payload → ImpactClass

def ImpactTable.classify (t : ImpactTable) (p : Property) : ImpactClass := t.classOf p.slot p.payload

/-! ## Reduced mobility -/

namespace Pam

/-- widths of 100 meters and more are taken for tagging errors -/
def width (x : Binary64) : ImpactClass :=
  if x.less 0.8 then .moderate else if x.less 1.2 then .low else if x.less 100 then .noImpact else .moderate

def surface : Surface → ImpactClass
  | .paved | .asphalt | .chipseal | .concrete | .concreteLanes | .metal | .rubber | .clay | .tartan
  | .artificialTurf | .acrylic | .carpet => .noImpact
  | .concretePlates | .pavingStones | .sett | .wood | .unpaved | .compacted | .fineGravel => .low
  | .cobblestone | .unhewnCobblestone | .steppingStones | .gravel | .pebblestone | .ground | .dirt | .earth
  | .grass | .grassPaver | .metalGrid | .mud | .sand | .woodchips | .snow | .ice => .high
  | .rock => .severe

def smoothness : Smoothness → ImpactClass
  | .excellent | .good => .noImpact
  | .intermediate => .low
  | .bad => .moderate
  | .veryBad => .high
  | .horrible | .veryHorrible | .impassable => .severe

def highway : Highway → ImpactClass
  | .steps => .low
  | _ => .noImpact

def incline : Incline → ImpactClass
  | .direction _ => .noImpact
  | .percent p =>
    if p.abs.atMost 4 then .noImpact else if p.abs.atMost 7 then .low else if p.abs.atMost 11 then .moderate else .high

/-- a curb without any lip cannot be felt -/
def ressautMax (x : Binary64) : ImpactClass :=
  if x.equals 0 then .moderate else if x.atMost 0.02 then .noImpact else if x.atMost 0.06 then .low else .moderate

def table : ImpactTable where
  classOf
    | .width, x => width x
    | .surface, s => surface s
    | .smoothness, s => smoothness s
    | .highway, h => highway h
    | .incline, i => incline i
    | .ressautMax, x => ressautMax x
    | _, _ => .noImpact

end Pam

/-! ## Wheelchair -/

namespace Ufr

def width (x : Binary64) : ImpactClass :=
  if x.less 0.8 then .severe else if x.less 0.9 then .high else if x.less 1.2 then .moderate
  else if x.less 1.4 then .low else .noImpact

def surface : Surface → ImpactClass
  | .paved | .asphalt | .chipseal | .concrete | .metal | .rubber | .clay | .tartan | .acrylic | .carpet => .noImpact
  | .concretePlates | .pavingStones | .wood | .unpaved | .compacted | .fineGravel | .artificialTurf => .low
  | .sett | .metalGrid => .moderate
  | .cobblestone | .unhewnCobblestone | .pebblestone | .ground | .dirt | .earth | .grass | .grassPaver => .high
  | .concreteLanes | .steppingStones | .gravel | .rock | .mud | .sand | .woodchips | .snow | .ice => .severe

def smoothness : Smoothness → ImpactClass
  | .excellent | .good => .noImpact
  | .intermediate => .high
  | .bad | .veryBad | .horrible | .veryHorrible | .impassable => .severe

def highway : Highway → ImpactClass
  | .steps => .severe
  | _ => .noImpact

def incline : Incline → ImpactClass
  | .direction _ => .noImpact
  | .percent p =>
    if p.abs.atMost 4 then .noImpact else if p.abs.atMost 5 then .low else if p.abs.atMost 6 then .moderate
    else if p.abs.atMost 7 then .high else .severe

def ressautMax (x : Binary64) : ImpactClass :=
  if x.atMost 0.02 then .noImpact else if x.atMost 0.04 then .low else if x.atMost 0.06 then .moderate
  else if x.atMost 0.12 then .high else .severe

def table : ImpactTable where
  classOf
    | .width, x => width x
    | .surface, s => surface s
    | .smoothness, s => smoothness s
    | .highway, h => highway h
    | .incline, i => incline i
    | .ressautMax, x => ressautMax x
    | _, _ => .noImpact

end Ufr

/-! ## All profiles -/

/-- the tables of the profiles -/
structure ImpactTables where
  pam : ImpactTable
  ufr : ImpactTable

namespace ImpactTables

/-- the tables in force -/
def standard : ImpactTables := ⟨Pam.table, Ufr.table⟩

/-- the table of a profile; without a profile there is none -/
def table? (t : ImpactTables) : Profile → Option ImpactTable
  | .none => none
  | .pam => some t.pam
  | .ufr => some t.ufr

/-- the class of a fact; without a profile nothing has an impact -/
def classify (t : ImpactTables) (profile : Profile) (p : Property) : ImpactClass :=
  match t.table? profile with
  | some table => table.classify p
  | none => .noImpact

end ImpactTables

end AccessibleWalk
