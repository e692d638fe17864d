/-
How badly a fact about an edge hits a traveller. The number of a class is the factor by which it raises the reluctance.
-/
import AccessibleWalk.Number.Layout

namespace AccessibleWalk

/-- the severity of an impact -/
inductive ImpactClass where
  | noImpact | low | moderate | high | severe
  deriving DecidableEq

namespace ImpactClass

def all : List ImpactClass := [.noImpact, .low, .moderate, .high, .severe]

def number : ImpactClass → Nat
  | .noImpact => 1
  | .low => 2
  | .moderate => 3
  | .high => 4
  | .severe => 5

def name : ImpactClass → String
  | .noImpact => "no_impact"
  | .low => "low"
  | .moderate => "moderate"
  | .high => "high"
  | .severe => "severe"

def factor (c : ImpactClass) : Binary64 := Binary64.ofInt c.number

end ImpactClass

end AccessibleWalk
