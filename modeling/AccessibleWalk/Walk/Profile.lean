/-
Accessibility profiles: standards by which the facts of an edge are classed. Without a profile a walker states
thresholds of their own.
-/
import AccessibleWalk.Tag.Error

namespace AccessibleWalk

/-- who the walker is: nobody in particular, a person of reduced mobility, a wheelchair user -/
inductive Profile where
  | none | pam | ufr
  deriving DecidableEq

namespace Profile

def name : Profile → String
  | .none => "NONE"
  | .pam => "PAM"
  | .ufr => "UFR"

/-- the profile of a text in any case. Only the ASCII letters have these capitals, so raising those is enough. -/
def ofText (text : String) : Except TagError Profile :=
  let capitals := String.ofList (text.toList.map Char.toUpper)
  if capitals = "NONE" then .ok .none
  else if capitals = "PAM" then .ok .pam
  else if capitals = "UFR" then .ok .ufr
  else .error (.unknownCategory "accessibility profile" text)

/-- the spellings of the profiles in configurations -/
def spellings : List (String × Profile) :=
  [("NONE", .none), ("none", .none), ("PAM", .pam), ("pam", .pam), ("UFR", .ufr), ("ufr", .ufr)]

end Profile

end AccessibleWalk
