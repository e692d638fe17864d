/-
Modes of travel, and what can go wrong with them.
-/
import AccessibleWalk.Text.Case

namespace AccessibleWalk

/-- how an edge is traversed -/
inductive TravelMode where
  | walk | bicycle | scooter | car | bus | rail | tram | subway | ferry | flex
  deriving DecidableEq

namespace TravelMode

def all : List TravelMode := [.walk, .bicycle, .scooter, .car, .bus, .rail, .tram, .subway, .ferry, .flex]

def name : TravelMode → String
  | .walk => "walk"
  | .bicycle => "bicycle"
  | .scooter => "scooter"
  | .car => "car"
  | .bus => "bus"
  | .rail => "rail"
  | .tram => "tram"
  | .subway => "subway"
  | .ferry => "ferry"
  | .flex => "flex"

end TravelMode

/-- a mode that streets are not scored for, or no mode at all -/
inductive ReluctanceError where
  | invalidMode (mode : TravelMode)
  | unknownMode (text : String)
  deriving DecidableEq

def ReluctanceError.message : ReluctanceError → String
  | .invalidMode mode => "no street reluctance is defined for traverse mode '" ++ mode.name ++ "'"
  | .unknownMode text => "unknown traverse mode '" ++ text ++ "'"

/-- the mode with this name in small letters -/
def TravelMode.ofText (text : String) : Except ReluctanceError TravelMode :=
  match all.find? fun m => m.name == Text.lower text with
  | some m => .ok m
  | none => .error (.unknownMode text)

end AccessibleWalk
