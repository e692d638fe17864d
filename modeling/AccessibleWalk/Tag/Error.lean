/-
What can be wrong with a tag, and what a tag is expected to hold.
-/
namespace AccessibleWalk

/-- the form of payload a tag carries once read -/
inductive Shape where
  | flag
  | category
  | number
  | categoryOrNumber
  deriving DecidableEq

namespace Shape

def name : Shape → String
  | .flag => "flag"
  | .category => "category"
  | .number => "number"
  | .categoryOrNumber => "category_or_number"

def all : List Shape := [.flag, .category, .number, .categoryOrNumber]

end Shape

/-- a failure to read a tag, a category, a property name or a slot -/
inductive TagError where
  | unreadable (shape : Shape) (token reason : String)
  | unknownCategory (category token : String)
  | unknownProperty (name : String)
  | noValue
  deriving DecidableEq

def TagError.message : TagError → String
  | .unreadable shape token reason =>
    "failure parsing " ++ shape.name ++ " tag value '" ++ token ++ "': " ++ reason
  | .unknownCategory category token => "'" ++ token ++ "' is not a known " ++ category ++ " category"
  | .unknownProperty name => "unknown accessibility property '" ++ name ++ "'"
  | .noValue => "No value present"

end AccessibleWalk
