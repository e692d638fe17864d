/-
Reading numbers from tags: an optional sign, then `inf`, `infinity` or `nan` in any case, or digits with an optional
point (a digit on at least one side of it) and an optional exponent. Nothing else may stand in the text. The number is
the binary64 number closest to what is written.
-/
import AccessibleWalk.Number.Binary64

namespace AccessibleWalk

/-- why a text is no number -/
inductive LiteralError where
  | empty
  | invalid
  deriving DecidableEq

def LiteralError.message : LiteralError → String
  | .empty => "cannot parse float from empty string"
  | .invalid => "invalid float literal"

namespace Decimal

/-- a sign in front, true for minus -/
def splitSign : List Char → Bool × List Char
  | '-' :: rest => (true, rest)
  | '+' :: rest => (false, rest)
  | text => (false, text)

/-- the value of an exponent mark with its digits; no mark is exponent zero -/
def exponent? : List Char → Option Int
  | [] => some 0
  | mark :: rest =>
    if mark = 'e' ∨ mark = 'E' then
      let (negative, digits) := splitSign rest
      if digits.isEmpty || !digits.all Char.isDigit then none
      else if negative then some (-(Nat.ofDigitChars 10 digits 0 : Int))
      else some (Nat.ofDigitChars 10 digits 0)
    else none

/-- a fraction part behind a point, with what follows it -/
def splitFraction : List Char → List Char × List Char
  | '.' :: rest => (rest.takeWhile Char.isDigit, rest.dropWhile Char.isDigit)
  | rest => ([], rest)

/-- digits, point, digits, exponent -/
def ofChars? (text : List Char) : Option Decimal :=
  let whole := text.takeWhile Char.isDigit
  let (fraction, tail) := splitFraction (text.dropWhile Char.isDigit)
  if whole.isEmpty && fraction.isEmpty then none
  else (exponent? tail).map fun e => ⟨Nat.ofDigitChars 10 (whole ++ fraction) 0, e - fraction.length⟩

end Decimal

namespace Binary64

/-- a number without its sign -/
def unsigned? (negative : Bool) (text : List Char) : Option Binary64 :=
  let word := String.ofList (text.map Char.toLower)
  if word = "inf" ∨ word = "infinity" then some (.signed negative Magnitude.infinity)
  else if word = "nan" then some .nan
  else (Decimal.ofChars? text).map fun d => .signed negative d.magnitude

/-- the number a text stands for -/
def ofLiteral (text : String) : Except LiteralError Binary64 :=
  if text.isEmpty then .error .empty
  else
    let (negative, rest) := Decimal.splitSign text.toList
    match unsigned? negative rest with
    | some x => .ok x
    | none => .error .invalid

end Binary64

end AccessibleWalk
