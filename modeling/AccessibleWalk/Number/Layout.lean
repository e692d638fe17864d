/-
Writing numbers. The digits are always the shortest ones that read back; a layout holds what is left to choose: which
leading exponents are written positionally, whether a whole number keeps a point, whether a positive exponent carries a
plus, and which of two equally short and near decimals is taken.
-/
import AccessibleWalk.Number.Binary64

namespace AccessibleWalk

/-- the choices of one notation for numbers -/
structure Layout where
  positional : Int → Bool
  keepsPoint : Bool
  plusExponent : Bool
  tie : Tie

namespace Layout

/-- a whole part and a fraction part; an empty fraction is left out or written as one zero -/
def joined (l : Layout) (whole fraction : List Char) : List Char :=
  if fraction.isEmpty then whole ++ (if l.keepsPoint then ['.', '0'] else [])
  else whole ++ '.' :: fraction

/-- all places written out -/
def positionalText (l : Layout) (d : Decimal) : List Char :=
  let digits := Nat.toDigits 10 d.digits
  match d.exponent with
  | .ofNat zeros => l.joined (digits ++ List.replicate zeros '0') []
  | .negSucc n =>
    let places := n + 1
    if places < digits.length then
      l.joined (digits.take (digits.length - places)) (digits.drop (digits.length - places))
    else l.joined ['0'] (List.replicate (places - digits.length) '0' ++ digits)

/-- one digit before the point and a power of ten -/
def exponentText (l : Layout) (d : Decimal) : List Char :=
  let mantissa :=
    match Nat.toDigits 10 d.digits with
    | [] => []
    | [digit] => [digit]
    | digit :: more => digit :: '.' :: more
  let power :=
    match d.leadingExponent with
    | .ofNat e => (if l.plusExponent then ['+'] else []) ++ Nat.toDigits 10 e
    | .negSucc n => '-' :: Nat.toDigits 10 (n + 1)
  mantissa ++ 'e' :: power

def decimalText (l : Layout) (d : Decimal) : List Char :=
  if l.positional d.leadingExponent then l.positionalText d else l.exponentText d

def magnitudeText (l : Layout) (m : Magnitude) : List Char :=
  if m.isFinite then l.decimalText (m.shortest l.tie) else ['i', 'n', 'f']

/-- the characters of a number in this layout -/
def write (l : Layout) : Binary64 → List Char
  | .nan => ['N', 'a', 'N']
  | .signed true m => '-' :: l.magnitudeText m
  | .signed false m => l.magnitudeText m

end Layout

end AccessibleWalk
