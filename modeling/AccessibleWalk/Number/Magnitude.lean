/-
Nonnegative binary64 numbers. A magnitude is named by its code, the bit pattern without the sign bit: codes count the
nonnegative doubles upwards from zero, and the last one is infinity. Every finite double is a whole number of quanta of
2^-1074, so a value is a natural number of quanta and all arithmetic on values is exact.

`nearest n d` is the one place where anything is rounded: the magnitude closest to n / d quanta, a tie going to the
even code.
-/
namespace AccessibleWalk

/-- a nonnegative binary64 number or infinity, by its bit pattern -/
structure Magnitude where
  code : Nat
  code_le : code ≤ 0x7FF0000000000000 := by decide
  deriving DecidableEq

namespace Magnitude

/-- how many quanta make one -/
def quantaPerUnit : Nat := Nat.pow 2 1074

def zero : Magnitude := ⟨0, by decide⟩

def infinity : Magnitude := ⟨0x7FF0000000000000, by decide⟩

/-- the largest finite magnitude -/
def greatest : Magnitude := ⟨0x7FEFFFFFFFFFFFFF, by decide⟩

def isFinite (m : Magnitude) : Bool := decide (m.code < infinity.code)

/-- the value in quanta; infinity stands where the next binade would start -/
def quanta (m : Magnitude) : Nat :=
  if m.code < 0x10000000000000 then m.code
  else (0x10000000000000 + m.code % 0x10000000000000) * Nat.pow 2 (m.code / 0x10000000000000 - 1)

/-- the magnitude with this code, codes past infinity being infinity -/
def ofCode (code : Nat) : Magnitude :=
  ⟨min code 0x7FF0000000000000, Nat.min_le_right _ _⟩

/-- the whole number closest to n / d, a tie going to the even one -/
def roundHalfEven (n d : Nat) : Nat :=
  let below := n / d
  let doubled := 2 * (n % d)
  if doubled < d then below
  else if d < doubled then below + 1
  else below + below % 2

/-- the magnitude closest to n / d quanta. Above 2^53 quanta the codes of a binade are 2^s quanta apart. -/
def nearest (n d : Nat) : Magnitude :=
  let s := (n / d).log2 - 52
  ofCode (s * 0x10000000000000 + roundHalfEven n (d * Nat.pow 2 s))

/-- a whole number as a magnitude -/
def ofNat (n : Nat) : Magnitude := nearest (n * quantaPerUnit) 1

def add (a b : Magnitude) : Magnitude :=
  if a.isFinite && b.isFinite then nearest (a.quanta + b.quanta) 1 else infinity

/-- the product; the caller settles zero times infinity -/
def mul (a b : Magnitude) : Magnitude :=
  if a.isFinite && b.isFinite then nearest (a.quanta * b.quanta) quantaPerUnit else infinity

/-- the quotient by a nonzero finite number -/
def div (a b : Magnitude) : Magnitude :=
  if a.isFinite then nearest (a.quanta * quantaPerUnit) b.quanta else infinity

/-- the closest whole number, a half going up -/
def roundHalfUp (m : Magnitude) : Magnitude :=
  if m.isFinite then ofNat ((2 * m.quanta + quantaPerUnit) / (2 * quantaPerUnit)) else m

end Magnitude

end AccessibleWalk
