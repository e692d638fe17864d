/-
Decimals and the magnitudes they round to, and the way back: the shortest decimal that rounds to a given magnitude.

`shortest` looks on the grids of one, two, … seventeen digits for a neighbour of the exact value that reads back, takes
the nearer one on the first grid that has any, and lets a rule settle exact ties. Whatever it finds has been read back
by `Decimal.magnitude` before it is given out.
-/
import AccessibleWalk.Number.Magnitude

namespace AccessibleWalk

/-- the number `digits` · 10 ^ `exponent` -/
structure Decimal where
  digits : Nat
  exponent : Int
  deriving DecidableEq

namespace Decimal

/-- an exponent beyond these bounds gives infinity or zero whatever the digits, so it is cut there -/
def boundedExponent (d : Decimal) : Int :=
  max (min d.exponent 400) (-(401 + d.digits.log2))

/-- the magnitude closest to the decimal -/
def magnitude (d : Decimal) : Magnitude :=
  match d.boundedExponent with
  | .ofNat up => Magnitude.nearest (d.digits * Nat.pow 10 up * Magnitude.quantaPerUnit) 1
  | .negSucc down => Magnitude.nearest (d.digits * Magnitude.quantaPerUnit) (Nat.pow 10 (down + 1))

/-- the same number with one trailing zero less, if there is one -/
def reduced (d : Decimal) : Decimal :=
  if d.digits ≠ 0 ∧ d.digits % 10 = 0 then ⟨d.digits / 10, d.exponent + 1⟩ else d

/-- the power of ten of the leading digit -/
def leadingExponent (d : Decimal) : Int :=
  d.exponent + (Nat.toDigits 10 d.digits).length - 1

end Decimal

/-- which of two equally near decimals is written -/
inductive Tie where
  | upper
  | even
  deriving DecidableEq

namespace Magnitude

/-- the exact value, a whole number of 10 ^ -1074 -/
def exactDigits (m : Magnitude) : Nat := m.quanta * Nat.pow 5 1074

/-- the nearer neighbour on the grid of `n` digits that reads back, if one does -/
def onGrid? (m : Magnitude) (tie : Tie) (n : Nat) : Option Decimal :=
  let exact := m.exactDigits
  let dropped := (Nat.toDigits 10 exact).length - n
  let step := Nat.pow 10 dropped
  let below := exact / step
  let lower := Decimal.reduced ⟨below, dropped - 1074⟩
  let upper := Decimal.reduced ⟨below + 1, dropped - 1074⟩
  let rest := 2 * (exact % step)
  let takeUpper := step < rest || (rest == step && (tie == .upper || below % 2 == 1))
  if lower.magnitude = m then
    if upper.magnitude = m && takeUpper then some upper else some lower
  else if upper.magnitude = m then some upper
  else none

/-- the decimal with the fewest digits that rounds to the magnitude; past seventeen digits the exact value -/
def shortest (m : Magnitude) (tie : Tie) : Decimal :=
  if m.code = 0 then ⟨0, 0⟩
  else (((List.range 17).map (· + 1)).findSome? (m.onGrid? tie)).getD ⟨m.exactDigits, -1074⟩

end Magnitude

end AccessibleWalk
