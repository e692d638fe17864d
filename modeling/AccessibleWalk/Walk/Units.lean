/-
Normal forms of preference numbers. Preferences are normalised when they are built, so that requests which mean the
same are equal: each quantity keeps as many decimals as matter for it, what cannot be negative is cut at zero, a ratio
lies in [0, 1]. A number so large that scaling it overflows is kept as it is, and not-a-number passes through.
-/
import AccessibleWalk.Number.Binary64

namespace AccessibleWalk.Units

/-- keeps some decimals, a half going away from zero -/
def roundTo (decimals : Nat) (x : Binary64) : Binary64 :=
  let factor := Binary64.ofInt (Nat.pow 10 decimals)
  let scaled := x * factor
  if scaled.isFinite then scaled.roundHalfAway / factor else x

def nonNegative (x : Binary64) : Binary64 := if x.less 0 then 0 else x

/-- meters per second: two decimals below 10, one from there on -/
def speed (x : Binary64) : Binary64 :=
  let x := nonNegative x
  if x.less 10 then roundTo 2 x else roundTo 1 x

/-- reluctances and other factors: two decimals below 2, one below 10, none from there on -/
def reluctance (x : Binary64) : Binary64 :=
  let x := nonNegative x
  if x.less 2 then roundTo 2 x else if x.less 10 then roundTo 1 x else roundTo 0 x

/-- a share of one -/
def ratio (x : Binary64) : Binary64 := roundTo 2 (x.clamp 0 1)

/-- meters along or across a path -/
def length (x : Binary64) : Binary64 := roundTo 2 (nonNegative x)

/-- signed percent -/
def incline (x : Binary64) : Binary64 := roundTo 2 x

/-- meters up a curb -/
def height (x : Binary64) : Binary64 := roundTo 3 (nonNegative x)

/-- a cost of 32 bits without sign -/
def cost (i : Int) : Int := max 0 (min i 0xFFFFFFFF)

end AccessibleWalk.Units
