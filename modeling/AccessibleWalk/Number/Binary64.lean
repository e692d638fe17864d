/-
Binary64 numbers: not-a-number, or a sign with a magnitude, so that the two zeros and the two infinities differ. All
not-a-numbers are one value.

Two orders of agreement: `equals` is the numeric comparison (not-a-number differs from itself, the zeros agree), `same`
is agreement of ranks, an equivalence that also identifies not-a-number with itself.
-/
import AccessibleWalk.Number.Decimal

namespace AccessibleWalk

/-- a binary64 number -/
inductive Binary64 where
  | nan
  | signed (negative : Bool) (magnitude : Magnitude)
  deriving DecidableEq

namespace Binary64

instance : OfScientific Binary64 where
  ofScientific digits down exponent :=
    .signed false (Decimal.magnitude ⟨digits, if down then -(exponent : Int) else exponent⟩)

instance (n : Nat) : OfNat Binary64 n where
  ofNat := .signed false (Magnitude.ofNat n)

instance : Inhabited Binary64 := ⟨nan⟩

/-- the largest finite number, used for "unbounded" -/
def greatest : Binary64 := .signed false Magnitude.greatest

/-- a whole number, rounded -/
def ofInt (i : Int) : Binary64 := .signed (decide (i < 0)) (Magnitude.ofNat i.natAbs)

/-! ## Classes and order -/

def isNaN : Binary64 → Bool
  | nan => true
  | signed _ _ => false

def isFinite : Binary64 → Bool
  | nan => false
  | signed _ m => m.isFinite

/-- the place on the number line; both zeros rank 0 and not-a-number has no rank -/
def rank? : Binary64 → Option Int
  | nan => none
  | signed true m => some (-m.code)
  | signed false m => some m.code

def less (x y : Binary64) : Bool :=
  match x.rank?, y.rank? with
  | some a, some b => decide (a < b)
  | _, _ => false

def atMost (x y : Binary64) : Bool :=
  match x.rank?, y.rank? with
  | some a, some b => decide (a ≤ b)
  | _, _ => false

/-- numeric equality: the zeros agree, not-a-number differs from itself -/
def equals (x y : Binary64) : Bool :=
  match x.rank?, y.rank? with
  | some a, some b => decide (a = b)
  | _, _ => false

/-- agreement of ranks: the zeros agree and not-a-number agrees with itself -/
def same (x y : Binary64) : Bool := decide (x.rank? = y.rank?)

@[simp] theorem same_iff {x y : Binary64} : x.same y = true ↔ x.rank? = y.rank? := by simp [same]

theorem equals_iff {x y : Binary64} : x.equals y = true ↔ x.rank? = y.rank? ∧ x ≠ nan := by
  cases x with
  | nan => simp [equals, rank?]
  | signed n a => cases y with
    | nan => cases n <;> simp [equals, rank?]
    | signed k b => cases n <;> cases k <;> simp [equals, rank?]

/-! ## Arithmetic -/

def abs : Binary64 → Binary64
  | nan => nan
  | signed _ m => signed false m

def neg : Binary64 → Binary64
  | nan => nan
  | signed n m => signed (!n) m

/-- adds; opposite infinities have no sum, and an exact zero is negative only if both terms are -/
def add : Binary64 → Binary64 → Binary64
  | signed n a, signed k b =>
    if n = k then signed n (a.add b)
    else if a.isFinite && b.isFinite then
      if b.quanta < a.quanta then signed n (Magnitude.nearest (a.quanta - b.quanta) 1)
      else if a.quanta < b.quanta then signed k (Magnitude.nearest (b.quanta - a.quanta) 1)
      else signed false Magnitude.zero
    else if a.isFinite then signed k b
    else if b.isFinite then signed n a
    else nan
  | _, _ => nan

def sub (x y : Binary64) : Binary64 := x.add y.neg

/-- multiplies; zero times infinity has no value -/
def mul : Binary64 → Binary64 → Binary64
  | signed n a, signed k b =>
    if (a = Magnitude.zero ∧ b = Magnitude.infinity) ∨ (a = Magnitude.infinity ∧ b = Magnitude.zero) then nan
    else signed (n ^^ k) (a.mul b)
  | _, _ => nan

/-- divides; 0 / 0 and infinity / infinity have no value -/
def div : Binary64 → Binary64 → Binary64
  | signed n a, signed k b =>
    if (a = Magnitude.zero ∧ b = Magnitude.zero) ∨ (a = Magnitude.infinity ∧ b = Magnitude.infinity) then nan
    else if b = Magnitude.zero then signed (n ^^ k) Magnitude.infinity
    else if b = Magnitude.infinity then signed (n ^^ k) Magnitude.zero
    else signed (n ^^ k) (a.div b)
  | _, _ => nan

instance : Neg Binary64 := ⟨neg⟩
instance : Add Binary64 := ⟨add⟩
instance : Sub Binary64 := ⟨sub⟩
instance : Mul Binary64 := ⟨mul⟩
instance : Div Binary64 := ⟨div⟩

/-- the closest whole number, a half going away from zero; the sign stays -/
def roundHalfAway : Binary64 → Binary64
  | nan => nan
  | signed n m => signed n m.roundHalfUp

/-- moves a number into [low, high]; not-a-number stays -/
def clamp (x low high : Binary64) : Binary64 :=
  if x.less low then low else if high.less x then high else x

end Binary64

end AccessibleWalk
