/-
What preference numbers can be once they are in their units, and what is left in them of the numbers they come from.
Units that cut at zero give nothing below zero, and shares are at most one; rounding does not step out of these
ranges. Every unit gives a number for a number and not-a-number for not-a-number, and nothing infinite for a finite
number: a product that overflows is not used.

- `notNegative_speed`, `notNegative_reluctance`, `notNegative_length`, `notNegative_height`, `ratio_range`: ranges.
- `Binary64.Keeps`: what all units keep of a number.
-/
import AccessibleWalk.Proofs.Number.Order
import AccessibleWalk.Proofs.Walk.Normalizing

namespace AccessibleWalk

open Binary64 (signed nan NotNegative)

/-! ## Ranges -/

namespace Units

/-- a speed is not below zero -/
theorem notNegative_speed (x : Binary64) : NotNegative (speed x) := by
  have hcut := notNegative_nonNegative x
  unfold speed
  dsimp only
  split_ifs
  · exact notNegative_roundTo (by decide) hcut
  · exact notNegative_roundTo (by decide) hcut

/-- a reluctance is not below zero -/
theorem notNegative_reluctance (x : Binary64) : NotNegative (reluctance x) := by
  have hcut := notNegative_nonNegative x
  unfold reluctance
  dsimp only
  split_ifs
  · exact notNegative_roundTo (by decide) hcut
  · exact notNegative_roundTo (by decide) hcut
  · exact notNegative_roundTo (by decide) hcut

theorem notNegative_length (x : Binary64) : NotNegative (length x) :=
  notNegative_roundTo (by decide) (notNegative_nonNegative x)

theorem notNegative_height (x : Binary64) : NotNegative (height x) :=
  notNegative_roundTo (by decide) (notNegative_nonNegative x)

theorem cost_of_range {i : Int} (h : 0 ≤ i ∧ i ≤ 0xFFFFFFFF) : cost i = i := by
  unfold cost
  omega

/-- **A share** is between zero and one, if it is a number. -/
theorem ratio_range (x : Binary64) :
    ratio x = nan ∨ (0 : Binary64).atMost (ratio x) = true ∧ (ratio x).atMost 1 = true := by
  have hcase := notNegative_nonNegative x
  rw [← ratio_nonNegative]
  generalize nonNegative x = y at hcase ⊢
  cases hcase with
  | nan => exact .inl rfl
  | negativeZero => exact .inr (by decide +kernel)
  | positive m =>
    have hle : (Magnitude.ratio m).code ≤ (Magnitude.ofNat 1).code := by
      unfold Magnitude.ratio Magnitude.bracket
      split_ifs with h
      · exact (Magnitude.hundredths_below (by decide) m h.le).1
      · exact Nat.le_refl _
    rw [ratio_positive]
    exact .inr ⟨Binary64.zero_atMost_iff.2 ⟨.positive _, nofun⟩,
      Binary64.atMost_iff.2 ⟨_, _, rfl, rfl, Int.ofNat_le.2 hle⟩⟩

end Units

/-! ## What is kept of a number -/

/-- what a computed number has of the one it is computed from: it is a number if that is one, and finite if that is
finite -/
structure Binary64.Keeps (x y : Binary64) : Prop where
  isNaN : y.isNaN = x.isNaN
  isFinite : x.isFinite = true → y.isFinite = true

namespace Binary64.Keeps

variable {x y z : Binary64}

theorem refl (x : Binary64) : x.Keeps x := ⟨rfl, id⟩

theorem signed {a b : Magnitude} (h : a.isFinite = true → b.isFinite = true) (n : Bool) :
    (signed n a).Keeps (signed n b) :=
  ⟨rfl, h⟩

theorem trans (h : x.Keeps y) (h' : y.Keeps z) : x.Keeps z := ⟨h'.isNaN.trans h.isNaN, h'.isFinite ∘ h.isFinite⟩

/-- a finite number in place of another number -/
theorem of_isFinite (hx : x ≠ nan) (hy : y.isFinite = true) : x.Keeps y := by
  refine ⟨?_, fun _ => hy⟩
  cases x with
  | nan => exact absurd rfl hx
  | signed n a => cases y with
    | nan => cases hy
    | signed k b => rfl

end Binary64.Keeps

namespace Units

open Binary64.Keeps

theorem keeps_roundTo {decimals : Nat} (hbits : 10 ^ decimals < 2 ^ 53) (x : Binary64) :
    x.Keeps (roundTo decimals x) := by
  cases x with
  | nan => exact refl nan
  | signed n m =>
    rw [roundTo_signed hbits]
    exact .signed (Magnitude.isFinite_keep (by positivity)) n

theorem keeps_nonNegative (x : Binary64) : x.Keeps (nonNegative x) := by
  unfold nonNegative
  split_ifs with h
  · exact of_isFinite (Binary64.ne_nan_of_atMost (Binary64.atMost_of_less h)).1 (Magnitude.isFinite_ofNat (by decide))
  · exact refl x

theorem keeps_clamp (x : Binary64) : x.Keeps (x.clamp 0 1) := by
  unfold Binary64.clamp
  split_ifs with hlow hhigh
  · exact of_isFinite (Binary64.ne_nan_of_atMost (Binary64.atMost_of_less hlow)).1
      (Magnitude.isFinite_ofNat (by decide))
  · exact of_isFinite (Binary64.ne_nan_of_atMost (Binary64.atMost_of_less hhigh)).2
      (Magnitude.isFinite_ofNat (by decide))
  · exact refl x

theorem keeps_speed (x : Binary64) : x.Keeps (speed x) := by
  refine (keeps_nonNegative x).trans ?_
  unfold speed
  dsimp only
  split_ifs
  · exact keeps_roundTo (by decide) _
  · exact keeps_roundTo (by decide) _

theorem keeps_reluctance (x : Binary64) : x.Keeps (reluctance x) := by
  refine (keeps_nonNegative x).trans ?_
  unfold reluctance
  dsimp only
  split_ifs
  · exact keeps_roundTo (by decide) _
  · exact keeps_roundTo (by decide) _
  · exact keeps_roundTo (by decide) _

theorem keeps_ratio (x : Binary64) : x.Keeps (ratio x) := (keeps_clamp x).trans (keeps_roundTo (by decide) _)

theorem keeps_length (x : Binary64) : x.Keeps (length x) := (keeps_nonNegative x).trans (keeps_roundTo (by decide) _)

theorem keeps_height (x : Binary64) : x.Keeps (height x) := (keeps_nonNegative x).trans (keeps_roundTo (by decide) _)

end Units

end AccessibleWalk
