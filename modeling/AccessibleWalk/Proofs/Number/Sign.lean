/-
Numbers that are not below zero. Not-a-number and the negative zero are among them, as both fail the comparison, so a
product of such numbers is always such a number. Whether it is a number at all is a question of its own: only a zero and
an infinity have no product.

- `notNegative_iff`, `zero_atMost_iff`: what comparing with zero says.
- `NotNegative.mul`: products.
- `mul_eq_nan_iff`: when there is no product.
-/
import AccessibleWalk.Proofs.Number.Scaling

namespace AccessibleWalk

namespace Magnitude

theorem zero_mul {b : Magnitude} (hb : b.isFinite = true) : zero.mul b = zero := by
  have hquanta : zero.quanta = 0 := by decide
  rw [mul, hb, Bool.and_true, if_pos (by decide), hquanta, Nat.zero_mul, nearest_zero quantaPerUnit_pos]

theorem mul_zero {a : Magnitude} (ha : a.isFinite = true) : a.mul zero = zero := by
  have hquanta : zero.quanta = 0 := by decide
  rw [mul, ha, Bool.true_and, if_pos (by decide), hquanta, Nat.mul_zero, nearest_zero quantaPerUnit_pos]

end Magnitude

namespace Binary64

open Magnitude (isFinite_iff)

/-- not below zero, as far as comparing goes: not-a-number and the negative zero are not -/
inductive NotNegative : Binary64 → Prop where
  | nan : NotNegative nan
  | negativeZero : NotNegative (signed true .zero)
  | positive (m : Magnitude) : NotNegative (signed false m)

theorem rank?_zero_literal : (0 : Binary64).rank? = some 0 := by decide +kernel

theorem notNegative_iff {x : Binary64} : NotNegative x ↔ x.less 0 = false := by
  constructor
  · intro h
    cases h with
    | nan => rfl
    | negativeZero => decide +kernel
    | positive m =>
      rw [less, rank?_zero_literal]
      exact decide_eq_false (by omega)
  · intro h
    cases x with
    | nan => exact .nan
    | signed n m => cases n with
      | false => exact .positive m
      | true =>
        rw [less, rank?_zero_literal] at h
        have hcode := of_decide_eq_false h
        have hzero : m = .zero := Magnitude.eq_of_code (show m.code = 0 by omega)
        rw [hzero]
        exact .negativeZero

/-- **At least zero** is not below zero, and a number. -/
theorem zero_atMost_iff {x : Binary64} : (0 : Binary64).atMost x = true ↔ NotNegative x ∧ x ≠ nan := by
  rw [notNegative_iff, less, atMost, rank?_zero_literal]
  cases x with
  | nan => simp [rank?]
  | signed n m => cases n <;> simp [rank?]

theorem ne_nan_of_isFinite {x : Binary64} (h : x.isFinite = true) : x ≠ nan := by
  rintro rfl
  cases h

/-- what is above zero -/
theorem exists_of_zero_less {x : Binary64} (h : (0 : Binary64).less x = true) :
    ∃ m, m ≠ Magnitude.zero ∧ x = signed false m := by
  rw [less, rank?_zero_literal] at h
  cases x with
  | nan => cases h
  | signed n m => cases n with
    | true => exact absurd (of_decide_eq_true h) (by omega)
    | false =>
      refine ⟨m, ?_, rfl⟩
      rintro rfl
      exact absurd (of_decide_eq_true h) (by decide)

/-! ## Products -/

/-- a zero and an infinity -/
def Indeterminate : Binary64 → Binary64 → Prop
  | signed _ a, signed _ b =>
    (a = Magnitude.zero ∧ b = Magnitude.infinity) ∨ (a = Magnitude.infinity ∧ b = Magnitude.zero)
  | _, _ => False

theorem signed_mul_signed (n k : Bool) (a b : Magnitude) :
    signed n a * signed k b =
      if (a = .zero ∧ b = .infinity) ∨ (a = .infinity ∧ b = .zero) then nan else signed (n ^^ k) (a.mul b) := rfl

@[simp] theorem nan_mul (x : Binary64) : nan * x = nan := rfl

@[simp] theorem mul_nan (x : Binary64) : x * nan = nan := by cases x <;> rfl

/-- **There is no product** only of not-a-number, or of a zero and an infinity. -/
theorem mul_eq_nan_iff (x y : Binary64) : x * y = nan ↔ x = nan ∨ y = nan ∨ x.Indeterminate y := by
  cases x with
  | nan => simp
  | signed n a => cases y with
    | nan => simp
    | signed k b =>
      rw [signed_mul_signed]
      split_ifs with h
      · simp [Indeterminate, h]
      · simp [Indeterminate, h]

/-- a product keeps above zero -/
theorem NotNegative.mul {x y : Binary64} (hx : NotNegative x) (hy : NotNegative y) : NotNegative (x * y) := by
  cases hx with
  | nan => exact .nan
  | negativeZero => cases hy with
    | nan => exact .nan
    | negativeZero => exact .positive _
    | positive b =>
      rw [signed_mul_signed]
      split_ifs with h
      · exact .nan
      · have hb : b.isFinite = true := isFinite_iff.2 fun hb => h (.inl ⟨rfl, hb⟩)
        rw [Magnitude.zero_mul hb]
        exact .negativeZero
  | positive a => cases hy with
    | nan => rw [mul_nan]; exact .nan
    | negativeZero =>
      rw [signed_mul_signed]
      split_ifs with h
      · exact .nan
      · have ha : a.isFinite = true := isFinite_iff.2 fun ha => h (.inr ⟨ha, rfl⟩)
        rw [Magnitude.mul_zero ha]
        exact .negativeZero
    | positive b =>
      rw [signed_mul_signed]
      split_ifs
      · exact .nan
      · exact .positive _

/-- finite numbers have a product -/
theorem mul_ne_nan_of_isFinite {x y : Binary64} (hx : x.isFinite = true) (hy : y.isFinite = true) : x * y ≠ nan := by
  cases x with
  | nan => cases hx
  | signed n a => cases y with
    | nan => cases hy
    | signed k b =>
      rw [Ne, mul_eq_nan_iff]
      simp [Indeterminate, isFinite_iff.1 hx, isFinite_iff.1 hy]

/-- numbers have a product with a whole number that is not zero -/
theorem mul_ofNat_ne_nan {x : Binary64} (hx : x ≠ nan) {k : Nat} (hk : 0 < k) (hbits : k < 2 ^ 53) :
    x * signed false (.ofNat k) ≠ nan := by
  cases x with
  | nan => exact absurd rfl hx
  | signed n a => rw [mul_ofNat n a hk hbits]; exact nofun

end Binary64

end AccessibleWalk
