/-
Doubling. What has 53 bits has 53 bits when it is doubled, so doubling never rounds, subnormal numbers included: `k`
doublings give 2^k times the number, or infinity where this lies beyond the range of doubles.

- `exists_significand`: every magnitude is a number of 53 bits, scaled.
- `quanta_doubled`, `isFinite_doubled_iff`: the exact value, and when there is one.
- `iterate_double`: doubling again and again is scaling once.
- `value?_iterate_double`, `iterate_double_of_large`: the same for the rational number that a double stands for.
-/
import AccessibleWalk.Proofs.Number.Scaling

namespace AccessibleWalk

namespace Magnitude

theorem exists_significand (m : Magnitude) : ∃ j t, j < 2 ^ 53 ∧ m.quanta = j * 2 ^ t := by
  rw [quanta_eq]
  split_ifs with hm
  · exact ⟨m.code, 0, by omega, by simp⟩
  · have hr := Nat.mod_lt m.code (show 0 < 2 ^ 52 by decide)
    exact ⟨_, _, by omega, rfl⟩

/-- doubled `k` times -/
def doubled (m : Magnitude) (k : Nat) : Magnitude := nearest (m.quanta * 2 ^ k) 1

@[simp] theorem doubled_zero (m : Magnitude) : m.doubled 0 = m := by
  rw [doubled, pow_zero, Nat.mul_one, nearest_quanta]

/-- **Doubling is exact** as long as it does not overflow. -/
theorem quanta_doubled {m : Magnitude} {k : Nat} (h : (m.doubled k).isFinite = true) :
    (m.doubled k).quanta = m.quanta * 2 ^ k := by
  obtain ⟨j, t, hj, hm⟩ := m.exists_significand
  have hterm : m.quanta * 2 ^ k = j * 2 ^ (t + k) := by rw [hm]; ring
  rw [doubled, hterm] at h ⊢
  exact quanta_nearest_of_bits hj (t + k) h

theorem isFinite_iff_le_greatest {m : Magnitude} : m.isFinite = true ↔ m.code ≤ greatest.code := by
  rw [isFinite_iff_code]
  exact Nat.lt_succ_iff

/-- there is no room between the largest finite magnitude and infinity for what is doubled -/
theorem isFinite_doubled_iff {m : Magnitude} {k : Nat} :
    (m.doubled k).isFinite = true ↔ m.quanta * 2 ^ k ≤ greatest.quanta := by
  constructor
  · intro h
    rw [← quanta_doubled h, quanta_le_quanta]
    exact isFinite_iff_le_greatest.1 h
  · intro h
    exact isFinite_nearest (m := greatest) (by decide) Nat.one_pos (by rwa [Nat.mul_one])

theorem doubled_of_large {m : Magnitude} {k : Nat} (h : greatest.quanta < m.quanta * 2 ^ k) :
    m.doubled k = infinity := by
  by_contra hne
  exact absurd (isFinite_doubled_iff.1 (isFinite_iff.2 hne)) (Nat.not_le_of_lt h)

/-- once more -/
theorem scale_doubled (m : Magnitude) (k : Nat) : (m.doubled k).scale 2 = m.doubled (k + 1) := by
  have hterm : m.quanta * 2 ^ (k + 1) = m.quanta * 2 ^ k * 2 := by ring
  by_cases hfinite : (m.doubled k).isFinite = true
  · rw [scale, quanta_doubled hfinite, doubled, hterm]
  · have hlarge : greatest.quanta < m.quanta * 2 ^ k := by
      rw [isFinite_doubled_iff] at hfinite
      omega
    rw [doubled_of_large hlarge, scale_infinity (by decide), doubled_of_large (by omega)]

/-! ## Rational numbers -/

/-- the rational number that a magnitude stands for -/
def value (m : Magnitude) : ℚ := m.quanta / quantaPerUnit

theorem value_nonneg (m : Magnitude) : 0 ≤ m.value := by
  unfold value
  positivity

theorem value_ofNat {n : Nat} (hn : n < 2 ^ 53) : (ofNat n).value = n := by
  have hunit : (quantaPerUnit : ℚ) ≠ 0 := Nat.cast_ne_zero.2 quantaPerUnit_pos.ne'
  rw [value, quanta_ofNat hn, Nat.cast_mul, mul_div_cancel_right₀ _ hunit]

theorem value_doubled {m : Magnitude} {k : Nat} (h : (m.doubled k).isFinite = true) :
    (m.doubled k).value = m.value * 2 ^ k := by
  rw [value, value, quanta_doubled h]
  push_cast
  ring

end Magnitude

namespace Binary64

/-- the rational number that a finite number stands for -/
def value? : Binary64 → Option ℚ
  | nan => none
  | signed n m => if m.isFinite then some (if n then -m.value else m.value) else none

/-- the end of the range of doubles -/
def largest : ℚ := (2 ^ 53 - 1) * 2 ^ 971

theorem value_greatest : Magnitude.greatest.value = largest := by
  have hunit : (Magnitude.quantaPerUnit : ℚ) ≠ 0 := Nat.cast_ne_zero.2 Magnitude.quantaPerUnit_pos.ne'
  have hquanta : Magnitude.greatest.quanta = 9007199254740991 * 2 ^ 971 * Magnitude.quantaPerUnit := by decide +kernel
  have hbits : ((9007199254740991 : Nat) : ℚ) = 2 ^ 53 - 1 := by norm_num
  rw [Magnitude.value, hquanta, Nat.cast_mul, mul_div_cancel_right₀ _ hunit, Nat.cast_mul, hbits, Nat.cast_pow,
    Nat.cast_ofNat, largest]

/-- what is within the range, in quanta -/
theorem value_mul_le_largest_iff (m : Magnitude) (k : Nat) :
    m.value * 2 ^ k ≤ largest ↔ m.quanta * 2 ^ k ≤ Magnitude.greatest.quanta := by
  have hunit : (0 : ℚ) < Magnitude.quantaPerUnit := Nat.cast_pos.2 Magnitude.quantaPerUnit_pos
  have hterm : (m.quanta : ℚ) * 2 ^ k = (m.quanta * 2 ^ k : Nat) := by push_cast; rfl
  rw [← value_greatest, Magnitude.value, Magnitude.value, div_mul_eq_mul_div, div_le_div_iff_of_pos_right hunit, hterm,
    Nat.cast_le]

theorem value?_eq_some_iff {n : Bool} {m : Magnitude} {x : ℚ} :
    (signed n m).value? = some x ↔ m.isFinite = true ∧ x = if n then -m.value else m.value := by
  rw [value?]
  by_cases h : m.isFinite = true
  · rw [if_pos h, Option.some.injEq, and_iff_right h, eq_comm]
  · rw [if_neg h]
    exact iff_of_false nofun fun hx => h hx.1

theorem abs_signed_value (n : Bool) (m : Magnitude) (k : Nat) :
    |(if n then -m.value else m.value) * 2 ^ k| = m.value * 2 ^ k := by
  have hpow : (0 : ℚ) < 2 ^ k := by positivity
  rw [abs_mul, abs_of_pos hpow]
  cases n with
  | false => rw [if_neg Bool.false_ne_true, abs_of_nonneg m.value_nonneg]
  | true => rw [if_pos rfl, abs_neg, abs_of_nonneg m.value_nonneg]

/-- **Doubling again and again** is scaling once, and keeps the sign. -/
theorem iterate_double (n : Bool) (m : Magnitude) (k : Nat) :
    (fun r : Binary64 => r * 2)^[k] (signed n m) = signed n (m.doubled k) := by
  induction k with
  | zero => rw [Function.iterate_zero_apply, Magnitude.doubled_zero]
  | succ k ih =>
    rw [Function.iterate_succ_apply', ih, ← Magnitude.scale_doubled]
    exact mul_ofNat n (m.doubled k) (by decide) (by decide)

variable {n : Bool} {m : Magnitude} {k : Nat}

/-- **Within the range doubling gives the exact number.** -/
theorem value?_iterate_double {x : ℚ} (hx : (signed n m).value? = some x) (hrange : |x * 2 ^ k| ≤ largest) :
    ((fun r : Binary64 => r * 2)^[k] (signed n m)).value? = some (x * 2 ^ k) := by
  obtain ⟨-, rfl⟩ := value?_eq_some_iff.1 hx
  rw [abs_signed_value, value_mul_le_largest_iff, ← Magnitude.isFinite_doubled_iff] at hrange
  rw [iterate_double, value?_eq_some_iff]
  refine ⟨hrange, ?_⟩
  rw [Magnitude.value_doubled hrange]
  cases n with
  | false => rfl
  | true => exact neg_mul _ _

/-- **Beyond the range it gives infinity**, with the sign of the number. -/
theorem iterate_double_of_large (h : ∀ x, (signed n m).value? = some x → largest < |x * 2 ^ k|) :
    (fun r : Binary64 => r * 2)^[k] (signed n m) = signed n .infinity := by
  rw [iterate_double]
  refine congrArg (signed n) (Magnitude.doubled_of_large ?_)
  by_cases hm : m.isFinite = true
  · have hlarge := h _ (value?_eq_some_iff.2 ⟨hm, rfl⟩)
    rw [abs_signed_value, ← not_le, value_mul_le_largest_iff] at hlarge
    exact Nat.lt_of_not_le hlarge
  · rw [Magnitude.isFinite_iff, not_not] at hm
    have hpos : 0 < 2 ^ k := Nat.two_pow_pos k
    have hinfinity : Magnitude.greatest.quanta < Magnitude.infinity.quanta := Magnitude.quanta_lt_quanta.2 (by decide)
    rw [hm]
    exact hinfinity.trans_le (Nat.le_mul_of_pos_right _ hpos)

end Binary64

end AccessibleWalk
