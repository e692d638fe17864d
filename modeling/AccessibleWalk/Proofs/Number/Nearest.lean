/-
Rounding to the nearest magnitude: a fraction may be reduced or extended first, and a magnitude is its own rounding.

- `nearest_scale`: only the value of the fraction counts, not how it is written.
- `nearest_quanta`: the exact value of a magnitude rounds to that magnitude, infinity included.
-/
import Mathlib.Tactic
import AccessibleWalk.Number.Magnitude

namespace AccessibleWalk.Magnitude

/-! ## Codes -/

theorem eq_of_code {a b : Magnitude} (h : a.code = b.code) : a = b := by
  cases a; cases b; simpa using h

@[simp] theorem ofCode_code (m : Magnitude) : ofCode m.code = m :=
  eq_of_code (Nat.min_eq_left m.code_le)

theorem quantaPerUnit_eq : quantaPerUnit = 2 ^ 1074 := rfl

theorem quantaPerUnit_pos : 0 < quantaPerUnit := by rw [quantaPerUnit_eq]; positivity

theorem quanta_eq (m : Magnitude) :
    m.quanta = if m.code < 2 ^ 52 then m.code else (2 ^ 52 + m.code % 2 ^ 52) * 2 ^ (m.code / 2 ^ 52 - 1) := rfl

/-- every magnitude but infinity is finite -/
theorem isFinite_iff {m : Magnitude} : m.isFinite = true ↔ m ≠ infinity := by
  rw [isFinite, decide_eq_true_iff]
  refine ⟨fun h he => absurd h (by rw [he]; exact Nat.lt_irrefl _), fun h => ?_⟩
  exact Nat.lt_of_le_of_ne m.code_le fun hc => h (eq_of_code hc)

/-! ## Whole numbers -/

theorem roundHalfEven_mul_right (n : Nat) {d : Nat} (hd : 0 < d) : roundHalfEven (n * d) d = n := by
  unfold roundHalfEven
  simp only [Nat.mul_mod_left, Nat.mul_div_cancel n hd, Nat.mul_zero, if_pos hd]

theorem roundHalfEven_scale (n d : Nat) {k : Nat} (hk : 0 < k) : roundHalfEven (n * k) (d * k) = roundHalfEven n d := by
  unfold roundHalfEven
  have hdiv : n * k / (d * k) = n / d := Nat.mul_div_mul_right n d hk
  have hmod : 2 * (n * k % (d * k)) = 2 * (n % d) * k := by rw [Nat.mul_mod_mul_right]; ring
  have below : 2 * (n % d) * k < d * k ↔ 2 * (n % d) < d := Nat.mul_lt_mul_right hk
  have above : d * k < 2 * (n % d) * k ↔ d < 2 * (n % d) := Nat.mul_lt_mul_right hk
  simp only [hdiv, hmod, below, above]

/-! ## Magnitudes -/

theorem nearest_eq (n d : Nat) :
    nearest n d = ofCode (((n / d).log2 - 52) * 2 ^ 52 + roundHalfEven n (d * 2 ^ ((n / d).log2 - 52))) := rfl

/-- **A fraction is rounded by its value**, not by its terms. -/
theorem nearest_scale (n d : Nat) {k : Nat} (hk : 0 < k) : nearest (n * k) (d * k) = nearest n d := by
  have hterm : d * k * 2 ^ ((n / d).log2 - 52) = d * 2 ^ ((n / d).log2 - 52) * k := by ring
  rw [nearest_eq, nearest_eq, Nat.mul_div_mul_right n d hk, hterm, roundHalfEven_scale n _ hk]

@[simp] theorem nearest_zero {d : Nat} (hd : 0 < d) : nearest 0 d = zero := by
  have h : roundHalfEven 0 d = 0 := by simpa using roundHalfEven_mul_right 0 hd
  simp [nearest_eq, h, ofCode, zero]

theorem log2_mul_two_pow {n : Nat} (h : n ≠ 0) (k : Nat) : (n * 2 ^ k).log2 = n.log2 + k := by
  rw [Nat.log2_eq_iff (by positivity)]
  have low := Nat.mul_le_mul_right (2 ^ k) (Nat.log2_self_le h)
  have high := Nat.mul_lt_mul_of_pos_right (@Nat.lt_log2_self n) (Nat.two_pow_pos k)
  rw [← pow_add] at low high
  exact ⟨low, by rwa [show n.log2 + k + 1 = n.log2 + 1 + k by omega]⟩

/-- a significand of 53 bits, scaled, is rounded to the code with this significand -/
theorem nearest_significand {q : Nat} (low : 2 ^ 52 ≤ q) (high : q < 2 ^ 53) (s : Nat) :
    nearest (q * 2 ^ s) 1 = ofCode (s * 2 ^ 52 + q) := by
  have hq : q.log2 = 52 := (Nat.log2_eq_iff (by omega)).2 ⟨low, high⟩
  have hs : (q * 2 ^ s / 1).log2 - 52 = s := by rw [Nat.div_one, log2_mul_two_pow (by omega), hq]; omega
  rw [nearest_eq, hs, Nat.one_mul, roundHalfEven_mul_right q (Nat.two_pow_pos s)]

theorem nearest_of_lt {n : Nat} (h : n < 2 ^ 53) : nearest n 1 = ofCode n := by
  have hs : (n / 1).log2 - 52 = 0 := by
    rcases Nat.eq_zero_or_pos n with rfl | hn
    · simp
    · have := (Nat.log2_lt (k := 53) (by omega)).2 h
      rw [Nat.div_one]; omega
  have hr : roundHalfEven n 1 = n := by simpa using roundHalfEven_mul_right n (d := 1) (by decide)
  rw [nearest_eq, hs, Nat.zero_mul, Nat.pow_zero, Nat.one_mul, hr, Nat.zero_add]

/-- **A magnitude is its own rounding**, infinity standing where the next binade would start. -/
theorem nearest_quanta (m : Magnitude) : nearest m.quanta 1 = m := by
  rw [quanta_eq]
  split_ifs with hm
  · rw [nearest_of_lt (by omega), ofCode_code]
  · have hr := Nat.mod_lt m.code (show 0 < 2 ^ 52 by decide)
    have hcode := Nat.div_add_mod m.code (2 ^ 52)
    have he : 1 ≤ m.code / 2 ^ 52 := (Nat.one_le_div_iff (by decide)).2 (by omega)
    rw [nearest_significand (by omega) (by omega)]
    have : (m.code / 2 ^ 52 - 1) * 2 ^ 52 + (2 ^ 52 + m.code % 2 ^ 52) = m.code := by omega
    rw [this, ofCode_code]

end AccessibleWalk.Magnitude
