/-
The shortest decimal of a magnitude reads back: a decimal found on a grid has been read back, and the exact value that
is taken otherwise rounds to the magnitude it is the value of.

- `magnitude_eq_nearest`: within the bounds of exponents only the value of a decimal counts.
- `magnitude_shortest`: reading the shortest decimal gives the magnitude.
- `exponent_shortest_le`: its exponent is within the bounds.
-/
import AccessibleWalk.Number.Decimal
import AccessibleWalk.Proofs.Number.Nearest

namespace AccessibleWalk

/-! ## Values of decimals -/

namespace Decimal

/-- **A decimal is read by its value** while its exponent is not cut: it rounds as any fraction it equals. -/
theorem magnitude_eq_nearest {d : Decimal} (up down : Nat) (he : d.exponent = (up : Int) - down)
    (low : -(401 + (d.digits.log2 : Int)) ≤ d.exponent) (high : d.exponent ≤ 400) :
    d.magnitude = Magnitude.nearest (d.digits * 10 ^ up * Magnitude.quantaPerUnit) (10 ^ down) := by
  have hbound : d.boundedExponent = (up : Int) - down := by unfold boundedExponent; omega
  rcases Nat.lt_or_ge up down with h | h
  · obtain ⟨k, rfl⟩ := Nat.exists_eq_add_of_lt h
    have hk : d.boundedExponent = .negSucc k := by rw [hbound]; omega
    have hterm : d.digits * 10 ^ up * Magnitude.quantaPerUnit = d.digits * Magnitude.quantaPerUnit * 10 ^ up := by ring
    have hpower : 10 ^ (up + k + 1) = 10 ^ (k + 1) * 10 ^ up := by ring
    have hup : 0 < 10 ^ up := by positivity
    rw [hterm, hpower, Magnitude.nearest_scale _ _ hup]
    simp only [magnitude, hk, Nat.pow_eq]
  · obtain ⟨k, rfl⟩ := Nat.exists_eq_add_of_le h
    have hk : d.boundedExponent = .ofNat k := by rw [hbound]; simp
    have hterm : d.digits * 10 ^ (down + k) * Magnitude.quantaPerUnit =
        d.digits * 10 ^ k * Magnitude.quantaPerUnit * 10 ^ down := by ring
    have hscale := Magnitude.nearest_scale (d.digits * 10 ^ k * Magnitude.quantaPerUnit) 1
      (show 0 < 10 ^ down by positivity)
    rw [Nat.one_mul] at hscale
    rw [hterm, hscale]
    simp only [magnitude, hk, Nat.pow_eq]

theorem exponent_reduced_le (d : Decimal) : d.reduced.exponent ≤ d.exponent + 1 := by
  unfold reduced
  split
  · exact Int.le_refl _
  · omega

end Decimal

namespace Magnitude

/-! ## Sizes -/

theorem exactDigits_eq (m : Magnitude) : m.exactDigits = m.quanta * 5 ^ 1074 := rfl

theorem quanta_pos {m : Magnitude} (h : m.code ≠ 0) : 0 < m.quanta := by
  rw [quanta_eq]
  split_ifs
  · omega
  · positivity

theorem quanta_lt (m : Magnitude) : m.quanta < 2 ^ 2100 := by
  rw [quanta_eq]
  split_ifs with h
  · calc m.code < 2 ^ 52 := h
      _ < 2 ^ 2100 := by gcongr <;> decide
  · have hcode := m.code_le
    have he : m.code / 2 ^ 52 - 1 ≤ 2046 := by omega
    have hr : 2 ^ 52 + m.code % 2 ^ 52 < 2 ^ 53 := by omega
    calc (2 ^ 52 + m.code % 2 ^ 52) * 2 ^ (m.code / 2 ^ 52 - 1)
        < 2 ^ 53 * 2 ^ (m.code / 2 ^ 52 - 1) := Nat.mul_lt_mul_of_pos_right hr (Nat.two_pow_pos _)
      _ ≤ 2 ^ 53 * 2 ^ 2046 := by gcongr; decide
      _ < 2 ^ 2100 := by rw [← pow_add]; gcongr <;> decide

/-- the exact value has at most 309 digits before the point -/
theorem length_exactDigits_le (m : Magnitude) : (Nat.toDigits 10 m.exactDigits).length ≤ 1383 := by
  rw [Nat.length_toDigits_le_iff (by decide) (by decide), exactDigits_eq]
  have hbig : (2 : Nat) ^ 2100 * 5 ^ 1074 ≤ 10 ^ 1383 := by decide +kernel
  calc m.quanta * 5 ^ 1074
      < 2 ^ 2100 * 5 ^ 1074 := Nat.mul_lt_mul_of_pos_right m.quanta_lt (by positivity)
    _ ≤ 10 ^ 1383 := hbig

/-! ## Grids -/

/-- **What a grid gives has been read back**, and its exponent is small, as the exact value has so few digits. -/
theorem onGrid?_spec {m : Magnitude} {tie : Tie} {n : Nat} {d : Decimal} (h : m.onGrid? tie n = some d) :
    d.magnitude = m ∧ d.exponent ≤ 400 := by
  have hlength := m.length_exactDigits_le
  have hexponent (digits : Nat) :
      (Decimal.reduced ⟨digits, ((Nat.toDigits 10 m.exactDigits).length - n : Nat) - 1074⟩).exponent ≤ 400 := by
    refine (Decimal.exponent_reduced_le _).trans ?_
    show (((Nat.toDigits 10 m.exactDigits).length - n : Nat) : Int) - 1074 + 1 ≤ 400
    omega
  simp only [onGrid?] at h
  split_ifs at h with hlower hboth hupper
  · cases h
    simp only [Bool.and_eq_true, decide_eq_true_eq] at hboth
    exact ⟨hboth.1, hexponent _⟩
  · cases h
    exact ⟨hlower, hexponent _⟩
  · cases h
    exact ⟨hupper, hexponent _⟩

theorem le_log2_mul {q n k : Nat} (hq : 0 < q) (h : 2 ^ k ≤ n) : k ≤ (q * n).log2 := by
  have hle : 2 ^ k ≤ q * n := h.trans (Nat.le_mul_of_pos_left n hq)
  exact (Nat.le_log2 (Nat.lt_of_lt_of_le (Nat.two_pow_pos k) hle).ne').2 hle

/-- the exact value reads back -/
theorem magnitude_exactDigits {m : Magnitude} (h : m.code ≠ 0) : Decimal.magnitude ⟨m.exactDigits, -1074⟩ = m := by
  have hlog : 673 ≤ m.exactDigits.log2 := le_log2_mul (quanta_pos h) (by decide +kernel)
  have hten : (10 : Nat) ^ 1074 = 2 ^ 1074 * 5 ^ 1074 := by rw [show (10 : Nat) = 2 * 5 by rfl, mul_pow]
  have hterm : m.exactDigits * 10 ^ 0 * quantaPerUnit = m.quanta * 10 ^ 1074 := by
    rw [exactDigits_eq, quantaPerUnit_eq, hten]
    ring
  rw [Decimal.magnitude_eq_nearest 0 1074 (by rfl) (by simp only; omega) (by simp), hterm]
  simpa [nearest_quanta] using nearest_scale m.quanta 1 (k := 10 ^ 1074) (by positivity)

/-! ## The shortest decimal -/

theorem shortest_spec (m : Magnitude) (tie : Tie) :
    (m.shortest tie).magnitude = m ∧ (m.shortest tie).exponent ≤ 400 := by
  unfold shortest
  split_ifs with hzero
  · refine ⟨?_, by simp⟩
    rw [Decimal.magnitude_eq_nearest 0 0 (by rfl) (by simp) (by simp)]
    simpa using eq_of_code (a := zero) hzero.symm
  · cases hgrid : ((List.range 17).map (· + 1)).findSome? (m.onGrid? tie) with
    | some d =>
      obtain ⟨n, -, hn⟩ := List.exists_of_findSome?_eq_some hgrid
      exact onGrid?_spec hn
    | none => exact ⟨magnitude_exactDigits hzero, by simp⟩

/-- **The shortest decimal reads back.** -/
@[simp] theorem magnitude_shortest (m : Magnitude) (tie : Tie) : (m.shortest tie).magnitude = m :=
  (m.shortest_spec tie).1

theorem exponent_shortest_le (m : Magnitude) (tie : Tie) : (m.shortest tie).exponent ≤ 400 := (m.shortest_spec tie).2

end Magnitude

end AccessibleWalk
