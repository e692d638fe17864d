/-
Arithmetic on numbers that agree in rank. Numbers of one rank are the same number or two zeros, and the sign of a zero
never reaches the rank of a result: comparisons answer alike, sums and products have one rank.
-/
import AccessibleWalk.Number.Binary64
import AccessibleWalk.Proofs.Number.Nearest

namespace AccessibleWalk.Binary64

/-! ## Ranks -/

/-- **Numbers of one rank** are the same, or both zero. -/
theorem eq_or_zeros {x y : Binary64} (h : x.rank? = y.rank?) :
    x = y ∨ (∃ n, x = signed n .zero) ∧ ∃ k, y = signed k .zero := by
  cases x with
  | nan =>
    cases y with
    | nan => exact .inl rfl
    | signed k b => cases k <;> simp [rank?] at h
  | signed n a =>
    cases y with
    | nan => cases n <;> simp [rank?] at h
    | signed k b =>
      have zeros : a.code = 0 → b.code = 0 → (∃ l, signed n a = signed l .zero) ∧ ∃ l, signed k b = signed l .zero :=
        fun ha hb => ⟨⟨n, by rw [Magnitude.eq_of_code (b := .zero) ha]⟩,
          k, by rw [Magnitude.eq_of_code (b := .zero) hb]⟩
      cases n <;> cases k <;> simp only [rank?, Option.some.injEq] at h
      · exact .inl (by rw [Magnitude.eq_of_code (by omega : a.code = b.code)])
      · exact .inr (zeros (by omega) (by omega))
      · exact .inr (zeros (by omega) (by omega))
      · exact .inl (by rw [Magnitude.eq_of_code (by omega : a.code = b.code)])

@[simp] theorem rank?_zero (n : Bool) : (signed n .zero).rank? = some 0 := by cases n <;> rfl

/-- a function of numbers that does not see the sign of a zero respects ranks -/
theorem rank?_congr {β : Type} (f : Binary64 → β) (hf : ∀ n k, f (signed n .zero) = f (signed k .zero))
    {x y : Binary64} (h : x.rank? = y.rank?) : f x = f y := by
  rcases eq_or_zeros h with rfl | ⟨⟨n, rfl⟩, k, rfl⟩
  · rfl
  · exact hf n k

/-! ## Comparisons -/

variable {x x' y y' : Binary64}

theorem less_congr (hx : x.rank? = x'.rank?) (hy : y.rank? = y'.rank?) : x.less y = x'.less y' := by
  unfold less; rw [hx, hy]

/-! ## Arithmetic -/

theorem rank?_abs_congr (h : x.rank? = x'.rank?) : x.abs.rank? = x'.abs.rank? :=
  rank?_congr (fun z => z.abs.rank?) (fun _ _ => rfl) h

theorem rank?_neg_congr (h : x.rank? = x'.rank?) : (-x).rank? = (-x').rank? :=
  rank?_congr (fun z => (-z).rank?) (fun n k => (rank?_zero !n).trans (rank?_zero !k).symm) h

protected theorem add_comm (x y : Binary64) : x + y = y + x := by
  show x.add y = y.add x
  cases x with
  | nan => cases y <;> rfl
  | signed n a =>
    cases y with
    | nan => rfl
    | signed k b =>
      by_cases hs : n = k
      · subst hs
        simp only [add, Magnitude.add, if_true, Nat.add_comm a.quanta, Bool.and_comm a.isFinite]
      · simp only [add, if_neg hs, if_neg (Ne.symm hs), Bool.and_comm b.isFinite]
        rcases Nat.lt_trichotomy a.quanta b.quanta with h | h | h
        · simp only [if_pos h, if_neg (Nat.lt_asymm h)]
          cases a.isFinite <;> cases b.isFinite <;> rfl
        · simp only [h, Nat.lt_irrefl, if_false]
          cases a.isFinite <;> cases b.isFinite <;> rfl
        · simp only [if_pos h, if_neg (Nat.lt_asymm h)]
          cases a.isFinite <;> cases b.isFinite <;> rfl

protected theorem mul_comm (x y : Binary64) : x * y = y * x := by
  show x.mul y = y.mul x
  cases x with
  | nan => cases y <;> rfl
  | signed n a =>
    cases y with
    | nan => rfl
    | signed k b =>
      have swap : (a = .zero ∧ b = .infinity) ∨ (a = .infinity ∧ b = .zero) ↔
          (b = .zero ∧ a = .infinity) ∨ (b = .infinity ∧ a = .zero) := by tauto
      simp only [mul, Magnitude.mul, swap, Nat.mul_comm a.quanta, Bool.and_comm a.isFinite, Bool.xor_comm n]

/-- **Adding a zero** of either sign keeps the rank. -/
theorem rank?_zero_add (n : Bool) (y : Binary64) : (signed n .zero + y).rank? = y.rank? := by
  show (add (signed n .zero) y).rank? = y.rank?
  cases y with
  | nan => rfl
  | signed k b =>
    have hzero : Magnitude.zero.quanta = 0 := by decide
    have hfinite : Magnitude.zero.isFinite = true := by decide
    have hnear := Magnitude.nearest_quanta b
    have hsum : Magnitude.zero.add b = b := by
      unfold Magnitude.add
      split_ifs with hb
      · rw [hzero, Nat.zero_add, hnear]
      · rw [hfinite, Bool.true_and, Magnitude.isFinite_iff, not_not] at hb
        exact hb.symm
    simp only [add, hsum, hzero, hfinite, Bool.true_and, Nat.not_lt_zero, if_false, if_true, Nat.sub_zero, hnear]
    split_ifs with hs hb hpos
    · rw [hs]
    · rfl
    · have : b = .zero := by rw [← hnear, Nat.eq_zero_of_not_pos hpos]; exact Magnitude.nearest_zero (by decide)
      rw [this, rank?_zero, rank?_zero]
    · rfl

/-- a zero times a finite number is a zero, and times anything else it has no value -/
theorem rank?_zero_mul (n : Bool) (y : Binary64) :
    (signed n .zero * y).rank? = if y.isFinite then some 0 else none := by
  show (mul (signed n .zero) y).rank? = _
  cases y with
  | nan => rfl
  | signed k b =>
    have hfinite : Magnitude.zero.isFinite = true := by decide
    have hne : Magnitude.zero ≠ Magnitude.infinity := by decide
    by_cases hb : b = .infinity
    · subst hb; rfl
    · have hlt : b.isFinite = true := Magnitude.isFinite_iff.2 hb
      have hprod : Magnitude.zero.mul b = .zero := by
        simp only [Magnitude.mul, hfinite, hlt, Bool.and_self, if_true]
        rw [show Magnitude.zero.quanta = 0 by decide, Nat.zero_mul]
        exact Magnitude.nearest_zero Magnitude.quantaPerUnit_pos
      simp only [mul, hb, hne, hprod, isFinite, hlt, and_false, false_and, or_self, if_false, if_true, rank?_zero]

theorem rank?_add_congr (hx : x.rank? = x'.rank?) (hy : y.rank? = y'.rank?) : (x + y).rank? = (x' + y').rank? := by
  have left (z : Binary64) : (x + z).rank? = (x' + z).rank? :=
    rank?_congr (fun w => (w + z).rank?) (fun n k => by rw [rank?_zero_add, rank?_zero_add]) hx
  have right : (x' + y).rank? = (x' + y').rank? := by
    rw [Binary64.add_comm x' y, Binary64.add_comm x' y']
    exact rank?_congr (fun w => (w + x').rank?) (fun n k => by rw [rank?_zero_add, rank?_zero_add]) hy
  exact (left y).trans right

theorem rank?_sub_congr (hx : x.rank? = x'.rank?) (hy : y.rank? = y'.rank?) : (x - y).rank? = (x' - y').rank? :=
  rank?_add_congr hx (rank?_neg_congr hy)

theorem rank?_mul_congr (hx : x.rank? = x'.rank?) (hy : y.rank? = y'.rank?) : (x * y).rank? = (x' * y').rank? := by
  have left (z : Binary64) : (x * z).rank? = (x' * z).rank? :=
    rank?_congr (fun w => (w * z).rank?) (fun n k => by rw [rank?_zero_mul, rank?_zero_mul]) hx
  have right : (x' * y).rank? = (x' * y').rank? := by
    rw [Binary64.mul_comm x' y, Binary64.mul_comm x' y']
    exact rank?_congr (fun w => (w * x').rank?) (fun n k => by rw [rank?_zero_mul, rank?_zero_mul]) hy
  exact (left y).trans right

/-! ## Interchangeable numbers -/

/-- numbers that no reader of a score tells apart: equal, or both not-a-number -/
def Interchangeable (x y : Binary64) : Prop := x.equals y = true ∨ (x.isNaN = true ∧ y.isNaN = true)

theorem interchangeable_iff : x.Interchangeable y ↔ x.rank? = y.rank? := by
  unfold Interchangeable
  rw [equals_iff]
  cases x with
  | nan => cases y with
    | nan => simp [isNaN]
    | signed k b => cases k <;> simp [isNaN, rank?]
  | signed n a => simp [isNaN]

theorem rank?_eq_of_equals (h : x.equals y = true) : x.rank? = y.rank? := (equals_iff.1 h).1

end AccessibleWalk.Binary64
