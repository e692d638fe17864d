/-
Sums and the order of numbers. The sum of finite numbers is the exact sum of their quanta, rounded, and rounding keeps
order, so adding one number to two others does not turn them around; a difference is above zero exactly if the first
number is the larger one. Infinities settle a sum by themselves, unless they are opposite and there is none.

- `atMost_iff_quanta`, `less_iff_quanta`: comparing numbers is comparing quanta.
- `rank?_add`: the sum of finite numbers.
- `infinity_add`, `add_infinity`: sums with infinities.
- `atMost_add_right`: adding keeps order.
- `zero_less_sub_iff`: when a difference is above zero.
-/
import AccessibleWalk.Proofs.Number.Agreement
import AccessibleWalk.Proofs.Number.Order
import AccessibleWalk.Proofs.Number.Sign

namespace AccessibleWalk

/-! ## Magnitudes -/

namespace Magnitude

/-- **Larger magnitudes have no smaller sum.** -/
theorem add_le_add {a b a' b' : Magnitude} (ha : a.code ≤ a'.code) (hb : b.code ≤ b'.code) :
    (a.add b).code ≤ (a'.add b').code := by
  by_cases hfinite : a'.isFinite = true ∧ b'.isFinite = true
  · obtain ⟨ha', hb'⟩ := hfinite
    rw [add, add, ha', hb', isFinite_of_code_le ha ha', isFinite_of_code_le hb hb', Bool.and_self,
      if_pos rfl, if_pos rfl]
    refine code_nearest_mono Nat.one_pos Nat.one_pos (Nat.mul_le_mul_right _ ?_)
    exact Nat.add_le_add (quanta_le_quanta.2 ha) (quanta_le_quanta.2 hb)
  · have hinfinite : a'.add b' = infinity := if_neg (by rwa [Bool.and_eq_true])
    rw [hinfinite]
    exact (a.add b).code_le

/-- adding makes nothing smaller -/
theorem le_add (a b : Magnitude) : a.code ≤ (a.add b).code := by
  rw [add]
  split_ifs
  · exact code_le_nearest Nat.one_pos (by omega)
  · exact a.code_le

end Magnitude

namespace Binary64

open Magnitude (isFinite_iff isFinite_iff_code)

/-! ## Quanta -/

/-- the value in quanta, with its sign; an infinity stands where the next binade would start -/
def quanta : Binary64 → Int
  | nan => 0
  | signed true m => -m.quanta
  | signed false m => m.quanta

/-- the rank that a whole number of quanta is rounded to -/
def roundedRank (i : Int) : Int :=
  if i < 0 then -(Magnitude.nearest i.natAbs 1).code else (Magnitude.nearest i.natAbs 1).code

theorem roundedRank_natCast (q : Nat) : roundedRank q = (Magnitude.nearest q 1).code := by
  rw [roundedRank, if_neg (by omega), Int.natAbs_natCast]

theorem roundedRank_neg_natCast (q : Nat) : roundedRank (-q) = -(Magnitude.nearest q 1).code := by
  rcases Nat.eq_zero_or_pos q with rfl | hq
  · rfl
  · rw [roundedRank, if_pos (by omega), Int.natAbs_neg, Int.natAbs_natCast]

/-- **Rounding keeps order**, on both sides of zero. -/
theorem roundedRank_mono {i j : Int} (h : i ≤ j) : roundedRank i ≤ roundedRank j := by
  have hmono {a b : Nat} (hab : a ≤ b) : (Magnitude.nearest a 1).code ≤ (Magnitude.nearest b 1).code :=
    Magnitude.code_nearest_mono Nat.one_pos Nat.one_pos (Nat.mul_le_mul_right 1 hab)
  unfold roundedRank
  split_ifs with hi hj hj
  · have := hmono (show j.natAbs ≤ i.natAbs by omega)
    omega
  · omega
  · omega
  · have := hmono (show i.natAbs ≤ j.natAbs by omega)
    omega

/-- the smallest number above zero is not rounded away -/
theorem roundedRank_pos_iff {i : Int} : 0 < roundedRank i ↔ 0 < i := by
  constructor
  · intro h
    by_contra hle
    have hmono := roundedRank_mono (show i ≤ 0 by omega)
    have hzero : roundedRank 0 = 0 := by decide +kernel
    omega
  · intro h
    have hmono := roundedRank_mono (show 1 ≤ i by omega)
    have hone : roundedRank 1 = 1 := by decide +kernel
    omega

theorem rank?_signed (negative : Bool) (m : Magnitude) :
    (signed negative m).rank? = some (if negative then -(m.code : Int) else m.code) := by
  cases negative <;> rfl

theorem quanta_signed (negative : Bool) (m : Magnitude) :
    (signed negative m).quanta = if negative then -(m.quanta : Int) else m.quanta := by
  cases negative <;> rfl

theorem rank?_nearest (negative : Bool) (q : Nat) :
    (signed negative (Magnitude.nearest q 1)).rank? = some (roundedRank (if negative then -q else q)) := by
  cases negative with
  | false => rw [rank?_signed, if_neg Bool.false_ne_true, if_neg Bool.false_ne_true, roundedRank_natCast]
  | true => rw [rank?_signed, if_pos rfl, if_pos rfl, roundedRank_neg_natCast]

theorem quanta_le_zero_iff {m : Magnitude} : m.quanta ≤ 0 ↔ m.code ≤ 0 := Magnitude.quanta_le_quanta (b := .zero)

variable {x y z : Binary64}

/-- **Comparing numbers** is comparing their quanta. -/
theorem atMost_iff_quanta (hx : x ≠ nan) (hy : y ≠ nan) : x.atMost y = true ↔ x.quanta ≤ y.quanta := by
  cases x with
  | nan => exact absurd rfl hx
  | signed n a => cases y with
    | nan => exact absurd rfl hy
    | signed k b =>
      have ha := quanta_le_zero_iff (m := a)
      have hb := quanta_le_zero_iff (m := b)
      have hab := Magnitude.quanta_le_quanta (a := a) (b := b)
      have hba := Magnitude.quanta_le_quanta (a := b) (b := a)
      rw [atMost, rank?_signed, rank?_signed, quanta_signed, quanta_signed, decide_eq_true_iff]
      cases n <;> cases k <;> simp only [Bool.false_eq_true, if_false, if_true] <;> omega

theorem less_iff_quanta (hx : x ≠ nan) (hy : y ≠ nan) : x.less y = true ↔ x.quanta < y.quanta := by
  rw [less_iff_not_atMost hx hy, atMost_iff_quanta hy hx]
  omega

/-! ## Sums of finite numbers -/

theorem rank?_add_of_sign (n : Bool) {a b : Magnitude} (ha : a.isFinite = true) (hb : b.isFinite = true) :
    (signed n a + signed n b).rank? = some (roundedRank ((signed n a).quanta + (signed n b).quanta)) := by
  have hsum : signed n a + signed n b = signed n (Magnitude.nearest (a.quanta + b.quanta) 1) := by
    show add _ _ = _
    rw [add, if_pos rfl, Magnitude.add, ha, hb, Bool.and_self, if_pos rfl]
  rw [hsum, rank?_nearest, quanta_signed, quanta_signed]
  refine congrArg (fun i => some (roundedRank i)) ?_
  cases n with
  | false => exact Int.natCast_add a.quanta b.quanta
  | true =>
    simp only [if_true]
    omega

theorem rank?_add_of_opposite {a b : Magnitude} (ha : a.isFinite = true) (hb : b.isFinite = true) :
    (signed false a + signed true b).rank? = some (roundedRank (a.quanta - b.quanta)) := by
  show (add (signed false a) (signed true b)).rank? = _
  rw [add, if_neg Bool.false_ne_true, ha, hb, Bool.and_self, if_pos rfl]
  rcases Nat.lt_trichotomy b.quanta a.quanta with h | h | h
  · rw [if_pos h, rank?_nearest]
    refine congrArg (fun i => some (roundedRank i)) ?_
    simp only [Bool.false_eq_true, if_false]
    omega
  · rw [if_neg (by omega), if_neg (by omega), rank?_zero, h, Int.sub_self]
    decide +kernel
  · rw [if_neg (by omega), if_pos h, rank?_nearest]
    refine congrArg (fun i => some (roundedRank i)) ?_
    simp only [if_true]
    omega

/-- **The sum of finite numbers** is the exact sum, rounded. -/
theorem rank?_add (hx : x.isFinite = true) (hy : y.isFinite = true) :
    (x + y).rank? = some (roundedRank (x.quanta + y.quanta)) := by
  cases x with
  | nan => cases hx
  | signed n a => cases y with
    | nan => cases hy
    | signed k b =>
      have ha : a.isFinite = true := hx
      have hb : b.isFinite = true := hy
      rcases Bool.eq_or_eq_not n k with rfl | rfl
      · exact rank?_add_of_sign n ha hb
      · cases k with
        | true =>
          rw [Bool.not_true, rank?_add_of_opposite ha hb]
          rfl
        | false =>
          have hcomm := Binary64.add_comm (signed true a) (signed false b)
          rw [Bool.not_false, hcomm, rank?_add_of_opposite hb ha, quanta_signed, quanta_signed]
          refine congrArg (fun i => some (roundedRank i)) ?_
          simp only [Bool.false_eq_true, if_false, if_true]
          omega

/-! ## Infinities -/

theorem finite_or_infinite (h : x ≠ nan) : x.isFinite = true ∨ ∃ n, x = signed n .infinity := by
  cases x with
  | nan => exact absurd rfl h
  | signed n m =>
    by_cases hm : m = .infinity
    · exact .inr ⟨n, by rw [hm]⟩
    · exact .inl (isFinite_iff.2 hm)

/-- the infinities are the ends of the order -/
theorem exists_rank? (h : x ≠ nan) :
    ∃ i : Int, x.rank? = some i ∧ -(Magnitude.infinity.code : Int) ≤ i ∧ i ≤ Magnitude.infinity.code := by
  cases x with
  | nan => exact absurd rfl h
  | signed n m =>
    have hm : m.code ≤ Magnitude.infinity.code := m.code_le
    refine ⟨_, rank?_signed n m, ?_⟩
    cases n <;> simp only [Bool.false_eq_true, if_false, if_true] <;> omega

theorem atMost_infinity (h : x ≠ nan) : x.atMost (signed false .infinity) = true := by
  obtain ⟨i, hi, -, hhigh⟩ := exists_rank? h
  exact atMost_iff.2 ⟨_, _, hi, rfl, hhigh⟩

theorem infinity_atMost (h : x ≠ nan) : (signed true .infinity).atMost x = true := by
  obtain ⟨i, hi, hlow, -⟩ := exists_rank? h
  exact atMost_iff.2 ⟨_, _, rfl, hi, hlow⟩

theorem infinity_add_signed (n k : Bool) (b : Magnitude) :
    signed n .infinity + signed k b = if n = k ∨ b.isFinite = true then signed n .infinity else nan := by
  have hinfinite : Magnitude.infinity.isFinite = false := by decide
  show add _ _ = _
  by_cases hsign : n = k
  · rw [add, if_pos hsign, if_pos (.inl hsign), Magnitude.add, hinfinite, Bool.false_and, if_neg Bool.false_ne_true]
  · simp only [add, hsign, hinfinite, Bool.false_and, Bool.false_eq_true, if_false, false_or]

/-- **A sum with an infinity** is this infinity, unless the other number is its opposite or none. -/
theorem infinity_add {n : Bool} (h : signed n .infinity + y ≠ nan) : signed n .infinity + y = signed n .infinity := by
  cases y with
  | nan => exact absurd rfl h
  | signed k b =>
    rw [infinity_add_signed] at h ⊢
    split_ifs at h ⊢
    · rfl
    · exact absurd rfl h

theorem add_infinity {n : Bool} (h : x + signed n .infinity ≠ nan) : x + signed n .infinity = signed n .infinity := by
  rw [Binary64.add_comm] at h ⊢
  exact infinity_add h

theorem infinity_sub (n : Bool) (hz : z.isFinite = true) : signed n .infinity - z = signed n .infinity := by
  cases z with
  | nan => cases hz
  | signed k b => exact (infinity_add_signed n (!k) b).trans (if_pos (.inr hz))

theorem sub_infinity (k : Bool) (hx : x.isFinite = true) : x - signed k .infinity = signed (!k) .infinity := by
  cases x with
  | nan => cases hx
  | signed n a =>
    have hsum := (infinity_add_signed (!k) n a).trans (if_pos (.inr hx))
    exact (Binary64.add_comm (signed n a) (signed (!k) .infinity)).trans hsum

/-- the infinities are beyond all finite numbers -/
theorem exists_rank?_of_isFinite (h : x.isFinite = true) :
    ∃ i : Int, x.rank? = some i ∧ -(Magnitude.infinity.code : Int) < i ∧ i < Magnitude.infinity.code := by
  cases x with
  | nan => cases h
  | signed n m =>
    have hm : m.code < Magnitude.infinity.code := isFinite_iff_code.1 h
    refine ⟨_, rank?_signed n m, ?_⟩
    cases n <;> simp only [Bool.false_eq_true, if_false, if_true] <;> omega

/-! ## Adding and the order -/

/-- **Adding keeps order**, as far as there are sums. -/
theorem atMost_add_right (h : x.atMost y = true) (hx : x + z ≠ nan) (hy : y + z ≠ nan) :
    (x + z).atMost (y + z) = true := by
  obtain ⟨hxnumber, hynumber⟩ := ne_nan_of_atMost h
  have hznumber : z ≠ nan := by
    rintro rfl
    exact hx (Binary64.add_comm x nan)
  have level (hyx : y.atMost x = true) : (x + z).atMost (y + z) = true := by
    rw [atMost_congr rfl (rank?_add_congr (atMost_antisymm hyx h) rfl)]
    exact atMost_refl hx
  -- an infinity settles the sum, and stands at an end of the order
  rcases finite_or_infinite hznumber with hzfinite | ⟨n, rfl⟩
  · rcases finite_or_infinite hynumber with hyfinite | ⟨n, rfl⟩
    · rcases finite_or_infinite hxnumber with hxfinite | ⟨n, rfl⟩
      · have hquanta := (atMost_iff_quanta hxnumber hynumber).1 h
        exact atMost_iff.2 ⟨_, _, rank?_add hxfinite hzfinite, rank?_add hyfinite hzfinite, roundedRank_mono (by omega)⟩
      · cases n with
        | false => exact level (atMost_infinity hynumber)
        | true =>
          rw [infinity_add hx]
          exact infinity_atMost hy
    · cases n with
      | false =>
        rw [infinity_add hy]
        exact atMost_infinity hx
      | true => exact level (infinity_atMost hxnumber)
  · rw [add_infinity hx, add_infinity hy]
    exact atMost_refl nofun

theorem quanta_neg (x : Binary64) : (-x).quanta = -x.quanta := by
  cases x with
  | nan => rfl
  | signed n m =>
    show (signed (!n) m).quanta = _
    rw [quanta_signed, quanta_signed]
    cases n <;> simp

theorem zero_less_sub_iff_of_isFinite (hx : x.isFinite = true) (hz : z.isFinite = true) :
    (0 : Binary64).less (x - z) = true ↔ z.less x = true := by
  have hneg : (-z).isFinite = true := by cases z <;> exact hz
  have hsum : (x - z).rank? = some (roundedRank (x.quanta + (-z).quanta)) := rank?_add hx hneg
  rw [less, rank?_zero_literal, hsum, decide_eq_true_iff, roundedRank_pos_iff, quanta_neg,
    less_iff_quanta (ne_nan_of_isFinite hz) (ne_nan_of_isFinite hx)]
  omega

/-- **A difference is above zero** exactly if the first number is the larger one. -/
theorem zero_less_sub_iff : (0 : Binary64).less (x - z) = true ↔ z.less x = true := by
  by_cases hx : x = nan
  · subst hx
    exact iff_of_false nofun fun h => (ne_nan_of_atMost (atMost_of_less h)).2 rfl
  by_cases hz : z = nan
  · subst hz
    have hsub : x - nan = nan := Binary64.add_comm x nan
    rw [hsub]
    exact iff_of_false nofun nofun
  rcases finite_or_infinite hx with hxfinite | ⟨n, rfl⟩
  · rcases finite_or_infinite hz with hzfinite | ⟨k, rfl⟩
    · exact zero_less_sub_iff_of_isFinite hxfinite hzfinite
    · obtain ⟨i, hi, hlow, hhigh⟩ := exists_rank?_of_isFinite hxfinite
      rw [sub_infinity k hxfinite, less, less, rank?_zero_literal, rank?_signed, rank?_signed, hi]
      cases k <;> simp <;> omega
  · rcases finite_or_infinite hz with hzfinite | ⟨k, rfl⟩
    · obtain ⟨i, hi, hlow, hhigh⟩ := exists_rank?_of_isFinite hzfinite
      rw [infinity_sub n hzfinite, less, less, rank?_zero_literal, rank?_signed, hi]
      cases n <;> simp <;> omega
    · cases n <;> cases k <;> decide +kernel

end Binary64

end AccessibleWalk
