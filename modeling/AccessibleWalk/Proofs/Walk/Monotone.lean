/-
Normal forms of preference numbers keep order: who asks for more asks for no less once numbers are brought into their
units. Signed percents keep the order of how steep they are as well.

- `roundTo_mono`: keeping decimals, past the overflow of the product too.
- `length_mono`, `height_mono`: what is cut at zero before.
- `abs_incline_mono`: steepness.
- `speed_mono`, `reluctance_mono`, `ratio_mono`: across the brackets.
- `units_keep_order`: all units.
-/
import AccessibleWalk.Proofs.Number.Order
import AccessibleWalk.Proofs.Walk.Normalizing

namespace AccessibleWalk.Units

open Binary64 (signed nan)

variable {x y : Binary64}

/-! ## Decimals -/

section Decimals

variable {decimals : Nat} (hbits : 10 ^ decimals < 2 ^ 53)
include hbits

/-- **Keeping decimals keeps order.** -/
theorem roundTo_mono (h : x.atMost y = true) : (roundTo decimals x).atMost (roundTo decimals y) = true := by
  have hpos : 0 < 10 ^ decimals := by positivity
  obtain ⟨i, j, hi, hj, hij⟩ := Binary64.atMost_iff.1 h
  cases x with
  | nan => cases hi
  | signed n a => cases y with
    | nan => cases hj
    | signed k b =>
      rw [roundTo_signed hbits, roundTo_signed hbits]
      refine Binary64.atMost_iff.2 ?_
      cases n with
      | false => cases k with
        | false =>
          cases hi
          cases hj
          have hmono := Magnitude.keep_mono (Int.ofNat_le.1 hij) hpos
          exact ⟨_, _, rfl, rfl, Int.ofNat_le.2 hmono⟩
        | true =>
          -- a number that is not negative is at most one that is not positive: both are zeros
          cases hi
          cases hj
          have ha : a = .zero := Magnitude.eq_of_code (show a.code = 0 by omega)
          have hb : b = .zero := Magnitude.eq_of_code (show b.code = 0 by omega)
          rw [ha, hb, Magnitude.keep_zero hpos]
          exact ⟨_, _, rfl, rfl, Int.le_refl _⟩
      | true => cases k with
        | false => exact ⟨_, _, rfl, rfl, by omega⟩
        | true =>
          cases hi
          cases hj
          have hcode : b.code ≤ a.code := by omega
          have hmono := Magnitude.keep_mono hcode hpos
          exact ⟨_, _, rfl, rfl, by omega⟩

theorem abs_roundTo (x : Binary64) : (roundTo decimals x).abs = roundTo decimals x.abs := by
  cases x with
  | nan => rfl
  | signed n m =>
    show _ = roundTo decimals (signed false m)
    rw [roundTo_signed hbits, roundTo_signed hbits]
    rfl

end Decimals

/-! ## Lengths, inclines and heights -/

theorem nonNegative_ne_nan (hx : x ≠ nan) : nonNegative x ≠ nan := by
  unfold nonNegative
  split_ifs
  · exact nofun
  · exact hx

theorem nonNegative_mono (h : x.atMost y = true) : (nonNegative x).atMost (nonNegative y) = true := by
  by_cases hx : x.less 0 = true
  · have hcut : nonNegative x = 0 := if_pos hx
    have hy := nonNegative_ne_nan (Binary64.ne_nan_of_atMost h).2
    rw [hcut]
    exact Binary64.zero_atMost_iff.2 ⟨notNegative_nonNegative y, hy⟩
  · have hy : ¬ y.less 0 = true := fun hy => hx (Binary64.less_of_atMost_of_less h hy)
    rw [nonNegative, if_neg hx, nonNegative, if_neg hy]
    exact h

theorem length_mono (h : x.atMost y = true) : (length x).atMost (length y) = true :=
  roundTo_mono (by decide) (nonNegative_mono h)

theorem height_mono (h : x.atMost y = true) : (height x).atMost (height y) = true :=
  roundTo_mono (by decide) (nonNegative_mono h)

theorem incline_mono (h : x.atMost y = true) : (incline x).atMost (incline y) = true := roundTo_mono (by decide) h

/-- **Less steep stays less steep.** -/
theorem abs_incline_mono (h : x.abs.atMost y.abs = true) : (incline x).abs.atMost (incline y).abs = true := by
  rw [incline, incline, abs_roundTo (by decide), abs_roundTo (by decide)]
  exact roundTo_mono (by decide) h

/-! ## Units with brackets -/

/-- **Brackets keep order** if both rules do, and both leave the limit where it is. -/
theorem bracket_mono {limit : Magnitude} {low high : Magnitude → Magnitude}
    (hlow : ∀ a b : Magnitude, a.code ≤ b.code → (low a).code ≤ (low b).code) (hlowLimit : low limit = limit)
    (hhigh : ∀ a b : Magnitude, a.code ≤ b.code → (high a).code ≤ (high b).code) (hhighLimit : high limit = limit)
    {a b : Magnitude} (h : a.code ≤ b.code) :
    (Magnitude.bracket limit low high a).code ≤ (Magnitude.bracket limit low high b).code := by
  rcases Nat.lt_or_ge b.code limit.code with hb | hb
  · rw [Magnitude.bracket_of_lt low high hb, Magnitude.bracket_of_lt low high (h.trans_lt hb)]
    exact hlow a b h
  · rw [Magnitude.bracket_of_ge low high hb]
    rcases Nat.lt_or_ge a.code limit.code with ha | ha
    · rw [Magnitude.bracket_of_lt low high ha]
      calc (low a).code ≤ (low limit).code := hlow a limit ha.le
        _ = (high limit).code := by rw [hlowLimit, hhighLimit]
        _ ≤ (high b).code := hhigh limit b hb
    · rw [Magnitude.bracket_of_ge low high ha]
      exact hhigh a b h

section Rules

variable {unit : Binary64 → Binary64} {rule : Magnitude → Magnitude} (hunit : Follows unit rule)
include hunit

/-- a unit that goes by a rule ranks a number, cut at zero, where the rule puts its magnitude -/
theorem Follows.exists_rank? (hx : x ≠ nan) :
    ∃ m : Magnitude, (nonNegative x).rank? = some (m.code : Int) ∧ (unit x).rank? = some ((rule m).code : Int) := by
  have hcase := notNegative_nonNegative x
  have hnumber := nonNegative_ne_nan hx
  rw [← hunit.cut x]
  generalize nonNegative x = y at hcase hnumber ⊢
  cases hcase with
  | nan => exact absurd rfl hnumber
  | negativeZero =>
    refine ⟨.zero, rfl, ?_⟩
    rw [hunit.negativeZero, hunit.zero]
    rfl
  | positive m =>
    refine ⟨m, rfl, ?_⟩
    rw [hunit.positive]
    rfl

/-- **A unit keeps order if its rule for magnitudes does.** -/
theorem Follows.mono (hmono : ∀ a b : Magnitude, a.code ≤ b.code → (rule a).code ≤ (rule b).code)
    (h : x.atMost y = true) : (unit x).atMost (unit y) = true := by
  obtain ⟨hx, hy⟩ := Binary64.ne_nan_of_atMost h
  obtain ⟨a, ha, hunita⟩ := hunit.exists_rank? hx
  obtain ⟨b, hb, hunitb⟩ := hunit.exists_rank? hy
  obtain ⟨i, j, hi, hj, hij⟩ := Binary64.atMost_iff.1 (nonNegative_mono h)
  have hia : i = a.code := Option.some.inj (hi.symm.trans ha)
  have hjb : j = b.code := Option.some.inj (hj.symm.trans hb)
  have hrules := hmono a b (by omega)
  exact Binary64.atMost_iff.2 ⟨_, _, hunita, hunitb, by omega⟩

end Rules

theorem hundredths_mono {a b : Magnitude} (h : a.code ≤ b.code) :
    (Magnitude.hundredths a).code ≤ (Magnitude.hundredths b).code := Magnitude.keep_mono h (by decide)

theorem tenths_mono {a b : Magnitude} (h : a.code ≤ b.code) : (Magnitude.tenths a).code ≤ (Magnitude.tenths b).code :=
  Magnitude.keep_mono h (by decide)

theorem coarse_mono {a b : Magnitude} (h : a.code ≤ b.code) : (Magnitude.coarse a).code ≤ (Magnitude.coarse b).code := by
  refine bracket_mono ?_ ?_ ?_ ?_ h
  · exact fun a b h => tenths_mono h
  · exact Magnitude.keep_limit (by decide) 10 (by decide)
  · exact fun a b h => Magnitude.keep_mono h (by decide)
  · exact Magnitude.keep_limit (by decide) 1 (by decide)

/-- **Speeds keep order.** -/
theorem speed_mono (h : x.atMost y = true) : (speed x).atMost (speed y) = true := by
  refine speed_follows.mono (fun a b hab => ?_) h
  refine bracket_mono ?_ ?_ ?_ ?_ hab
  · exact fun a b h => hundredths_mono h
  · exact Magnitude.keep_limit (by decide) 100 (by decide)
  · exact fun a b h => tenths_mono h
  · exact Magnitude.keep_limit (by decide) 10 (by decide)

/-- **Reluctances keep order.** -/
theorem reluctance_mono (h : x.atMost y = true) : (reluctance x).atMost (reluctance y) = true := by
  refine reluctance_follows.mono (fun a b hab => ?_) h
  refine bracket_mono ?_ ?_ ?_ ?_ hab
  · exact fun a b h => hundredths_mono h
  · exact Magnitude.keep_limit (by decide) 100 (by decide)
  · exact fun a b h => coarse_mono h
  · exact Magnitude.coarse_two

/-- **Shares keep order**, also where they are cut at one. -/
theorem ratio_mono (h : x.atMost y = true) : (ratio x).atMost (ratio y) = true := by
  refine ratio_follows.mono (fun a b hab => ?_) h
  refine bracket_mono ?_ ?_ ?_ ?_ hab
  · exact fun a b h => hundredths_mono h
  · exact Magnitude.keep_limit (by decide) 100 (by decide)
  · exact fun _ _ _ => Nat.le_refl _
  · rfl

/-- the reluctance of a number is a number, and not below zero -/
theorem zero_atMost_reluctance (hx : x ≠ nan) : (0 : Binary64).atMost (reluctance x) = true := by
  obtain ⟨m, -, hrank⟩ := reluctance_follows.exists_rank? hx
  exact Binary64.atMost_iff.2 ⟨_, _, Binary64.rank?_zero_literal, hrank, by omega⟩

/-! ## All units -/

theorem cost_mono {i j : Int} (h : i ≤ j) : cost i ≤ cost j := by
  unfold cost
  omega

/-- **Units keep order.** Of two numbers, infinite ones included, the one that is at most the other still is once both
are in their unit, whatever unit that is and wherever they stand to its brackets, to its cuts and to where the product
overflows. Costs keep order as well. -/
theorem units_keep_order :
    (∀ unit ∈ [speed, reluctance, ratio, length, incline, height], ∀ x y : Binary64,
      x.atMost y = true → (unit x).atMost (unit y) = true) ∧
    ∀ i j : Int, i ≤ j → cost i ≤ cost j := by
  refine ⟨fun unit hunit x y h => ?_, fun i j h => cost_mono h⟩
  simp only [List.mem_cons, List.not_mem_nil, or_false] at hunit
  rcases hunit with rfl | rfl | rfl | rfl | rfl | rfl
  · exact speed_mono h
  · exact reluctance_mono h
  · exact ratio_mono h
  · exact length_mono h
  · exact incline_mono h
  · exact height_mono h

/-- a reluctance that is rounded up to the limit of its bracket, beside the limit; a negative share beside one above
the whole; an incline whose hundredfold is still finite, beside one whose hundredfold is not; and costs past both ends
-/
theorem units_keep_order_seams :
    (reluctance ∈ [speed, reluctance, ratio, length, incline, height] ∧ (9.96 : Binary64).atMost 10 = true ∧
      (reluctance 9.96).atMost (reluctance 10) = true) ∧
    (ratio ∈ [speed, reluctance, ratio, length, incline, height] ∧ (-0.2 : Binary64).atMost 1.7 = true ∧
      (ratio (-0.2)).atMost (ratio 1.7) = true) ∧
    (incline ∈ [speed, reluctance, ratio, length, incline, height] ∧ (1.797e306 : Binary64).atMost 1.798e306 = true ∧
      (incline 1.797e306).atMost (incline 1.798e306) = true) ∧
    ((-5 : Int) ≤ 0x100000000 ∧ cost (-5) ≤ cost 0x100000000) := by
  have hbracket : (9.96 : Binary64).atMost 10 = true := by decide +kernel
  have hcut : (-0.2 : Binary64).atMost 1.7 = true := by decide +kernel
  have hoverflow : (1.797e306 : Binary64).atMost 1.798e306 = true := by decide +kernel
  have hcost : (-5 : Int) ≤ 0x100000000 := by decide
  exact ⟨⟨by simp, hbracket, units_keep_order.1 reluctance (by simp) _ _ hbracket⟩,
    ⟨by simp, hcut, units_keep_order.1 ratio (by simp) _ _ hcut⟩,
    ⟨by simp, hoverflow, units_keep_order.1 incline (by simp) _ _ hoverflow⟩,
    ⟨hcost, units_keep_order.2 _ _ hcost⟩⟩

end AccessibleWalk.Units
