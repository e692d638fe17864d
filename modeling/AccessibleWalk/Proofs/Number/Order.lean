/-
The order of numbers. Comparing is comparing ranks, so the two zeros are level with each other and not-a-number is
neither below nor above anything.

- `atMost_iff`, `less_iff`: comparing is comparing ranks.
- `atMost_trans`, `less_of_atMost_of_less`, `less_of_less_of_atMost`: chains of comparisons.
-/
import AccessibleWalk.Number.Binary64

namespace AccessibleWalk.Binary64

variable {x y z : Binary64}

theorem atMost_iff : x.atMost y = true ↔ ∃ a b, x.rank? = some a ∧ y.rank? = some b ∧ a ≤ b := by
  unfold atMost
  cases x.rank? with
  | none => simp
  | some a => cases y.rank? with
    | none => simp
    | some b => simp

theorem less_iff : x.less y = true ↔ ∃ a b, x.rank? = some a ∧ y.rank? = some b ∧ a < b := by
  unfold less
  cases x.rank? with
  | none => simp
  | some a => cases y.rank? with
    | none => simp
    | some b => simp

theorem atMost_refl (h : x ≠ nan) : x.atMost x = true := by
  cases x with
  | nan => exact absurd rfl h
  | signed n m =>
    refine atMost_iff.2 ?_
    cases n <;> exact ⟨_, _, rfl, rfl, Int.le_refl _⟩

/-! ## Chains -/

theorem atMost_trans (hxy : x.atMost y = true) (hyz : y.atMost z = true) : x.atMost z = true := by
  obtain ⟨a, b, ha, hb, hab⟩ := atMost_iff.1 hxy
  obtain ⟨b', c, hb', hc, hbc⟩ := atMost_iff.1 hyz
  have hsame : b = b' := Option.some.inj (hb.symm.trans hb')
  exact atMost_iff.2 ⟨a, c, ha, hc, by omega⟩

theorem less_of_atMost_of_less (hxy : x.atMost y = true) (hyz : y.less z = true) : x.less z = true := by
  obtain ⟨a, b, ha, hb, hab⟩ := atMost_iff.1 hxy
  obtain ⟨b', c, hb', hc, hbc⟩ := less_iff.1 hyz
  have hsame : b = b' := Option.some.inj (hb.symm.trans hb')
  exact less_iff.2 ⟨a, c, ha, hc, by omega⟩

theorem less_of_less_of_atMost (hxy : x.less y = true) (hyz : y.atMost z = true) : x.less z = true := by
  obtain ⟨a, b, ha, hb, hab⟩ := less_iff.1 hxy
  obtain ⟨b', c, hb', hc, hbc⟩ := atMost_iff.1 hyz
  have hsame : b = b' := Option.some.inj (hb.symm.trans hb')
  exact less_iff.2 ⟨a, c, ha, hc, by omega⟩

theorem atMost_antisymm (hxy : x.atMost y = true) (hyx : y.atMost x = true) : x.rank? = y.rank? := by
  obtain ⟨a, b, ha, hb, hab⟩ := atMost_iff.1 hxy
  obtain ⟨b', a', hb', ha', hba⟩ := atMost_iff.1 hyx
  have hsame : a = a' ∧ b = b' := ⟨Option.some.inj (ha.symm.trans ha'), Option.some.inj (hb.symm.trans hb')⟩
  rw [ha, hb, show a = b by omega]

/-! ## Both sides of a comparison -/

theorem ne_nan_of_atMost (h : x.atMost y = true) : x ≠ nan ∧ y ≠ nan := by
  obtain ⟨a, b, ha, hb, -⟩ := atMost_iff.1 h
  constructor
  · rintro rfl
    cases ha
  · rintro rfl
    cases hb

theorem atMost_of_less (h : x.less y = true) : x.atMost y = true := by
  obtain ⟨a, b, ha, hb, hab⟩ := less_iff.1 h
  exact atMost_iff.2 ⟨a, b, ha, hb, Int.le_of_lt hab⟩

/-- what is not below is not above, among numbers -/
theorem not_less_of_atMost (h : x.atMost y = true) : y.less x = false := by
  obtain ⟨a, b, ha, hb, hab⟩ := atMost_iff.1 h
  rw [less, ha, hb]
  exact decide_eq_false (by omega)

/-- numbers are above one another or at most one another -/
theorem less_iff_not_atMost (hx : x ≠ nan) (hy : y ≠ nan) : x.less y = true ↔ ¬ y.atMost x = true := by
  cases x with
  | nan => exact absurd rfl hx
  | signed n a => cases y with
    | nan => exact absurd rfl hy
    | signed k b => cases n <;> cases k <;> simp [less, atMost, rank?]

theorem atMost_congr {x' y' : Binary64} (hx : x.rank? = x'.rank?) (hy : y.rank? = y'.rank?) :
    x.atMost y = x'.atMost y' := by
  unfold atMost
  rw [hx, hy]

theorem atMost_of_equals (h : x.equals y = true) : x.atMost y = true := by
  obtain ⟨hrank, hnumber⟩ := equals_iff.1 h
  rw [← atMost_congr rfl hrank]
  exact atMost_refl hnumber

end AccessibleWalk.Binary64
