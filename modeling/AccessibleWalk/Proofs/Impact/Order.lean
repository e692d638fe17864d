/-
Worse facts and their impact classes. Of two facts of one slot the second is no better if the path is narrower,
steeper, rougher or has higher curbs, or if something helpful is gone. A standard that classes the second one milder
would send people into the worse street.

- `number_le_of_worst_first`, `number_le_of_best_first`: one rung of a scale, read from either end.
- `Ufr.classOf_mono`: wheelchair users are never sent there.
- `Pam.classOf_mono`: people of reduced mobility neither, but for widths that are taken for tagging errors and curbs
  that cannot be felt.
-/
import Mathlib.Tactic
import AccessibleWalk.Impact.Table
import AccessibleWalk.Proofs.Number.Order

namespace AccessibleWalk

/-! ## Worse facts -/

namespace Slot

/-- the second fact of a slot is at least as bad as the first; where there is no better and worse, it is the same -/
def NoBetter : (s : Slot) → s.Payload → s.Payload → Prop
  | .width, x, y => Binary64.atMost y x = true
  | .lit, b, c => c = true → b = true
  | .tactilePaving, b, c => c = true → b = true
  | .smoothness, c, d => Category.rank c ≤ Category.rank d
  | .incline, .percent p, .percent q => p.abs.atMost q.abs = true
  | .ressautMax, x, y => Binary64.atMost x y = true
  | .ressautMin, x, y => Binary64.atMost y x = true
  | .bevEtat, c, d => Category.rank c ≤ Category.rank d
  | .bevCtrast, b, c => c = true → b = true
  | _, v, w => TagValue.same v w = true

/-- a fact to which the exceptions of the standard for reduced mobility do not apply: no width of 100 meters and more,
no curb without any lip -/
def Plausible : (s : Slot) → s.Payload → Prop
  | .width, x => Binary64.less x 100 = true
  | .ressautMax, x => Binary64.equals x 0 = false
  | _, _ => True

instance (s : Slot) (v w : s.Payload) : Decidable (s.NoBetter v w) := by
  cases s with
  | lit | tactilePaving | bevCtrast => exact inferInstanceAs (Decidable (w = true → v = true))
  | smoothness | bevEtat => exact inferInstanceAs (Decidable (Category.rank v ≤ Category.rank w))
  | incline => cases v <;> cases w <;> exact instDecidableEqBool _ true
  | _ => exact instDecidableEqBool _ true

instance (s : Slot) (v : s.Payload) : Decidable (s.Plausible v) := by
  cases s with
  | width => exact instDecidableEqBool _ true
  | ressautMax => exact instDecidableEqBool _ false
  | _ => exact instDecidableTrue

/-- slopes that are no better go the same way, or are both known in percent -/
theorem incline_cases {i j : Incline} (h : incline.NoBetter i j) :
    (∃ d, i = .direction d ∧ j = .direction d) ∨
      ∃ p q, i = .percent p ∧ j = .percent q ∧ p.abs.atMost q.abs = true := by
  cases i with
  | direction d =>
    cases j with
    | direction e =>
      have he : d = e := eq_of_beq h
      exact .inl ⟨d, rfl, by rw [he]⟩
    | percent q => cases h
  | percent p =>
    cases j with
    | direction e => cases h
    | percent q => exact .inr ⟨p, q, rfl, rfl, h⟩

end Slot

/-! ## Scales -/

namespace ImpactClass

variable {p q : Prop} [Decidable p] [Decidable q] {c d d' : ImpactClass}

/-- a rung of a scale that starts with the worst class: what is no better does not leave the rung -/
theorem number_le_of_worst_first (hrung : p → q) (hworst : d'.number ≤ c.number) (hrest : d.number ≤ d'.number) :
    (if p then c else d).number ≤ (if q then c else d').number := by
  by_cases hq : q
  · rw [if_pos hq]
    split_ifs
    · exact le_rfl
    · exact hrest.trans hworst
  · have hp : ¬ p := fun hp => hq (hrung hp)
    rw [if_neg hq, if_neg hp]
    exact hrest

/-- a rung of a scale that starts with the best class: what is no better does not come onto the rung -/
theorem number_le_of_best_first (hrung : q → p) (hbest : c.number ≤ d.number) (hrest : d.number ≤ d'.number) :
    (if p then c else d).number ≤ (if q then c else d').number := by
  by_cases hq : q
  · rw [if_pos hq, if_pos (hrung hq)]
  · rw [if_neg hq]
    split_ifs
    · exact hbest.trans hrest
    · exact hrest

end ImpactClass

open ImpactClass (number_le_of_worst_first number_le_of_best_first)

/-! ## Wheelchair -/

namespace Ufr

variable {x y : Binary64}

theorem width_mono (h : y.atMost x = true) : (width x).number ≤ (width y).number := by
  have below (c : Binary64) (hx : x.less c = true) : y.less c = true := Binary64.less_of_atMost_of_less h hx
  unfold width
  refine number_le_of_worst_first (below _) (by split_ifs <;> decide) ?_
  refine number_le_of_worst_first (below _) (by split_ifs <;> decide) ?_
  refine number_le_of_worst_first (below _) (by split_ifs <;> decide) ?_
  exact number_le_of_worst_first (below _) (by decide) le_rfl

theorem smoothness_mono {c d : Smoothness} (h : Category.rank c ≤ Category.rank d) :
    (smoothness c).number ≤ (smoothness d).number := by
  revert h
  cases c <;> cases d <;> decide

theorem incline_mono (h : x.abs.atMost y.abs = true) :
    (incline (.percent x)).number ≤ (incline (.percent y)).number := by
  have upTo (c : Binary64) (hy : y.abs.atMost c = true) : x.abs.atMost c = true := Binary64.atMost_trans h hy
  unfold incline
  refine number_le_of_best_first (upTo _) (by split_ifs <;> decide) ?_
  refine number_le_of_best_first (upTo _) (by split_ifs <;> decide) ?_
  refine number_le_of_best_first (upTo _) (by split_ifs <;> decide) ?_
  exact number_le_of_best_first (upTo _) (by decide) le_rfl

theorem ressautMax_mono (h : x.atMost y = true) : (ressautMax x).number ≤ (ressautMax y).number := by
  have upTo (c : Binary64) (hy : y.atMost c = true) : x.atMost c = true := Binary64.atMost_trans h hy
  unfold ressautMax
  refine number_le_of_best_first (upTo _) (by split_ifs <;> decide) ?_
  refine number_le_of_best_first (upTo _) (by split_ifs <;> decide) ?_
  refine number_le_of_best_first (upTo _) (by split_ifs <;> decide) ?_
  exact number_le_of_best_first (upTo _) (by decide) le_rfl

/-- **No worse fact has a milder class.** -/
theorem classOf_mono {s : Slot} {v w : s.Payload} (h : s.NoBetter v w) :
    (table.classOf s v).number ≤ (table.classOf s w).number := by
  cases s with
  | width => exact width_mono h
  | surface => exact le_of_eq (by rw [eq_of_beq h])
  | smoothness => exact smoothness_mono h
  | highway => exact le_of_eq (by rw [eq_of_beq h])
  | incline =>
    rcases Slot.incline_cases h with ⟨d, rfl, rfl⟩ | ⟨p, q, rfl, rfl, hpq⟩
    · exact le_rfl
    · exact incline_mono hpq
  | ressautMax => exact ressautMax_mono h
  | _ => exact le_rfl

end Ufr

/-! ## Reduced mobility -/

namespace Pam

variable {x y : Binary64}

theorem width_mono (hx : x.less 100 = true) (hy : y.less 100 = true) (h : y.atMost x = true) :
    (width x).number ≤ (width y).number := by
  have below (c : Binary64) (hx : x.less c = true) : y.less c = true := Binary64.less_of_atMost_of_less h hx
  simp only [width, if_pos hx, if_pos hy]
  refine number_le_of_worst_first (below _) (by split_ifs <;> decide) ?_
  exact number_le_of_worst_first (below _) (by decide) le_rfl

theorem smoothness_mono {c d : Smoothness} (h : Category.rank c ≤ Category.rank d) :
    (smoothness c).number ≤ (smoothness d).number := by
  revert h
  cases c <;> cases d <;> decide

theorem incline_mono (h : x.abs.atMost y.abs = true) :
    (incline (.percent x)).number ≤ (incline (.percent y)).number := by
  have upTo (c : Binary64) (hy : y.abs.atMost c = true) : x.abs.atMost c = true := Binary64.atMost_trans h hy
  unfold incline
  refine number_le_of_best_first (upTo _) (by split_ifs <;> decide) ?_
  refine number_le_of_best_first (upTo _) (by split_ifs <;> decide) ?_
  exact number_le_of_best_first (upTo _) (by decide) le_rfl

theorem ressautMax_mono (hx : x.equals 0 = false) (hy : y.equals 0 = false) (h : x.atMost y = true) :
    (ressautMax x).number ≤ (ressautMax y).number := by
  have upTo (c : Binary64) (hy : y.atMost c = true) : x.atMost c = true := Binary64.atMost_trans h hy
  simp only [ressautMax, hx, hy, Bool.false_eq_true, if_false]
  refine number_le_of_best_first (upTo _) (by split_ifs <;> decide) ?_
  exact number_le_of_best_first (upTo _) (by decide) le_rfl

/-- **No worse fact has a milder class**, the exceptions apart. -/
theorem classOf_mono {s : Slot} {v w : s.Payload} (hv : s.Plausible v) (hw : s.Plausible w) (h : s.NoBetter v w) :
    (table.classOf s v).number ≤ (table.classOf s w).number := by
  cases s with
  | width => exact width_mono hv hw h
  | surface => exact le_of_eq (by rw [eq_of_beq h])
  | smoothness => exact smoothness_mono h
  | highway => exact le_of_eq (by rw [eq_of_beq h])
  | incline =>
    rcases Slot.incline_cases h with ⟨d, rfl, rfl⟩ | ⟨p, q, rfl, rfl, hpq⟩
    · exact le_rfl
    · exact incline_mono hpq
  | ressautMax => exact ressautMax_mono hv hw h
  | _ => exact le_rfl

end Pam

end AccessibleWalk
