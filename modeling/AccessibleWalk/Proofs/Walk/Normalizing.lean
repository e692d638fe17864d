/-
Normal forms of preference numbers are normal forms for good: bringing a number into its unit twice is bringing it
there once. This holds of every number for the units with brackets; the units that keep hundredths or thousandths of
numbers of any size have exceptions, and they are exactly the numbers that slip.

- `roundTo_roundTo_iff`: keeping decimals twice.
- `Follows`: a unit goes by a rule for magnitudes.
- `speed_speed`, `reluctance_reluctance`, `ratio_ratio`: no exception.
- `length_length_iff`, `incline_incline_iff`, `height_height_iff`: exactly the exceptions.

A unit keeps not-a-number and the sign of a zero, so all there is to prove is about magnitudes.
-/
import AccessibleWalk.Proofs.Number.Multiples
import AccessibleWalk.Proofs.Number.Sign
import AccessibleWalk.Walk.Units

namespace AccessibleWalk

/-! ## Brackets -/

namespace Magnitude

def hundredths (m : Magnitude) : Magnitude := m.keep 100

def tenths (m : Magnitude) : Magnitude := m.keep 10

def wholes (m : Magnitude) : Magnitude := m.keep 1

/-- one rule below a limit, another one from there on -/
def bracket (limit : Magnitude) (low high : Magnitude → Magnitude) (m : Magnitude) : Magnitude :=
  if m.code < limit.code then low m else high m

theorem bracket_of_lt {limit m : Magnitude} (low high : Magnitude → Magnitude) (h : m.code < limit.code) :
    bracket limit low high m = low m := if_pos h

theorem bracket_of_ge {limit m : Magnitude} (low high : Magnitude → Magnitude) (h : limit.code ≤ m.code) :
    bracket limit low high m = high m := if_neg (Nat.not_lt_of_le h)

/-- **Brackets are idempotent** if both rules are where they apply, and neither crosses the limit. -/
theorem bracket_bracket {limit : Magnitude} {low high : Magnitude → Magnitude}
    (hlow : ∀ m : Magnitude, m.code ≤ limit.code → (low m).code ≤ limit.code ∧ low (low m) = low m)
    (hhigh : ∀ m : Magnitude, limit.code ≤ m.code → limit.code ≤ (high m).code ∧ high (high m) = high m)
    (hlimit : high limit = limit) (m : Magnitude) :
    bracket limit low high (bracket limit low high m) = bracket limit low high m := by
  rcases Nat.lt_or_ge m.code limit.code with hm | hm
  · rw [bracket_of_lt low high hm]
    obtain ⟨hle, hagain⟩ := hlow m hm.le
    rcases Nat.lt_or_eq_of_le hle with hlt | he
    · rw [bracket_of_lt low high hlt, hagain]
    · -- a number below the limit may be rounded up to it, where the other rule applies
      rw [eq_of_code he, bracket_of_ge low high le_rfl, hlimit]
  · rw [bracket_of_ge low high hm]
    obtain ⟨hge, hagain⟩ := hhigh m hm
    rw [bracket_of_ge low high hge, hagain]

theorem bracket_zero {n : Nat} (hn : 0 < n) (hbits : n < 2 ^ 53) (low high : Magnitude → Magnitude) :
    bracket (ofNat n) low high zero = low zero :=
  bracket_of_lt low high (Nat.pos_of_ne_zero fun h => ofNat_ne_zero hn hbits (eq_of_code h))

/-! The limits of the brackets are whole numbers up to ten, and these are multiples of everything that is kept. -/

section Limits

variable {n : Nat} (hn : n ≤ 10)
include hn

theorem keep_limit (f : Nat) (hf : 0 < f ∧ f ≤ 100) : (ofNat n).keep f = ofNat n := by
  have hproduct : n * f ≤ 10 * 100 := Nat.mul_le_mul hn hf.2
  exact keep_ofNat hf.1 (by omega)

theorem scale_limit : ((ofNat n).scale 100).quanta < 2 ^ 51 * quantaPerUnit := by
  rw [scale_ofNat (by omega), quanta_ofNat (by omega)]
  exact Nat.mul_lt_mul_of_pos_right (by omega) quantaPerUnit_pos

variable (m : Magnitude)

theorem hundredths_below (h : m.code ≤ (ofNat n).code) :
    (hundredths m).code ≤ (ofNat n).code ∧ hundredths (hundredths m) = hundredths m := by
  have hle := keep_le (by decide) (keep_limit hn 100 (by decide)) h
  exact ⟨hle, keep_keep_of_le (by decide) (by decide) (scale_limit hn) hle⟩

theorem tenths_below (h : m.code ≤ (ofNat n).code) : (tenths m).code ≤ (ofNat n).code ∧ tenths (tenths m) = tenths m :=
  ⟨keep_le (by decide) (keep_limit hn 10 (by decide)) h, keep_keep_ten m⟩

theorem tenths_above (h : (ofNat n).code ≤ m.code) : (ofNat n).code ≤ (tenths m).code ∧ tenths (tenths m) = tenths m :=
  ⟨le_keep (by decide) (keep_limit hn 10 (by decide)) h, keep_keep_ten m⟩

theorem wholes_above (h : (ofNat n).code ≤ m.code) : (ofNat n).code ≤ (wholes m).code ∧ wholes (wholes m) = wholes m :=
  ⟨le_keep (by decide) (keep_limit hn 1 (by decide)) h, keep_keep_one m⟩

end Limits

/-- hundredths below ten, tenths from there on -/
def speed : Magnitude → Magnitude := bracket (ofNat 10) hundredths tenths

theorem speed_speed (m : Magnitude) : speed (speed m) = speed m :=
  bracket_bracket (hundredths_below (by decide)) (tenths_above (by decide)) (keep_limit (by decide) 10 (by decide)) m

/-- tenths below ten, whole numbers from there on -/
def coarse : Magnitude → Magnitude := bracket (ofNat 10) tenths wholes

theorem coarse_coarse (m : Magnitude) : coarse (coarse m) = coarse m :=
  bracket_bracket (tenths_below (by decide)) (wholes_above (by decide)) (keep_limit (by decide) 1 (by decide)) m

theorem two_le_coarse {m : Magnitude} (h : (ofNat 2).code ≤ m.code) : (ofNat 2).code ≤ (coarse m).code := by
  rcases Nat.lt_or_ge m.code (ofNat 10).code with hm | hm
  · rw [coarse, bracket_of_lt tenths wholes hm]
    exact (tenths_above (by decide) m h).1
  · rw [coarse, bracket_of_ge tenths wholes hm]
    exact (wholes_above (by decide) m h).1

theorem coarse_two : coarse (ofNat 2) = ofNat 2 :=
  (bracket_of_lt tenths wholes (by decide +kernel)).trans (keep_limit (by decide) 10 (by decide))

/-- hundredths below two, the coarser rule from there on -/
def reluctance : Magnitude → Magnitude := bracket (ofNat 2) hundredths coarse

theorem reluctance_reluctance (m : Magnitude) : reluctance (reluctance m) = reluctance m :=
  bracket_bracket (hundredths_below (by decide)) (fun m h => ⟨two_le_coarse h, coarse_coarse m⟩) coarse_two m

/-- a share cannot be more than the whole -/
def whole (_ : Magnitude) : Magnitude := ofNat 1

/-- hundredths below one, one from there on -/
def ratio : Magnitude → Magnitude := bracket (ofNat 1) hundredths whole

theorem ratio_ratio (m : Magnitude) : ratio (ratio m) = ratio m :=
  bracket_bracket (hundredths_below (by decide)) (fun _ _ => ⟨le_rfl, rfl⟩) rfl m

end Magnitude

/-! ## Signed numbers -/

/-- the product with `f` comes out halfway above the whole number whose quotient by `f` this is -/
def Binary64.Slips (f : Nat) : Binary64 → Prop
  | nan => False
  | signed _ m => m.Slips f

instance (f : Nat) (x : Binary64) : Decidable (x.Slips f) := by
  cases x
  · exact instDecidableFalse
  · exact inferInstanceAs (Decidable (Magnitude.Slips _ f))

namespace Units

open Binary64 (signed nan NotNegative notNegative_iff)

section Decimals

variable {decimals : Nat} (hbits : 10 ^ decimals < 2 ^ 53)
include hbits

/-- **Keeping decimals** keeps multiples of the magnitude, and the sign. -/
theorem roundTo_signed (n : Bool) (m : Magnitude) :
    roundTo decimals (signed n m) = signed n (m.keep (10 ^ decimals)) := by
  have hpos : 0 < 10 ^ decimals := by positivity
  have hfactor : Binary64.ofInt (Nat.pow 10 decimals) = signed false (.ofNat (10 ^ decimals)) := rfl
  simp only [roundTo, hfactor, Binary64.mul_ofNat n m hpos hbits, Binary64.isFinite, Binary64.roundHalfAway]
  split_ifs with hfinite
  · rw [Magnitude.keep_of_isFinite hfinite]
    exact Binary64.div_ofNat n (Magnitude.quanta_roundHalfUp hfinite).1 hpos hbits
  · rw [Magnitude.keep_of_overflow hfinite]

/-- **Keeping decimals twice is keeping them once**, unless what is kept slips. -/
theorem roundTo_roundTo_iff (x : Binary64) :
    roundTo decimals (roundTo decimals x) = roundTo decimals x ↔ ¬ (roundTo decimals x).Slips (10 ^ decimals) := by
  have hpos : 0 < 10 ^ decimals := by positivity
  cases x with
  | nan => exact ⟨fun _ => id, fun _ => rfl⟩
  | signed n m =>
    rw [roundTo_signed hbits, roundTo_signed hbits]
    simp only [Binary64.signed.injEq, true_and]
    exact Magnitude.keep_keep_iff hpos hbits

end Decimals

/-! ## What is not negative -/

theorem nonNegative_of_notNegative {x : Binary64} (h : NotNegative x) : nonNegative x = x := by
  rw [nonNegative, notNegative_iff.1 h, if_neg Bool.false_ne_true]

theorem notNegative_nonNegative (x : Binary64) : NotNegative (nonNegative x) := by
  rw [nonNegative]
  split_ifs with h
  · exact .positive (.ofNat 0)
  · exact notNegative_iff.2 (Bool.eq_false_iff.2 h)

@[simp] theorem nonNegative_nonNegative (x : Binary64) : nonNegative (nonNegative x) = nonNegative x :=
  nonNegative_of_notNegative (notNegative_nonNegative x)

@[simp] theorem nonNegative_positive (m : Magnitude) : nonNegative (signed false m) = signed false m :=
  nonNegative_of_notNegative (.positive m)

theorem roundTo_negativeZero {decimals : Nat} (hbits : 10 ^ decimals < 2 ^ 53) :
    roundTo decimals (signed true .zero) = signed true .zero := by
  rw [roundTo_signed hbits, Magnitude.keep_zero (by positivity)]

/-- keeping decimals does not go below zero -/
theorem notNegative_roundTo {decimals : Nat} (hbits : 10 ^ decimals < 2 ^ 53) {x : Binary64} (h : NotNegative x) :
    NotNegative (roundTo decimals x) := by
  cases h with
  | nan => exact .nan
  | negativeZero =>
    rw [roundTo_negativeZero hbits]
    exact .negativeZero
  | positive m =>
    rw [roundTo_signed hbits]
    exact .positive _

/-! ## Lengths, inclines and heights -/

/-- keeping decimals of what is not negative, twice -/
theorem roundTo_nonNegative_iff {decimals : Nat} (hbits : 10 ^ decimals < 2 ^ 53) (x : Binary64) :
    roundTo decimals (nonNegative (roundTo decimals (nonNegative x))) = roundTo decimals (nonNegative x) ↔
      ¬ (roundTo decimals (nonNegative x)).Slips (10 ^ decimals) := by
  rw [nonNegative_of_notNegative (notNegative_roundTo hbits (notNegative_nonNegative x))]
  exact roundTo_roundTo_iff hbits _

theorem length_length_iff (x : Binary64) : length (length x) = length x ↔ ¬ (length x).Slips 100 :=
  roundTo_nonNegative_iff (by decide) x

theorem incline_incline_iff (x : Binary64) : incline (incline x) = incline x ↔ ¬ (incline x).Slips 100 :=
  roundTo_roundTo_iff (by decide) x

theorem height_height_iff (x : Binary64) : height (height x) = height x ↔ ¬ (height x).Slips 1000 :=
  roundTo_nonNegative_iff (by decide) x

/-! ## Units with brackets -/

/-- a unit that goes by a rule for magnitudes: it counts from zero on, and keeps not-a-number and the negative zero -/
structure Follows (unit : Binary64 → Binary64) (rule : Magnitude → Magnitude) : Prop where
  cut : ∀ x, unit (nonNegative x) = unit x
  notNumber : unit nan = nan
  negativeZero : unit (signed true .zero) = signed true .zero
  positive : ∀ m, unit (signed false m) = signed false (rule m)
  zero : rule .zero = .zero

/-- **A unit is idempotent if its rule for magnitudes is.** -/
theorem Follows.idempotent {unit : Binary64 → Binary64} {rule : Magnitude → Magnitude} (hunit : Follows unit rule)
    (hagain : ∀ m, rule (rule m) = rule m) (x : Binary64) : unit (unit x) = unit x := by
  rw [← hunit.cut x]
  have hcase := notNegative_nonNegative x
  generalize nonNegative x = y at hcase ⊢
  cases hcase with
  | nan => rw [hunit.notNumber, hunit.notNumber]
  | negativeZero => rw [hunit.negativeZero, hunit.negativeZero]
  | positive m => rw [hunit.positive, hunit.positive, hagain]

theorem less_positive (a b : Magnitude) : (signed false a).less (signed false b) = decide (a.code < b.code) := by
  simp [Binary64.less, Binary64.rank?]

theorem speed_positive (m : Magnitude) : speed (signed false m) = signed false (Magnitude.speed m) := by
  have hten : (signed false m).less 10 = decide (m.code < (Magnitude.ofNat 10).code) := less_positive _ _
  simp only [speed, nonNegative_positive, hten, Magnitude.speed, Magnitude.bracket, decide_eq_true_eq]
  split_ifs
  · exact roundTo_signed (by decide) false m
  · exact roundTo_signed (by decide) false m

theorem speed_negativeZero : speed (signed true .zero) = signed true .zero := by
  simp only [speed, nonNegative_of_notNegative .negativeZero]
  split_ifs
  · exact roundTo_negativeZero (by decide)
  · exact roundTo_negativeZero (by decide)

theorem speed_follows : Follows speed Magnitude.speed where
  cut x := by simp only [speed, nonNegative_nonNegative]
  notNumber := rfl
  negativeZero := speed_negativeZero
  positive := speed_positive
  zero := (Magnitude.bracket_zero (by decide) (by decide) _ _).trans (Magnitude.keep_zero (by decide))

/-- **Speeds are in normal form for good.** -/
theorem speed_speed (x : Binary64) : speed (speed x) = speed x := speed_follows.idempotent Magnitude.speed_speed x

theorem reluctance_positive (m : Magnitude) : reluctance (signed false m) = signed false (Magnitude.reluctance m) := by
  have htwo : (signed false m).less 2 = decide (m.code < (Magnitude.ofNat 2).code) := less_positive _ _
  have hten : (signed false m).less 10 = decide (m.code < (Magnitude.ofNat 10).code) := less_positive _ _
  simp only [reluctance, nonNegative_positive, htwo, hten, Magnitude.reluctance, Magnitude.coarse, Magnitude.bracket,
    decide_eq_true_eq]
  split_ifs
  · exact roundTo_signed (by decide) false m
  · exact roundTo_signed (by decide) false m
  · exact roundTo_signed (by decide) false m

theorem reluctance_negativeZero : reluctance (signed true .zero) = signed true .zero := by
  simp only [reluctance, nonNegative_of_notNegative .negativeZero]
  split_ifs
  · exact roundTo_negativeZero (by decide)
  · exact roundTo_negativeZero (by decide)
  · exact roundTo_negativeZero (by decide)

theorem reluctance_follows : Follows reluctance Magnitude.reluctance where
  cut x := by simp only [reluctance, nonNegative_nonNegative]
  notNumber := rfl
  negativeZero := reluctance_negativeZero
  positive := reluctance_positive
  zero := (Magnitude.bracket_zero (by decide) (by decide) _ _).trans (Magnitude.keep_zero (by decide))

/-- **Reluctances are in normal form for good.** -/
theorem reluctance_reluctance (x : Binary64) : reluctance (reluctance x) = reluctance x :=
  reluctance_follows.idempotent Magnitude.reluctance_reluctance x

theorem ratio_nonNegative (x : Binary64) : ratio (nonNegative x) = ratio x := by
  by_cases h : x.less 0 = true
  · have hzero : nonNegative x = 0 := by rw [nonNegative, if_pos h]
    have hclamp : x.clamp 0 1 = 0 := by rw [Binary64.clamp, if_pos h]
    have hagain : (0 : Binary64).clamp 0 1 = 0 := by decide +kernel
    rw [hzero, ratio, ratio, hclamp, hagain]
  · rw [nonNegative_of_notNegative (notNegative_iff.2 (Bool.eq_false_iff.2 h))]

theorem ratio_positive (m : Magnitude) : ratio (signed false m) = signed false (Magnitude.ratio m) := by
  have hone : (1 : Binary64).less (signed false m) = decide ((Magnitude.ofNat 1).code < m.code) := less_positive _ _
  have hnonneg := notNegative_iff.1 (.positive m)
  rw [ratio, Binary64.clamp, if_neg (by rw [hnonneg]; exact Bool.false_ne_true), hone]
  rcases Nat.lt_or_ge m.code (Magnitude.ofNat 1).code with hlt | hge
  · rw [if_neg (by simpa using hlt.le), Magnitude.ratio, Magnitude.bracket_of_lt _ _ hlt]
    exact roundTo_signed (by decide) false m
  · have hclamp : (if decide ((Magnitude.ofNat 1).code < m.code) = true then (1 : Binary64) else signed false m) =
        signed false (.ofNat 1) := by
      split_ifs with hgt
      · rfl
      · have hle : ¬ (Magnitude.ofNat 1).code < m.code := by simpa using hgt
        rw [Magnitude.eq_of_code (Nat.le_antisymm (Nat.le_of_not_lt hle) hge)]
    rw [hclamp, Magnitude.ratio, Magnitude.bracket_of_ge _ _ hge, roundTo_signed (by decide)]
    exact congrArg (signed false) (Magnitude.keep_limit (by decide) 100 (by decide))

theorem ratio_follows : Follows ratio Magnitude.ratio where
  cut := ratio_nonNegative
  notNumber := rfl
  negativeZero := by decide +kernel
  positive := ratio_positive
  zero := (Magnitude.bracket_zero (by decide) (by decide) _ _).trans (Magnitude.keep_zero (by decide))

/-- **Shares are in normal form for good.** -/
theorem ratio_ratio (x : Binary64) : ratio (ratio x) = ratio x := ratio_follows.idempotent Magnitude.ratio_ratio x

end Units

end AccessibleWalk
