/-
What a slope costs a wheelchair. A slope beyond the limit of the preferences multiplies the reluctance of the edge by
a factor from one on, which grows with the slope: the excess keeps the order of slopes, and so does every step after
it, rounded as it is. This needs nothing of the limit and of the weight of the excess. They can be negative, infinite
or not-a-number: where the arithmetic breaks down, the comparisons in front of it fail, and the slope is free.

- `isSome_slopeFactor?_iff`: which slopes cost anything.
- `slopeFactor?_eq_some`: the factor, as a magnitude.
- `slopeFactor?_mono`: steeper slopes have larger factors.
- `wheelchairReluctance_slope`: the reluctance of an edge as a function of its slope.
-/
import AccessibleWalk.Proofs.Number.Product
import AccessibleWalk.Proofs.Number.Sum
import AccessibleWalk.Reluctance.Engine

namespace AccessibleWalk

open Binary64 (signed nan)

/-! ## Factors -/

/-- one, and a hundred times the excess weighted -/
def Magnitude.slopeFactor (excess weight : Magnitude) : Magnitude := (ofNat 1).add ((excess.scale 100).mul weight)

theorem Magnitude.slopeFactor_mono {excess excess' : Magnitude} (h : excess.code ≤ excess'.code) (weight : Magnitude) :
    (excess.slopeFactor weight).code ≤ (excess'.slopeFactor weight).code :=
  add_le_add (Nat.le_refl _) (mul_le_mul (scale_mono h 100) (Nat.le_refl _))

theorem Magnitude.one_le_slopeFactor (excess weight : Magnitude) :
    (ofNat 1).code ≤ (excess.slopeFactor weight).code :=
  le_add _ _

namespace WheelchairPreferences

variable {wheelchair : WheelchairPreferences} {slope slope' factor : Binary64}

/-- **A slope is paid for** if it is beyond the limit, and what is beyond has a weight above zero. -/
theorem isSome_slopeFactor?_iff : (wheelchair.slopeFactor? slope).isSome = true ↔
    wheelchair.maxSlope.less slope.abs = true ∧ (0 : Binary64).less wheelchair.slopeExceededReluctance = true := by
  rw [← Binary64.zero_less_sub_iff, ← Bool.and_eq_true, slopeFactor?]
  split_ifs with h
  · simp [h]
  · simp [h]

/-- **The factor**: the excess and its weight are above zero, and so there is a number at every step after them. -/
theorem slopeFactor?_eq_some (h : wheelchair.slopeFactor? slope = some factor) :
    ∃ excess weight, slope.abs - wheelchair.maxSlope = signed false excess ∧
      wheelchair.slopeExceededReluctance = signed false weight ∧ factor = signed false (excess.slopeFactor weight) := by
  unfold slopeFactor? at h
  dsimp only at h
  split_ifs at h with hpaid
  obtain ⟨hexcess, hweight⟩ := Bool.and_eq_true_iff.1 hpaid
  obtain ⟨excess, hexcess0, hexcess⟩ := Binary64.exists_of_zero_less hexcess
  obtain ⟨weight, hweight0, hweight⟩ := Binary64.exists_of_zero_less hweight
  have hhundred : (100 : Binary64) * signed false excess = signed false (excess.scale 100) :=
    (Binary64.mul_comm _ _).trans (Binary64.mul_ofNat false excess (by decide) (by decide))
  have hscaled : excess.scale 100 ≠ .zero := Magnitude.scale_ne_zero hexcess0 (by decide)
  refine ⟨excess, weight, hexcess, hweight, ?_⟩
  rw [← Option.some.inj h, hexcess, hweight, hhundred, Binary64.signed_mul_of_ne_zero hscaled hweight0]
  rfl

/-- **Steeper slopes have larger factors**, and have one where flatter slopes do. -/
theorem slopeFactor?_mono (h : slope.abs.atMost slope'.abs = true)
    (hfactor : wheelchair.slopeFactor? slope = some factor) :
    ∃ a b, factor = signed false a ∧ wheelchair.slopeFactor? slope' = some (signed false b) ∧
      (Magnitude.ofNat 1).code ≤ a.code ∧ a.code ≤ b.code := by
  obtain ⟨hbeyond, hweight⟩ := isSome_slopeFactor?_iff.1 (Option.isSome_of_eq_some hfactor)
  have hbeyond' := Binary64.less_of_less_of_atMost hbeyond h
  obtain ⟨factor', hfactor'⟩ := Option.isSome_iff_exists.1 (isSome_slopeFactor?_iff.2 ⟨hbeyond', hweight⟩)
  obtain ⟨excess, weight, hexcess, hw, rfl⟩ := slopeFactor?_eq_some hfactor
  obtain ⟨excess', weight', hexcess', hw', rfl⟩ := slopeFactor?_eq_some hfactor'
  obtain rfl : weight = weight' := by
    rw [hw, Binary64.signed.injEq] at hw'
    exact hw'.2
  -- both slopes have an excess, so neither difference is one of infinities
  have hexcesses : (signed false excess).atMost (signed false excess') = true := by
    rw [← hexcess, ← hexcess']
    refine Binary64.atMost_add_right h ?_ ?_
    · exact fun hnan => by cases hexcess.symm.trans hnan
    · exact fun hnan => by cases hexcess'.symm.trans hnan
  obtain ⟨i, j, hi, hj, hij⟩ := Binary64.atMost_iff.1 hexcesses
  cases hi
  cases hj
  exact ⟨_, _, rfl, hfactor', excess.one_le_slopeFactor weight, Magnitude.slopeFactor_mono (Int.ofNat_le.1 hij) weight⟩

end WheelchairPreferences

/-! ## Reluctance -/

namespace RoutingPreferences

variable (p : RoutingPreferences) (accessible stairs : Bool)

/-- a slope counts the same in both directions -/
theorem wheelchairReluctance_neg (slope : Binary64) :
    p.wheelchairReluctance (-slope) accessible stairs = p.wheelchairReluctance slope accessible stairs := by
  have habs : (-slope).abs = slope.abs := by cases slope <;> rfl
  simp only [wheelchairReluctance, WheelchairPreferences.slopeFactor?, habs]

variable {p accessible stairs}

/-- a slope that is not beyond the limit is free, and every slope is where the excess has no weight above zero -/
theorem wheelchairReluctance_of_free {slope : Binary64}
    (h : p.wheelchair.maxSlope.less slope.abs = false ∨
      (0 : Binary64).less p.wheelchair.slopeExceededReluctance = false) :
    p.wheelchairReluctance slope accessible stairs = p.flatWheelchairReluctance accessible stairs := by
  have hfree : p.wheelchair.slopeFactor? slope = none := by
    rw [← Option.not_isSome_iff_eq_none, WheelchairPreferences.isSome_slopeFactor?_iff]
    rcases h with h | h <;> simp [h]
  rw [wheelchairReluctance, hfree]

/-- what is paid beyond the limit, where the excess has a weight above zero -/
theorem wheelchairReluctance_of_beyond {slope : Binary64} (hbeyond : p.wheelchair.maxSlope.less slope.abs = true)
    (hweight : (0 : Binary64).less p.wheelchair.slopeExceededReluctance = true) :
    p.wheelchairReluctance slope accessible stairs = p.flatWheelchairReluctance accessible stairs *
      (1 + (100 * (slope.abs - p.wheelchair.maxSlope)) * p.wheelchair.slopeExceededReluctance) := by
  have hexcess := Binary64.zero_less_sub_iff.2 hbeyond
  rw [wheelchairReluctance, WheelchairPreferences.slopeFactor?, hexcess, hweight, Bool.and_self, if_pos rfl]

/-- with a reluctance above zero, a factor is a factor of magnitudes -/
theorem wheelchairReluctance_of_factor {slope : Binary64} {m factor : Magnitude} (hm : m ≠ .zero)
    (hflat : p.flatWheelchairReluctance accessible stairs = signed false m)
    (hone : (Magnitude.ofNat 1).code ≤ factor.code)
    (h : p.wheelchair.slopeFactor? slope = some (signed false factor)) :
    p.wheelchairReluctance slope accessible stairs = signed false (m.mul factor) := by
  have hfactor : factor ≠ .zero := by
    rintro rfl
    exact absurd hone (by decide +kernel)
  rw [wheelchairReluctance, h, hflat]
  exact Binary64.signed_mul_of_ne_zero hm hfactor

/-- a slope makes nothing cheaper -/
theorem flat_atMost_wheelchairReluctance
    (hflat : (0 : Binary64).less (p.flatWheelchairReluctance accessible stairs) = true)
    (slope : Binary64) :
    (p.flatWheelchairReluctance accessible stairs).atMost (p.wheelchairReluctance slope accessible stairs) = true := by
  obtain ⟨m, hm, hflat⟩ := Binary64.exists_of_zero_less hflat
  cases hfactor : p.wheelchair.slopeFactor? slope with
  | none =>
    rw [wheelchairReluctance, hfactor, hflat]
    exact Binary64.atMost_refl nofun
  | some factor =>
    obtain ⟨excess, weight, -, -, rfl⟩ := WheelchairPreferences.slopeFactor?_eq_some hfactor
    have hone := excess.one_le_slopeFactor weight
    rw [wheelchairReluctance_of_factor hm hflat hone hfactor, hflat]
    exact Binary64.atMost_iff.2 ⟨_, _, rfl, rfl, Int.ofNat_le.2 (m.le_mul hone)⟩

/-- steeper slopes are not cheaper -/
theorem wheelchairReluctance_mono (hflat : (0 : Binary64).less (p.flatWheelchairReluctance accessible stairs) = true)
    {slope slope' : Binary64} (h : slope.abs.atMost slope'.abs = true) :
    (p.wheelchairReluctance slope accessible stairs).atMost
      (p.wheelchairReluctance slope' accessible stairs) = true := by
  cases hfactor : p.wheelchair.slopeFactor? slope with
  | none =>
    rw [wheelchairReluctance, hfactor]
    exact flat_atMost_wheelchairReluctance hflat slope'
  | some factor =>
    obtain ⟨a, b, rfl, hfactor', hone, hab⟩ := WheelchairPreferences.slopeFactor?_mono h hfactor
    obtain ⟨m, hm, hflat⟩ := Binary64.exists_of_zero_less hflat
    rw [wheelchairReluctance_of_factor hm hflat hone hfactor,
      wheelchairReluctance_of_factor hm hflat (hone.trans hab) hfactor']
    exact Binary64.atMost_iff.2 ⟨_, _, rfl, rfl, Int.ofNat_le.2 (Magnitude.mul_le_mul (Nat.le_refl _) hab)⟩

/-- **The reluctance of an edge as a function of its slope**: even, flat up to the limit, and not falling beyond it,
where a factor is paid for the excess. This is so with all preferences, whether their numbers make sense or not, as
long as the flat edge costs anything. -/
theorem wheelchairReluctance_slope (p : RoutingPreferences) (accessible stairs : Bool) :
    (∀ slope, p.wheelchairReluctance (-slope) accessible stairs = p.wheelchairReluctance slope accessible stairs) ∧
      (∀ slope, p.wheelchair.maxSlope.less slope.abs = false ∨
          (0 : Binary64).less p.wheelchair.slopeExceededReluctance = false →
        p.wheelchairReluctance slope accessible stairs = p.flatWheelchairReluctance accessible stairs) ∧
      (∀ slope, p.wheelchair.maxSlope.less slope.abs = true →
        (0 : Binary64).less p.wheelchair.slopeExceededReluctance = true →
        p.wheelchairReluctance slope accessible stairs = p.flatWheelchairReluctance accessible stairs *
          (1 + (100 * (slope.abs - p.wheelchair.maxSlope)) * p.wheelchair.slopeExceededReluctance)) ∧
      ((0 : Binary64).less (p.flatWheelchairReluctance accessible stairs) = true →
        (∀ slope slope', slope.abs.atMost slope'.abs = true →
          (p.wheelchairReluctance slope accessible stairs).atMost
            (p.wheelchairReluctance slope' accessible stairs) = true) ∧
        ∀ slope, (p.flatWheelchairReluctance accessible stairs).atMost
          (p.wheelchairReluctance slope accessible stairs) = true) :=
  ⟨p.wheelchairReluctance_neg accessible stairs, fun _ h => wheelchairReluctance_of_free h,
    fun _ hbeyond hweight => wheelchairReluctance_of_beyond hbeyond hweight,
    fun hflat => ⟨fun _ _ h => wheelchairReluctance_mono hflat h, flat_atMost_wheelchairReluctance hflat⟩⟩

/-- slopes of two percent are the limit, and what is beyond weighs endlessly much -/
def endlessWeight : RoutingPreferences where
  wheelchair := { maxSlope := 0.02, slopeExceededReluctance := signed false .infinity }

/-- two percent are free, three percent downhill cost no less, though the penalty overflows -/
theorem wheelchairReluctance_slope_endless :
    endlessWeight.wheelchairReluctance 0.02 true false = endlessWeight.flatWheelchairReluctance true false ∧
      endlessWeight.wheelchairReluctance (-0.03) true false = signed false .infinity ∧
      (endlessWeight.wheelchairReluctance 0.02 true false).atMost
        (endlessWeight.wheelchairReluctance (-0.03) true false) = true := by
  obtain ⟨-, hfree, hpaid, hcosts⟩ := wheelchairReluctance_slope endlessWeight true false
  have hoverflow := hpaid (-0.03) (by decide +kernel) (by decide +kernel)
  refine ⟨hfree 0.02 (.inl (by decide +kernel)), hoverflow.trans (by decide +kernel), ?_⟩
  exact (hcosts (by decide +kernel)).1 0.02 (-0.03) (by decide +kernel)

end RoutingPreferences

end AccessibleWalk
