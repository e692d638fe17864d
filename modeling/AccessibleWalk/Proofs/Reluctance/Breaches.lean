/-
Thresholds, breach by breach. A walker without a profile finds an edge twice as hard for every breach, and doubling is
exact, so all that matters is how many slots of the edge breach a threshold: not which ones, and not in which order
they are looked at.

- `doubled_eq_iterate`, `doubled_perm`: only the number of breaches matters.
- `breachCount_le`: no threshold is about footways and cross slopes, so there are at most eleven.
- `thresholdReluctance_exact`: the base times a power of two, or infinity beyond the range of doubles.
-/
import AccessibleWalk.Proofs.Number.Doubling
import AccessibleWalk.Reluctance.Engine

namespace AccessibleWalk

open Binary64 (signed)

/-- is there a threshold for this slot? -/
def Slot.hasThreshold : Slot → Bool
  | .footway | .travHTrt => false
  | _ => true

namespace WalkPreferences

/-- how many slots of an edge hold a fact that breaches a threshold -/
def breachCount (walk : WalkPreferences) (sheet : Sheet) : Nat :=
  Slot.all.countP fun s => (sheet.property? s).any walk.breachedBy

variable (walk : WalkPreferences)

theorem hasThreshold_of_breaches {s : Slot} {v : s.Payload} (h : walk.breaches s v = true) : s.hasThreshold = true := by
  cases s with
  | footway | travHTrt => cases h
  | _ => rfl

/-- **At most eleven slots breach.** -/
theorem breachCount_le (sheet : Sheet) : walk.breachCount sheet ≤ 11 := by
  have hslots : ∀ s ∈ Slot.all, (sheet.property? s).any walk.breachedBy = true → s.hasThreshold = true := by
    intro s _ h
    rw [Sheet.property?, Option.any_map] at h
    obtain ⟨v, -, hv⟩ := (Option.any_eq_true _ _).1 h
    exact walk.hasThreshold_of_breaches hv
  calc walk.breachCount sheet ≤ Slot.all.countP Slot.hasThreshold := List.countP_mono_left hslots
    _ = 11 := by decide

/-- the slots that breach are the facts that do, as a slot holds one fact at most -/
theorem countP_present (sheet : Sheet) : sheet.present.countP walk.breachedBy = walk.breachCount sheet := by
  rw [Sheet.present, List.countP_filterMap, breachCount]
  refine List.countP_congr fun s _ => ?_
  cases sheet.property? s <;> rfl

/-- a run over the facts doubles once for every breach -/
theorem doubled_eq_iterate (base : Binary64) (facts : List Property) :
    walk.doubled base facts = (fun r : Binary64 => r * 2)^[facts.countP walk.breachedBy] base := by
  rw [doubled, List.foldl_const, List.countP_eq_length_filter]

/-- **The order of the facts does not matter.** -/
theorem doubled_perm (base : Binary64) {facts facts' : List Property} (h : facts.Perm facts') :
    walk.doubled base facts = walk.doubled base facts' := by
  rw [doubled_eq_iterate, doubled_eq_iterate, h.countP_eq]

theorem thresholdReluctance_eq_iterate (base : Binary64) (sheet : Sheet) :
    thresholdReluctance base walk sheet = (fun r : Binary64 => r * 2)^[walk.breachCount sheet] base := by
  rw [thresholdReluctance, doubled_eq_iterate, countP_present]

/-- **Thresholds double exactly, in any order.** For a base that is a number, and with `k` of at most eleven slots in
breach, the reluctance has the sign of the base and is the rational number base times 2^k, if that lies within the
range of doubles; otherwise it is the infinity with the sign of the base. It comes out the same, zeros with their
signs included, in whatever order the facts are visited. -/
theorem thresholdReluctance_exact (negative : Bool) (m : Magnitude) (sheet : Sheet) :
    walk.breachCount sheet ≤ 11 ∧
    (∀ x : ℚ, (signed negative m).value? = some x → |x * 2 ^ walk.breachCount sheet| ≤ (2 ^ 53 - 1) * 2 ^ 971 →
      ∃ r : Magnitude, thresholdReluctance (signed negative m) walk sheet = signed negative r ∧
        (signed negative r).value? = some (x * 2 ^ walk.breachCount sheet)) ∧
    ((∀ x : ℚ, (signed negative m).value? = some x → (2 ^ 53 - 1) * 2 ^ 971 < |x * 2 ^ walk.breachCount sheet|) →
      thresholdReluctance (signed negative m) walk sheet = signed negative .infinity) ∧
    ∀ facts : List Property, facts.Perm sheet.present →
      walk.doubled (signed negative m) facts = thresholdReluctance (signed negative m) walk sheet := by
  rw [thresholdReluctance_eq_iterate]
  refine ⟨walk.breachCount_le sheet, ?_, ?_, ?_⟩
  · intro x hx hrange
    refine ⟨m.doubled (walk.breachCount sheet), Binary64.iterate_double negative m _, ?_⟩
    rw [← Binary64.iterate_double]
    exact Binary64.value?_iterate_double hx hrange
  · intro hlarge
    exact Binary64.iterate_double_of_large hlarge
  · intro facts hfacts
    rw [walk.doubled_perm _ hfacts]
    exact walk.thresholdReluctance_eq_iterate _ sheet

/-- a walker who wants room and light -/
def cautious : WalkPreferences := (default.put .minimalWidth (0.9 : Binary64)).put .lightRequired true

/-- a narrow path without light -/
def darkAlley : Sheet :=
  ((Sheet.empty.put .width (some (0.5 : Binary64))).put .lit (some false)).put .surface (some Surface.asphalt)

/-- two breaches: three becomes twelve, and the largest number is lost, on either side of zero -/
theorem thresholdReluctance_darkAlley :
    cautious.breachCount darkAlley = 2 ∧ (signed false (.ofNat 3)).value? = some 3 ∧
      (∃ r : Magnitude, thresholdReluctance (signed false (.ofNat 3)) cautious darkAlley = signed false r ∧
        (signed false r).value? = some 12) ∧
      thresholdReluctance (signed true .greatest) cautious darkAlley = signed true .infinity ∧
      cautious.doubled (signed true .greatest) darkAlley.present.reverse = signed true .infinity := by
  have hcount : cautious.breachCount darkAlley = 2 := by decide +kernel
  have hthree : (signed false (.ofNat 3)).value? = some 3 := by
    rw [Binary64.value?_eq_some_iff, if_neg Bool.false_ne_true, Magnitude.value_ofNat (by decide)]
    exact ⟨Magnitude.isFinite_ofNat (by decide), by norm_num⟩
  have hlarge : ∀ x : ℚ, (signed true .greatest).value? = some x →
      (2 ^ 53 - 1) * 2 ^ 971 < |x * 2 ^ cautious.breachCount darkAlley| := by
    intro x hx
    obtain ⟨-, rfl⟩ := Binary64.value?_eq_some_iff.1 hx
    rw [Binary64.abs_signed_value, Binary64.value_greatest, hcount, Binary64.largest]
    norm_num
  have hsmall : |(3 : ℚ) * 2 ^ cautious.breachCount darkAlley| ≤ (2 ^ 53 - 1) * 2 ^ 971 := by
    have hpow : (1 : ℚ) ≤ 2 ^ 971 := one_le_pow₀ (by norm_num)
    rw [hcount]
    calc |(3 : ℚ) * 2 ^ 2| ≤ 2 ^ 53 - 1 := by norm_num
      _ ≤ (2 ^ 53 - 1) * 2 ^ 971 := le_mul_of_one_le_right (by norm_num) hpow
  obtain ⟨-, hexact, -, -⟩ := thresholdReluctance_exact cautious false (.ofNat 3) darkAlley
  obtain ⟨-, -, hlost, horder⟩ := thresholdReluctance_exact cautious true .greatest darkAlley
  refine ⟨hcount, hthree, ?_, hlost hlarge, (horder _ (List.reverse_perm _)).trans (hlost hlarge)⟩
  obtain ⟨r, hr, hvalue⟩ := hexact 3 hthree hsmall
  exact ⟨r, hr, by rw [hvalue, hcount]; norm_num⟩

end WalkPreferences

end AccessibleWalk
