/-
Whole multiples of 1 / f: a number is scaled by `f`, rounded to a whole number, a half going up, and scaled back, all in
binary64. The product with a quotient need not be the dividend again, so keeping multiples twice can differ from keeping
them once, and this is about when it does.

- `keep_mono`: keeping multiples keeps order, past the overflow too.
- `keep_keep_iff`: what is kept stays, unless it slips: its product comes out halfway above the whole number it is the
  quotient of.
- `le_quanta_of_slips`: only products from 2^51 on slip.
- `keep_keep_ten`: tenths never slip.
- `keep_ofNat`: whole numbers are kept.
-/
import AccessibleWalk.Proofs.Number.Scaling

namespace AccessibleWalk.Magnitude

/-! ## Multiples of a fraction -/

/-- kept to whole multiples of 1 / f, as far as the product with `f` does not overflow -/
@[irreducible] def keep (m : Magnitude) (f : Nat) : Magnitude :=
  if (m.scale f).isFinite then (m.scale f).roundHalfUp.unscale f else m

theorem keep_of_isFinite {m : Magnitude} {f : Nat} (h : (m.scale f).isFinite = true) :
    m.keep f = (m.scale f).roundHalfUp.unscale f := by
  unfold keep
  exact if_pos h

theorem isFinite_keep {m : Magnitude} {f : Nat} (hf : 0 < f) (hm : m.isFinite = true) : (m.keep f).isFinite = true := by
  unfold keep
  split_ifs with hfinite
  · exact isFinite_unscale (quanta_roundHalfUp hfinite).1 hf
  · exact hm

theorem keep_of_overflow {m : Magnitude} {f : Nat} (h : ¬ (m.scale f).isFinite = true) : m.keep f = m := by
  unfold keep
  exact if_neg h

/-! ## Slips -/

/-- a number halfway between whole ones is the one below it and a half, and less than 2^52 -/
theorem IsHalf.exists_quanta {m : Magnitude} (h : m.IsHalf) : ∃ k, k < 2 ^ 52 ∧ m.quanta < 2 ^ 52 * quantaPerUnit ∧
    m.quanta / quantaPerUnit = k ∧ 2 * m.quanta = 2 * (k * quantaPerUnit) + quantaPerUnit := by
  have hlow : m.quanta < 2 ^ 52 * quantaPerUnit := by
    by_contra hge
    exact not_isHalf_of_dvd (dvd_quanta (Nat.le_of_not_lt hge)) h
  have hdiv : 2 * m.quanta / (2 * quantaPerUnit) = m.quanta / quantaPerUnit := Nat.mul_div_mul_left _ _ (by decide)
  have hsum := Nat.div_add_mod (2 * m.quanta) (2 * quantaPerUnit)
  rw [h, hdiv] at hsum
  have hterm : 2 * quantaPerUnit * (m.quanta / quantaPerUnit) = 2 * (m.quanta / quantaPerUnit * quantaPerUnit) := by ring
  exact ⟨_, (Nat.div_lt_iff_lt_mul quantaPerUnit_pos).2 hlow, hlow, rfl, by rw [← hterm, hsum]⟩

theorem IsHalf.isFinite {m : Magnitude} (h : m.IsHalf) : m.isFinite = true := by
  rw [isFinite_iff]
  rintro rfl
  exact not_isHalf_of_dvd (dvd_quanta (by decide +kernel)) h

/-- the product with `f` comes out halfway above the whole number whose quotient by `f` this is -/
def Slips (m : Magnitude) (f : Nat) : Prop :=
  (m.scale f).IsHalf ∧ (ofNat ((m.scale f).quanta / quantaPerUnit)).unscale f = m

instance (m : Magnitude) (f : Nat) : Decidable (m.Slips f) := inferInstanceAs (Decidable (_ ∧ _))

theorem roundHalfUp_of_half {m : Magnitude} {k : Nat} (hm : m.isFinite = true)
    (h : 2 * m.quanta = 2 * (k * quantaPerUnit) + quantaPerUnit) : m.roundHalfUp = ofNat (k + 1) := by
  have hstep : (k + 1) * quantaPerUnit = k * quantaPerUnit + quantaPerUnit := Nat.succ_mul _ _
  have hpos := quantaPerUnit_pos
  rw [roundHalfUp, if_pos hm, div_two_mul (k := k + 1) (by omega) (by omega)]

/-- a multiple of `u` close to what is close to k + 1/2 is one of the two multiples next to it -/
theorem eq_or_eq_add_one_of_close {u i k p q : Nat} (hclose : 2 * ((p : Int) - (i * u : Nat)).natAbs < u)
    (hcloser : ((q : Int) - p).natAbs ≤ (((i * u : Nat) : Int) - p).natAbs) (hq : 2 * q = 2 * (k * u) + u) :
    i = k ∨ i = k + 1 := by
  have hstep (a b : Nat) (hab : a < b) : a * u + u ≤ b * u := by
    rw [← Nat.succ_mul]; exact Nat.mul_le_mul_right _ hab
  by_contra hother
  rcases (by omega : i < k ∨ k + 1 < i) with hlt | hgt
  · have := hstep i k hlt
    omega
  · have := hstep (k + 1) i hgt
    have := hstep k (k + 1) (by omega)
    omega

section Kept

variable {m : Magnitude} {f : Nat} (hf : 0 < f) (hbits : f < 2 ^ 53)
include hf hbits

/-- a product that lands halfway still rounds to its dividend, unless the dividend is the whole number below -/
theorem roundHalfUp_scale_unscale_of_isHalf (hm : m.isFinite = true) (hwhole : quantaPerUnit ∣ m.quanta)
    (hhalf : ((m.unscale f).scale f).IsHalf) (hslip : ¬ (m.unscale f).Slips f) :
    ((m.unscale f).scale f).roundHalfUp = m := by
  obtain ⟨k, hk, hlow, hfloor, hquanta⟩ := hhalf.exists_quanta
  obtain ⟨i, hi⟩ := hwhole
  rw [Nat.mul_comm] at hi
  have hclose := natAbs_sub_unscale_lt hf hbits hm (quanta_mul_lt_of_scale_lt (by decide) hlow)
  have hcloser := scale_closest hhalf.isFinite m
  have hne : i ≠ k := by
    rintro rfl
    have hm : ofNat i = m := by rw [ofNat, ← hi, nearest_quanta]
    exact hslip ⟨hhalf, by rw [hfloor, hm]⟩
  rw [hi] at hclose hcloser
  have hik := (eq_or_eq_add_one_of_close hclose hcloser hquanta).resolve_left hne
  rw [roundHalfUp_of_half hhalf.isFinite hquanta, ← hik, ofNat, ← hi, nearest_quanta]

/-- a quotient of a whole number is kept if its product lands where it should -/
theorem keep_unscale (hm : m.isFinite = true) (hwhole : quantaPerUnit ∣ m.quanta) (hslip : ¬ (m.unscale f).Slips f) :
    (m.unscale f).keep f = m.unscale f := by
  by_cases hfinite : ((m.unscale f).scale f).isFinite = true
  · rw [keep_of_isFinite hfinite]
    rcases Nat.lt_or_ge ((m.unscale f).scale f).quanta (2 ^ 51 * quantaPerUnit) with hlow | hhigh
    · rw [roundHalfUp_scale_unscale hf hbits hm hwhole hfinite hlow]
    · by_cases hhalf : ((m.unscale f).scale f).IsHalf
      · rw [roundHalfUp_scale_unscale_of_isHalf hf hbits hm hwhole hhalf hslip]
      · rw [roundHalfUp_of_dvd (dvd_of_not_isHalf hhigh hhalf), unscale_scale_unscale hf hbits hm hfinite]
  · exact keep_of_overflow hfinite

/-- **Only products from 2^51 on slip.** -/
theorem le_quanta_of_slips (h : m.Slips f) : 2 ^ 51 * quantaPerUnit ≤ (m.scale f).quanta := by
  obtain ⟨hhalf, hquotient⟩ := h
  obtain ⟨k, hk, -, hfloor, hquanta⟩ := hhalf.exists_quanta
  rw [hfloor] at hquotient
  by_contra hlow
  have hwhole : quantaPerUnit ∣ (ofNat k).quanta := ⟨k, by rw [quanta_ofNat (by omega), Nat.mul_comm]⟩
  have hround := roundHalfUp_scale_unscale hf hbits (isFinite_ofNat (n := k) (by omega)) hwhole
    (by rw [hquotient]; exact hhalf.isFinite) (by rw [hquotient]; exact Nat.lt_of_not_le hlow)
  rw [hquotient, roundHalfUp_of_half hhalf.isFinite hquanta] at hround
  have hsame := congrArg quanta hround
  rw [quanta_ofNat (by omega), quanta_ofNat (by omega)] at hsame
  have := Nat.eq_of_mul_eq_mul_right quantaPerUnit_pos hsame
  omega

/-- a number that slips is not kept: it grows by one multiple -/
theorem keep_ne_of_slips (h : m.Slips f) : m.keep f ≠ m := by
  obtain ⟨hhalf, hquotient⟩ := h
  obtain ⟨k, hk, hlow, hfloor, hquanta⟩ := hhalf.exists_quanta
  rw [hfloor] at hquotient
  rw [keep_of_isFinite hhalf.isFinite, roundHalfUp_of_half hhalf.isFinite hquanta]
  intro hagain
  -- both whole numbers would be less than a half away from the product
  have hproduct := quanta_mul_lt_of_scale_lt (by decide) hlow
  have hbelow := natAbs_sub_unscale_lt hf hbits (isFinite_ofNat (n := k) (by omega)) (by rwa [hquotient])
  have habove := natAbs_sub_unscale_lt hf hbits (isFinite_ofNat (n := k + 1) (by omega)) (by rwa [hagain])
  rw [hquotient, quanta_ofNat (by omega)] at hbelow
  rw [hagain, quanta_ofNat (by omega)] at habove
  have hstep : (k + 1) * quantaPerUnit = k * quantaPerUnit + quantaPerUnit := Nat.succ_mul _ _
  omega

/-- **Keeping multiples twice is keeping them once**, unless what is kept slips. -/
theorem keep_keep_iff : (m.keep f).keep f = m.keep f ↔ ¬ (m.keep f).Slips f := by
  refine ⟨fun h hslip => keep_ne_of_slips hf hbits hslip h, fun hslip => ?_⟩
  by_cases hfinite : (m.scale f).isFinite = true
  · obtain ⟨hround, hquanta⟩ := quanta_roundHalfUp hfinite
    rw [keep_of_isFinite hfinite] at hslip ⊢
    exact keep_unscale hf hbits hround ⟨_, hquanta.trans (Nat.mul_comm _ _)⟩ hslip
  · rw [keep_of_overflow hfinite, keep_of_overflow hfinite]

end Kept

/-! ## Order -/

/-- **Keeping multiples keeps order**, also where the product starts to overflow. -/
theorem keep_mono {a b : Magnitude} (h : a.code ≤ b.code) {f : Nat} (hf : 0 < f) :
    (a.keep f).code ≤ (b.keep f).code := by
  have hscale := scale_mono h f
  unfold keep
  split_ifs with ha hb hb
  · exact unscale_mono (roundHalfUp_mono hb hscale) hf
  · -- the rounded product is finite and that of the larger number is not
    refine code_nearest_le hf ?_
    by_contra hlt
    have hover : (b.scale f).code ≤ (a.scale f).roundHalfUp.code := code_nearest_le Nat.one_pos (by omega)
    exact hb (isFinite_of_code_le hover (quanta_roundHalfUp ha).1)
  · exact absurd (isFinite_of_code_le hscale hb) ha
  · exact h

theorem keep_le {m c : Magnitude} {f : Nat} (hf : 0 < f) (hc : c.keep f = c) (h : m.code ≤ c.code) :
    (m.keep f).code ≤ c.code := by
  have hmono := keep_mono h hf
  rwa [hc] at hmono

theorem le_keep {m c : Magnitude} {f : Nat} (hf : 0 < f) (hc : c.keep f = c) (h : c.code ≤ m.code) :
    c.code ≤ (m.keep f).code := by
  have hmono := keep_mono h hf
  rwa [hc] at hmono

/-- what is kept under a bound whose product lies below 2^51 is kept for good -/
theorem keep_keep_of_le {m c : Magnitude} {f : Nat} (hf : 0 < f) (hbits : f < 2 ^ 53)
    (hc : (c.scale f).quanta < 2 ^ 51 * quantaPerUnit) (h : (m.keep f).code ≤ c.code) :
    (m.keep f).keep f = m.keep f := by
  refine (keep_keep_iff hf hbits).2 fun hslip => ?_
  have hhigh := le_quanta_of_slips hf hbits hslip
  have hscale := quanta_le_quanta.2 (scale_mono h f)
  omega

/-! ## Whole numbers and tenths -/

theorem keep_one (m : Magnitude) : m.keep 1 = m.roundHalfUp := by
  by_cases hm : m.isFinite = true
  · rw [keep_of_isFinite (by rwa [scale_one]), scale_one, unscale_one]
  · rw [keep_of_overflow (by rwa [scale_one]), roundHalfUp, if_neg hm]

theorem keep_zero {f : Nat} (hf : 0 < f) : zero.keep f = zero := by
  have hquanta : zero.quanta = 0 := by decide
  have hscale : zero.scale f = zero := by rw [scale, hquanta, Nat.zero_mul, nearest_zero Nat.one_pos]
  rw [keep_of_isFinite (by rw [hscale]; decide), hscale, roundHalfUp_of_dvd (by rw [hquanta]; exact Nat.dvd_zero _),
    unscale, hquanta, nearest_zero hf]

/-- **Whole numbers are kept**, as they are multiples of every fraction. -/
theorem keep_ofNat {n f : Nat} (hf : 0 < f) (h : n * f < 2 ^ 53) : (ofNat n).keep f = ofNat n := by
  have hscale := scale_ofNat ((Nat.le_mul_of_pos_right n hf).trans_lt h) f
  have hwhole : quantaPerUnit ∣ (ofNat (n * f)).quanta := ⟨n * f, by rw [quanta_ofNat h, Nat.mul_comm]⟩
  rw [keep_of_isFinite (by rw [hscale]; exact isFinite_ofNat h), hscale, roundHalfUp_of_dvd hwhole,
    unscale_ofNat_mul hf h]

theorem keep_keep_one (m : Magnitude) : (m.keep 1).keep 1 = m.keep 1 := by
  rw [keep_one, keep_one]
  by_cases hm : m.isFinite = true
  · exact roundHalfUp_of_dvd ⟨_, (quanta_roundHalfUp hm).2.trans (Nat.mul_comm _ _)⟩
  · have hround : m.roundHalfUp = m := by rw [roundHalfUp, if_neg hm]
    rw [hround, hround]

theorem isClosest_of_even {n d j : Nat} (heven : j % 2 = 0) (h : 2 * (((j * d : Nat) : Int) - n).natAbs ≤ d) :
    IsClosest n d j := ⟨by omega, by omega, fun _ => heven⟩

/-- ten times a quotient by ten is within a quarter of the whole number that was divided, where halves still exist -/
theorem tenfold_close {m : Magnitude} (hm : m.isFinite = true) {b k : Nat} (hb : 3 ≤ b)
    (hk : m.quanta = k * (2 * 2 ^ b)) (hlow : (m.unscale 10).quanta * 10 < 2 ^ 53 * 2 ^ b) :
    2 * ((m.quanta : Int) - ((m.unscale 10).quanta * 10 : Nat)).natAbs ≤ 2 ^ b := by
  obtain ⟨s, j, -, hclosest, -, hjs, hproduct, -⟩ := exists_unscale_steps (f := 10) (by decide) hm
  have hs : s + 3 ≤ b := by
    rcases hjs with rfl | h52
    · exact hb
    · have hstart := Nat.mul_le_mul_right (10 * 2 ^ s) h52
      have hpow : 2 ^ (s + 2) < 2 ^ b := by
        have : 2 ^ (s + 2) = 4 * 2 ^ s := by ring
        omega
      have := (Nat.pow_lt_pow_iff_right (by decide)).1 hpow
      omega
  obtain ⟨t, ht⟩ := Nat.exists_eq_add_of_le hs
  -- both are whole multiples of twice the step, so the distance of less than three steps is at most two
  have hunit : 2 ^ b = 8 * 2 ^ s * 2 ^ t := by rw [ht]; ring
  have hdistance : ((m.quanta : Int) - ((m.unscale 10).quanta * 10 : Nat)).natAbs =
      2 * 2 ^ s * (8 * 2 ^ t * k - 5 * j : Int).natAbs := by
    have hterm : (m.quanta : Int) - ((m.unscale 10).quanta * 10 : Nat) =
        (2 * 2 ^ s : Nat) * (8 * 2 ^ t * k - 5 * j) := by
      rw [hproduct, hk, hunit]
      push_cast
      ring
    rw [hterm, Int.natAbs_mul, Int.natAbs_natCast]
  have hle := hclosest.le
  have hge := hclosest.ge
  rw [← hproduct] at hle hge
  have hpos : 0 < 2 ^ s := Nat.two_pow_pos s
  have hsteps : (8 * 2 ^ t * k - 5 * j : Int).natAbs ≤ 2 := by
    by_contra hfar
    have := Nat.mul_le_mul_left (2 * 2 ^ s) (show 3 ≤ (8 * 2 ^ t * k - 5 * j : Int).natAbs by omega)
    omega
  calc 2 * ((m.quanta : Int) - ((m.unscale 10).quanta * 10 : Nat)).natAbs
      ≤ 2 * (2 * 2 ^ s * 2) := by rw [hdistance]; exact Nat.mul_le_mul_left _ (Nat.mul_le_mul_left _ hsteps)
    _ = 8 * 2 ^ s := by ring
    _ ≤ 2 ^ b := by rw [hunit]; exact Nat.le_mul_of_pos_right _ (Nat.two_pow_pos t)

/-- a tenfold quotient by ten of a whole number is never halfway -/
theorem not_isHalf_tenfold {m : Magnitude} (hm : m.isFinite = true) (hwhole : quantaPerUnit ∣ m.quanta)
    (hhigh : 2 ^ 51 * quantaPerUnit ≤ ((m.unscale 10).scale 10).quanta) : ¬ ((m.unscale 10).scale 10).IsHalf := by
  refine not_isHalf_of_dvd ?_
  by_cases hfinite : ((m.unscale 10).scale 10).isFinite = true
  · obtain ⟨b, hb, hunit⟩ : ∃ b, 3 ≤ b ∧ quantaPerUnit = 2 * 2 ^ b :=
      ⟨1073, by decide, by rw [quantaPerUnit_eq, ← pow_succ']⟩
    have hbinade := binade_log2 ((m.unscale 10).quanta * 10) Nat.one_pos
    have hquanta := quanta_nearest Nat.one_pos hbinade hfinite
    have hround := hbinade.roundHalfEven_le Nat.one_pos
    have hlt := hbinade.lt
    rw [scale, hquanta] at hhigh ⊢
    generalize ((m.unscale 10).quanta * 10 / 1).log2 - 52 = s at *
    rw [Nat.one_mul] at hround hlt
    rw [Nat.one_mul, hunit] at hhigh ⊢
    rcases Nat.lt_trichotomy s b with hs | rfl | hs
    · -- below the binade there is only its start
      have hhalf : 2 * 2 ^ s ≤ 2 ^ b := by
        rw [← pow_succ']
        exact Nat.pow_le_pow_right (by decide) hs
      have hle := Nat.mul_le_mul_right (2 ^ s) hround
      exact ⟨2 ^ 51, by omega⟩
    · obtain ⟨k, hk⟩ := hwhole
      rw [hunit, Nat.mul_comm] at hk
      have hclose := tenfold_close hm hb hk hlt
      have hrounded : roundHalfEven ((m.unscale 10).quanta * 10) (2 ^ s) = 2 * k := by
        have hterm : k * (2 * 2 ^ s) = 2 * k * 2 ^ s := by ring
        rw [hk, hterm] at hclose
        exact roundHalfEven_eq (Nat.two_pow_pos s) (isClosest_of_even (Nat.mul_mod_right 2 k) hclose)
      rw [hrounded]
      exact ⟨k, by ring⟩
    · obtain ⟨e, rfl⟩ := Nat.exists_eq_add_of_lt hs
      generalize roundHalfEven ((m.unscale 10).quanta * 10) (2 ^ (b + e + 1)) = j
      exact ⟨j * 2 ^ e, by ring⟩
  · rw [isFinite_iff, not_not] at hfinite
    rw [hfinite]
    exact dvd_quanta (by decide +kernel)

/-- **Tenths are kept for good**, whatever the size of the number. -/
theorem keep_keep_ten (m : Magnitude) : (m.keep 10).keep 10 = m.keep 10 := by
  refine (keep_keep_iff (by decide) (by decide)).2 fun hslip => ?_
  by_cases hfinite : (m.scale 10).isFinite = true
  · obtain ⟨hround, hquanta⟩ := quanta_roundHalfUp hfinite
    have hlow := le_quanta_of_slips (by decide) (by decide) hslip
    have hhalf := hslip.1
    rw [keep_of_isFinite hfinite] at hlow hhalf
    exact not_isHalf_tenfold hround ⟨_, hquanta.trans (Nat.mul_comm _ _)⟩ hlow hhalf
  · have hhalf := hslip.1
    rw [keep_of_overflow hfinite] at hhalf
    exact hfinite hhalf.isFinite

end AccessibleWalk.Magnitude
