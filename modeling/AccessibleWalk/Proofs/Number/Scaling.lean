/-
Products and quotients with whole numbers, such as the powers of ten that decimals are kept by. Both are rounded, so
scaling up what was scaled down can miss the number it started from.

- `quanta_nearest_of_bits`: a number of 53 bits is exact in every binade, so products with small powers of two are.
- `quanta_roundHalfUp`: rounding to whole numbers is exact.
- `scale_ofNat`: so is the product of whole numbers.
- `unscale_scale_unscale`: scaling a quotient up and down again gives the quotient.
- `roundHalfUp_scale_unscale`: below 2^51 rounding makes up for the product that missed the dividend.
- `Binary64.mul_ofNat`, `Binary64.div_ofNat`: the same operations on signed numbers.
-/
import AccessibleWalk.Proofs.Number.Rounding
import AccessibleWalk.Number.Binary64

namespace AccessibleWalk

namespace Magnitude

/-! ## Exact results -/

theorem isFinite_iff_code {m : Magnitude} : m.isFinite = true ↔ m.code < infinity.code := decide_eq_true_iff

theorem isFinite_of_code_le {a b : Magnitude} (h : a.code ≤ b.code) (hb : b.isFinite = true) : a.isFinite = true := by
  rw [isFinite_iff_code] at hb ⊢
  omega

/-- a fraction below a finite magnitude does not overflow -/
theorem isFinite_nearest {m : Magnitude} (hm : m.isFinite = true) {n d : Nat} (hd : 0 < d) (h : n ≤ m.quanta * d) :
    (nearest n d).isFinite = true :=
  isFinite_of_code_le (code_nearest_le hd h) hm

/-- **A number of 53 bits is not rounded**, whatever it is scaled by. -/
theorem quanta_nearest_of_bits {j : Nat} (hj : j < 2 ^ 53) (t : Nat)
    (hfinite : (nearest (j * 2 ^ t) 1).isFinite = true) :
    (nearest (j * 2 ^ t) 1).quanta = j * 2 ^ t := by
  have hb := binade_log2 (j * 2 ^ t) Nat.one_pos
  rw [quanta_nearest Nat.one_pos hb hfinite]
  generalize (j * 2 ^ t / 1).log2 - 52 = s at *
  have hst : s ≤ t := by
    rcases hb.ge with rfl | hge
    · exact Nat.zero_le t
    · have hlt : 2 ^ (52 + s) < 2 ^ (53 + t) := by
        calc 2 ^ (52 + s) = 2 ^ 52 * (1 * 2 ^ s) := by ring
          _ ≤ j * 2 ^ t := hge
          _ < 2 ^ 53 * 2 ^ t := Nat.mul_lt_mul_of_pos_right hj (Nat.two_pow_pos t)
          _ = 2 ^ (53 + t) := by ring
      have := (Nat.pow_lt_pow_iff_right (by decide)).1 hlt
      omega
  obtain ⟨e, rfl⟩ := Nat.exists_eq_add_of_le hst
  have hterm : j * 2 ^ (s + e) = j * 2 ^ e * 2 ^ s := by ring
  rw [hterm, Nat.one_mul, roundHalfEven_mul_right _ (Nat.two_pow_pos s)]

/-- up to 2^53 units nothing overflows -/
theorem units_le_quanta_greatest {n : Nat} (hn : n ≤ 2 ^ 53) : n * quantaPerUnit ≤ greatest.quanta := by
  have hbig : 2 ^ 53 * quantaPerUnit ≤ greatest.quanta := by decide +kernel
  exact (Nat.mul_le_mul_right _ hn).trans hbig

theorem isFinite_ofNat {n : Nat} (hn : n < 2 ^ 53) : (ofNat n).isFinite = true :=
  isFinite_nearest (m := greatest) (by decide) Nat.one_pos (by rw [Nat.mul_one]; exact units_le_quanta_greatest hn.le)

theorem quanta_ofNat {n : Nat} (hn : n < 2 ^ 53) : (ofNat n).quanta = n * quantaPerUnit := by
  have hexact := quanta_nearest_of_bits hn 1074
  rw [← quantaPerUnit_eq] at hexact
  exact hexact (isFinite_ofNat hn)

/-! ## Whole numbers -/

/-- from 2^52 on all magnitudes are whole -/
theorem dvd_quanta {m : Magnitude} (h : 2 ^ 52 * quantaPerUnit ≤ m.quanta) : quantaPerUnit ∣ m.quanta := by
  have hsteps := m.exists_steps 1074
  rw [← quantaPerUnit_eq] at hsteps
  rcases hsteps with ⟨i, hi⟩ | ⟨-, hlow⟩
  · exact ⟨i, hi.trans (Nat.mul_comm i quantaPerUnit)⟩
  · exact absurd h (Nat.not_le_of_lt hlow)

theorem div_two_mul {u k r : Nat} (low : 2 * (k * u) ≤ 2 * r + u) (high : 2 * r < 2 * (k * u) + u) :
    (2 * r + u) / (2 * u) = k := by
  have hlow : k * (2 * u) = 2 * (k * u) := by ring
  have hhigh : (k + 1) * (2 * u) = 2 * (k * u) + 2 * u := by ring
  exact Nat.div_eq_of_lt_le (by omega) (by omega)

/-- a magnitude less than a half away from a whole one is rounded to it -/
theorem roundHalfUp_eq_of_close {m whole : Magnitude} (hm : m.isFinite = true) (hwhole : quantaPerUnit ∣ whole.quanta)
    (hclose : 2 * ((m.quanta : Int) - whole.quanta).natAbs < quantaPerUnit) : m.roundHalfUp = whole := by
  obtain ⟨k, hk⟩ := hwhole
  rw [Nat.mul_comm] at hk
  have hdiv : (2 * m.quanta + quantaPerUnit) / (2 * quantaPerUnit) = k :=
    div_two_mul (by omega) (by omega)
  rw [roundHalfUp, if_pos hm, hdiv, ofNat, ← hk, nearest_quanta]

theorem roundHalfUp_of_dvd {m : Magnitude} (h : quantaPerUnit ∣ m.quanta) : m.roundHalfUp = m := by
  by_cases hm : m.isFinite = true
  · refine roundHalfUp_eq_of_close hm h ?_
    simpa using quantaPerUnit_pos
  · rw [roundHalfUp, if_neg hm]

theorem quanta_roundHalfUp {m : Magnitude} (hm : m.isFinite = true) :
    m.roundHalfUp.isFinite = true ∧
      m.roundHalfUp.quanta = (2 * m.quanta + quantaPerUnit) / (2 * quantaPerUnit) * quantaPerUnit := by
  rcases Nat.lt_or_ge m.quanta (2 ^ 52 * quantaPerUnit) with hlow | hhigh
  · have hk : (2 * m.quanta + quantaPerUnit) / (2 * quantaPerUnit) < 2 ^ 53 := by
      have := quantaPerUnit_pos
      rw [Nat.div_lt_iff_lt_mul (by omega)]
      omega
    rw [roundHalfUp, if_pos hm]
    exact ⟨isFinite_ofNat hk, quanta_ofNat hk⟩
  · have hdvd := dvd_quanta hhigh
    rw [roundHalfUp_of_dvd hdvd]
    refine ⟨hm, ?_⟩
    obtain ⟨k, hk⟩ := hdvd
    rw [Nat.mul_comm] at hk
    rw [div_two_mul (k := k) (by omega) (by have := quantaPerUnit_pos; omega), hk]

theorem roundHalfUp_mono {a b : Magnitude} (hb : b.isFinite = true) (h : a.code ≤ b.code) :
    a.roundHalfUp.code ≤ b.roundHalfUp.code := by
  have ha := isFinite_of_code_le h hb
  rw [← quanta_le_quanta] at h ⊢
  rw [(quanta_roundHalfUp ha).2, (quanta_roundHalfUp hb).2]
  exact Nat.mul_le_mul_right _ (Nat.div_le_div_right (by omega))

/-- halfway between two whole numbers -/
def IsHalf (m : Magnitude) : Prop := 2 * m.quanta % (2 * quantaPerUnit) = quantaPerUnit

instance (m : Magnitude) : Decidable m.IsHalf := inferInstanceAs (Decidable (_ = _))

/-- from 2^51 on a magnitude is whole or halfway -/
theorem dvd_of_not_isHalf {m : Magnitude} (h : 2 ^ 51 * quantaPerUnit ≤ m.quanta) (hhalf : ¬ m.IsHalf) :
    quantaPerUnit ∣ m.quanta := by
  have hunit : quantaPerUnit = 2 * 2 ^ 1073 := by
    rw [quantaPerUnit_eq, show 1074 = 1073 + 1 from rfl, pow_succ']
  have hsteps := m.exists_steps 1073
  generalize 2 ^ 1073 = u at hunit hsteps
  rcases hsteps with ⟨i, hi⟩ | ⟨-, hlow⟩
  · rcases Nat.even_or_odd' i with ⟨c, rfl | rfl⟩
    · exact ⟨c, by rw [hi, hunit]; ring⟩
    · refine absurd ?_ hhalf
      have hterm : 2 * m.quanta = quantaPerUnit + (2 * quantaPerUnit) * c := by rw [hi, hunit]; ring
      rw [IsHalf, hterm, Nat.add_mul_mod_self_left, Nat.mod_eq_of_lt]
      have := quantaPerUnit_pos
      omega
  · omega

theorem not_isHalf_of_dvd {m : Magnitude} (h : quantaPerUnit ∣ m.quanta) : ¬ m.IsHalf := by
  have hzero : 2 * m.quanta % (2 * quantaPerUnit) = 0 := Nat.mod_eq_zero_of_dvd (Nat.mul_dvd_mul_left 2 h)
  have := quantaPerUnit_pos
  rw [IsHalf]
  omega

/-! ## Scaling by whole numbers -/

/-- the product with a whole number -/
def scale (m : Magnitude) (f : Nat) : Magnitude := nearest (m.quanta * f) 1

/-- the quotient by a whole number -/
def unscale (m : Magnitude) (f : Nat) : Magnitude := nearest m.quanta f

theorem mul_ofNat {m : Magnitude} (hm : m.isFinite = true) {f : Nat} (hf : f < 2 ^ 53) :
    m.mul (ofNat f) = m.scale f := by
  have hterm : m.quanta * (f * quantaPerUnit) = m.quanta * f * quantaPerUnit := by ring
  have hscale := nearest_scale (m.quanta * f) 1 quantaPerUnit_pos
  rw [Nat.one_mul] at hscale
  rw [mul, hm, isFinite_ofNat hf, Bool.and_self, if_pos rfl, quanta_ofNat hf, hterm, hscale, scale]

theorem div_ofNat {m : Magnitude} (hm : m.isFinite = true) {f : Nat} (hf : f < 2 ^ 53) :
    m.div (ofNat f) = m.unscale f := by
  rw [div, if_pos hm, quanta_ofNat hf, nearest_scale _ _ quantaPerUnit_pos, unscale]

/-- **The product of whole numbers** is the whole number. -/
theorem scale_ofNat {n : Nat} (hn : n < 2 ^ 53) (k : Nat) : (ofNat n).scale k = ofNat (n * k) := by
  have hterm : n * quantaPerUnit * k = n * k * quantaPerUnit := by ring
  rw [scale, quanta_ofNat hn, hterm, ofNat]

/-- the quotient of a product of whole numbers is the whole number -/
theorem unscale_ofNat_mul {n f : Nat} (hf : 0 < f) (h : n * f < 2 ^ 53) : (ofNat (n * f)).unscale f = ofNat n := by
  have hterm : n * f * quantaPerUnit = n * quantaPerUnit * f := by ring
  have hscale := nearest_scale (n * quantaPerUnit) 1 hf
  rw [Nat.one_mul] at hscale
  rw [unscale, quanta_ofNat h, hterm, hscale, ofNat]

theorem scale_mono {a b : Magnitude} (h : a.code ≤ b.code) (f : Nat) : (a.scale f).code ≤ (b.scale f).code := by
  refine code_nearest_mono Nat.one_pos Nat.one_pos ?_
  rw [Nat.mul_one, Nat.mul_one]
  exact Nat.mul_le_mul_right f (quanta_le_quanta.2 h)

theorem unscale_mono {a b : Magnitude} (h : a.code ≤ b.code) {f : Nat} (hf : 0 < f) :
    (a.unscale f).code ≤ (b.unscale f).code :=
  code_nearest_mono hf hf (Nat.mul_le_mul_right f (quanta_le_quanta.2 h))

theorem isFinite_unscale {m : Magnitude} (hm : m.isFinite = true) {f : Nat} (hf : 0 < f) :
    (m.unscale f).isFinite = true :=
  isFinite_nearest hm hf (Nat.le_mul_of_pos_right _ hf)

/-- no magnitude is closer to the exact product than the rounded one -/
theorem scale_closest {m : Magnitude} {f : Nat} (hfinite : (m.scale f).isFinite = true) (w : Magnitude) :
    (((m.scale f).quanta : Int) - (m.quanta * f : Nat)).natAbs ≤ ((w.quanta : Int) - (m.quanta * f : Nat)).natAbs :=
  nearest_closest hfinite w

/-- the exact product lies on the same side of a whole number as the rounded one -/
theorem quanta_mul_lt_of_scale_lt {m : Magnitude} {f n : Nat} (hn : n < 2 ^ 53)
    (h : (m.scale f).quanta < n * quantaPerUnit) :
    m.quanta * f < n * quantaPerUnit := by
  by_contra hge
  have hcode : (ofNat n).code ≤ (m.scale f).code := code_le_nearest Nat.one_pos (by rw [quanta_ofNat hn]; omega)
  have := quanta_le_quanta.2 hcode
  rw [quanta_ofNat hn] at this
  omega

section Back

variable {m : Magnitude} {f : Nat} (hf : 0 < f) (hbits : f < 2 ^ 53) (hm : m.isFinite = true)
include hf hm

/-- how far the product with a quotient is from the dividend: half a step of the quotient, `f` times -/
theorem exists_unscale_steps : ∃ s j, Binade m.quanta f s ∧ IsClosest m.quanta (f * 2 ^ s) j ∧ j ≤ 2 ^ 53 ∧
    (s = 0 ∨ 2 ^ 52 ≤ j) ∧ (m.unscale f).quanta * f = j * (f * 2 ^ s) ∧ m.unscale f = ofCode (s * 2 ^ 52 + j) := by
  have hb := binade_log2 m.quanta hf
  refine ⟨_, _, hb, isClosest_roundHalfEven _ (Nat.mul_pos hf (Nat.two_pow_pos _)), hb.roundHalfEven_le hf,
    hb.le_roundHalfEven hf, ?_, nearest_of_binade hf hb⟩
  rw [unscale, quanta_nearest hf hb (isFinite_unscale hm hf)]
  ring

include hbits

/-- **Dividing again gives the same quotient**: the product with a quotient may miss the dividend, but it is as close to
what the quotient stands for, so it has the same quotient. -/
theorem unscale_scale_unscale (hfinite : ((m.unscale f).scale f).isFinite = true) :
    ((m.unscale f).scale f).unscale f = m.unscale f := by
  obtain ⟨s, j, hb, hclosest, hj, hjs, hproduct, hcode⟩ := exists_unscale_steps hf hm
  have hcloser := scale_closest hfinite m
  by_cases hexact : ((m.unscale f).scale f).quanta = (m.unscale f).quanta * f
  · have hscale := nearest_scale (m.unscale f).quanta 1 hf
    rw [Nat.one_mul, nearest_quanta] at hscale
    rw [← hexact] at hscale
    exact hscale
  · -- a product with a power of two would be exact, so the quotient is not at an end of its binade
    have hinside (t : Nat) : (m.unscale f).quanta * f ≠ f * 2 ^ t := fun h =>
      hexact (by rw [scale, h] at hfinite ⊢; exact quanta_nearest_of_bits hbits t hfinite)
    have hlast : j ≠ 2 ^ 53 := by
      rintro rfl
      exact hinside (s + 53) (hproduct.trans (by ring))
    have hfirst : j ≠ 2 ^ 52 := by
      rintro rfl
      exact hinside (s + 52) (hproduct.trans (by ring))
    have hpos : 0 < f * 2 ^ s := Nat.mul_pos hf (Nat.two_pow_pos s)
    have hagain : IsClosest ((m.unscale f).scale f).quanta (f * 2 ^ s) j :=
      hclosest.of_closer (by rw [← hproduct]; exact hcloser)
    have hstep (k : Nat) (hk : k < j) : k * (f * 2 ^ s) + f * 2 ^ s ≤ j * (f * 2 ^ s) := by
      rw [← Nat.succ_mul]; exact Nat.mul_le_mul_right _ hk
    have hroom : j * (f * 2 ^ s) + f * 2 ^ s ≤ 2 ^ 53 * (f * 2 ^ s) := by
      rw [← Nat.succ_mul]; exact Nat.mul_le_mul_right _ (by omega)
    have hle := hagain.le
    have hge := hagain.ge
    have hbinade : Binade ((m.unscale f).scale f).quanta f s := by
      refine ⟨by omega, hjs.imp_right fun h52 => ?_⟩
      have := hstep (2 ^ 52) (by omega)
      omega
    rw [unscale, nearest_of_binade hf hbinade, roundHalfEven_eq hpos hagain, hcode]

/-- below 2^52, or half of it, a quotient is less than a half away from its dividend, or half of that, `f` times -/
theorem mul_natAbs_sub_unscale_lt {c : Nat} (hc : c = 1 ∨ c = 2)
    (hlow : c * ((m.unscale f).quanta * f) < 2 ^ 52 * quantaPerUnit) :
    2 * c * (((m.unscale f).quanta * f : Nat) - (m.quanta : Int)).natAbs < quantaPerUnit := by
  obtain ⟨s, j, -, hclosest, -, hjs, hproduct, -⟩ := exists_unscale_steps hf hm
  have hstep : c * (f * 2 ^ s) < quantaPerUnit := by
    rcases hjs with rfl | h52
    · have hunit : 2 ^ 54 ≤ quantaPerUnit := by decide +kernel
      rcases hc with rfl | rfl <;> omega
    · have := Nat.mul_le_mul_right (f * 2 ^ s) h52
      rcases hc with rfl | rfl <;> omega
  have hle := hclosest.le
  have hge := hclosest.ge
  rcases hc with rfl | rfl <;> omega

theorem natAbs_sub_unscale_lt (hlow : (m.unscale f).quanta * f < 2 ^ 52 * quantaPerUnit) :
    2 * (((m.unscale f).quanta * f : Nat) - (m.quanta : Int)).natAbs < quantaPerUnit :=
  mul_natAbs_sub_unscale_lt hf hbits hm (.inl rfl) (by omega)

/-- **Below 2^51 the product with a quotient rounds to the dividend**, as it is less than a half away from it. -/
theorem roundHalfUp_scale_unscale (hwhole : quantaPerUnit ∣ m.quanta)
    (hfinite : ((m.unscale f).scale f).isFinite = true)
    (hlow : ((m.unscale f).scale f).quanta < 2 ^ 51 * quantaPerUnit) :
    ((m.unscale f).scale f).roundHalfUp = m := by
  have hsmall := quanta_mul_lt_of_scale_lt (by decide) hlow
  have hclose := mul_natAbs_sub_unscale_lt hf hbits hm (.inr rfl) (by omega)
  have hcloser := scale_closest hfinite m
  exact roundHalfUp_eq_of_close hfinite hwhole (by omega)

end Back

@[simp] theorem scale_one (m : Magnitude) : m.scale 1 = m := by rw [scale, Nat.mul_one, nearest_quanta]

@[simp] theorem unscale_one (m : Magnitude) : m.unscale 1 = m := nearest_quanta m

theorem scale_infinity {f : Nat} (hf : 0 < f) : infinity.scale f = infinity := by
  have hle : infinity.code ≤ (infinity.scale f).code :=
    code_le_nearest Nat.one_pos (by rw [Nat.mul_one]; exact Nat.le_mul_of_pos_right _ hf)
  exact eq_of_code (Nat.le_antisymm (infinity.scale f).code_le hle)

theorem ofNat_ne_zero {f : Nat} (hf : 0 < f) (hbits : f < 2 ^ 53) : ofNat f ≠ zero := by
  intro h
  have hquanta := quanta_ofNat hbits
  have hzero : zero.quanta = 0 := by decide
  rw [h, hzero] at hquanta
  have := Nat.mul_pos hf quantaPerUnit_pos
  omega

end Magnitude

/-! ## Signed numbers -/

namespace Binary64

open Magnitude (isFinite_ofNat ofNat_ne_zero isFinite_iff)

/-- **The product with a whole number** keeps the sign. -/
theorem mul_ofNat (n : Bool) (m : Magnitude) {f : Nat} (hf : 0 < f) (hbits : f < 2 ^ 53) :
    signed n m * signed false (.ofNat f) = signed n (m.scale f) := by
  have hfinite := isFinite_ofNat hbits
  show (if (m = Magnitude.zero ∧ Magnitude.ofNat f = Magnitude.infinity) ∨
      (m = Magnitude.infinity ∧ Magnitude.ofNat f = Magnitude.zero) then nan
    else signed (n ^^ false) (m.mul (.ofNat f))) = _
  rw [if_neg (by simp [isFinite_iff.1 hfinite, ofNat_ne_zero hf hbits]), Bool.xor_false]
  by_cases hm : m.isFinite = true
  · rw [Magnitude.mul_ofNat hm hbits]
  · rw [isFinite_iff, not_not] at hm
    rw [hm, Magnitude.scale_infinity hf]
    rfl

theorem div_ofNat (n : Bool) {m : Magnitude} (hm : m.isFinite = true) {f : Nat} (hf : 0 < f) (hbits : f < 2 ^ 53) :
    signed n m / signed false (.ofNat f) = signed n (m.unscale f) := by
  have hinf : Magnitude.ofNat f ≠ .infinity := isFinite_iff.1 (isFinite_ofNat hbits)
  have hzero := ofNat_ne_zero hf hbits
  show (if (m = Magnitude.zero ∧ Magnitude.ofNat f = Magnitude.zero) ∨
      (m = Magnitude.infinity ∧ Magnitude.ofNat f = Magnitude.infinity) then nan
    else if Magnitude.ofNat f = Magnitude.zero then signed (n ^^ false) Magnitude.infinity
    else if Magnitude.ofNat f = Magnitude.infinity then signed (n ^^ false) Magnitude.zero
    else signed (n ^^ false) (m.div (.ofNat f))) = _
  rw [if_neg (by simp [hinf, hzero]), if_neg hzero, if_neg hinf, Bool.xor_false, Magnitude.div_ofNat hm hbits]

/-- a factor of one changes nothing -/
protected theorem mul_one (x : Binary64) : x * 1 = x := by
  cases x with
  | nan => rfl
  | signed n m => exact (mul_ofNat n m (by decide) (by decide)).trans (by rw [Magnitude.scale_one])

end Binary64

end AccessibleWalk
