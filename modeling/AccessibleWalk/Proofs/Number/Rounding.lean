/-
Rounding as an operation on exact fractions of quanta. A fraction lies in a binade, whose magnitudes are a power of two
apart, and is rounded to the closest whole number of these steps.

- `roundHalfEven_eq`: whole numbers that are closest, and even at a tie, are what rounding gives.
- `code_nearest_mono`: rounding keeps order.
- `quanta_lt_quanta`: magnitudes are ordered as their codes.
- `quanta_nearest`: the exact value of a result that does not overflow.
- `nearest_closest`: no magnitude is closer to a number of quanta than its rounding.
-/
import AccessibleWalk.Proofs.Number.Nearest

namespace AccessibleWalk.Magnitude

/-! ## Whole numbers -/

/-- `j` is a whole number closest to n / d, the even one at a tie -/
structure IsClosest (n d j : Nat) : Prop where
  le : 2 * n ≤ 2 * (j * d) + d
  ge : 2 * (j * d) ≤ 2 * n + d
  even : 2 * n = 2 * (j * d) + d ∨ 2 * (j * d) = 2 * n + d → j % 2 = 0

theorem isClosest_roundHalfEven (n : Nat) {d : Nat} (hd : 0 < d) : IsClosest n d (roundHalfEven n d) := by
  have hdiv : n = n / d * d + n % d := by rw [Nat.mul_comm]; exact (Nat.div_add_mod n d).symm
  have hrest := Nat.mod_lt n hd
  have hnext : (n / d + 1) * d = n / d * d + d := Nat.succ_mul _ _
  unfold roundHalfEven
  generalize n / d = below at *
  generalize n % d = rest at *
  dsimp only
  split_ifs with hlow hhigh
  · exact ⟨by omega, by omega, by omega⟩
  · exact ⟨by omega, by omega, by omega⟩
  · have hparity : below % 2 = 0 ∨ below % 2 = 1 := by omega
    rcases hparity with he | ho
    · rw [he, Nat.add_zero]
      exact ⟨by omega, by omega, by omega⟩
    · rw [ho]
      exact ⟨by omega, by omega, by omega⟩

theorem IsClosest.le_of_mul_le {n d j n' d' j' : Nat} (h : IsClosest n d j) (h' : IsClosest n' d' j') (hd : 0 < d)
    (hd' : 0 < d') (hle : n * d' ≤ n' * d) : j ≤ j' := by
  by_contra hlt
  have hup : 2 * (j * (d * d')) ≤ 2 * (n * d') + d * d' := by nlinarith [Nat.mul_le_mul_right d' h.ge]
  have hdown : 2 * (n' * d) ≤ 2 * (j' * (d * d')) + d * d' := by nlinarith [Nat.mul_le_mul_right d h'.le]
  have hstep : j' * (d * d') + d * d' ≤ j * (d * d') := by
    rw [← Nat.succ_mul]; exact Nat.mul_le_mul_right _ (by omega)
  have hpos : 0 < d * d' := Nat.mul_pos hd hd'
  -- between j' and j there is room for the two fractions only if both are the half between them
  have hj : j = j' + 1 := Nat.eq_of_mul_eq_mul_right hpos (by rw [Nat.succ_mul]; omega)
  have hfirst : 2 * (j * d) = 2 * n + d := Nat.eq_of_mul_eq_mul_right hd' (by nlinarith)
  have hsecond : 2 * n' = 2 * (j' * d') + d' := Nat.eq_of_mul_eq_mul_right hd (by nlinarith)
  have hodd := h.even (.inr hfirst)
  have heven := h'.even (.inl hsecond)
  omega

theorem roundHalfEven_eq {n d j : Nat} (hd : 0 < d) (h : IsClosest n d j) : roundHalfEven n d = j :=
  Nat.le_antisymm ((isClosest_roundHalfEven n hd).le_of_mul_le h hd hd le_rfl)
    (h.le_of_mul_le (isClosest_roundHalfEven n hd) hd hd le_rfl)

/-- **Rounding keeps the order of fractions.** -/
theorem roundHalfEven_mono {n d n' d' : Nat} (hd : 0 < d) (hd' : 0 < d') (h : n * d' ≤ n' * d) :
    roundHalfEven n d ≤ roundHalfEven n' d' :=
  (isClosest_roundHalfEven n hd).le_of_mul_le (isClosest_roundHalfEven n' hd') hd hd' h

theorem roundHalfEven_le {n d k : Nat} (hd : 0 < d) (h : n ≤ k * d) : roundHalfEven n d ≤ k := by
  have hmono : roundHalfEven n d ≤ roundHalfEven (k * d) d := roundHalfEven_mono hd hd (Nat.mul_le_mul_right d h)
  rwa [roundHalfEven_mul_right k hd] at hmono

theorem le_roundHalfEven {n d k : Nat} (hd : 0 < d) (h : k * d ≤ n) : k ≤ roundHalfEven n d := by
  have hmono : roundHalfEven (k * d) d ≤ roundHalfEven n d := roundHalfEven_mono hd hd (Nat.mul_le_mul_right d h)
  rwa [roundHalfEven_mul_right k hd] at hmono

/-- no multiple of `d` is closer to `n` -/
theorem IsClosest.natAbs_sub_le {n d j : Nat} (h : IsClosest n d j) (i : Nat) :
    (((j * d : Nat) : Int) - n).natAbs ≤ (((i * d : Nat) : Int) - n).natAbs := by
  have hle := h.le
  have hge := h.ge
  rcases Nat.lt_trichotomy i j with hi | rfl | hi
  · have hstep : i * d + d ≤ j * d := by rw [← Nat.succ_mul]; exact Nat.mul_le_mul_right d hi
    omega
  · exact le_rfl
  · have hstep : j * d + d ≤ i * d := by rw [← Nat.succ_mul]; exact Nat.mul_le_mul_right d hi
    omega

/-- a fraction that lies no farther from `j` than one that is rounded to it is rounded to it -/
theorem IsClosest.of_closer {n d j n' : Nat} (h : IsClosest n d j)
    (hn : ((n' : Int) - (j * d : Nat)).natAbs ≤ ((n : Int) - (j * d : Nat)).natAbs) : IsClosest n' d j := by
  obtain ⟨hle, hge, heven⟩ := h
  exact ⟨by omega, by omega, fun ht => heven (by omega)⟩

/-! ## Binades -/

/-- n / d lies in the binade whose codes are 2^s quanta apart -/
structure Binade (n d s : Nat) : Prop where
  lt : n < 2 ^ 53 * (d * 2 ^ s)
  ge : s = 0 ∨ 2 ^ 52 * (d * 2 ^ s) ≤ n

theorem binade_log2 (n : Nat) {d : Nat} (hd : 0 < d) : Binade n d ((n / d).log2 - 52) := by
  have hlog := @Nat.lt_log2_self (n / d)
  have hterm (k s : Nat) : 2 ^ k * (d * 2 ^ s) = 2 ^ (k + s) * d := by ring
  constructor
  · rw [hterm, ← Nat.div_lt_iff_lt_mul hd]
    exact hlog.trans_le (Nat.pow_le_pow_right (by decide) (by omega))
  · rcases Nat.eq_zero_or_pos ((n / d).log2 - 52) with h | h
    · exact .inl h
    · have hne : n / d ≠ 0 := fun h0 => by rw [h0] at h; simp at h
      have hk : 52 + ((n / d).log2 - 52) = (n / d).log2 := by omega
      rw [hterm, ← Nat.le_div_iff_mul_le hd, hk]
      exact .inr (Nat.log2_self_le hne)

/-- larger fractions lie in later binades -/
theorem Binade.le_of_mul_le {n d s n' d' s' : Nat} (h : Binade n d s) (h' : Binade n' d' s') (hd : 0 < d)
    (hle : n * d' ≤ n' * d) : s ≤ s' := by
  rcases h.ge with rfl | hge
  · exact Nat.zero_le _
  · have hlow : d * d' * 2 ^ (s + 52) ≤ n * d' := by
      calc d * d' * 2 ^ (s + 52) = 2 ^ 52 * (d * 2 ^ s) * d' := by ring
        _ ≤ n * d' := Nat.mul_le_mul_right d' hge
    have hhigh : n' * d < d * d' * 2 ^ (s' + 53) := by
      calc n' * d < 2 ^ 53 * (d' * 2 ^ s') * d := Nat.mul_lt_mul_of_pos_right h'.lt hd
        _ = d * d' * 2 ^ (s' + 53) := by ring
    have hpow : 2 ^ (s + 52) < 2 ^ (s' + 53) :=
      Nat.lt_of_mul_lt_mul_left ((hlow.trans hle).trans_lt hhigh)
    have := (Nat.pow_lt_pow_iff_right (by decide)).1 hpow
    omega

theorem nearest_of_binade {n d s : Nat} (hd : 0 < d) (h : Binade n d s) :
    nearest n d = ofCode (s * 2 ^ 52 + roundHalfEven n (d * 2 ^ s)) := by
  have hs : (n / d).log2 - 52 = s :=
    Nat.le_antisymm ((binade_log2 n hd).le_of_mul_le h hd le_rfl) (h.le_of_mul_le (binade_log2 n hd) hd le_rfl)
  rw [nearest_eq, hs]

/-- in its binade a fraction is rounded to a significand of 53 bits, or to the first one of the next binade -/
theorem Binade.roundHalfEven_le {n d s : Nat} (hd : 0 < d) (h : Binade n d s) : roundHalfEven n (d * 2 ^ s) ≤ 2 ^ 53 :=
  Magnitude.roundHalfEven_le (Nat.mul_pos hd (Nat.two_pow_pos s)) h.lt.le

theorem Binade.le_roundHalfEven {n d s : Nat} (hd : 0 < d) (h : Binade n d s) :
    s = 0 ∨ 2 ^ 52 ≤ roundHalfEven n (d * 2 ^ s) :=
  h.ge.imp_right (Magnitude.le_roundHalfEven (Nat.mul_pos hd (Nat.two_pow_pos s)))

/-! ## Order -/

/-- **Rounding keeps order**: of two fractions the larger one has the larger magnitude. -/
theorem code_nearest_mono {n d n' d' : Nat} (hd : 0 < d) (hd' : 0 < d') (h : n * d' ≤ n' * d) :
    (nearest n d).code ≤ (nearest n' d').code := by
  have hb := binade_log2 n hd
  have hb' := binade_log2 n' hd'
  have hs := hb.le_of_mul_le hb' hd h
  have hlow := hb.roundHalfEven_le hd
  have hhigh := hb'.le_roundHalfEven hd'
  rw [nearest_of_binade hd hb, nearest_of_binade hd' hb']
  generalize (n / d).log2 - 52 = s at *
  generalize (n' / d').log2 - 52 = s' at *
  simp only [ofCode]
  rcases Nat.eq_or_lt_of_le hs with rfl | hlt
  · have hround : roundHalfEven n (d * 2 ^ s) ≤ roundHalfEven n' (d' * 2 ^ s) :=
      roundHalfEven_mono (Nat.mul_pos hd (Nat.two_pow_pos s)) (Nat.mul_pos hd' (Nat.two_pow_pos s))
        (by calc n * (d' * 2 ^ s) = n * d' * 2 ^ s := by ring
              _ ≤ n' * d * 2 ^ s := Nat.mul_le_mul_right _ h
              _ = n' * (d * 2 ^ s) := by ring)
    omega
  · omega

theorem code_le_nearest {m : Magnitude} {n d : Nat} (hd : 0 < d) (h : m.quanta * d ≤ n) :
    m.code ≤ (nearest n d).code := by
  have hmono : (nearest m.quanta 1).code ≤ (nearest n d).code :=
    code_nearest_mono Nat.one_pos hd (by rwa [Nat.mul_one])
  rwa [nearest_quanta] at hmono

theorem code_nearest_le {m : Magnitude} {n d : Nat} (hd : 0 < d) (h : n ≤ m.quanta * d) :
    (nearest n d).code ≤ m.code := by
  have hmono : (nearest n d).code ≤ (nearest m.quanta 1).code :=
    code_nearest_mono hd Nat.one_pos (by rwa [Nat.mul_one])
  rwa [nearest_quanta] at hmono

theorem quanta_lt_of_code_lt {a b : Magnitude} (h : a.code < b.code) : a.quanta < b.quanta := by
  by_contra hle
  have hcode : b.code ≤ (nearest a.quanta 1).code := code_le_nearest Nat.one_pos (by omega)
  rw [nearest_quanta] at hcode
  omega

/-- **Values are ordered as their codes.** -/
theorem quanta_lt_quanta {a b : Magnitude} : a.quanta < b.quanta ↔ a.code < b.code := by
  refine ⟨fun h => ?_, quanta_lt_of_code_lt⟩
  rcases Nat.lt_trichotomy a.code b.code with hlt | he | hgt
  · exact hlt
  · rw [eq_of_code he] at h
    exact absurd h (Nat.lt_irrefl _)
  · exact absurd h (Nat.lt_asymm (quanta_lt_of_code_lt hgt))

theorem quanta_le_quanta {a b : Magnitude} : a.quanta ≤ b.quanta ↔ a.code ≤ b.code := by
  rw [← Nat.not_lt, ← Nat.not_lt, quanta_lt_quanta]

/-! ## Steps -/

/-- the magnitude `j` steps of 2^s quanta above zero -/
theorem quanta_ofCode {s j : Nat} (hj : j ≤ 2 ^ 53) (hs : s = 0 ∨ 2 ^ 52 ≤ j)
    (hc : s * 2 ^ 52 + j ≤ infinity.code) : (ofCode (s * 2 ^ 52 + j)).quanta = j * 2 ^ s := by
  have hcode : (ofCode (s * 2 ^ 52 + j)).code = s * 2 ^ 52 + j := Nat.min_eq_left hc
  rw [quanta_eq, hcode]
  rcases Nat.lt_or_ge j (2 ^ 52) with hlow | hhigh
  · have hzero : s = 0 := by omega
    subst hzero
    rw [if_pos (by omega)]
    simp
  · rw [if_neg (by omega)]
    rcases Nat.eq_or_lt_of_le hj with rfl | hlt
    · have hdiv : (s * 2 ^ 52 + 2 ^ 53) / 2 ^ 52 - 1 = s + 1 := by omega
      have hmod : (s * 2 ^ 52 + 2 ^ 53) % 2 ^ 52 = 0 := by omega
      rw [hdiv, hmod, Nat.add_zero]
      ring
    · have hdiv : (s * 2 ^ 52 + j) / 2 ^ 52 - 1 = s := by omega
      have hmod : 2 ^ 52 + (s * 2 ^ 52 + j) % 2 ^ 52 = j := by omega
      rw [hdiv, hmod]

/-- a finite result of rounding is `j` steps of its binade -/
theorem quanta_nearest {n d s : Nat} (hd : 0 < d) (h : Binade n d s) (hfinite : (nearest n d).isFinite = true) :
    (nearest n d).quanta = roundHalfEven n (d * 2 ^ s) * 2 ^ s := by
  rw [nearest_of_binade hd h] at hfinite ⊢
  refine quanta_ofCode (h.roundHalfEven_le hd) (h.le_roundHalfEven hd) ?_
  have hcode : min (s * 2 ^ 52 + roundHalfEven n (d * 2 ^ s)) infinity.code < infinity.code := of_decide_eq_true hfinite
  omega

/-- a magnitude is a whole number of steps of any binade, or lies below the binade -/
theorem exists_steps (m : Magnitude) (s : Nat) :
    (∃ i, m.quanta = i * 2 ^ s) ∨ (s ≠ 0 ∧ m.quanta < 2 ^ 52 * 2 ^ s) := by
  rw [quanta_eq]
  split_ifs with hm
  · rcases Nat.eq_zero_or_pos s with rfl | hs
    · exact .inl ⟨m.code, by simp⟩
    · exact .inr ⟨by omega, hm.trans_le (Nat.le_mul_of_pos_right _ (Nat.two_pow_pos s))⟩
  · have hr := Nat.mod_lt m.code (show 0 < 2 ^ 52 by decide)
    generalize m.code / 2 ^ 52 - 1 = e
    rcases Nat.lt_or_ge e s with he | he
    · refine .inr ⟨by omega, ?_⟩
      calc (2 ^ 52 + m.code % 2 ^ 52) * 2 ^ e < 2 ^ 53 * 2 ^ e :=
          Nat.mul_lt_mul_of_pos_right (by omega) (Nat.two_pow_pos e)
        _ = 2 ^ 52 * 2 ^ (e + 1) := by ring
        _ ≤ 2 ^ 52 * 2 ^ s := Nat.mul_le_mul_left _ (Nat.pow_le_pow_right (by decide) he)
    · refine .inl ⟨(2 ^ 52 + m.code % 2 ^ 52) * 2 ^ (e - s), ?_⟩
      rw [Nat.mul_assoc, ← pow_add, Nat.sub_add_cancel he]

/-- **No magnitude is closer** to a number of quanta than its rounding. -/
theorem nearest_closest {n : Nat} (hfinite : (nearest n 1).isFinite = true) (m : Magnitude) :
    (((nearest n 1).quanta : Int) - n).natAbs ≤ ((m.quanta : Int) - n).natAbs := by
  have hb := binade_log2 n Nat.one_pos
  rw [quanta_nearest Nat.one_pos hb hfinite]
  generalize (n / 1).log2 - 52 = s at *
  simp only [Nat.one_mul]
  have hclosest := isClosest_roundHalfEven n (Nat.two_pow_pos s)
  rcases m.exists_steps s with ⟨i, hi⟩ | ⟨hs, hlow⟩
  · rw [hi]
    exact hclosest.natAbs_sub_le i
  · -- below the binade the magnitude is farther away than the start of the binade
    have hstart := hclosest.natAbs_sub_le (2 ^ 52)
    have hge := hb.ge.resolve_left hs
    rw [Nat.one_mul] at hge
    omega

end AccessibleWalk.Magnitude
