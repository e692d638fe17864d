/-
Products and the order. Every product is rounded, but rounding keeps order, so a product of larger factors is not
smaller. A number multiplied by whole numbers, one after the other, does not fall below its start.

- `Magnitude.mul_le_mul`, `Magnitude.le_mul`: products of magnitudes.
- `atMost_mul_ofNat`: multiplying by a whole number keeps the order.
- `atMost_product`: and so does a run of steps.
-/
import AccessibleWalk.Proofs.Number.Order
import AccessibleWalk.Proofs.Number.Sign

namespace AccessibleWalk

namespace Magnitude

theorem scale_le_scale {a b : Magnitude} (h : a.code ≤ b.code) {j k : Nat} (hjk : j ≤ k) :
    (a.scale j).code ≤ (b.scale k).code := by
  refine code_nearest_mono Nat.one_pos Nat.one_pos ?_
  rw [Nat.mul_one, Nat.mul_one]
  exact Nat.mul_le_mul (quanta_le_quanta.2 h) hjk

theorem scale_ne_zero {m : Magnitude} (hm : m ≠ zero) {k : Nat} (hk : 0 < k) : m.scale k ≠ zero := by
  have hle := scale_le_scale (Nat.le_refl m.code) hk
  rw [scale_one] at hle
  intro hzero
  rw [hzero] at hle
  exact hm (eq_of_code (Nat.eq_zero_of_le_zero hle))

/-- **Larger magnitudes have no smaller product.** -/
theorem mul_le_mul {a b a' b' : Magnitude} (ha : a.code ≤ a'.code) (hb : b.code ≤ b'.code) :
    (a.mul b).code ≤ (a'.mul b').code := by
  by_cases hfinite : a'.isFinite = true ∧ b'.isFinite = true
  · obtain ⟨ha', hb'⟩ := hfinite
    rw [mul, mul, ha', hb', isFinite_of_code_le ha ha', isFinite_of_code_le hb hb', Bool.and_self,
      if_pos rfl, if_pos rfl]
    refine code_nearest_mono quantaPerUnit_pos quantaPerUnit_pos (Nat.mul_le_mul_right _ ?_)
    exact Nat.mul_le_mul (quanta_le_quanta.2 ha) (quanta_le_quanta.2 hb)
  · have hinfinite : a'.mul b' = infinity := if_neg (by rwa [Bool.and_eq_true])
    rw [hinfinite]
    exact (a.mul b).code_le

/-- a factor from one on makes nothing smaller -/
theorem le_mul (a : Magnitude) {b : Magnitude} (h : (ofNat 1).code ≤ b.code) : a.code ≤ (a.mul b).code := by
  have hone : a.mul (ofNat 1) = a := by
    by_cases ha : a.isFinite = true
    · rw [mul_ofNat ha (by decide), scale_one]
    · rw [mul, Bool.eq_false_iff.2 ha, Bool.false_and, if_neg Bool.false_ne_true]
      exact (not_not.1 fun hne => ha (isFinite_iff.2 hne)).symm
  have hmono := mul_le_mul (Nat.le_refl a.code) h
  rwa [hone] at hmono

end Magnitude

namespace Binary64

/-! ## Steps -/

theorem ofInt_natCast (n : Nat) : ofInt n = signed false (.ofNat n) := by
  rw [ofInt, Int.natAbs_natCast, decide_eq_false (by omega)]

/-- a number from zero on stands where its magnitude does, and so do its products with whole numbers -/
theorem exists_rank?_mul {x : Binary64} (h : (0 : Binary64).atMost x = true) :
    ∃ m : Magnitude, x.rank? = some (m.code : Int) ∧
      ∀ k, 0 < k → k < 2 ^ 53 → (x * signed false (.ofNat k)).rank? = some ((m.scale k).code : Int) := by
  obtain ⟨hx, hnumber⟩ := zero_atMost_iff.1 h
  cases hx with
  | nan => exact absurd rfl hnumber
  | positive m => exact ⟨m, rfl, fun k hk hbits => by rw [mul_ofNat false m hk hbits]; rfl⟩
  | negativeZero =>
    refine ⟨.zero, rfl, fun k hk hbits => ?_⟩
    have hzero : Magnitude.zero.scale k = .zero := by
      rw [Magnitude.scale, show Magnitude.zero.quanta = 0 by decide, Nat.zero_mul, Magnitude.nearest_zero Nat.one_pos]
    rw [mul_ofNat true .zero hk hbits, hzero]
    rfl

/-- above zero there is a product, whatever overflows -/
theorem signed_mul_of_ne_zero {a b : Magnitude} (ha : a ≠ .zero) (hb : b ≠ .zero) :
    signed false a * signed false b = signed false (a.mul b) := by
  rw [signed_mul_signed, if_neg (by simp [ha, hb])]
  rfl

theorem zero_atMost_mul_ofNat {x : Binary64} (h : (0 : Binary64).atMost x = true) {k : Nat} (hk : 0 < k)
    (hbits : k < 2 ^ 53) : (0 : Binary64).atMost (x * signed false (.ofNat k)) = true := by
  obtain ⟨hx, hnan⟩ := zero_atMost_iff.1 h
  exact zero_atMost_iff.2 ⟨hx.mul (.positive _), mul_ofNat_ne_nan hnan hk hbits⟩

/-- **Multiplying keeps order**, and a larger factor gives no smaller product. -/
theorem atMost_mul_ofNat {x y : Binary64} (hx : (0 : Binary64).atMost x = true) (hxy : x.atMost y = true) {j k : Nat}
    (hj : 0 < j) (hjk : j ≤ k) (hk : k < 2 ^ 53) :
    (x * signed false (.ofNat j)).atMost (y * signed false (.ofNat k)) = true := by
  obtain ⟨m, hm, hmul⟩ := exists_rank?_mul hx
  obtain ⟨m', hm', hmul'⟩ := exists_rank?_mul (atMost_trans hx hxy)
  obtain ⟨a, b, ha, hb, hab⟩ := atMost_iff.1 hxy
  have hcode : m.code ≤ m'.code := by
    rw [hm, Option.some.injEq] at ha
    rw [hm', Option.some.injEq] at hb
    omega
  refine atMost_iff.2 ⟨_, _, hmul j hj (by omega), hmul' k (by omega) hk, ?_⟩
  exact Int.ofNat_le.2 (Magnitude.scale_le_scale hcode hjk)

/-! ## Runs -/

/-- a number multiplied by whole numbers, one after the other -/
def product (x : Binary64) (factors : List Nat) : Binary64 := factors.foldl (fun r k => r * signed false (.ofNat k)) x

@[simp] theorem product_nil (x : Binary64) : x.product [] = x := rfl

@[simp] theorem product_cons (x : Binary64) (k : Nat) (factors : List Nat) :
    x.product (k :: factors) = (x * signed false (.ofNat k)).product factors := rfl

/-- products with whole numbers stay numbers, and above zero -/
theorem zero_atMost_product {x : Binary64} (h : (0 : Binary64).atMost x = true) {factors : List Nat}
    (hfactors : ∀ k ∈ factors, 0 < k ∧ k < 2 ^ 53) : (0 : Binary64).atMost (x.product factors) = true := by
  induction factors generalizing x with
  | nil => exact h
  | cons k factors ih =>
    obtain ⟨hk, hbits⟩ := hfactors k List.mem_cons_self
    exact ih (zero_atMost_mul_ofNat h hk hbits) fun j hj => hfactors j (List.mem_cons_of_mem k hj)

/-- factors of one change nothing -/
theorem product_of_ones (x : Binary64) {factors : List Nat} (h : ∀ k ∈ factors, k = 1) : x.product factors = x := by
  induction factors generalizing x with
  | nil => rfl
  | cons k factors ih =>
    have hone : x * signed false (.ofNat k) = x := by
      rw [h k List.mem_cons_self]
      exact Binary64.mul_one x
    rw [product_cons, hone, ih x fun j hj => h j (List.mem_cons_of_mem k hj)]

/-- **Larger factors give no smaller product**, whatever is lost by rounding on the way. -/
theorem atMost_product {α : Type} {f g : α → Nat} {l : List α} (hf : ∀ a ∈ l, 0 < f a) (hfg : ∀ a ∈ l, f a ≤ g a)
    (hg : ∀ a ∈ l, g a < 2 ^ 53) {x y : Binary64} (hx : (0 : Binary64).atMost x = true) (hxy : x.atMost y = true) :
    (x.product (l.map f)).atMost (y.product (l.map g)) = true := by
  induction l generalizing x y with
  | nil => exact hxy
  | cons a l ih =>
    have hpos := hf a List.mem_cons_self
    have hle := hfg a List.mem_cons_self
    have hbits := hg a List.mem_cons_self
    have hstep := zero_atMost_mul_ofNat hx hpos (hle.trans_lt hbits)
    rw [List.map_cons, List.map_cons, product_cons, product_cons]
    exact ih (fun b hb => hf b (List.mem_cons_of_mem a hb)) (fun b hb => hfg b (List.mem_cons_of_mem a hb))
      (fun b hb => hg b (List.mem_cons_of_mem a hb)) hstep (atMost_mul_ofNat hx hxy hpos hle hbits)

end Binary64

end AccessibleWalk
