/-
Whole numbers among the doubles. Up to 2^53 every whole number is one, and as long as a product of whole numbers stays
below that nothing is rounded on the way, whatever the order of the factors.

- `value?_eq_natCast_iff`: the doubles that stand for a whole number, the negative zero among them.
- `product_ofNat`: a run of steps is exact.
-/
import AccessibleWalk.Proofs.Number.Doubling
import AccessibleWalk.Proofs.Number.Product

namespace AccessibleWalk

namespace Magnitude

theorem eq_ofNat_of_value {m : Magnitude} {n : Nat} (h : m.value = n) : m = ofNat n := by
  have hunit : (quantaPerUnit : ℚ) ≠ 0 := Nat.cast_ne_zero.2 quantaPerUnit_pos.ne'
  rw [value, div_eq_iff hunit, ← Nat.cast_mul, Nat.cast_inj] at h
  rw [ofNat, ← h, nearest_quanta]

end Magnitude

namespace Binary64

/-- **A double stands for a whole number** if it is that number; only of zero there is a negative one. -/
theorem value?_eq_natCast_iff {x : Binary64} {n : Nat} (hn : n < 2 ^ 53) :
    x.value? = some (n : ℚ) ↔ ∃ negative, x = signed negative (.ofNat n) ∧ (negative = true → n = 0) := by
  constructor
  · intro h
    cases x with
    | nan => cases h
    | signed negative m =>
      obtain ⟨-, hvalue⟩ := value?_eq_some_iff.1 h
      cases negative with
      | false => exact ⟨false, by rw [Magnitude.eq_ofNat_of_value hvalue.symm], nofun⟩
      | true =>
        -- what is at most zero and a whole number is zero
        have hpos := m.value_nonneg
        have hneg : (n : ℚ) = -m.value := hvalue
        have hcast : (n : ℚ) = 0 := le_antisymm (by linarith) n.cast_nonneg
        have hzero : n = 0 := Nat.cast_eq_zero.1 hcast
        have hvalue' : m.value = n := by linarith
        exact ⟨true, by rw [Magnitude.eq_ofNat_of_value hvalue'], fun _ => hzero⟩
  · rintro ⟨negative, rfl, hsign⟩
    refine value?_eq_some_iff.2 ⟨Magnitude.isFinite_ofNat hn, ?_⟩
    rw [Magnitude.value_ofNat hn]
    cases negative with
    | false => rfl
    | true => rw [hsign rfl, Nat.cast_zero, neg_zero, ite_self]

/-- **A product of whole numbers is exact** while it stays below 2^53. -/
theorem product_ofNat (negative : Bool) {factors : List Nat} (hfactors : ∀ k ∈ factors, 0 < k ∧ k < 2 ^ 53) {n : Nat}
    (hn : n * factors.prod < 2 ^ 53) :
    (signed negative (.ofNat n)).product factors = signed negative (.ofNat (n * factors.prod)) := by
  induction factors generalizing n with
  | nil => rw [product_nil, List.prod_nil, Nat.mul_one]
  | cons k factors ih =>
    obtain ⟨hk, hbits⟩ := hfactors k List.mem_cons_self
    have hrest : ∀ j ∈ factors, 0 < j ∧ j < 2 ^ 53 := fun j hj => hfactors j (List.mem_cons_of_mem k hj)
    have hpos : 0 < (k :: factors).prod := List.prod_pos fun j hj => (hfactors j hj).1
    have hstart : n < 2 ^ 53 := (Nat.le_mul_of_pos_right n hpos).trans_lt hn
    rw [List.prod_cons, ← Nat.mul_assoc] at hn ⊢
    rw [product_cons, mul_ofNat negative _ hk hbits, Magnitude.scale_ofNat hstart, ih hrest hn]

end Binary64

end AccessibleWalk
