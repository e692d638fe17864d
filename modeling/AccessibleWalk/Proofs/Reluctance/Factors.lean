/-
The reluctance of a walker as a product. By thresholds and by profile alike, every slot of an edge contributes one small
whole factor, an empty slot the factor one, and the base is multiplied by them in slot order. So what is known about an
edge in addition can only make it harder to use.

- `edgeReluctance_eq_product`: both ways to score an edge as one product.
- `edgeReluctance_le_of_factors`: larger factors give no smaller reluctance.
- `factorAt_le_of_within`: filling slots does not lower a factor.
- `edgeReluctance_grows`: more known facts give no smaller reluctance.
-/
import AccessibleWalk.Proofs.Number.Product
import AccessibleWalk.Proofs.Reluctance.Interference
import AccessibleWalk.Proofs.Walk.Ranges
import AccessibleWalk.Proofs.Walk.Rebuild

namespace AccessibleWalk

open Binary64 (signed nan)

/-! ## Factors -/

namespace WalkPreferences

/-- by how much a fact multiplies the reluctance of a walker: by the class that the profile gives it, or by two if it
breaches a threshold -/
def factor (walk : WalkPreferences) (tables : ImpactTables) (p : Property) : Nat :=
  match tables.table? (walk.get .accessibilityProfile) with
  | some table => (table.classify p).number
  | none => if walk.breachedBy p then 2 else 1

/-- what a slot of an edge contributes; an empty one contributes nothing -/
def factorAt (walk : WalkPreferences) (tables : ImpactTables) (sheet : Sheet) (s : Slot) : Nat :=
  match sheet.property? s with
  | some p => walk.factor tables p
  | none => 1

variable (walk : WalkPreferences) (tables : ImpactTables)

theorem factor_bounds (p : Property) : 0 < walk.factor tables p ∧ walk.factor tables p < 2 ^ 53 := by
  have hclass (c : ImpactClass) : 0 < c.number ∧ c.number < 2 ^ 53 := by cases c <;> decide
  unfold factor
  split
  · exact hclass _
  · split <;> decide

theorem factorAt_bounds (sheet : Sheet) (s : Slot) :
    0 < walk.factorAt tables sheet s ∧ walk.factorAt tables sheet s < 2 ^ 53 := by
  unfold factorAt
  split
  · exact walk.factor_bounds tables _
  · decide

theorem factorAt_of_empty {sheet : Sheet} {s : Slot} (h : sheet.get s = none) : walk.factorAt tables sheet s = 1 := by
  rw [factorAt, Sheet.property?, h]
  rfl

/-- a run that multiplies by a whole number for every fact is a product over the slots -/
theorem foldl_present_eq_product {sheet : Sheet} {step : Binary64 → Property → Binary64}
    (h : ∀ r p, step r p = r * signed false (.ofNat (walk.factor tables p))) (base : Binary64) :
    sheet.present.foldl step base = base.product (Slot.all.map (walk.factorAt tables sheet)) := by
  rw [Sheet.foldl_present, Binary64.product, List.foldl_map]
  refine List.foldl_ext _ _ _ fun r s _ => ?_
  unfold Sheet.stepAt factorAt
  cases sheet.property? s with
  | some p => exact h r p
  | none => exact (Binary64.mul_one r).symm

/-- **The reluctance of a walker is a product** of the base and one factor for every slot. -/
theorem edgeReluctance_eq_product (sheet : Sheet) :
    walk.edgeReluctance tables sheet = (walk.get .reluctance).product (Slot.all.map (walk.factorAt tables sheet)) := by
  unfold edgeReluctance
  cases htable : tables.table? (walk.get .accessibilityProfile) with
  | some table =>
    refine walk.foldl_present_eq_product tables (fun r p => ?_) _
    rw [factor, htable, ImpactClass.factor, Binary64.ofInt_natCast]
  | none =>
    show walk.doubled _ _ = _
    rw [doubled_eq_foldl]
    refine walk.foldl_present_eq_product tables (fun r p => ?_) _
    rw [factor, htable]
    dsimp only
    split
    · rfl
    · exact (Binary64.mul_one r).symm

/-- **Walking costs nothing below zero**, by thresholds and by profile, if the base does not. -/
theorem zero_atMost_edgeReluctance {walk : WalkPreferences}
    (h : (0 : Binary64).atMost (walk.get .reluctance) = true) (tables : ImpactTables) (sheet : Sheet) :
    (0 : Binary64).atMost (walk.edgeReluctance tables sheet) = true := by
  rw [edgeReluctance_eq_product]
  refine Binary64.zero_atMost_product h fun k hk => ?_
  obtain ⟨s, -, rfl⟩ := List.mem_map.1 hk
  exact walk.factorAt_bounds tables sheet s

variable {p q : WalkPreferences} {tables : ImpactTables} {a b : Sheet}

/-- slots that are both empty, or both filled with facts of which the second has no smaller factor -/
theorem factorAt_le_of_rel {s : Slot}
    (h : Option.Rel (fun v w => p.factor tables ⟨s, v⟩ ≤ q.factor tables ⟨s, w⟩) (a.get s) (b.get s)) :
    p.factorAt tables a s ≤ q.factorAt tables b s := by
  unfold factorAt Sheet.property?
  generalize a.get s = first, b.get s = second at h
  cases h with
  | none => exact le_rfl
  | some hvw => exact hvw

/-- **Larger factors give no smaller reluctance**, for walkers and edges alike. -/
theorem edgeReluctance_le_of_factors (hfactors : ∀ s, p.factorAt tables a s ≤ q.factorAt tables b s)
    (hzero : (0 : Binary64).atMost (p.get .reluctance) = true)
    (hbase : Binary64.atMost (p.get .reluctance) (q.get .reluctance) = true) :
    (p.edgeReluctance tables a).atMost (q.edgeReluctance tables b) = true := by
  rw [edgeReluctance_eq_product, edgeReluctance_eq_product]
  refine Binary64.atMost_product ?_ ?_ ?_ hzero hbase
  · exact fun s _ => (p.factorAt_bounds tables a s).1
  · exact fun s _ => hfactors s
  · exact fun s _ => (q.factorAt_bounds tables b s).2

end WalkPreferences

/-! ## More facts -/

/-- every fact of the first edge is one of the second -/
def Sheet.Within (a b : Sheet) : Prop := ∀ (s : Slot) (v : s.Payload), a.get s = some v → b.get s = some v

theorem Sheet.within_of_empty {a : Sheet} (h : ∀ s, a.get s = none) (b : Sheet) : a.Within b := by
  intro s v hv
  rw [h s] at hv
  cases hv

namespace WalkPreferences

variable {walk : WalkPreferences} {tables : ImpactTables} {a b : Sheet}

/-- **Filling a slot does not lower its factor**, and a filled slot keeps its own. -/
theorem factorAt_le_of_within (h : a.Within b) (s : Slot) : walk.factorAt tables a s ≤ walk.factorAt tables b s := by
  cases ha : a.get s with
  | none =>
    rw [factorAt_of_empty walk tables ha]
    exact (walk.factorAt_bounds tables b s).1
  | some v => rw [factorAt, factorAt, Sheet.property?, Sheet.property?, ha, h s v ha]

theorem edgeReluctance_of_empty (h : ∀ s, a.get s = none) : walk.edgeReluctance tables a = walk.get .reluctance := by
  rw [edgeReluctance_eq_product]
  refine Binary64.product_of_ones _ fun k hk => ?_
  obtain ⟨s, -, rfl⟩ := List.mem_map.1 hk
  exact factorAt_of_empty walk tables (h s)

theorem edgeReluctance_le_of_within (hbase : (0 : Binary64).atMost (walk.get .reluctance) = true) (h : a.Within b) :
    (walk.edgeReluctance tables a).atMost (walk.edgeReluctance tables b) = true := by
  have hself : Binary64.atMost (walk.get .reluctance) (walk.get .reluctance) = true :=
    Binary64.atMost_refl (Binary64.zero_atMost_iff.1 hbase).2
  exact edgeReluctance_le_of_factors (factorAt_le_of_within h) hbase hself

end WalkPreferences

namespace SharedPreferences

/-- what comes out of a builder has a reluctance that is not below zero, unless it is no number -/
theorem Reachable.zero_atMost_reluctance {p : SharedPreferences} (hp : p.Reachable)
    (hnumber : p.value.get .reluctance ≠ nan) : (0 : Binary64).atMost (p.value.get .reluctance) = true := by
  obtain ⟨v, hv⟩ := hp.isNormal .reluctance
  refine Binary64.zero_atMost_iff.2 ⟨?_, hnumber⟩
  rw [hv]
  exact Units.notNegative_reluctance v

/-- **More known barriers never make an edge cheaper.** For preferences that come out of a builder and have a number
as their reluctance, by thresholds and by every profile: an edge of which more is known has no smaller reluctance,
none is below the base, and without facts the reluctance is the base. -/
theorem edgeReluctance_grows {p : SharedPreferences} (hp : p.Reachable) (hnumber : p.value.get .reluctance ≠ nan)
    (tables : ImpactTables) :
    (0 : Binary64).atMost (p.value.get .reluctance) = true ∧
    (∀ a b : Sheet, (∀ (s : Slot) (v : s.Payload), a.get s = some v → b.get s = some v) →
      (p.value.edgeReluctance tables a).atMost (p.value.edgeReluctance tables b) = true) ∧
    (∀ a : Sheet, Binary64.atMost (p.value.get .reluctance) (p.value.edgeReluctance tables a) = true) ∧
    (∀ a : Sheet, (∀ s, a.get s = none) → p.value.edgeReluctance tables a = p.value.get .reluctance) := by
  have hbase := hp.zero_atMost_reluctance hnumber
  refine ⟨hbase, fun a b hab => ?_, fun a => ?_, fun a ha => ?_⟩
  · exact WalkPreferences.edgeReluctance_le_of_within hbase hab
  · have hempty : p.value.edgeReluctance tables .empty = p.value.get .reluctance :=
      WalkPreferences.edgeReluctance_of_empty fun _ => rfl
    rw [← hempty]
    exact WalkPreferences.edgeReluctance_le_of_within hbase (Sheet.within_of_empty (fun _ => rfl) a)
  · exact WalkPreferences.edgeReluctance_of_empty ha

/-- a wheelchair user with a reluctance that is brought into normal form -/
def keenWheelchair : SharedPreferences :=
  ([Request.field .reluctance (0.1 : Binary64), .field .accessibilityProfile Profile.ufr].foldl WalkBuilder.handle
    .start).build 1

/-- a rough path, and the same path known to be narrow too -/
theorem edgeReluctance_keenWheelchair :
    keenWheelchair.Reachable ∧ keenWheelchair.value.get .reluctance ≠ nan ∧
      (keenWheelchair.value.edgeReluctance .standard (Sheet.empty.put .smoothness (some Smoothness.bad))).atMost
        (keenWheelchair.value.edgeReluctance .standard
          ((Sheet.empty.put .smoothness (some Smoothness.bad)).put .width (some (0.85 : Binary64)))) = true := by
  have hreachable : keenWheelchair.Reachable := .build .default _ 1
  have hnumber : keenWheelchair.value.get .reluctance ≠ nan := by decide +kernel
  refine ⟨hreachable, hnumber, (edgeReluctance_grows hreachable hnumber .standard).2.1 _ _ fun s v hv => ?_⟩
  by_cases hs : Slot.width = s
  · subst hs
    cases hv
  · rw [Sheet.get_put_of_ne hs]
    exact hv

end SharedPreferences

end AccessibleWalk
