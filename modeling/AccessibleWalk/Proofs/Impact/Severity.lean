/-
How severe the facts of an edge are altogether: the product of their impact classes. A standard classes six slots,
each up to a worst class of its own, so the product is bounded, whatever is known about the edge and whatever absurd
numbers it holds. From bases that are whole numbers and not too large a walker with a profile therefore pays exactly
the base times the severity: all numbers on the way are whole and below 2^53, and nothing is ever rounded.

- `Pam.number_le_worst`, `Ufr.number_le_worst`: the worst class of every slot.
- `severity_present_le`: the severity of an edge is at most the product of the worst classes.
- `profileReluctance_exact`: the reluctance is the base times the severity, in any order.
-/
import AccessibleWalk.Proofs.Number.Whole
import AccessibleWalk.Proofs.Property.Store
import AccessibleWalk.Reluctance.Engine

namespace AccessibleWalk

open Binary64 (signed nan)

/-! ## Severity -/

theorem ImpactClass.number_pos (c : ImpactClass) : 0 < c.number := by cases c <;> decide

namespace ImpactTable

/-- the classes of some facts, multiplied -/
def severity (table : ImpactTable) (facts : List Property) : Nat := (facts.map fun p => (table.classify p).number).prod

variable {table : ImpactTable}

theorem severity_pos (facts : List Property) : 0 < table.severity facts := by
  refine List.prod_pos fun k hk => ?_
  obtain ⟨p, -, rfl⟩ := List.mem_map.1 hk
  exact ImpactClass.number_pos _

/-- **The order of the facts does not matter.** -/
theorem severity_perm {facts facts' : List Property} (h : facts.Perm facts') :
    table.severity facts = table.severity facts' :=
  (h.map _).prod_eq

/-- **The worst classes bound the severity**, as a slot holds one fact at most. -/
theorem severity_present_le {worst : Slot → ImpactClass}
    (h : ∀ (s : Slot) (v : s.Payload), (table.classOf s v).number ≤ (worst s).number) (sheet : Sheet) :
    table.severity sheet.present ≤ (Slot.all.map fun s => (worst s).number).prod := by
  have hfacts : ∀ p ∈ sheet.present, (table.classify p).number ≤ (worst p.slot).number := fun p _ => h p.slot p.payload
  have hslots : ((sheet.present.map Property.slot).map fun s => (worst s).number).Sublist
      (Slot.all.map fun s => (worst s).number) := sheet.slots_sublist.map _
  calc table.severity sheet.present ≤ (sheet.present.map fun p => (worst p.slot).number).prod :=
        List.prod_le_prod' hfacts
    _ = ((sheet.present.map Property.slot).map fun s => (worst s).number).prod := by rw [List.map_map]; rfl
    _ ≤ (Slot.all.map fun s => (worst s).number).prod := by
        refine hslots.prod_le_prod' fun k hk => ?_
        obtain ⟨s, -, rfl⟩ := List.mem_map.1 hk
        exact (worst s).number_pos

/-- a run over facts multiplies by their classes -/
theorem weighted_eq_product (base : Binary64) (facts : List Property) :
    table.weighted base facts = base.product (facts.map fun p => (table.classify p).number) := by
  rw [weighted, Binary64.product, List.foldl_map]
  refine List.foldl_ext _ _ _ fun r p _ => ?_
  rw [ImpactClass.factor, Binary64.ofInt_natCast]

/-- **Whole numbers are multiplied exactly** while the product stays below 2^53. -/
theorem weighted_ofNat (negative : Bool) {n : Nat} {facts : List Property} (h : n * table.severity facts < 2 ^ 53) :
    table.weighted (signed negative (.ofNat n)) facts = signed negative (.ofNat (n * table.severity facts)) := by
  rw [weighted_eq_product]
  refine Binary64.product_ofNat negative (fun k hk => ?_) h
  obtain ⟨p, -, rfl⟩ := List.mem_map.1 hk
  generalize table.classify p = c
  cases c <;> decide

end ImpactTable

/-! ## Reduced mobility -/

namespace Pam

/-- the worst class of every slot -/
def worst : Slot → ImpactClass
  | .width | .ressautMax => .moderate
  | .surface | .smoothness => .severe
  | .highway => .low
  | .incline => .high
  | _ => .noImpact

/-- **No fact is classed worse**, be it a number, infinite or none at all. -/
theorem number_le_worst (s : Slot) (v : s.Payload) : (table.classOf s v).number ≤ (worst s).number := by
  cases s with
  | width =>
    show (width v).number ≤ 3
    unfold width
    split_ifs <;> decide
  | surface => cases v <;> decide
  | smoothness => cases v <;> decide
  | highway => cases v <;> decide
  | incline => cases v with
    | direction d => exact (worst .incline).number_pos
    | percent p =>
      show (incline (.percent p)).number ≤ 4
      unfold incline
      dsimp only
      split_ifs <;> decide
  | ressautMax =>
    show (ressautMax v).number ≤ 3
    unfold ressautMax
    split_ifs <;> decide
  | _ => exact le_rfl

theorem severity_le (sheet : Sheet) : table.severity sheet.present ≤ 1800 :=
  ImpactTable.severity_present_le number_le_worst sheet

end Pam

/-! ## Wheelchair -/

namespace Ufr

/-- the worst class of every slot -/
def worst : Slot → ImpactClass
  | .width | .surface | .smoothness | .highway | .incline | .ressautMax => .severe
  | _ => .noImpact

theorem number_le_worst (s : Slot) (v : s.Payload) : (table.classOf s v).number ≤ (worst s).number := by
  have hsevere (c : ImpactClass) : c.number ≤ ImpactClass.severe.number := by cases c <;> decide
  cases s with
  | width | surface | smoothness | highway | incline | ressautMax => exact hsevere _
  | _ => exact le_rfl

theorem severity_le (sheet : Sheet) : table.severity sheet.present ≤ 15625 :=
  ImpactTable.severity_present_le number_le_worst sheet

end Ufr

/-! ## Walkers with a profile -/

/-- no edge is so severe that a base of 2^39 would leave the whole numbers -/
theorem ImpactTables.severity_le {profile : Profile} {table : ImpactTable}
    (h : standard.table? profile = some table) (sheet : Sheet) : table.severity sheet.present ≤ 15625 := by
  cases profile with
  | none => cases h
  | pam =>
    obtain rfl := Option.some.inj h
    exact (Pam.severity_le sheet).trans (by decide)
  | ufr =>
    obtain rfl := Option.some.inj h
    exact Ufr.severity_le sheet

/-- **Profiles multiply exactly, in any order.** For a base that stands for a whole number of at most 2^39, both
profiles and every edge, whatever its facts hold: the reluctance stands for the base times the classes of the facts,
and it comes out the same, zeros with their signs included, in whatever order the facts are multiplied. It lies
between the base and 1800 times the base for people of reduced mobility, and between the base and 15625 times the base
for wheelchair users. -/
theorem profileReluctance_exact {base : Binary64} {n : Nat} (hbase : base.value? = some (n : ℚ)) (hn : n ≤ 2 ^ 39)
    (sheet : Sheet) :
    (∀ (profile : Profile) (table : ImpactTable), ImpactTables.standard.table? profile = some table →
      (profileReluctance base table sheet).value? = some ((n * table.severity sheet.present : Nat) : ℚ) ∧
      ∀ facts : List Property, facts.Perm sheet.present →
        table.weighted base facts = profileReluctance base table sheet) ∧
    (n ≤ n * Pam.table.severity sheet.present ∧ n * Pam.table.severity sheet.present ≤ 1800 * n) ∧
    (n ≤ n * Ufr.table.severity sheet.present ∧ n * Ufr.table.severity sheet.present ≤ 15625 * n) := by
  obtain ⟨negative, rfl, hsign⟩ := (Binary64.value?_eq_natCast_iff (hn.trans_lt (by decide))).1 hbase
  have hlow (table : ImpactTable) : n ≤ n * table.severity sheet.present :=
    Nat.le_mul_of_pos_right n (ImpactTable.severity_pos sheet.present)
  have hhigh {table : ImpactTable} {bound : Nat} (h : table.severity sheet.present ≤ bound) :
      n * table.severity sheet.present ≤ bound * n := by
    rw [Nat.mul_comm]
    exact Nat.mul_le_mul_right n h
  refine ⟨fun profile table htable => ?_, ⟨hlow _, hhigh (Pam.severity_le sheet)⟩, hlow _,
    hhigh (Ufr.severity_le sheet)⟩
  have hrange : n * table.severity sheet.present < 2 ^ 53 := by
    have := hhigh (ImpactTables.severity_le htable sheet)
    omega
  have hexact {facts : List Property} (h : facts.Perm sheet.present) :
      table.weighted (signed negative (.ofNat n)) facts =
        signed negative (.ofNat (n * table.severity sheet.present)) := by
    rw [← ImpactTable.severity_perm h] at hrange ⊢
    exact ImpactTable.weighted_ofNat negative hrange
  have hvalue : profileReluctance (signed negative (.ofNat n)) table sheet =
      signed negative (.ofNat (n * table.severity sheet.present)) := hexact (List.Perm.refl _)
  rw [hvalue]
  refine ⟨?_, fun facts h => hexact h⟩
  exact (Binary64.value?_eq_natCast_iff hrange).2 ⟨negative, rfl, fun h => by rw [hsign h, Nat.zero_mul]⟩

/-- a path that is bad in every respect, its width, slope and curbs no numbers at all -/
def hopeless : Sheet :=
  (((((Sheet.empty.put .width (some nan)).put .surface (some Surface.rock)).put .smoothness
    (some Smoothness.impassable)).put .highway (some Highway.steps)).put .incline (some (.percent nan))).put .ressautMax
    (some nan)

/-- the largest base on this path by both standards, forwards and backwards, and a negative zero. The path is the
worst there is for people of reduced mobility; wheelchair users are spared the width, as no number is no narrow one.
-/
theorem profileReluctance_hopeless :
    (signed false (.ofNat (2 ^ 39))).value? = some ((2 ^ 39 : Nat) : ℚ) ∧
      Pam.table.severity hopeless.present = 1800 ∧ Ufr.table.severity hopeless.present = 3125 ∧
      (profileReluctance (signed false (.ofNat (2 ^ 39))) Pam.table hopeless).value? =
        some ((2 ^ 39 * 1800 : Nat) : ℚ) ∧
      (profileReluctance (signed false (.ofNat (2 ^ 39))) Ufr.table hopeless).value? =
        some ((2 ^ 39 * 3125 : Nat) : ℚ) ∧
      Pam.table.weighted (signed false (.ofNat (2 ^ 39))) hopeless.present.reverse =
        profileReluctance (signed false (.ofNat (2 ^ 39))) Pam.table hopeless ∧
      Ufr.table.weighted (signed false (.ofNat (2 ^ 39))) hopeless.present.reverse =
        profileReluctance (signed false (.ofNat (2 ^ 39))) Ufr.table hopeless ∧
      (profileReluctance (signed true (.ofNat 0)) Pam.table hopeless).value? = some ((0 * 1800 : Nat) : ℚ) := by
  have hbase : (signed false (.ofNat (2 ^ 39))).value? = some ((2 ^ 39 : Nat) : ℚ) :=
    (Binary64.value?_eq_natCast_iff (by decide)).2 ⟨false, rfl, nofun⟩
  have hzero : (signed true (.ofNat 0)).value? = some ((0 : Nat) : ℚ) :=
    (Binary64.value?_eq_natCast_iff (by decide)).2 ⟨true, rfl, fun _ => rfl⟩
  have hpam : Pam.table.severity hopeless.present = 1800 := by decide +kernel
  have hufr : Ufr.table.severity hopeless.present = 3125 := by decide +kernel
  obtain ⟨hpam_exact, hpam_order⟩ := (profileReluctance_exact hbase le_rfl hopeless).1 .pam Pam.table rfl
  obtain ⟨hufr_exact, hufr_order⟩ := (profileReluctance_exact hbase le_rfl hopeless).1 .ufr Ufr.table rfl
  obtain ⟨hnone, -⟩ := (profileReluctance_exact hzero (by decide) hopeless).1 .pam Pam.table rfl
  rw [hpam] at hpam_exact hnone
  rw [hufr] at hufr_exact
  exact ⟨hbase, hpam, hufr, hpam_exact, hufr_exact, hpam_order _ (List.reverse_perm _),
    hufr_order _ (List.reverse_perm _), hnone⟩

end AccessibleWalk
