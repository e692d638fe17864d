/-
What the reluctance of a walker depends on. The two ways to score an edge do not leak into each other: a profile
silences every threshold and every fact that the standards do not class, and without a profile the tables of the
profiles and the two facts that no threshold is about have no say.

- `foldl_present_congr`: two runs over the facts of two edges agree if they do slot by slot.
- `profileReluctance_congr`, `thresholdReluctance_congr`: what either way reads.
- `edgeReluctance_noninterference`: both together.

An empty slot and a fact without impact come to the same only because multiplying by one is exact, so the runs are
compared over all slots and not over the facts that happen to be known.
-/
import AccessibleWalk.Proofs.Number.Scaling
import AccessibleWalk.Reluctance.Engine

namespace AccessibleWalk

/-! ## Runs over facts -/

namespace Sheet

variable {α : Type}

/-- what a run over the facts does at one slot -/
def stepAt (sheet : Sheet) (step : α → Property → α) (r : α) (s : Slot) : α :=
  match sheet.property? s with
  | some p => step r p
  | none => r

/-- a run over the facts is a run over all slots -/
theorem foldl_present (sheet : Sheet) (step : α → Property → α) (r : α) :
    sheet.present.foldl step r = Slot.all.foldl (sheet.stepAt step) r := by
  unfold present
  rw [List.foldl_filterMap]
  refine List.foldl_ext _ _ _ fun r s _ => ?_
  unfold stepAt
  cases sheet.property? s <;> rfl

/-- **Two runs agree** if they do the same at every slot. -/
theorem foldl_present_congr {a b : Sheet} {step next : α → Property → α}
    (h : ∀ s r, a.stepAt step r s = b.stepAt next r s) (r : α) : a.present.foldl step r = b.present.foldl next r := by
  rw [foldl_present, foldl_present]
  exact List.foldl_ext _ _ _ fun r s _ => h s r

/-- at a slot with equal content the same steps do the same -/
theorem stepAt_congr {a b : Sheet} {s : Slot} (h : a.get s = b.get s) (step : α → Property → α) (r : α) :
    a.stepAt step r s = b.stepAt step r s := by
  rw [stepAt, stepAt, property?, property?, h]

/-- a slot whose facts change nothing counts for nothing -/
theorem stepAt_neutral (sheet : Sheet) {s : Slot} {step : α → Property → α} {r : α} (h : ∀ v, step r ⟨s, v⟩ = r) :
    sheet.stepAt step r s = r := by
  rw [stepAt, property?]
  cases sheet.get s with
  | none => rfl
  | some v => exact h v

end Sheet

/-! ## Profiles -/

/-- the slots that the standards class -/
def ImpactTables.classed : List Slot := [.width, .surface, .smoothness, .highway, .incline, .ressautMax]

/-- **The other facts have no impact**, whatever the profile. -/
theorem ImpactTables.classify_eq_noImpact {profile : Profile} {table : ImpactTable}
    (h : standard.table? profile = some table) {s : Slot} (hs : s ∉ classed) (v : s.Payload) :
    table.classify ⟨s, v⟩ = .noImpact := by
  cases profile with
  | none => cases h
  | pam | ufr =>
    obtain rfl := Option.some.inj h
    cases s <;> first | rfl | exact absurd (by decide) hs

/-- without a profile there is no table -/
theorem ImpactTables.table?_eq_none (tables : ImpactTables) {profile : Profile} (h : profile = .none) :
    tables.table? profile = none := by
  rw [h]
  rfl

theorem ImpactClass.mul_factor_noImpact (x : Binary64) : x * noImpact.factor = x := Binary64.mul_one x

/-- **A profile reads the slots that it classes**, and no others. -/
theorem profileReluctance_congr {profile : Profile} {table : ImpactTable}
    (h : ImpactTables.standard.table? profile = some table) {a b : Sheet}
    (hab : ∀ s ∈ ImpactTables.classed, a.get s = b.get s) (base : Binary64) :
    profileReluctance base table a = profileReluctance base table b := by
  refine Sheet.foldl_present_congr (fun s r => ?_) base
  by_cases hs : s ∈ ImpactTables.classed
  · exact Sheet.stepAt_congr (hab s hs) _ r
  · have neutral (v : s.Payload) : r * (table.classify ⟨s, v⟩).factor = r := by
      rw [ImpactTables.classify_eq_noImpact h hs v, ImpactClass.mul_factor_noImpact]
    rw [Sheet.stepAt_neutral a neutral, Sheet.stepAt_neutral b neutral]

/-! ## Thresholds -/

/-- doubling for every breach, fact by fact -/
theorem WalkPreferences.doubled_eq_foldl (walk : WalkPreferences) (base : Binary64) (facts : List Property) :
    walk.doubled base facts = facts.foldl (fun r p => if walk.breachedBy p then r * 2 else r) base :=
  List.foldl_filter

/-- **Thresholds read all slots** but footways and cross slopes. -/
theorem thresholdReluctance_congr (walk : WalkPreferences) {a b : Sheet}
    (hab : ∀ s, s ≠ .footway → s ≠ .travHTrt → a.get s = b.get s) (base : Binary64) :
    thresholdReluctance base walk a = thresholdReluctance base walk b := by
  unfold thresholdReluctance
  rw [walk.doubled_eq_foldl, walk.doubled_eq_foldl]
  refine Sheet.foldl_present_congr (fun s r => ?_) base
  by_cases hs : s = .footway ∨ s = .travHTrt
  · have neutral (v : s.Payload) : (if walk.breachedBy ⟨s, v⟩ then r * 2 else r) = r := by
      rcases hs with rfl | rfl <;> rfl
    rw [Sheet.stepAt_neutral a neutral, Sheet.stepAt_neutral b neutral]
  · rw [not_or] at hs
    exact Sheet.stepAt_congr (hab s hs.1 hs.2) _ r

/-! ## Edges -/

namespace WalkPreferences

/-- **Neither way to score an edge leaks into the other.** With a profile two walkers of the same reluctance find two
edges equally hard if these agree in what the profile classes, whatever their thresholds. Without a profile a walker
finds two edges equally hard if they agree in all but footways and cross slopes, whatever the tables. -/
theorem edgeReluctance_noninterference :
    (∀ (p q : WalkPreferences) (a b : Sheet), p.get .accessibilityProfile ≠ Profile.none →
      q.get .accessibilityProfile = p.get .accessibilityProfile → p.get .reluctance = q.get .reluctance →
      (∀ s ∈ [Slot.width, .surface, .smoothness, .highway, .incline, .ressautMax], a.get s = b.get s) →
      p.edgeReluctance .standard a = q.edgeReluctance .standard b) ∧
    (∀ (p : WalkPreferences) (tables other : ImpactTables) (a b : Sheet), p.get .accessibilityProfile = Profile.none →
      (∀ s, s ≠ Slot.footway → s ≠ Slot.travHTrt → a.get s = b.get s) →
      p.edgeReluctance tables a = p.edgeReluctance other b) := by
  constructor
  · intro p q a b hprofile hsame hbase hab
    obtain ⟨table, htable⟩ : ∃ table, ImpactTables.standard.table? (p.get .accessibilityProfile) = some table := by
      cases hp : p.get .accessibilityProfile with
      | none => exact absurd hp hprofile
      | pam => exact ⟨_, rfl⟩
      | ufr => exact ⟨_, rfl⟩
    unfold edgeReluctance
    rw [hsame, htable, hbase]
    exact profileReluctance_congr htable hab _
  · intro p tables other a b hprofile hab
    have silent (t : ImpactTables) : t.table? (p.get .accessibilityProfile) = Option.none := by rw [hprofile]; rfl
    unfold edgeReluctance
    rw [silent tables, silent other]
    exact thresholdReluctance_congr p hab _

/-- a wheelchair user who asks for light, and one who does not; a narrow path, lit or not, with a footway or without -/
theorem edgeReluctance_narrow :
    ((default.put .accessibilityProfile Profile.ufr).put .lightRequired true).edgeReluctance .standard
        ((Sheet.empty.put .width (some (0.85 : Binary64))).put .lit (some false)) =
      (default.put .accessibilityProfile Profile.ufr).edgeReluctance .standard
        (Sheet.empty.put .width (some (0.85 : Binary64))) ∧
    (default.put .lightRequired true).edgeReluctance .standard
        ((Sheet.empty.put .lit (some false)).put .footway (some Footway.sidewalk)) =
      (default.put .lightRequired true).edgeReluctance ⟨⟨fun _ _ => .severe⟩, ⟨fun _ _ => .low⟩⟩
        (Sheet.empty.put .lit (some false)) := by
  constructor
  · refine edgeReluctance_noninterference.1 _ _ _ _ (by decide) rfl rfl fun s hs => Sheet.get_put_of_ne ?_ _ _
    rintro rfl
    exact absurd hs (by decide)
  · exact edgeReluctance_noninterference.2 _ _ _ _ _ rfl fun s hs _ => Sheet.get_put_of_ne (Ne.symm hs) _ _

end WalkPreferences

end AccessibleWalk
