/-
What walkers pay who ask for nothing. Their thresholds are there like all others, and facts are held against them: no
width is below zero and no curb lower than that, as long as the map says nothing absurd. Tags may hold any finite
number, though, and what lies below zero breaches a threshold of zero.

- `Sheet.FromTags`: edges known from tags. Their numbers are finite, so the upper limits are out of reach.
- `breaches_of_defaults`: the thresholds that nobody asked for are breached from below zero, and by nothing else.
- `edgeReluctance_of_defaults`: the base, doubled for a width and for a curb below zero.
-/
import AccessibleWalk.Proofs.Number.Order
import AccessibleWalk.Proofs.Reluctance.Breaches
import AccessibleWalk.Proofs.Reluctance.CacheKey
import AccessibleWalk.Proofs.Reluctance.Interference
import AccessibleWalk.Proofs.Way.Export

namespace AccessibleWalk

/-! ## Edges known from tags -/

/-- facts that come from raw tags: put in slot by slot, or imported from the tags of a way -/
inductive Sheet.FromTags : Sheet → Prop where
  | empty : FromTags .empty
  | tag {sheet sheet' : Sheet} {s : Slot} {raw : String} (h : FromTags sheet) (hput : sheet.putTag s raw = .ok sheet') :
    FromTags sheet'
  | way {tags : WayTags} {lenient : Bool} {sheet : Sheet} (h : tags.sheet lenient = .ok sheet) : FromTags sheet

/-- **Numbers from tags are finite.** -/
theorem Sheet.FromTags.finite {sheet : Sheet} (h : sheet.FromTags) : sheet.Finite := by
  induction h with
  | empty => exact finite_empty
  | tag _ hput ih => exact ih.putTag hput
  | way h => exact finite_foldlM (fun hs hslot => hs.importSlot hslot) finite_empty h

/-! ## Finite numbers -/

namespace Binary64

variable {x : Binary64}

theorem atMost_greatest (hx : x.isFinite = true) : x.atMost greatest = true := by
  cases x with
  | nan => cases hx
  | signed n m =>
    have hcode := Magnitude.isFinite_iff_le_greatest.1 hx
    refine atMost_iff.2 ?_
    cases n with
    | false => exact ⟨_, _, rfl, rfl, Int.ofNat_le.2 hcode⟩
    | true => exact ⟨_, _, rfl, rfl, by omega⟩

theorem isFinite_abs (x : Binary64) : x.abs.isFinite = x.isFinite := by cases x <;> rfl

end Binary64

/-! ## Below zero -/

/-- a width or a lower curb that is less than nothing -/
def Slot.belowZero : (s : Slot) → s.Payload → Bool
  | .width, x | .ressautMin, x => Binary64.less x 0
  | _, _ => false

/-- how many facts of an edge are below zero where nothing can be -/
def Sheet.belowZeroCount (sheet : Sheet) : Nat :=
  [Slot.width, .ressautMin].countP fun s => (sheet.get s).any s.belowZero

/-- no slot but these two counts -/
theorem Sheet.belowZeroCount_eq_countP (sheet : Sheet) :
    sheet.belowZeroCount = Slot.all.countP fun s => (sheet.get s).any s.belowZero := by
  have hnever (s : Slot) (v : s.Payload) (hv : s.belowZero v = true) : (s == .width || s == .ressautMin) = true := by
    cases s with
    | width | ressautMin => rfl
    | _ => cases hv
  have hpair : [Slot.width, .ressautMin] = Slot.all.filter fun s => s == .width || s == .ressautMin := by decide
  rw [belowZeroCount, hpair, List.countP_filter]
  refine List.countP_congr fun s _ => ?_
  rw [Bool.and_eq_true_iff, and_iff_left_iff_imp]
  intro h
  obtain ⟨v, -, hv⟩ := (Option.any_eq_true _ _).1 h
  exact hnever s v hv

theorem Sheet.belowZeroCount_eq_zero {sheet : Sheet}
    (h : ∀ (s : Slot) (v : s.Payload), sheet.get s = some v → s.belowZero v = false) : sheet.belowZeroCount = 0 := by
  refine List.countP_eq_zero.2 fun s _ hany => ?_
  obtain ⟨v, hv, hbelow⟩ := (Option.any_eq_true _ _).1 hany
  rw [h s v hv] at hbelow
  cases hbelow

/-! ## Thresholds that nobody asked for -/

namespace WalkPreferences

theorem breaches_default {s : Slot} {v : s.Payload} (hv : s.content.isFinite v = true) :
    default.breaches s v = s.belowZero v := by
  cases s with
  | width | ressautMin | surface | footway | travHTrt => rfl
  | lit | tactilePaving | bevCtrast | highway => exact Bool.and_false _
  | smoothness | bevEtat => cases v <;> decide
  | incline => cases v with
    | direction => rfl
    | percent p =>
      have hp : p.abs.isFinite = true := (Binary64.isFinite_abs p).trans hv
      exact Binary64.not_less_of_atMost (Binary64.atMost_greatest hp)
  | ressautMax => exact Binary64.not_less_of_atMost (Binary64.atMost_greatest hv)

variable {walk : WalkPreferences} (hdefault : ∀ f ∈ WalkField.thresholds, f.same (walk.get f) f.default = true)
include hdefault

/-- **Default thresholds are breached from below zero**, and by no other finite number and no other fact. -/
theorem breaches_of_defaults {s : Slot} {v : s.Payload} (hv : s.content.isFinite v = true) :
    walk.breaches s v = s.belowZero v := by
  rw [← breaches_default hv]
  exact breaches_congr hdefault s v

theorem breachCount_of_defaults {sheet : Sheet} (hfinite : sheet.Finite) :
    walk.breachCount sheet = sheet.belowZeroCount := by
  rw [Sheet.belowZeroCount_eq_countP, breachCount]
  congr 1
  funext s
  have hfacts := hfinite s
  rw [Sheet.property?, Option.any_map]
  generalize sheet.get s = value at hfacts ⊢
  cases value with
  | none => rfl
  | some v => exact breaches_of_defaults hdefault (hfacts v rfl)

/-- **Walkers who ask for nothing** pay for nothing but what cannot be. For a walker without a profile whose
thresholds are the defaults, and an edge known from tags: a fact breaches a threshold exactly if it is a width or a
lower curb below zero. The reluctance is the base, doubled once for either of the two, and so the base itself if there
is none. -/
theorem edgeReluctance_of_defaults (hprofile : walk.get .accessibilityProfile = Profile.none) {sheet : Sheet}
    (hsheet : sheet.FromTags) (tables : ImpactTables) :
    (∀ (s : Slot) (v : s.Payload), sheet.get s = some v → walk.breaches s v = s.belowZero v) ∧
    walk.edgeReluctance tables sheet = (fun r : Binary64 => r * 2)^[sheet.belowZeroCount] (walk.get .reluctance) ∧
    ((∀ (s : Slot) (v : s.Payload), sheet.get s = some v → s.belowZero v = false) →
      walk.edgeReluctance tables sheet = walk.get .reluctance) := by
  have hfinite := hsheet.finite
  have hcount : walk.edgeReluctance tables sheet =
      (fun r : Binary64 => r * 2)^[sheet.belowZeroCount] (walk.get .reluctance) := by
    rw [edgeReluctance, tables.table?_eq_none hprofile, ← breachCount_of_defaults hdefault hfinite]
    exact thresholdReluctance_eq_iterate walk _ sheet
  refine ⟨fun s v hv => breaches_of_defaults hdefault (hfinite s v hv), hcount, fun hnone => ?_⟩
  rw [hcount, Sheet.belowZeroCount_eq_zero hnone]
  rfl

omit hdefault

/-- a walker in a hurry who asks for nothing; a zero does not get stricter by its sign -/
def hurried : WalkPreferences :=
  (default.put .reluctance (3 : Binary64)).put .minimalWidth (Binary64.signed true .zero)

/-- a narrow path in the worst of states -/
def rut : Sheet := (Sheet.empty.put .width (some (0.1 : Binary64))).put .smoothness (some Smoothness.impassable)

/-- a path without light, its width mistyped -/
def misspelt : Sheet := (Sheet.empty.put .width (some (-1 : Binary64))).put .lit (some false)

theorem fromTags_rut : rut.FromTags := by
  have hwidth : (Tag.parse " 0.1" : Except TagError (Option Binary64)) = .ok (some 0.1) := by decide +kernel
  have hsmoothness : (Tag.parse "impassable" : Except TagError (Option Smoothness)) = .ok (some .impassable) := by
    decide +kernel
  have hfirst := Sheet.FromTags.empty.tag (Sheet.putTag_of_parse (s := .width) hwidth .empty)
  exact hfirst.tag (Sheet.putTag_of_parse (s := .smoothness) hsmoothness _)

theorem fromTags_misspelt : misspelt.FromTags := by
  have hwidth : (Tag.parse "-1" : Except TagError (Option Binary64)) = .ok (some (-1)) := by decide +kernel
  have hlit : (Tag.parse "no" : Except TagError (Option Bool)) = .ok (some false) := by decide +kernel
  have hfirst := Sheet.FromTags.empty.tag (Sheet.putTag_of_parse (s := .width) hwidth .empty)
  exact hfirst.tag (Sheet.putTag_of_parse (s := .lit) hlit _)

/-- the rut costs the walker the base, the mistyped width twice of it -/
theorem edgeReluctance_hurried :
    (∀ f ∈ WalkField.thresholds, f.same (hurried.get f) f.default = true) ∧
      hurried.get .accessibilityProfile = Profile.none ∧ rut.FromTags ∧ misspelt.FromTags ∧
      hurried.edgeReluctance .standard rut = 3 ∧ hurried.edgeReluctance .standard misspelt = 6 := by
  have hdefault : ∀ f ∈ WalkField.thresholds, f.same (hurried.get f) f.default = true := by decide +kernel
  have hprofile : hurried.get .accessibilityProfile = Profile.none := by decide +kernel
  obtain ⟨-, -, hrut⟩ := edgeReluctance_of_defaults hdefault hprofile fromTags_rut .standard
  obtain ⟨-, hmisspelt, -⟩ := edgeReluctance_of_defaults hdefault hprofile fromTags_misspelt .standard
  refine ⟨hdefault, hprofile, fromTags_rut, fromTags_misspelt, ?_, ?_⟩
  · rw [hrut]
    · decide +kernel
    · intro s v hv
      cases s with
      | width =>
        cases hv
        decide +kernel
      | ressautMin => cases hv
      | _ => rfl
  · have hcount : misspelt.belowZeroCount = 1 := by decide +kernel
    rw [hmisspelt, hcount]
    decide +kernel

/-- **Not every width passes the default walker**: the tag for a width of minus one is read, breaches a minimal width
of zero, and doubles the reluctance of two. -/
theorem edgeReluctance_misspelt :
    misspelt.FromTags ∧ (∀ f ∈ WalkField.thresholds, f.same (default.get f) f.default = true) ∧
      default.get .accessibilityProfile = Profile.none ∧ misspelt.get .width = some (-1 : Binary64) ∧
      default.breaches .width (-1 : Binary64) = true ∧
      default.get .reluctance = (2 : Binary64) ∧ default.edgeReluctance .standard misspelt = 4 := by
  have hdefault : ∀ f ∈ WalkField.thresholds, f.same (default.get f) f.default = true := by decide +kernel
  exact ⟨fromTags_misspelt, hdefault, rfl, rfl, by decide +kernel, rfl, by decide +kernel⟩

end WalkPreferences

end AccessibleWalk
