/-
Preferences as keys of a search cache. Preferences that compare equal may be taken for each other: whatever is asked of
an edge, the answers are the same error or numbers that nobody tells apart.

- `breaches_congr`: equal wishes are breached by the same facts.
- `rank?_edgeReluctance_congr`, `rank?_wheelchairReluctance_congr`: the scoring rules, as functions of preferences.
- `sameAnswers_of_same`: all scoring operations together.

Equality sees neither the sign of a zero nor which not-a-number it is, and neither do the ranks of results: the one fact
behind every step is that comparisons, sums and products respect ranks.
-/
import AccessibleWalk.Proofs.Number.Agreement
import AccessibleWalk.Reluctance.Engine

namespace AccessibleWalk

/-! ## Products -/

/-- a product over a list has one rank for starting values of one rank -/
theorem rank?_foldl_mul_congr {α : Type} (factor : α → Binary64) (l : List α) {x y : Binary64}
    (h : x.rank? = y.rank?) :
    (l.foldl (fun r a => r * factor a) x).rank? = (l.foldl (fun r a => r * factor a) y).rank? := by
  induction l generalizing x y with
  | nil => exact h
  | cons a l ih => exact ih (Binary64.rank?_mul_congr h rfl)

/-! ## Walkers -/

/-- values that agree are equal, unless they are numbers -/
theorem Setting.eq_of_same {k : Setting} (hk : k ≠ .number) {v w : k.Value} (h : k.same v w = true) : v = w := by
  cases k with
  | number => exact absurd rfl hk
  | _ => exact eq_of_beq h

/-- the fields that facts are held against -/
def WalkField.thresholds : List WalkField :=
  [.minimalWidth, .lightRequired, .reluctedSurfaces, .tactilePavingRequired, .reluctedSmoothness, .maximalIncline,
    .ressautMax, .ressautMin, .bevCtrastRequired, .bevEtat, .reluctanceOnHighway]

namespace WalkPreferences

variable {p q : WalkPreferences}

theorem get_eq_of_same (h : p.same q = true) (f : WalkField) (hf : f.setting ≠ .number) : p.get f = q.get f :=
  Setting.eq_of_same hf (same_iff.1 h f)

/-- **Equal wishes are breached by the same facts**, whatever is wished for besides. -/
theorem breaches_congr (h : ∀ f ∈ WalkField.thresholds, f.same (p.get f) (q.get f) = true) (s : Slot) (v : s.Payload) :
    p.breaches s v = q.breaches s v := by
  have other (f : WalkField) (hmem : f ∈ WalkField.thresholds) (hf : f.setting ≠ .number) : p.get f = q.get f :=
    Setting.eq_of_same hf (h f hmem)
  have width := Binary64.same_iff.1 (h .minimalWidth (by decide))
  have incline := Binary64.same_iff.1 (h .maximalIncline (by decide))
  have high := Binary64.same_iff.1 (h .ressautMax (by decide))
  have low := Binary64.same_iff.1 (h .ressautMin (by decide))
  cases s with
  | width => exact Binary64.less_congr rfl width
  | lit => simp only [breaches, other .lightRequired (by decide) (by decide)]
  | surface => simp only [breaches, other .reluctedSurfaces (by decide) (by decide)]
  | tactilePaving => simp only [breaches, other .tactilePavingRequired (by decide) (by decide)]
  | smoothness => simp only [breaches, other .reluctedSmoothness (by decide) (by decide)]
  | highway => simp only [breaches, other .reluctanceOnHighway (by decide) (by decide)]
  | footway => rfl
  | incline =>
    cases v with
    | direction d => rfl
    | percent x => exact Binary64.less_congr (Binary64.rank?_abs_congr incline) rfl
  | ressautMax => exact Binary64.less_congr high rfl
  | ressautMin => exact Binary64.less_congr rfl low
  | bevEtat => simp only [breaches, other .bevEtat (by decide) (by decide)]
  | bevCtrast => simp only [breaches, other .bevCtrastRequired (by decide) (by decide)]
  | travHTrt => rfl

theorem rank?_thresholdReluctance_congr (h : p.same q = true) {x y : Binary64} (hb : x.rank? = y.rank?)
    (sheet : Sheet) : (thresholdReluctance x p sheet).rank? = (thresholdReluctance y q sheet).rank? := by
  have hbreach : p.breachedBy = q.breachedBy :=
    funext fun fact => breaches_congr (fun f _ => same_iff.1 h f) fact.slot fact.payload
  unfold thresholdReluctance doubled
  rw [hbreach]
  exact rank?_foldl_mul_congr (fun _ => 2) _ hb

/-- **Equal walkers find an edge equally hard**, by thresholds and by profile. -/
theorem rank?_edgeReluctance_congr (h : p.same q = true) (tables : ImpactTables) (sheet : Sheet) :
    (p.edgeReluctance tables sheet).rank? = (q.edgeReluctance tables sheet).rank? := by
  have base := Binary64.same_iff.1 (same_iff.1 h .reluctance)
  unfold edgeReluctance
  rw [get_eq_of_same h .accessibilityProfile (by decide)]
  split
  · exact rank?_foldl_mul_congr _ _ base
  · exact rank?_thresholdReluctance_congr h base sheet

end WalkPreferences

/-! ## Wheelchairs -/

/-- equal wheelchair sections ask for the penalty on the same slopes, and for equal penalties -/
theorem WheelchairPreferences.rank?_slopeFactor_congr {a b : WheelchairPreferences} (h : a.equals b = true)
    (slope : Binary64) : (a.slopeFactor? slope).map Binary64.rank? = (b.slopeFactor? slope).map Binary64.rank? := by
  simp only [equals, Bool.and_eq_true] at h
  obtain ⟨⟨⟨-, -⟩, hslope⟩, hexceeded⟩ := h
  have hlimit := Binary64.rank?_eq_of_equals hslope
  have hweight := Binary64.rank?_eq_of_equals hexceeded
  have hexcess : (slope.abs - a.maxSlope).rank? = (slope.abs - b.maxSlope).rank? :=
    Binary64.rank?_sub_congr rfl hlimit
  simp only [slopeFactor?, Binary64.less_congr rfl hexcess, Binary64.less_congr rfl hweight]
  split_ifs
  · have hterm := Binary64.rank?_mul_congr (x := 100) rfl hexcess
    exact congrArg some (Binary64.rank?_add_congr rfl (Binary64.rank?_mul_congr hterm hweight))
  · rfl

namespace RoutingPreferences

variable {p q : RoutingPreferences}

theorem rank?_flatWheelchairReluctance_congr (hw : p.walk.same q.walk = true)
    (hc : p.wheelchair.equals q.wheelchair = true) (accessible stairs : Bool) :
    (p.flatWheelchairReluctance accessible stairs).rank? = (q.flatWheelchairReluctance accessible stairs).rank? := by
  have walk := Binary64.same_iff.1 (WalkPreferences.same_iff.1 hw .reluctance)
  simp only [WheelchairPreferences.equals, Bool.and_eq_true] at hc
  obtain ⟨⟨⟨hbase, hstairs⟩, -⟩, -⟩ := hc
  have base : (if accessible then 1 else p.wheelchair.inaccessibleStreetReluctance).rank? =
      (if accessible then 1 else q.wheelchair.inaccessibleStreetReluctance).rank? := by
    cases accessible
    · exact Binary64.rank?_eq_of_equals hbase
    · rfl
  have walked := Binary64.rank?_mul_congr base walk
  cases stairs
  · exact walked
  · exact Binary64.rank?_mul_congr walked (Binary64.rank?_eq_of_equals hstairs)

theorem rank?_wheelchairReluctance_congr (hw : p.walk.same q.walk = true)
    (hc : p.wheelchair.equals q.wheelchair = true) (slope : Binary64) (accessible stairs : Bool) :
    (p.wheelchairReluctance slope accessible stairs).rank? = (q.wheelchairReluctance slope accessible stairs).rank? := by
  have flat := rank?_flatWheelchairReluctance_congr hw hc accessible stairs
  have factor := WheelchairPreferences.rank?_slopeFactor_congr hc slope
  unfold wheelchairReluctance
  cases hp : p.wheelchair.slopeFactor? slope with
  | none =>
    rw [hp, Option.map_none, eq_comm, Option.map_eq_none_iff] at factor
    rw [factor]
    exact flat
  | some x =>
    rw [hp, Option.map_some, eq_comm, Option.map_eq_some_iff] at factor
    obtain ⟨y, hy, hxy⟩ := factor
    rw [hy]
    exact Binary64.rank?_mul_congr flat hxy.symm

/-! ## Keys -/

/-- the same error, or numbers that nobody tells apart -/
def SameOutcome : Except ReluctanceError Binary64 → Except ReluctanceError Binary64 → Prop
  | .ok x, .ok y => x.Interchangeable y
  | .error e, .error f => e = f
  | _, _ => False

/-- preferences that every scoring operation answers alike -/
structure SameAnswers (p q : RoutingPreferences) : Prop where
  edge : ∀ tables mode walkingBike stairs sheet,
    SameOutcome (p.reluctance tables mode walkingBike stairs sheet) (q.reluctance tables mode walkingBike stairs sheet)
  walk : ∀ tables sheet, (p.walk.edgeReluctance tables sheet).Interchangeable (q.walk.edgeReluctance tables sheet)
  wheelchair : ∀ slope accessible stairs,
    (p.wheelchairReluctance slope accessible stairs).Interchangeable (q.wheelchairReluctance slope accessible stairs)

/-- **Sound as a cache key.** Equal preferences get the same answer from every scoring operation, whatever the tables,
the mode, the flags, the slope and the facts. -/
theorem sameAnswers_of_same (p q : RoutingPreferences) (h : p.same q = true) : SameAnswers p q := by
  simp only [same, Bool.and_eq_true] at h
  obtain ⟨⟨⟨hwalk, hbike⟩, hcar⟩, hchair⟩ := h
  simp only [BikePreferences.equals, Bool.and_eq_true] at hbike
  have walk (tables sheet) := WalkPreferences.rank?_edgeReluctance_congr hwalk tables sheet
  refine ⟨?_, fun tables sheet => Binary64.interchangeable_iff.2 (walk tables sheet), ?_⟩
  · intro tables mode walkingBike stairs sheet
    unfold reluctance
    cases stairs with
    | true =>
      exact Binary64.interchangeable_iff.2 (Binary64.same_iff.1 (WalkPreferences.same_iff.1 hwalk .stairsReluctance))
    | false =>
      cases mode with
      | walk =>
        cases walkingBike
        · exact Binary64.interchangeable_iff.2 (walk tables sheet)
        · exact .inl hbike.2
      | bicycle => exact .inl hbike.1
      | car => exact .inl hcar
      | _ => rfl
  · intro slope accessible stairs
    exact Binary64.interchangeable_iff.2 (rank?_wheelchairReluctance_congr hwalk hchair slope accessible stairs)

/-- a walker who accepts no slope and any curb, with one zero or the other -/
def zeroSlope (negative : Bool) : RoutingPreferences where
  walk := (WalkPreferences.default.put .maximalIncline (Binary64.signed negative .zero)).put .ressautMax Binary64.nan
  wheelchair := { maxSlope := Binary64.signed (!negative) .zero }

/-- two spellings of one wish, apart in the signs of their zeros: one key and one answer -/
theorem sameAnswers_zeroSlope :
    (zeroSlope true).same (zeroSlope false) = true ∧ SameAnswers (zeroSlope true) (zeroSlope false) := by
  have h : (zeroSlope true).same (zeroSlope false) = true := by decide +kernel
  exact ⟨h, sameAnswers_of_same _ _ h⟩

end RoutingPreferences

end AccessibleWalk
