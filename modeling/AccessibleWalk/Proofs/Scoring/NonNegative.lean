/-
Scores as weights of a search. A search needs weights that are not below zero and are numbers. Walking preferences see
to that, as they are brought into normal form; the numbers of the other sections are taken as they are configured, and
with them it is up to the configuration. For wheelchairs there is one more exception: a zero among the factors can
meet a penalty that overflows.

- `wheelchairReluctance_spec`: wheelchairs, up to the exception.
- `score_nonNegative_iff`: the scores of a configuration whose sections hold no negative number.
- `score_negative`: what happens otherwise.
-/
import AccessibleWalk.Proofs.Reluctance.Factors
import AccessibleWalk.Proofs.Reluctance.Slope
import AccessibleWalk.Proofs.Routing.Finite
import AccessibleWalk.Proofs.Way.SlotReads
import AccessibleWalk.Scoring.Edge

namespace AccessibleWalk

open Binary64 (signed nan NotNegative zero_atMost_iff)

/-! ## Wheelchairs -/

namespace RoutingPreferences

variable (p : RoutingPreferences)

/-- on the way to the reluctance of a wheelchair a zero meets an infinity: a factor for stairs that is zero, or a
penalty that overflows -/
def ZeroMeetsInfinity (slope : Binary64) (accessible stairs : Bool) : Prop :=
  (stairs = true ∧ (p.flatWheelchairReluctance accessible false).Indeterminate p.wheelchair.stairsReluctance) ∨
    ∃ factor, p.wheelchair.slopeFactor? slope = some factor ∧
      (p.flatWheelchairReluctance accessible stairs).Indeterminate factor

/-- the numbers that a wheelchair is scored by are not below zero, and finite where they meet -/
structure WheelchairReady : Prop where
  walk : NotNegative (p.walk.get .reluctance) ∧ (p.walk.get .reluctance : Binary64).isFinite = true
  street : NotNegative p.wheelchair.inaccessibleStreetReluctance ∧
    p.wheelchair.inaccessibleStreetReluctance.isFinite = true
  stairs : NotNegative p.wheelchair.stairsReluctance ∧ p.wheelchair.stairsReluctance.isFinite = true
  weight : p.wheelchair.slopeExceededReluctance.isFinite = true

variable {p} (h : p.WheelchairReady)
include h

theorem walked_spec (accessible : Bool) : NotNegative (p.flatWheelchairReluctance accessible false) ∧
    p.flatWheelchairReluctance accessible false ≠ nan := by
  have hbase : NotNegative (if accessible then 1 else p.wheelchair.inaccessibleStreetReluctance) ∧
      (if accessible then 1 else p.wheelchair.inaccessibleStreetReluctance).isFinite = true := by
    cases accessible
    · exact h.street
    · exact ⟨.positive (.ofNat 1), Magnitude.isFinite_ofNat (by decide)⟩
  exact ⟨hbase.1.mul h.walk.1, Binary64.mul_ne_nan_of_isFinite hbase.2 h.walk.2⟩

theorem flat_spec (accessible stairs : Bool) : NotNegative (p.flatWheelchairReluctance accessible stairs) ∧
    (p.flatWheelchairReluctance accessible stairs = nan ↔ stairs = true ∧
      (p.flatWheelchairReluctance accessible false).Indeterminate p.wheelchair.stairsReluctance) := by
  obtain ⟨hwalked, hnumber⟩ := walked_spec h accessible
  cases stairs with
  | false => exact ⟨hwalked, by simp [hnumber]⟩
  | true =>
    have hflat : p.flatWheelchairReluctance accessible true =
        p.flatWheelchairReluctance accessible false * p.wheelchair.stairsReluctance := rfl
    have hstairs := Binary64.ne_nan_of_isFinite h.stairs.2
    rw [hflat, Binary64.mul_eq_nan_iff]
    exact ⟨hwalked.mul h.stairs.1, by simp [hnumber, hstairs]⟩

/-- **A wheelchair pays nothing below zero**, and a number unless a zero meets an infinity. -/
theorem wheelchairReluctance_spec (slope : Binary64) (accessible stairs : Bool) :
    NotNegative (p.wheelchairReluctance slope accessible stairs) ∧
      (p.wheelchairReluctance slope accessible stairs = nan ↔ p.ZeroMeetsInfinity slope accessible stairs) := by
  obtain ⟨hflat, hnan⟩ := flat_spec h accessible stairs
  unfold wheelchairReluctance ZeroMeetsInfinity
  dsimp only
  cases hfactor : p.wheelchair.slopeFactor? slope with
  | none => exact ⟨hflat, by simpa using hnan⟩
  | some factor =>
    obtain ⟨excess, weight, -, -, rfl⟩ := WheelchairPreferences.slopeFactor?_eq_some hfactor
    refine ⟨hflat.mul (.positive _), ?_⟩
    rw [Binary64.mul_eq_nan_iff, hnan]
    simp

end RoutingPreferences

/-! ## Configurations -/

theorem WalkConfig.get_build (c : WalkConfig) (serial : Nat) (f : WalkField) :
    (c.build serial).value.get f = f.normalize f.default ∨
      (c.build serial).value.get f = f.normalize ((c.get f).getD f.default) := by
  unfold build WalkBuilder.build
  dsimp only
  split_ifs
  · exact .inl (f.normalize_default).symm
  · exact .inr rfl

namespace RoutingConfig.Finite

variable {config : RoutingConfig} (h : config.Finite)
include h

/-- the walking preferences of a finite configuration are normal forms of finite values -/
theorem exists_walk (f : WalkField) :
    ∃ v : f.Value, f.setting.isFinite v = true ∧ config.preferences.walk.get f = f.normalize v := by
  have hdefault : f.setting.isFinite f.default = true := by cases f <;> decide +kernel
  rcases config.walk.get_build 1 f with hget | hget
  · exact ⟨_, hdefault, hget⟩
  · refine ⟨_, ?_, hget⟩
    cases hv : config.walk.get f with
    | none => exact hdefault
    | some v => exact h.walk f v hv

theorem walk_reluctance : NotNegative (config.preferences.walk.get .reluctance) ∧
    (config.preferences.walk.get .reluctance : Binary64).isFinite = true := by
  obtain ⟨v, hv, hget⟩ := h.exists_walk .reluctance
  rw [hget]
  exact ⟨Units.notNegative_reluctance v, (Units.keeps_reluctance v).isFinite hv⟩

theorem walk_stairsReluctance : (0 : Binary64).atMost (config.preferences.walk.get .stairsReluctance) = true := by
  obtain ⟨v, hv, hget⟩ := h.exists_walk .stairsReluctance
  have hnumber := Binary64.ne_nan_of_isFinite ((Units.keeps_reluctance v).isFinite hv)
  rw [hget]
  exact zero_atMost_iff.2 ⟨Units.notNegative_reluctance v, hnumber⟩

end RoutingConfig.Finite

/-! ## Scores -/

namespace Scorer

/-- the numbers of the sections that are scored by as they are configured -/
def sectionNumbers (scorer : Scorer) : List Binary64 :=
  if scorer.wheelchair then
    [scorer.preferences.wheelchair.inaccessibleStreetReluctance, scorer.preferences.wheelchair.stairsReluctance]
  else match scorer.mode with
    | .walk => if scorer.config.walkingBike then [scorer.preferences.bike.walkingReluctance] else []
    | .bicycle => [scorer.preferences.bike.reluctance]
    | .car => [scorer.preferences.car.reluctance]
    | _ => []

/-- a zero meets an infinity on the way to the score of this row -/
def ZeroMeetsInfinity (scorer : Scorer) (row : Row) : Prop :=
  scorer.wheelchair = true ∧ ∃ sheet slope, row.tags.sheet scorer.config.ignoreTagErrors = .ok sheet ∧
    Scorer.slope row.tags = .ok slope ∧ scorer.preferences.ZeroMeetsInfinity slope
      (!row.tags.isFalse Row.wheelchairColumn) (sheet.get .highway == some Highway.steps)

/-- what a scored row went through -/
theorem exists_of_score {scorer : Scorer} {row : Row} {e : ScoredEdge} (h : scorer.score row = .ok e) :
    ∃ sheet, row.tags.sheet scorer.config.ignoreTagErrors = .ok sheet ∧
      scorer.reluctance e.edge row.tags sheet = .ok e.reluctance := by
  cases hedge : row.find? Row.edgeColumn with
  | none => simp [score, hedge] at h
  | some edge =>
    cases hsheet : row.tags.sheet scorer.config.ignoreTagErrors with
    | error e => simp [score, hedge, hsheet] at h
    | ok sheet =>
      rw [score_of_sheet hedge hsheet] at h
      cases hx : scorer.reluctance edge row.tags sheet with
      | error e => rw [hx] at h; cases h
      | ok x =>
        rw [hx] at h
        rw [← Except.ok.inj h]
        exact ⟨sheet, rfl, hx⟩

section Sections

variable {config : ScoringConfig} (hfinite : config.routing.Finite) {mode : TravelMode}
include hfinite

/-- without a wheelchair a score is at least zero -/
theorem zero_atMost_of_walker
    (hsections : ∀ x ∈ (ofConfig config mode false).sectionNumbers, (0 : Binary64).atMost x = true) {stairs : Bool}
    {sheet : Sheet} {x : Binary64}
    (h : config.routing.preferences.reluctance .standard mode config.walkingBike stairs sheet = .ok x) :
    (0 : Binary64).atMost x = true := by
  obtain ⟨hsign, hnumber⟩ := hfinite.walk_reluctance
  have hwalk := zero_atMost_iff.2 ⟨hsign, Binary64.ne_nan_of_isFinite hnumber⟩
  unfold RoutingPreferences.reluctance at h
  by_cases hstairs : stairs = true
  · rw [if_pos hstairs] at h
    rw [← Except.ok.inj h]
    exact hfinite.walk_stairsReluctance
  · rw [if_neg hstairs] at h
    cases mode with
    | walk =>
      cases hbike : config.walkingBike with
      | true =>
        rw [hbike] at h
        rw [← Except.ok.inj h]
        exact hsections _ (by simp [sectionNumbers, ofConfig, hbike])
      | false =>
        rw [hbike] at h
        rw [← Except.ok.inj h]
        exact WalkPreferences.zero_atMost_edgeReluctance hwalk _ _
    | bicycle | car =>
      rw [← Except.ok.inj h]
      exact hsections _ (by simp [sectionNumbers, ofConfig])
    | _ => cases h

/-- a wheelchair is scored by numbers that are not below zero -/
theorem wheelchairReady
    (hsections : ∀ x ∈ (ofConfig config mode true).sectionNumbers, (0 : Binary64).atMost x = true) :
    config.routing.preferences.WheelchairReady where
  walk := hfinite.walk_reluctance
  street := ⟨(zero_atMost_iff.1 (hsections _ (by simp [sectionNumbers, ofConfig]))).1, hfinite.wheelchair.1⟩
  stairs := ⟨(zero_atMost_iff.1 (hsections _ (by simp [sectionNumbers, ofConfig]))).1, hfinite.wheelchair.2.1⟩
  weight := hfinite.wheelchair.2.2.2

end Sections

/-- **Scores are at least zero, and numbers**, if no number of the sections that they are read from is below zero,
exactly unless a zero meets an infinity: whatever the walking preferences, the mode and the row. -/
theorem score_nonNegative_iff {config : ScoringConfig} (hfinite : config.routing.Finite) {mode : TravelMode}
    {wheelchair : Bool}
    (hsections : ∀ x ∈ (ofConfig config mode wheelchair).sectionNumbers, (0 : Binary64).atMost x = true) {row : Row}
    {e : ScoredEdge} (h : (ofConfig config mode wheelchair).score row = .ok e) :
    (0 : Binary64).atMost e.reluctance = true ↔ ¬ (ofConfig config mode wheelchair).ZeroMeetsInfinity row := by
  obtain ⟨sheet, hsheet, hscore⟩ := exists_of_score h
  cases wheelchair with
  | false =>
    refine iff_of_true ?_ fun hmeets => Bool.false_ne_true hmeets.1
    cases hx : config.routing.preferences.reluctance .standard mode config.walkingBike
        (sheet.get .highway == some Highway.steps) sheet with
    | error r => simp [reluctance, ofConfig, hx, Except.mapError] at hscore
    | ok x =>
      have hsame : x = e.reluctance := by simpa [reluctance, ofConfig, hx, Except.mapError] using hscore
      rw [← hsame]
      exact zero_atMost_of_walker hfinite hsections hx
  | true =>
    have hready := wheelchairReady hfinite hsections
    cases hslope : slope row.tags with
    | error reason => simp [reluctance, ofConfig, hslope] at hscore
    | ok slope =>
      have hsame : config.routing.preferences.wheelchairReluctance slope (!row.tags.isFalse Row.wheelchairColumn)
          (sheet.get .highway == some Highway.steps) = e.reluctance := by
        simpa [reluctance, ofConfig, hslope] using hscore
      obtain ⟨hsign, hnan⟩ := RoutingPreferences.wheelchairReluctance_spec hready slope
        (!row.tags.isFalse Row.wheelchairColumn) (sheet.get .highway == some Highway.steps)
      rw [← hsame, zero_atMost_iff, and_iff_right hsign, Ne, hnan, not_iff_not]
      constructor
      · exact fun hmeets => ⟨rfl, sheet, slope, hsheet, hslope, hmeets⟩
      · rintro ⟨-, sheet', slope', hsheet', hslope', hmeets⟩
        rw [hsheet] at hsheet'
        rw [hslope] at hslope'
        rwa [Except.ok.inj hsheet', Except.ok.inj hslope']

/-! ## Other scores -/

/-- a rider who is rewarded for riding -/
def rewarded : ScoringConfig := { routing := { bike := { reluctance := -1 } } }

/-- a walker who does not mind walking at all -/
def tireless : ScoringConfig := { routing := { walk := WalkConfig.empty.put .reluctance (some (0 : Binary64)) } }

/-- an edge with a slope that is finite, but a hundred times of it is not -/
def cliff : Row := ⟨⟨[("edge_id", "1"), ("max_slope", "1e308")], by decide⟩⟩

theorem finite_rewarded : rewarded.routing.Finite where
  walk f v h := absurd h (by simp [rewarded])
  bike := by decide +kernel
  car := by decide +kernel
  wheelchair := by decide +kernel

theorem finite_tireless : tireless.routing.Finite where
  walk f v h := by
    by_cases hf : WalkField.reluctance = f
    · subst hf
      rw [tireless, WalkConfig.get_put_self] at h
      rw [← Option.some.inj h]
      decide +kernel
    · rw [tireless, WalkConfig.get_put_of_ne hf] at h
      exact absurd h (by simp)
  bike := by decide +kernel
  car := by decide +kernel
  wheelchair := by decide +kernel

/-- the cliff has no facts besides its slope -/
theorem sheet_cliff (lenient : Bool) : cliff.tags.sheet lenient = .ok .empty := by
  have hentries : cliff.tags.byKey.entries = [("max_slope", "1e308")] := by decide +kernel
  refine WayTags.sheet_of_reads (fun s => WayTags.read_of_absent ?_) lenient
  rw [Dictionary.find?, hentries]
  cases s <;> decide

theorem score_cliff (scorer : Scorer) :
    scorer.score cliff = (scorer.reluctance "1" cliff.tags .empty).map (ScoredEdge.mk "1") :=
  score_of_sheet (by decide) (sheet_cliff _)

/-- zero times a penalty that overflows is no number -/
theorem score_tireless_cliff : (ofConfig tireless .walk true).score cliff = .ok ⟨"1", .nan⟩ := by
  have hslope : slope cliff.tags = .ok 1e308 := by decide +kernel
  have hscore : (ofConfig tireless .walk true).reluctance "1" cliff.tags .empty = .ok .nan := by
    rw [reluctance, hslope]
    decide +kernel
  rw [score_cliff, hscore]
  rfl

/-- a score that is at least zero, and one that is none -/
theorem score_nonNegative_tireless :
    ((ofConfig tireless .walk false).score cliff = .ok ⟨"1", 0⟩ ∧ (0 : Binary64).atMost 0 = true) ∧
      (ofConfig tireless .walk true).score cliff = .ok ⟨"1", .nan⟩ ∧
        (ofConfig tireless .walk true).ZeroMeetsInfinity cliff := by
  have hwalker : (ofConfig tireless .walk false).score cliff = .ok ⟨"1", 0⟩ := by
    rw [score_cliff]
    decide +kernel
  refine ⟨⟨hwalker, ?_⟩, score_tireless_cliff, ?_⟩
  · exact (score_nonNegative_iff finite_tireless (by decide +kernel) hwalker).2 fun h => Bool.false_ne_true h.1
  · by_contra hmeets
    have hnan := (score_nonNegative_iff finite_tireless (by decide +kernel) score_tireless_cliff).2 hmeets
    exact absurd hnan (by decide)

/-- a finite configuration can make a score negative, and a finite slope can leave no score -/
theorem score_negative :
    (rewarded.routing.Finite ∧ (ofConfig rewarded .bicycle false).score cliff = .ok ⟨"1", -1⟩ ∧
      (0 : Binary64).atMost (-1) = false) ∧
    (tireless.routing.Finite ∧ (ofConfig tireless .walk true).score cliff = .ok ⟨"1", .nan⟩ ∧
      (0 : Binary64).atMost .nan = false) := by
  refine ⟨⟨finite_rewarded, ?_, by decide +kernel⟩, finite_tireless, score_tireless_cliff, by decide⟩
  rw [score_cliff]
  decide +kernel

end Scorer

end AccessibleWalk
