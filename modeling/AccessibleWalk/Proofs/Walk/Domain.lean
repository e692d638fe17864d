/-
The domain of built preferences. Whatever builders are asked for, what they build is in range: normal forms are, and a
basis that is handed back agrees with one. Not-a-number passes through everything, so it can be found in a field, but
only where the field was given it last. In the same way a field is infinite only if it was given an infinity last: a
finite number has a finite normal form, as a product that overflows is not used.

- `WalkField.inRange_normalize`: normal forms are in range.
- `WalkField.keeps_normalize`, `WalkField.keeps_kept`: what a normal form keeps of a value.
- `Handled`: a builder with all that was ever asked of it and of the builders its basis comes from.
- `Handled.traces`: the values of a builder have come of what the fields were given last.
- `Handled.domain`: what is built.
-/
import AccessibleWalk.Proofs.Walk.History
import AccessibleWalk.Proofs.Walk.Ranges

namespace AccessibleWalk

open Binary64 (signed nan NotNegative)

/-! ## Ranges -/

namespace WalkField

/-- what a field may hold: shares are between zero and one, costs have 32 bits without sign, and other numbers, inclines
apart, are at least zero. Not-a-number can stand in every field that is a number. -/
def InRange : (f : WalkField) → f.Value → Prop
  | .speed, x | .reluctance, x | .stairsReluctance, x | .stairsTimeFactor, x | .minimalWidth, x | .ressautMax, x
  | .ressautMin, x => x = nan ∨ (0 : Binary64).atMost x = true
  | .safetyFactor, x => x = nan ∨ (0 : Binary64).atMost x = true ∧ x.atMost 1 = true
  | .boardCost, i => 0 ≤ i ∧ i ≤ 0xFFFFFFFF
  | _, _ => True

theorem nan_or_zero_atMost {x : Binary64} (h : NotNegative x) : x = nan ∨ (0 : Binary64).atMost x = true := by
  cases x with
  | nan => exact .inl rfl
  | signed n m => exact .inr (Binary64.zero_atMost_iff.2 ⟨h, nofun⟩)

/-- **Normal forms are in range.** -/
theorem inRange_normalize (f : WalkField) (v : f.Value) : f.InRange (f.normalize v) := by
  cases f with
  | speed => exact nan_or_zero_atMost (Units.notNegative_speed v)
  | reluctance | stairsReluctance | stairsTimeFactor => exact nan_or_zero_atMost (Units.notNegative_reluctance v)
  | minimalWidth => exact nan_or_zero_atMost (Units.notNegative_length v)
  | ressautMax | ressautMin => exact nan_or_zero_atMost (Units.notNegative_height v)
  | safetyFactor => exact Units.ratio_range v
  | boardCost => exact ⟨Int.le_max_left 0 _, Int.max_le.2 ⟨by decide, Int.min_le_right v _⟩⟩
  | _ => trivial

/-- values that agree are in range together -/
theorem inRange_of_same {f : WalkField} {v w : f.Value} (h : f.same v w = true) (hv : f.InRange v) : f.InRange w := by
  have number {x y : Binary64} (h : x.same y = true) :
      (x = nan → y = nan) ∧ ∀ z : Binary64, z.atMost x = z.atMost y ∧ x.atMost z = y.atMost z := by
    have hrank := Binary64.same_iff.1 h
    have hnan : (x = nan) = (y = nan) := Binary64.rank?_congr (· = nan) (fun _ _ => by simp) hrank
    exact ⟨hnan.mp, fun z => ⟨Binary64.atMost_congr rfl hrank, Binary64.atMost_congr hrank rfl⟩⟩
  cases f with
  | safetyFactor =>
    obtain ⟨hnan, hends⟩ := number h
    exact hv.imp hnan fun hv => ⟨(hends 0).1 ▸ hv.1, (hends 1).2 ▸ hv.2⟩
  | boardCost =>
    obtain rfl : v = w := eq_of_beq h
    exact hv
  | speed | reluctance | stairsReluctance | stairsTimeFactor | minimalWidth | ressautMax | ressautMin =>
    obtain ⟨hnan, hends⟩ := number h
    exact hv.imp hnan fun hv => (hends 0).1 ▸ hv
  | _ => trivial

end WalkField

/-! ## What is kept of a value -/

theorem Binary64.Keeps.of_rank? {x y : Binary64} (h : x.rank? = y.rank?) : x.Keeps y := by
  rcases eq_or_zeros h with rfl | ⟨⟨n, rfl⟩, k, rfl⟩
  · exact refl x
  · exact ⟨rfl, id⟩

namespace Setting

/-- what a built value has of the one it is built from: a cost is the same once it is cut to its range -/
def Keeps : (k : Setting) → k.Value → k.Value → Prop
  | .number, x, y => Binary64.Keeps x y
  | .cost, i, j => Units.cost j = Units.cost i
  | _, _, _ => True

theorem keeps_refl (k : Setting) (v : k.Value) : k.Keeps v v := by
  cases k with
  | number => exact .refl v
  | cost => rfl
  | _ => trivial

theorem keeps_trans {k : Setting} {v w u : k.Value} (h : k.Keeps v w) (h' : k.Keeps w u) : k.Keeps v u := by
  cases k with
  | number => exact Binary64.Keeps.trans h h'
  | cost => exact Eq.trans h' h
  | _ => trivial

theorem keeps_of_same {k : Setting} {v w : k.Value} (h : k.same v w = true) : k.Keeps v w := by
  cases k with
  | number => exact .of_rank? (Binary64.same_iff.1 h)
  | cost => exact congrArg Units.cost (eq_of_beq h).symm
  | _ => trivial

/-- a number that is none; the values of other kinds never are -/
def isNaN : (k : Setting) → k.Value → Bool
  | .number, x => Binary64.isNaN x
  | _, _ => false

/-- an infinity, of either sign -/
def isInfinite : (k : Setting) → k.Value → Bool
  | .number, x => !Binary64.isNaN x && !Binary64.isFinite x
  | _, _ => false

theorem isNaN_of_keeps {k : Setting} {v w : k.Value} (h : k.Keeps v w) : k.isNaN w = k.isNaN v := by
  cases k with
  | number => exact h.isNaN
  | _ => rfl

theorem isInfinite_of_keeps {k : Setting} {v w : k.Value} (h : k.Keeps v w) (hw : k.isInfinite w = true) :
    k.isInfinite v = true := by
  cases k with
  | number =>
    obtain ⟨hnumber, hinfinite⟩ := Bool.and_eq_true_iff.1 hw
    rw [h.isNaN] at hnumber
    refine Bool.and_eq_true_iff.2 ⟨hnumber, ?_⟩
    rw [Bool.not_eq_true'] at hinfinite ⊢
    exact Bool.eq_false_iff.2 fun hv => Bool.eq_false_iff.1 hinfinite (h.isFinite hv)
  | _ => cases hw

end Setting

namespace WalkField

/-- **What a normal form keeps**: whether there is a number, that it is finite, and the cost. -/
theorem keeps_normalize (f : WalkField) (v : f.Value) : f.setting.Keeps v (f.normalize v) := by
  cases f with
  | speed => exact Units.keeps_speed v
  | reluctance | stairsReluctance | stairsTimeFactor => exact Units.keeps_reluctance v
  | boardCost => exact cost_cost v
  | safetyFactor => exact Units.keeps_ratio v
  | minimalWidth => exact Units.keeps_length v
  | maximalIncline => exact Units.keeps_roundTo (by decide) v
  | ressautMax | ressautMin => exact Units.keeps_height v
  | _ => trivial

theorem keeps_kept (f : WalkField) (v : f.Value) : f.setting.Keeps v (f.kept v) := by
  cases f with
  | boardCost => exact cost_cost v
  | safetyFactor => exact Units.keeps_clamp v
  | lightRequired | reluctedSurfaces | tactilePavingRequired | reluctedSmoothness | bevCtrastRequired | bevEtat
  | reluctanceOnHighway | accessibilityProfile => trivial
  | _ => exact Setting.keeps_refl .number v

end WalkField

/-! ## Builders and their histories -/

namespace WalkBuilder

/-- a builder with all that was asked for on its way from the shared defaults: of itself, and of the builders that its
basis comes from. A configuration builds what the first builder does that handles it. -/
inductive Handled : List Request → WalkBuilder → Prop where
  | start : Handled [] .start
  | handle {history : List Request} {b : WalkBuilder} (r : Request) :
      Handled history b → Handled (history ++ [r]) (b.handle r)
  | perform {history : List Request} {b : WalkBuilder} (m : Move) :
      Handled history b → Handled (history ++ m.requests) (b.perform m)
  | copy {history : List Request} {b : WalkBuilder} (serial : Nat) :
      Handled history b → Handled history (.copyOf (b.build serial))

/-- the values have come of those that the fields were given last, and of the defaults where they were given none -/
def Traces (history : List Request) (p : WalkPreferences) : Prop :=
  ∀ f : WalkField, f.setting.Keeps ((lastSet? history f).getD f.default) (p.get f)

variable {history : List Request} {b : WalkBuilder}

/-- **Everything built is in range**, whatever the builder holds. -/
theorem inRange_build (b : WalkBuilder) (serial : Nat) (f : WalkField) : f.InRange ((b.build serial).value.get f) :=
  WalkField.inRange_of_same (WalkPreferences.same_iff.1 (b.same_build serial) f) (f.inRange_normalize _)

/-- a build keeps what the builder has -/
theorem Traces.build (h : Traces history b.values) (serial : Nat) : Traces history (b.build serial).value := by
  intro f
  have hnormal := f.keeps_normalize (b.values.get f)
  have hbuilt : f.setting.Keeps (f.normalize (b.values.get f)) ((b.build serial).value.get f) :=
    Setting.keeps_of_same (WalkPreferences.same_iff.1 (b.same_build serial) f)
  exact Setting.keeps_trans (Setting.keeps_trans (h f) hnormal) hbuilt

theorem Traces.handle (h : Traces history b.values) (r : Request) : Traces (history ++ [r]) (b.handle r).values := by
  intro f
  rw [get_handle, lastSet?_append, lastSet?_singleton]
  cases r.sets? f with
  | none => exact h f
  | some v => exact f.setting.keeps_refl v

theorem Traces.perform (h : Traces history b.values) (m : Move) :
    Traces (history ++ m.requests) (b.perform m).values := by
  have hmove : b.perform m = m.requests.foldl take b := by cases m <;> rfl
  intro f
  rw [hmove, get_foldl_take, lastSet?_append]
  cases lastSet? m.requests f with
  | none => exact h f
  | some v => exact f.keeps_kept v

/-- **The values of a builder have come of what the fields were given last.** -/
theorem Handled.traces (h : Handled history b) : Traces history b.values := by
  induction h with
  | start => exact fun f => f.setting.keeps_refl f.default
  | handle r _ ih => exact ih.handle r
  | perform m _ ih => exact ih.perform m
  | copy serial _ ih => exact ih.build serial

/-- a value that a built one has come of, and that is no default, was given -/
theorem exists_lastSet? {f : WalkField} {property : f.Value → Bool} (hdefault : property f.default = false)
    (h : property ((lastSet? history f).getD f.default) = true) :
    ∃ v, lastSet? history f = some v ∧ property v = true := by
  cases hlast : lastSet? history f with
  | none =>
    rw [hlast, Option.getD_none, hdefault] at h
    cases h
  | some v =>
    rw [hlast, Option.getD_some] at h
    exact ⟨v, rfl, h⟩

theorem isNaN_default (f : WalkField) : f.setting.isNaN f.default = false := by cases f <;> rfl

theorem isInfinite_default (f : WalkField) : f.setting.isInfinite f.default = false := by cases f <;> decide +kernel

/-- **The domain of built preferences**, whatever was asked of builders on the way from the shared defaults: every
field is in range, the cost is the one that was given last, cut to 32 bits without sign, a field is not-a-number
exactly if this is what it was given last, and infinite only if it was given an infinity last. -/
theorem Handled.domain (h : Handled history b) (serial : Nat) :
    (∀ f : WalkField, f.InRange ((b.build serial).value.get f)) ∧
      (b.build serial).value.get .boardCost = max 0 (min ((lastSet? history .boardCost).getD (600 : Int)) 0xFFFFFFFF) ∧
      (∀ f : WalkField, f.setting.isNaN ((b.build serial).value.get f) = true ↔
        ∃ v, lastSet? history f = some v ∧ f.setting.isNaN v = true) ∧
      ∀ f : WalkField, f.setting.isInfinite ((b.build serial).value.get f) = true →
        ∃ v, lastSet? history f = some v ∧ f.setting.isInfinite v = true := by
  have htraces := h.traces.build serial
  refine ⟨b.inRange_build serial, ?_, fun f => ?_, fun f hinfinite => ?_⟩
  · exact (Units.cost_of_range (b.inRange_build serial .boardCost)).symm.trans (htraces .boardCost)
  · rw [Setting.isNaN_of_keeps (htraces f)]
    constructor
    · exact exists_lastSet? (isNaN_default f)
    · rintro ⟨v, hlast, hv⟩
      rwa [hlast, Option.getD_some]
  · exact exists_lastSet? (isInfinite_default f) (Setting.isInfinite_of_keeps (htraces f) hinfinite)

/-- a body that asks for absurd things -/
def demanding : Move :=
  .run [.field .speed nan, .field .boardCost (2 ^ 40 : Int), .field .safetyFactor (1.7 : Binary64)]

/-- a configuration over it that mends one of them with another -/
def mended : WalkConfig := WalkConfig.empty.put .speed (some (signed true .infinity))

/-- the builder of a caller who copies what was built in between -/
def detour : WalkBuilder :=
  ((copyOf ((start.perform demanding).build 1)).handle (.config mended)).perform (.ask (.field .reluctance nan))

/-- what a detour ends with: a cost that is cut, no trace of the first speed, and a reluctance that is none -/
theorem domain_detour :
    Handled (demanding.requests ++ [.config mended] ++ [.field .reluctance nan]) detour ∧
      (∀ f : WalkField, f.InRange ((detour.build 2).value.get f)) ∧
      (detour.build 2).value.get .boardCost = (4294967295 : Int) ∧
      WalkField.speed.setting.isNaN ((detour.build 2).value.get .speed) = false ∧
      WalkField.reluctance.setting.isNaN ((detour.build 2).value.get .reluctance) = true := by
  have h : Handled (demanding.requests ++ [.config mended] ++ [.field .reluctance nan]) detour :=
    .perform (.ask (.field .reluctance nan)) (.handle (.config mended) (.copy 1 (.perform demanding .start)))
  obtain ⟨hrange, hcost, hnan, -⟩ := h.domain 2
  refine ⟨h, hrange, hcost, Bool.eq_false_iff.2 fun hspeed => ?_, (hnan .reluctance).2 ⟨nan, rfl, rfl⟩⟩
  obtain ⟨v, hlast, hv⟩ := (hnan .speed).1 hspeed
  have hinfinity : v = signed true .infinity := (Option.some.inj hlast).symm
  rw [hinfinity] at hv
  cases hv

end WalkBuilder

end AccessibleWalk
