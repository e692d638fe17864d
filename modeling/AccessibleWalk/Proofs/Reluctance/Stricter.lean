/-
Stricter walkers. Of two walkers without a profile, one who asks for at least as much of every fact finds no edge
easier. What they ask for is what they hand to a builder: numbers are cut and rounded before anything is compared with
them, and this neither turns a stricter wish into a laxer one nor depends on what is wished for besides.

- `noLaxer_normalize`: normal forms of wishes are ordered as the wishes are.
- `breaches_of_noLaxer`: what breaches a threshold breaches a stricter one.
- `edgeReluctance_stricter`: from the values in the builders to the reluctance of an edge.
-/
import AccessibleWalk.Proofs.Reluctance.Worse
import AccessibleWalk.Proofs.Walk.History
import AccessibleWalk.Proofs.Walk.Monotone

namespace AccessibleWalk

open Binary64 (nan)

namespace WalkField

/-- the second value of a threshold asks for at least as much as the first; fields that are no thresholds are free -/
def NoLaxer : (f : WalkField) → f.Value → f.Value → Prop
  | .minimalWidth, x, y | .ressautMin, x, y => Binary64.atMost x y = true
  | .ressautMax, x, y => Binary64.atMost y x = true
  | .maximalIncline, x, y => (Binary64.abs y).atMost (Binary64.abs x) = true
  | .reluctedSmoothness, c, d => Category.rank (α := Smoothness) d ≤ Category.rank (α := Smoothness) c
  | .bevEtat, c, d => Category.rank (α := BevEtat) d ≤ Category.rank (α := BevEtat) c
  | .lightRequired, b, c | .tactilePavingRequired, b, c | .bevCtrastRequired, b, c | .reluctanceOnHighway, b, c =>
    b = true → c = true
  | .reluctedSurfaces, l, m => ∀ s : Surface, s ∈ (l : List Surface) → s ∈ (m : List Surface)
  | _, _, _ => True

/-- **A stricter wish has a stricter normal form.** -/
theorem noLaxer_normalize {f : WalkField} {v w : f.Value} (h : f.NoLaxer v w) :
    f.NoLaxer (f.normalize v) (f.normalize w) := by
  cases f with
  | minimalWidth => exact Units.length_mono h
  | ressautMin | ressautMax => exact Units.height_mono h
  | maximalIncline => exact Units.abs_incline_mono h
  | reluctedSurfaces =>
    intro s hs
    obtain ⟨hall, hv⟩ := List.mem_filter.1 hs
    have hw := h s (List.contains_iff_mem.1 hv)
    exact List.mem_filter.2 ⟨hall, List.contains_iff_mem.2 hw⟩
  | _ => exact h

end WalkField

namespace WalkPreferences

variable {p q : WalkPreferences}

/-- **A breach stays one** for a walker who is no laxer. -/
theorem breaches_of_noLaxer (h : ∀ f : WalkField, f.NoLaxer (p.get f) (q.get f)) {s : Slot} {v : s.Payload}
    (hv : p.breaches s v = true) : q.breaches s v = true := by
  cases s with
  | width => exact Binary64.less_of_less_of_atMost hv (h .minimalWidth)
  | lit => exact missed_of_missed id (h .lightRequired) hv
  | surface => exact List.contains_iff_mem.2 (h .reluctedSurfaces v (List.contains_iff_mem.1 hv))
  | tactilePaving => exact missed_of_missed id (h .tactilePavingRequired) hv
  | smoothness => exact decide_eq_true ((h .reluctedSmoothness).trans_lt (of_decide_eq_true hv))
  | highway =>
    obtain ⟨hsteps, hflag⟩ := Bool.and_eq_true_iff.1 hv
    exact Bool.and_eq_true_iff.2 ⟨hsteps, h .reluctanceOnHighway hflag⟩
  | footway | travHTrt => cases hv
  | incline => cases v with
    | direction => cases hv
    | percent x => exact Binary64.less_of_atMost_of_less (h .maximalIncline) hv
  | ressautMax => exact Binary64.less_of_atMost_of_less (h .ressautMax) hv
  | ressautMin => exact Binary64.less_of_less_of_atMost hv (h .ressautMin)
  | bevEtat => exact decide_eq_true ((h .bevEtat).trans_lt (of_decide_eq_true hv))
  | bevCtrast => exact missed_of_missed id (h .bevCtrastRequired) hv

/-- **No edge is easier for a walker who is no laxer**, the base being no smaller either. -/
theorem edgeReluctance_le_of_noLaxer {tables : ImpactTables} (hp : tables.table? (p.get .accessibilityProfile) = none)
    (hq : tables.table? (q.get .accessibilityProfile) = none) (h : ∀ f : WalkField, f.NoLaxer (p.get f) (q.get f))
    (hzero : (0 : Binary64).atMost (p.get .reluctance) = true)
    (hbase : Binary64.atMost (p.get .reluctance) (q.get .reluctance) = true) (sheet : Sheet) :
    (p.edgeReluctance tables sheet).atMost (q.edgeReluctance tables sheet) = true := by
  refine edgeReluctance_le_of_factors (fun s => factorAt_le_of_rel ?_) hzero hbase
  cases sheet.get s with
  | none => exact .none
  | some v => exact .some (factor_le_of_breaches hp hq (breaches_of_noLaxer h))

end WalkPreferences

namespace WalkBuilder

/-- what a builder hands out scores an edge as the normal form of its values does -/
theorem rank?_edgeReluctance_build (b : WalkBuilder) (serial : Nat) (tables : ImpactTables) (sheet : Sheet) :
    ((b.build serial).value.edgeReluctance tables sheet).rank? =
      (b.values.normalized.edgeReluctance tables sheet).rank? :=
  (WalkPreferences.rank?_edgeReluctance_congr (b.same_build serial) tables sheet).symm

/-- **Stricter requests never make an edge cheaper.** For two builders with no profile and one raw reluctance, a
number, where the second has a value that asks for at least as much in every threshold: what the second builds finds
no edge easier than what the first builds, whatever is known about the edge. -/
theorem edgeReluctance_stricter {b c : WalkBuilder} (hb : b.values.get .accessibilityProfile = Profile.none)
    (hc : c.values.get .accessibilityProfile = Profile.none)
    (hbase : Binary64.equals (b.values.get .reluctance) (c.values.get .reluctance) = true)
    (h : ∀ f : WalkField, f.NoLaxer (b.values.get f) (c.values.get f)) (serial serial' : Nat) (tables : ImpactTables)
    (sheet : Sheet) :
    ((b.build serial).value.edgeReluctance tables sheet).atMost ((c.build serial').value.edgeReluctance tables sheet) =
      true := by
  have hzero : (0 : Binary64).atMost (b.values.normalized.get .reluctance) = true :=
    Units.zero_atMost_reluctance (Binary64.equals_iff.1 hbase).2
  have hnormal : Binary64.atMost (b.values.normalized.get .reluctance) (c.values.normalized.get .reluctance) = true :=
    Units.reluctance_mono (Binary64.atMost_of_equals hbase)
  have hbtable : tables.table? (b.values.normalized.get .accessibilityProfile) = none := tables.table?_eq_none hb
  have hctable : tables.table? (c.values.normalized.get .accessibilityProfile) = none := tables.table?_eq_none hc
  have hfields (f : WalkField) : f.NoLaxer (b.values.normalized.get f) (c.values.normalized.get f) :=
    WalkField.noLaxer_normalize (h f)
  rw [Binary64.atMost_congr (rank?_edgeReluctance_build b serial tables sheet)
    (rank?_edgeReluctance_build c serial' tables sheet)]
  exact WalkPreferences.edgeReluctance_le_of_noLaxer hbtable hctable hfields hzero hnormal sheet

/-- a walker who wants some room, no steep slope upwards, and no gravel -/
def modest : WalkBuilder :=
  [Request.field .minimalWidth (0.8501 : Binary64), .field .maximalIncline (6.006 : Binary64),
    .field .reluctedSurfaces [Surface.gravel], .field .ressautMax (0.03 : Binary64)].foldl take .start

/-- one who wants more of everything, and light, with the limit for slopes given as one for slopes downwards -/
def exacting : WalkBuilder :=
  [Request.field .minimalWidth (0.9 : Binary64), .field .maximalIncline (-6.004 : Binary64), .field .lightRequired true,
    .field .reluctedSurfaces [Surface.sand, Surface.gravel], .field .ressautMax (0.0299 : Binary64),
    .field .reluctedSmoothness Smoothness.good].foldl take .start

/-- a back street, for the one and for the other -/
theorem edgeReluctance_exacting :
    modest.values.get .accessibilityProfile = Profile.none ∧ exacting.values.get .accessibilityProfile = Profile.none ∧
      Binary64.equals (modest.values.get .reluctance) (exacting.values.get .reluctance) = true ∧
      (∀ f : WalkField, f.NoLaxer (modest.values.get f) (exacting.values.get f)) ∧
      ((modest.build 1).value.edgeReluctance .standard SharedPreferences.backStreet).atMost
        ((exacting.build 2).value.edgeReluctance .standard SharedPreferences.backStreet) = true := by
  have hmodest : modest.values.get .accessibilityProfile = Profile.none := by decide +kernel
  have hexacting : exacting.values.get .accessibilityProfile = Profile.none := by decide +kernel
  have hbase : Binary64.equals (modest.values.get .reluctance) (exacting.values.get .reluctance) = true := by
    decide +kernel
  have hnolaxer (f : WalkField) : f.NoLaxer (modest.values.get f) (exacting.values.get f) := by
    cases f with
    | minimalWidth | ressautMin | ressautMax | maximalIncline | reluctedSmoothness | bevEtat | lightRequired
    | tactilePavingRequired | bevCtrastRequired | reluctanceOnHighway => unfold WalkField.NoLaxer; decide +kernel
    | reluctedSurfaces =>
      have hfirst : modest.values.get .reluctedSurfaces = [Surface.gravel] := by decide +kernel
      have hsecond : exacting.values.get .reluctedSurfaces = [Surface.gravel, Surface.sand] := by decide +kernel
      unfold WalkField.NoLaxer
      rw [hfirst, hsecond]
      decide
    | _ => trivial
  exact ⟨hmodest, hexacting, hbase, hnolaxer, edgeReluctance_stricter hmodest hexacting hbase hnolaxer 1 2 _ _⟩

end WalkBuilder

end AccessibleWalk
