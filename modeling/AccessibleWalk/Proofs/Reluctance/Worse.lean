/-
Worse edges. Of two edges with the same slots filled, one that is no better in any slot is no cheaper, by thresholds
and by the standards alike: narrower, steeper, rougher, with higher curbs or without light, all at once and by any
amount.

- `breaches_of_noBetter`: what breaches a threshold still does when it gets worse.
- `edgeReluctance_le_of_noBetter`: facts that do not lower their factors do not lower the reluctance.
- `edgeReluctance_worsens`: the three ways to score an edge. The standard for reduced mobility has two exceptions,
  widths that are taken for tagging errors and curbs that cannot be felt.
-/
import AccessibleWalk.Proofs.Impact.Order
import AccessibleWalk.Proofs.Reluctance.Factors

namespace AccessibleWalk

open Binary64 (nan)

namespace Sheet

/-- the same slots are filled, and no fact of the second edge is better -/
def NoBetter (a b : Sheet) : Prop := ∀ s : Slot, Option.Rel s.NoBetter (a.get s) (b.get s)

/-- no fact is among the exceptions of the standard for reduced mobility -/
def Plausible (sheet : Sheet) : Prop := ∀ (s : Slot) (v : s.Payload), sheet.get s = some v → s.Plausible v

end Sheet

namespace WalkPreferences

variable {walk : WalkPreferences} {tables : ImpactTables} {a b : Sheet}

/-- what is missed does not come back when things get worse, and when more is required -/
theorem missed_of_missed {there still required required' : Bool} (h : still = true → there = true)
    (hmore : required = true → required' = true) (hmissed : (!there && required) = true) :
    (!still && required') = true := by
  cases still with
  | false => exact hmore (Bool.and_eq_true_iff.1 hmissed).2
  | true =>
    rw [h rfl] at hmissed
    cases hmissed

/-- **A breach stays one** when the fact gets worse. -/
theorem breaches_of_noBetter {s : Slot} {v w : s.Payload} (h : s.NoBetter v w) (hv : walk.breaches s v = true) :
    walk.breaches s w = true := by
  cases s with
  | width => exact Binary64.less_of_atMost_of_less h hv
  | lit | tactilePaving | bevCtrast => exact missed_of_missed h id hv
  | surface | highway => rw [← eq_of_beq h]; exact hv
  | smoothness | bevEtat => exact decide_eq_true ((of_decide_eq_true hv).trans_le h)
  | footway | travHTrt => cases hv
  | incline =>
    rcases Slot.incline_cases h with ⟨d, rfl, rfl⟩ | ⟨p, q, rfl, rfl, hpq⟩
    · cases hv
    · exact Binary64.less_of_less_of_atMost hv hpq
  | ressautMax => exact Binary64.less_of_less_of_atMost hv h
  | ressautMin => exact Binary64.less_of_atMost_of_less h hv

theorem factor_of_no_table (h : tables.table? (walk.get .accessibilityProfile) = none) (p : Property) :
    walk.factor tables p = if walk.breachedBy p then 2 else 1 := by
  rw [factor, h]

theorem factor_of_table {table : ImpactTable} (h : tables.table? (walk.get .accessibilityProfile) = some table)
    (p : Property) : walk.factor tables p = (table.classify p).number := by
  rw [factor, h]

/-- more breaches, larger factor -/
theorem factor_le_of_breaches {walk' : WalkPreferences} {p p' : Property}
    (hprofile : tables.table? (walk.get .accessibilityProfile) = none)
    (hprofile' : tables.table? (walk'.get .accessibilityProfile) = none)
    (h : walk.breachedBy p = true → walk'.breachedBy p' = true) : walk.factor tables p ≤ walk'.factor tables p' := by
  rw [factor_of_no_table hprofile, factor_of_no_table hprofile']
  split_ifs with hbreach hbreach'
  · exact le_rfl
  · exact absurd (h hbreach) hbreach'
  · decide
  · exact le_rfl

/-- **An edge that is no better is no cheaper**, if its facts have no smaller factors. -/
theorem edgeReluctance_le_of_noBetter (hzero : (0 : Binary64).atMost (walk.get .reluctance) = true) (hab : a.NoBetter b)
    (hfactor : ∀ (s : Slot) (v w : s.Payload), a.get s = some v → b.get s = some w → s.NoBetter v w →
      walk.factor tables ⟨s, v⟩ ≤ walk.factor tables ⟨s, w⟩) :
    (walk.edgeReluctance tables a).atMost (walk.edgeReluctance tables b) = true := by
  have hself : Binary64.atMost (walk.get .reluctance) (walk.get .reluctance) = true :=
    Binary64.atMost_refl (Binary64.zero_atMost_iff.1 hzero).2
  refine edgeReluctance_le_of_factors (fun s => factorAt_le_of_rel ?_) hzero hself
  have hs := hab s
  have hstep := hfactor s
  generalize a.get s = first, b.get s = second at hs hstep ⊢
  cases hs with
  | none => exact .none
  | some hvw => exact .some (hstep _ _ rfl rfl hvw)

end WalkPreferences

namespace SharedPreferences

/-- **A worse edge is never cheaper.** For preferences that come out of a builder and have a number as their
reluctance: an edge with the same slots filled, no fact of which is better, has no smaller reluctance, neither by
thresholds nor for a wheelchair user. For reduced mobility this holds where the two exceptions of the standard do not
apply to either edge. -/
theorem edgeReluctance_worsens {p : SharedPreferences} (hp : p.Reachable) (hnumber : p.value.get .reluctance ≠ nan)
    {a b : Sheet} (hab : a.NoBetter b) :
    (p.value.get .accessibilityProfile = Profile.none → ∀ tables : ImpactTables,
      (p.value.edgeReluctance tables a).atMost (p.value.edgeReluctance tables b) = true) ∧
    (p.value.get .accessibilityProfile = Profile.ufr →
      (p.value.edgeReluctance .standard a).atMost (p.value.edgeReluctance .standard b) = true) ∧
    (p.value.get .accessibilityProfile = Profile.pam → a.Plausible → b.Plausible →
      (p.value.edgeReluctance .standard a).atMost (p.value.edgeReluctance .standard b) = true) := by
  have hzero := hp.zero_atMost_reluctance hnumber
  refine ⟨fun hprofile tables => ?_, fun hprofile => ?_, fun hprofile ha hb => ?_⟩
  · have htable := tables.table?_eq_none hprofile
    refine WalkPreferences.edgeReluctance_le_of_noBetter hzero hab fun s v w _ _ hvw => ?_
    exact WalkPreferences.factor_le_of_breaches htable htable (WalkPreferences.breaches_of_noBetter hvw)
  · have htable : ImpactTables.standard.table? (p.value.get .accessibilityProfile) = some Ufr.table := by
      rw [hprofile]; rfl
    refine WalkPreferences.edgeReluctance_le_of_noBetter hzero hab fun s v w _ _ hvw => ?_
    rw [WalkPreferences.factor_of_table htable, WalkPreferences.factor_of_table htable]
    exact Ufr.classOf_mono hvw
  · have htable : ImpactTables.standard.table? (p.value.get .accessibilityProfile) = some Pam.table := by
      rw [hprofile]; rfl
    refine WalkPreferences.edgeReluctance_le_of_noBetter hzero hab fun s v w hv hw hvw => ?_
    rw [WalkPreferences.factor_of_table htable, WalkPreferences.factor_of_table htable]
    exact Pam.classOf_mono (ha s v hv) (hb s w hw) hvw

/-- a walker with this profile who wants room and light -/
def demanding (profile : Profile) : SharedPreferences :=
  ([Request.field .reluctance (0.1 : Binary64), .field .minimalWidth (1 : Binary64), .field .lightRequired true,
    .field .accessibilityProfile profile].foldl WalkBuilder.handle .start).build 1

/-- a lit street with a gentle slope and low curbs -/
def street : Sheet where
  get
    | .width => some (1.5 : Binary64)
    | .lit => some true
    | .smoothness => some Smoothness.good
    | .incline => some (Incline.percent (-4.5))
    | .ressautMax => some (0.02 : Binary64)
    | _ => none

/-- a dark, narrow, steep and rough one with high curbs -/
def backStreet : Sheet where
  get
    | .width => some (0.85 : Binary64)
    | .lit => some false
    | .smoothness => some Smoothness.veryBad
    | .incline => some (Incline.percent 8)
    | .ressautMax => some (0.05 : Binary64)
    | _ => none

/-- a street and a back street, for all walkers -/
theorem edgeReluctance_backStreet : street.NoBetter backStreet ∧ street.Plausible ∧ backStreet.Plausible ∧
    ∀ profile : Profile, (demanding profile).Reachable ∧ (demanding profile).value.get .reluctance ≠ nan ∧
      ((demanding profile).value.edgeReluctance .standard street).atMost
        ((demanding profile).value.edgeReluctance .standard backStreet) = true := by
  have hworse : street.NoBetter backStreet := by
    intro s
    cases s with
    | width | lit | smoothness | incline | ressautMax => exact .some (by decide +kernel)
    | _ => exact .none
  have hstreet : street.Plausible := by
    intro s v hv
    cases s with
    | width | ressautMax =>
      cases hv
      decide +kernel
    | _ => trivial
  have hback : backStreet.Plausible := by
    intro s v hv
    cases s with
    | width | ressautMax =>
      cases hv
      decide +kernel
    | _ => trivial
  refine ⟨hworse, hstreet, hback, fun profile => ?_⟩
  have hreachable : (demanding profile).Reachable := .build .default _ 1
  have hnumber : (demanding profile).value.get .reluctance ≠ nan := by cases profile <;> decide +kernel
  obtain ⟨hnone, hufr, hpam⟩ := edgeReluctance_worsens hreachable hnumber hworse
  refine ⟨hreachable, hnumber, ?_⟩
  cases profile with
  | none => exact hnone (by decide +kernel) .standard
  | pam => exact hpam (by decide +kernel) hstreet hback
  | ufr => exact hufr (by decide +kernel)

end SharedPreferences

end AccessibleWalk
