/-
Building without changes. Preferences that come out of builders, however many, have all their fields in normal form.
So a builder that copies them and is asked for nothing new hands the copied ones back, and callers keep sharing them.

- `Reachable`: what comes out of builders, starting from the shared defaults.
- `WalkField.same_normalize_iff`: normal forms agree with their own normal forms, but for lengths, inclines and
  heights that slip.
- `rebuild_eq_iff`: copying preferences and restating what they say hands them back, exactly if no field slips.
-/
import AccessibleWalk.Proofs.Reluctance.CacheKey
import AccessibleWalk.Proofs.Walk.Normalizing
import AccessibleWalk.Walk.Builder

namespace AccessibleWalk

/-! ## Normal forms -/

namespace Setting

theorem same_refl (k : Setting) (v : k.Value) : k.same v v = true := by
  cases k with
  | number => exact Binary64.same_iff.2 rfl
  | _ => exact beq_self_eq_true v

end Setting

namespace Units

/-- keeping decimals keeps the sign, so it changes a number only to one that differs from it -/
theorem same_roundTo_iff {decimals : Nat} (hbits : 10 ^ decimals < 2 ^ 53) (x : Binary64) :
    (roundTo decimals x).same x = true ↔ roundTo decimals x = x := by
  refine ⟨fun h => ?_, fun h => by rw [h]; exact Binary64.same_iff.2 rfl⟩
  cases x with
  | nan => rfl
  | signed n m =>
    rw [roundTo_signed hbits] at h ⊢
    have hrank := Binary64.same_iff.1 h
    refine congrArg (Binary64.signed n) (Magnitude.eq_of_code ?_)
    cases n
    · simpa [Binary64.rank?] using hrank
    · simpa [Binary64.rank?] using hrank

theorem same_roundTo_nonNegative_iff {decimals : Nat} (hbits : 10 ^ decimals < 2 ^ 53) (x : Binary64) :
    (roundTo decimals (nonNegative (roundTo decimals (nonNegative x)))).same (roundTo decimals (nonNegative x)) = true ↔
      roundTo decimals (nonNegative (roundTo decimals (nonNegative x))) = roundTo decimals (nonNegative x) := by
  rw [nonNegative_of_notNegative (notNegative_roundTo hbits (notNegative_nonNegative x))]
  exact same_roundTo_iff hbits _

end Units

namespace WalkField

/-- a value that its normal form keeps: lengths, inclines and heights must not slip -/
def Steady : (f : WalkField) → f.Value → Prop
  | .minimalWidth, x => ¬ Binary64.Slips 100 x
  | .maximalIncline, x => ¬ Binary64.Slips 100 x
  | .ressautMax, x => ¬ Binary64.Slips 1000 x
  | .ressautMin, x => ¬ Binary64.Slips 1000 x
  | _, _ => True

instance (f : WalkField) (v : f.Value) : Decidable (f.Steady v) := by
  cases f
  case minimalWidth | maximalIncline => exact inferInstanceAs (Decidable (¬ Binary64.Slips 100 v))
  case ressautMax | ressautMin => exact inferInstanceAs (Decidable (¬ Binary64.Slips 1000 v))
  all_goals exact instDecidableTrue

theorem normalize_default (f : WalkField) : f.normalize f.default = f.default := by
  cases f <;> decide +kernel

theorem normalize_surfaces (l : List Surface) :
    Surface.all.filter (Surface.all.filter l.contains).contains = Surface.all.filter l.contains := by
  refine List.filter_congr fun s hs => ?_
  simp [hs]

/-- the normal form of a list of surfaces is that of the set of its members -/
theorem normalize_surfaces_congr {l m : List Surface} (h : ∀ s, s ∈ l ↔ s ∈ m) :
    Surface.all.filter l.contains = Surface.all.filter m.contains := by
  refine List.filter_congr fun s _ => ?_
  rw [Bool.eq_iff_iff, List.contains_iff_mem, List.contains_iff_mem]
  exact h s

theorem cost_cost (i : Int) : Units.cost (Units.cost i) = Units.cost i := by
  unfold Units.cost
  omega

/-- **Normal forms agree with their own normal forms**, exactly if they are steady. -/
theorem same_normalize_iff (f : WalkField) (v : f.Value) :
    f.same (f.normalize (f.normalize v)) (f.normalize v) = true ↔ f.Steady (f.normalize v) := by
  have kept (h : f.normalize (f.normalize v) = f.normalize v) :
      f.same (f.normalize (f.normalize v)) (f.normalize v) = true := by
    rw [h]
    exact Setting.same_refl _ _
  cases f with
  | speed => exact iff_of_true (kept (Units.speed_speed v)) trivial
  | reluctance | stairsReluctance | stairsTimeFactor => exact iff_of_true (kept (Units.reluctance_reluctance v)) trivial
  | safetyFactor => exact iff_of_true (kept (Units.ratio_ratio v)) trivial
  | boardCost => exact iff_of_true (kept (cost_cost v)) trivial
  | reluctedSurfaces => exact iff_of_true (kept (normalize_surfaces v)) trivial
  | minimalWidth => exact (Units.same_roundTo_nonNegative_iff (by decide) v).trans (Units.length_length_iff v)
  | maximalIncline => exact (Units.same_roundTo_iff (by decide) _).trans (Units.incline_incline_iff v)
  | ressautMax | ressautMin => exact (Units.same_roundTo_nonNegative_iff (by decide) v).trans (Units.height_height_iff v)
  | _ => exact iff_of_true (kept rfl) trivial

end WalkField

/-! ## Builders -/

namespace SharedPreferences

/-- what comes out of builders: the shared defaults, and what is built over such preferences -/
inductive Reachable : SharedPreferences → Prop where
  | default : Reachable default
  | build {basis : SharedPreferences} (h : Reachable basis) (requests : List Request) (serial : Nat) :
      Reachable ((requests.foldl WalkBuilder.handle (.copyOf basis)).build serial)

/-- every field is in normal form -/
def IsNormal (p : SharedPreferences) : Prop := ∀ f : WalkField, ∃ v, p.value.get f = f.normalize v

end SharedPreferences

namespace WalkBuilder

open SharedPreferences

theorem basis_handle (b : WalkBuilder) (r : Request) : (b.handle r).basis = b.basis := by cases r <;> rfl

/-- requests do not touch the basis -/
theorem basis_foldl_handle (requests : List Request) (b : WalkBuilder) : (requests.foldl handle b).basis = b.basis := by
  induction requests generalizing b with
  | nil => rfl
  | cons r requests ih => exact (ih _).trans (b.basis_handle r)

/-- **A build gives normal forms**, whatever was asked of it. -/
theorem isNormal_build {b : WalkBuilder} (h : b.basis.IsNormal) (serial : Nat) : (b.build serial).IsNormal := by
  unfold build
  dsimp only
  split_ifs
  · exact h
  · exact fun f => ⟨_, WalkPreferences.get_normalized b.values f⟩

/-- what comes out of a builder is the basis, exactly if the normal forms agree with it -/
theorem build_eq_basis_iff (b : WalkBuilder) (serial : Nat) :
    b.build serial = b.basis ↔ b.values.normalized.same b.basis.value = true := by
  unfold build
  dsimp only
  split_ifs with h
  · exact iff_of_true rfl h
  · refine iff_of_false (fun he => h ?_) h
    rw [← he]
    exact WalkPreferences.same_iff.2 fun f => Setting.same_refl _ _

end WalkBuilder

/-! ## Requests for nothing new -/

/-- a request for what the preferences say anyway -/
def Request.Restates (p : WalkPreferences) : Request → Prop
  | .field f v => v = p.get f
  | .config c => ∀ (f : WalkField) (v : f.Value), c.get f = some v → v = p.get f

namespace WalkBuilder

theorem handle_restating {b : WalkBuilder} {r : Request} (h : r.Restates b.values) : b.handle r = b := by
  have values (values : WalkPreferences) (hget : ∀ f, values.get f = b.values.get f) :
      { b with values := values } = b := by
    have hvalues : values = b.values := WalkPreferences.ext (funext hget)
    rw [hvalues]
  cases r with
  | field f v =>
    refine values _ fun k => ?_
    by_cases hk : f = k
    · subst hk
      exact (WalkPreferences.get_put_self b.values f v).trans h
    · exact WalkPreferences.get_put_of_ne hk b.values v
  | config c =>
    refine values _ fun k => ?_
    cases hc : c.get k with
    | none => simp [hc]
    | some v => simpa [hc] using h k v hc

/-- **Restating changes nothing**, however often. -/
theorem foldl_handle_restating {b : WalkBuilder} {requests : List Request} (h : ∀ r ∈ requests, r.Restates b.values) :
    requests.foldl handle b = b := by
  induction requests with
  | nil => rfl
  | cons r requests ih =>
    rw [List.foldl_cons, handle_restating (h r List.mem_cons_self)]
    exact ih fun s hs => h s (List.mem_cons_of_mem r hs)

end WalkBuilder

namespace SharedPreferences

/-- **Everything reachable is in normal form.** -/
theorem Reachable.isNormal {p : SharedPreferences} (h : Reachable p) : p.IsNormal := by
  induction h with
  | default => exact fun f => ⟨_, (WalkField.normalize_default f).symm⟩
  | build _ requests serial ih =>
    refine WalkBuilder.isNormal_build ?_ serial
    rw [WalkBuilder.basis_foldl_handle]
    exact ih

/-- **Building without changes hands the original back**, exactly if none of its fields slips. -/
theorem rebuild_eq_iff {p : SharedPreferences} (hp : Reachable p) {requests : List Request}
    (hr : ∀ r ∈ requests, r.Restates p.value) (serial : Nat) :
    (requests.foldl WalkBuilder.handle (.copyOf p)).build serial = p ↔ ∀ f : WalkField, f.Steady (p.value.get f) := by
  rw [WalkBuilder.foldl_handle_restating hr]
  refine (WalkBuilder.build_eq_basis_iff (.copyOf p) serial).trans
    (WalkPreferences.same_iff.trans (forall_congr' fun f => ?_))
  obtain ⟨v, hv⟩ := hp.isNormal f
  show f.same (f.normalize (p.value.get f)) (p.value.get f) = true ↔ _
  rw [hv]
  exact f.same_normalize_iff v

/-- **Normal forms are final, and rebuilding is free**: speeds, factors and shares stay as they are once they are in
normal form, and so do lengths, inclines and heights that do not slip. Preferences that come out of builders are
handed back by a builder that only restates them, exactly if none of their fields slips. -/
theorem rebuild_iff_steady (x : Binary64) {p : SharedPreferences} (hp : Reachable p) {requests : List Request}
    (hr : ∀ r ∈ requests, r.Restates p.value) (serial : Nat) :
    (Units.speed (Units.speed x) = Units.speed x ∧ Units.reluctance (Units.reluctance x) = Units.reluctance x ∧
      Units.ratio (Units.ratio x) = Units.ratio x) ∧
    ((Units.length (Units.length x) = Units.length x ↔ ¬ (Units.length x).Slips 100) ∧
      (Units.incline (Units.incline x) = Units.incline x ↔ ¬ (Units.incline x).Slips 100) ∧
      (Units.height (Units.height x) = Units.height x ↔ ¬ (Units.height x).Slips 1000)) ∧
    ((requests.foldl WalkBuilder.handle (.copyOf p)).build serial = p ↔ ∀ f : WalkField, f.Steady (p.value.get f)) :=
  ⟨⟨Units.speed_speed x, Units.reluctance_reluctance x, Units.ratio_ratio x⟩,
    ⟨Units.length_length_iff x, Units.incline_incline_iff x, Units.height_height_iff x⟩, rebuild_eq_iff hp hr serial⟩

/-- preferences with one field built from this number -/
def withIncline (x : Binary64) : SharedPreferences :=
  ([Request.field .maximalIncline x].foldl WalkBuilder.handle .start).build 1

theorem reachable_withIncline (x : Binary64) : Reachable (withIncline x) := .build .default [.field .maximalIncline x] 1

/-- restating an incline and a speed -/
theorem rebuild_gentle :
    ([Request.field .maximalIncline (6.25 : Binary64),
      .config (WalkConfig.empty.put .speed (some (1.33 : Binary64)))].foldl
      WalkBuilder.handle (.copyOf (withIncline 6.254))).build 2 = withIncline 6.254 := by
  refine (rebuild_iff_steady 6.254 (reachable_withIncline 6.254) ?_ 2).2.2.2 fun f => ?_
  · intro r hr
    rcases List.mem_pair.1 hr with rfl | rfl
    · show (6.25 : Binary64) = (withIncline 6.254).value.get .maximalIncline
      decide +kernel
    · intro f v hv
      by_cases hf : WalkField.speed = f
      · subst hf
        rw [WalkConfig.get_put_self] at hv
        have hspeed : (1.33 : Binary64) = (withIncline 6.254).value.get .speed := by decide +kernel
        exact (Option.some.inj hv).symm.trans hspeed
      · rw [WalkConfig.get_put_of_ne hf] at hv
        exact absurd hv (by simp)
  · cases f <;> decide +kernel

/-- an incline that slips: building it again, asking for nothing, gives other preferences -/
theorem rebuild_drifts : Reachable (withIncline 35200000000000.016) ∧
    (withIncline 35200000000000.016).value.get .maximalIncline = (35200000000000.02 : Binary64) ∧
    ((WalkBuilder.copyOf (withIncline 35200000000000.016)).build 2).value.get .maximalIncline =
      (35200000000000.03 : Binary64) ∧
    (WalkBuilder.copyOf (withIncline 35200000000000.016)).build 2 ≠ withIncline 35200000000000.016 := by
  have hbefore : (withIncline 35200000000000.016).value.get .maximalIncline = (35200000000000.02 : Binary64) := by
    decide +kernel
  have hafter : ((WalkBuilder.copyOf (withIncline 35200000000000.016)).build 2).value.get .maximalIncline =
      (35200000000000.03 : Binary64) := by decide +kernel
  refine ⟨reachable_withIncline _, hbefore, hafter, fun h => ?_⟩
  rw [h, hbefore] at hafter
  exact absurd hafter (by decide +kernel)

end SharedPreferences

end AccessibleWalk
