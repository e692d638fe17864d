/-
Finite configurations. A number of a document is finite once it has been read, so a configuration that is decoded has
finite numbers everywhere, be its sections records or lists, and its cost has 64 bits.

- `isFinite_ofInt`: integers that documents hold are finite numbers.
- `Setting.decode_gives`: what is decoded for a field of walking preferences can be stored.
- `RoutingConfig.decode_gives`: what is decoded from a fit document can be stored.
-/
import AccessibleWalk.Proofs.Document.Record
import AccessibleWalk.Proofs.Number.Scaling
import AccessibleWalk.Routing.Config

namespace AccessibleWalk

namespace Setting

/-- numbers are finite -/
def isFinite : (k : Setting) → k.Value → Bool
  | .number, x => Binary64.isFinite x
  | _, _ => true

/-- costs have 64 bits with a sign -/
def isSized : (k : Setting) → k.Value → Bool
  | .cost, i => decide (-0x8000000000000000 ≤ (i : Int) ∧ (i : Int) ≤ 0x7FFFFFFFFFFFFFFF)
  | _, _ => true

end Setting

/-- all numbers of a configuration are finite, as those of a JSON document are -/
structure RoutingConfig.Finite (config : RoutingConfig) : Prop where
  walk : ∀ (f : WalkField) (v : f.Value), config.walk.get f = some v → f.setting.isFinite v = true
  bike : config.bike.reluctance.isFinite = true ∧ config.bike.walkingReluctance.isFinite = true
  car : config.car.reluctance.isFinite = true
  wheelchair : config.wheelchair.inaccessibleStreetReluctance.isFinite = true ∧
    config.wheelchair.stairsReluctance.isFinite = true ∧ config.wheelchair.maxSlope.isFinite = true ∧
    config.wheelchair.slopeExceededReluctance.isFinite = true

/-- a cost that is set has the 64 bits that the program keeps it in -/
def WalkConfig.Sized (c : WalkConfig) : Prop :=
  ∀ (f : WalkField) (v : f.Value), c.get f = some v → f.setting.isSized v = true

/-- a finite configuration whose cost has its 64 bits -/
structure RoutingConfig.Storable (config : RoutingConfig) : Prop extends config.Finite where
  sized : config.walk.Sized

/-! ## Single values -/

theorem Binary64.isFinite_ofInt {i : Int} (hi : i.natAbs ≤ 2 ^ 64) : (ofInt i).isFinite = true := by
  have hpower : (Magnitude.ofNat (2 ^ 64)).isFinite = true := by decide +kernel
  refine Magnitude.isFinite_of_code_le ?_ hpower
  exact Magnitude.code_nearest_mono Nat.one_pos Nat.one_pos
    (Nat.mul_le_mul_right 1 (Nat.mul_le_mul_right Magnitude.quantaPerUnit hi))

namespace Decode

theorem number_gives : Gives number fun x => x.isFinite = true := by
  intro dialect d x hd h
  cases d with
  | integer i =>
    cases h
    have hi : -0x8000000000000000 ≤ i ∧ i ≤ 0xFFFFFFFFFFFFFFFF := by simpa [Document.leaves, Document.isFit] using hd
    exact Binary64.isFinite_ofInt (by omega)
  | real y =>
    cases h
    simpa [Document.leaves, Document.isFit] using hd
  | _ => cases h

theorem integer_gives : Gives integer fun i => -0x8000000000000000 ≤ i ∧ i ≤ 0x7FFFFFFFFFFFFFFF := by
  intro dialect d i hd h
  cases d with
  | integer j =>
    simp only [integer] at h
    split at h
    · next hj =>
      cases h
      exact hj
    · cases h
  | _ => cases h

theorem optional_gives {α : Type} {decode : Decoder α} {fine : α → Prop} (hdecode : Gives decode fine) :
    Gives (optional decode) fun v => ∀ x ∈ v, fine x := by
  intro dialect d v hd h
  by_cases hnull : d = .null
  · subst hnull
    cases h
    simp
  · rw [optional_of_ne_null decode hnull] at h
    obtain ⟨x, hx, rfl⟩ := map_eq_ok h
    simpa using hdecode hd hx

end Decode

theorem Setting.decode_gives (k : Setting) :
    Decode.Gives k.decode fun v => k.isFinite v = true ∧ k.isSized v = true := by
  cases k with
  | number =>
    intro dialect d x hd h
    exact ⟨Decode.number_gives hd h, rfl⟩
  | cost =>
    intro dialect d i hd h
    exact ⟨rfl, decide_eq_true (Decode.integer_gives hd h)⟩
  | _ =>
    intro dialect d v hd h
    exact ⟨rfl, rfl⟩

/-! ## Sections -/

open Decode (Gives Field record_keeps number_gives)

/-- a value that is put into a configuration has been decoded, and the others stay -/
theorem WalkConfig.decode_gives :
    Gives decode fun c =>
      ∀ (f : WalkField) (v : f.Value), c.get f = some v → f.setting.isFinite v = true ∧ f.setting.isSized v = true := by
  refine record_keeps (fun field hfield => ?_) ?_
  swap
  · intro f v hv
    cases hv
  obtain ⟨f, -, rfl⟩ := List.mem_map.1 hfield
  refine Field.of_keeps (Decode.optional_gives f.setting.decode_gives) fun v c hv hc k w hw => ?_
  by_cases hk : f = k
  · subst hk
    rw [get_put_self] at hw
    exact hv w hw
  · rw [get_put_of_ne hk] at hw
    exact hc k w hw

theorem BikePreferences.decode_gives :
    Gives decode fun p => p.reluctance.isFinite = true ∧ p.walkingReluctance.isFinite = true := by
  refine record_keeps ?_ (by decide +kernel)
  simp only [fields, List.mem_cons, List.not_mem_nil, or_false, forall_eq_or_imp, forall_eq]
  constructor
  · exact Field.of_keeps number_gives fun x p hx hp => ⟨hx, hp.2⟩
  · exact Field.of_keeps number_gives fun x p hx hp => ⟨hp.1, hx⟩

theorem CarPreferences.decode_gives : Gives decode fun p => p.reluctance.isFinite = true := by
  refine record_keeps ?_ (by decide +kernel)
  simp only [fields, List.mem_cons, List.not_mem_nil, or_false, forall_eq]
  exact Field.of_keeps number_gives fun x p hx hp => hx

theorem WheelchairPreferences.decode_gives :
    Gives decode fun p => p.inaccessibleStreetReluctance.isFinite = true ∧ p.stairsReluctance.isFinite = true ∧
      p.maxSlope.isFinite = true ∧ p.slopeExceededReluctance.isFinite = true := by
  refine record_keeps ?_ (by decide +kernel)
  simp only [fields, List.mem_cons, List.not_mem_nil, or_false, forall_eq_or_imp, forall_eq]
  refine ⟨?_, ?_, ?_, ?_⟩
  · exact Field.of_keeps number_gives fun x p hx hp => ⟨hx, hp.2⟩
  · exact Field.of_keeps number_gives fun x p hx hp => ⟨hp.1, hx, hp.2.2⟩
  · exact Field.of_keeps number_gives fun x p hx hp => ⟨hp.1, hp.2.1, hx, hp.2.2.2⟩
  · exact Field.of_keeps number_gives fun x p hx hp => ⟨hp.1, hp.2.1, hp.2.2.1, hx⟩

/-- **What is decoded from a fit document can be stored.** -/
theorem RoutingConfig.decode_gives : Gives decode Storable := by
  have hdefault : Storable {} := by
    refine ⟨⟨fun f v hv => ?_, by decide +kernel, by decide +kernel, by decide +kernel⟩, fun f v hv => ?_⟩
    · cases hv
    · cases hv
  refine record_keeps ?_ hdefault
  simp only [fields, List.mem_cons, List.not_mem_nil, or_false, forall_eq_or_imp, forall_eq]
  refine ⟨?_, ?_, ?_, ?_⟩
  · refine Field.of_keeps WalkConfig.decode_gives fun walk c hwalk hc => ?_
    exact ⟨⟨fun f v hv => (hwalk f v hv).1, hc.bike, hc.car, hc.wheelchair⟩, fun f v hv => (hwalk f v hv).2⟩
  · exact Field.of_keeps BikePreferences.decode_gives fun bike c hbike hc => { hc with bike := hbike }
  · exact Field.of_keeps CarPreferences.decode_gives fun car c hcar hc => { hc with car := hcar }
  · exact Field.of_keeps WheelchairPreferences.decode_gives fun wheelchair c hwheelchair hc =>
      { hc with wheelchair := hwheelchair }

end AccessibleWalk
