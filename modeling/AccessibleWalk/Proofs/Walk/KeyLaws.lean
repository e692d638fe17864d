/-
Preferences as keys of a hash table. Equality is agreement in every field and nothing else, so it is an equivalence;
and a hasher is fed with the same values by two preferences exactly if they are equal, so equal keys never part and
keys that differ never feed alike.

- `Setting.same_iff_agrees`: what it means that two values agree.
- `Setting.hashed_append_iff`: what a value feeds is told from what comes after it. Most kinds feed one value;
  surfaces feed as many as there are, which is why their number comes first.
- `flatMap_hashed_iff`: a run over fields, by induction on them.
- `key_laws`: the laws together.
-/
import AccessibleWalk.Proofs.Walk.Rebuild

namespace AccessibleWalk

/-! ## Values -/

namespace Setting

/-- the same value; zeros agree whatever their signs, and all not-a-numbers are one value anyway -/
def Agrees : (k : Setting) → k.Value → k.Value → Prop
  | .number, x, y => x = y ∨ (∃ n, x = Binary64.signed n .zero) ∧ ∃ n, y = Binary64.signed n .zero
  | _, v, w => v = w

theorem same_iff_agrees (k : Setting) (v w : k.Value) : k.same v w = true ↔ k.Agrees v w := by
  cases k with
  | number =>
    refine Binary64.same_iff.trans ⟨Binary64.eq_or_zeros, ?_⟩
    rintro (rfl | ⟨⟨n, rfl⟩, m, rfl⟩)
    · rfl
    · rw [Binary64.rank?_zero, Binary64.rank?_zero]
  | _ => exact beq_iff_eq

/-- **What a value feeds** determines the value up to agreement, and where it ends. -/
theorem hashed_append_iff (k : Setting) (v w : k.Value) (rest rest' : List Hashed) :
    k.hashed v ++ rest = k.hashed w ++ rest' ↔ k.same v w = true ∧ rest = rest' := by
  cases k with
  | number => simp [hashed, same, Binary64.same]
  | surfaces =>
    have hsurface : Function.Injective Hashed.surface := fun _ _ => Hashed.surface.inj
    rw [same, beq_iff_eq]
    constructor
    · intro h
      obtain ⟨hlength, hmembers⟩ := List.cons.inj h
      have hsizes : (v.map Hashed.surface).length = (w.map Hashed.surface).length := by
        rw [List.length_map, List.length_map, Hashed.length.inj hlength]
      obtain ⟨hmap, hrest⟩ := List.append_inj hmembers hsizes
      exact ⟨hsurface.list_map hmap, hrest⟩
    · rintro ⟨rfl, rfl⟩
      rfl
  | _ => simp [hashed, same]

end Setting

namespace WalkField

theorem mem_numbers_or_others (f : WalkField) : f ∈ numbers ++ others := by cases f <;> decide

end WalkField

/-! ## Preferences -/

namespace WalkPreferences

variable {p q : WalkPreferences}

/-- fields feed the same if they agree one by one, and only then -/
theorem flatMap_hashed_iff (fields : List WalkField) :
    (fields.flatMap fun f => f.setting.hashed (p.get f)) = (fields.flatMap fun f => f.setting.hashed (q.get f)) ↔
      ∀ f ∈ fields, f.same (p.get f) (q.get f) = true := by
  induction fields with
  | nil => exact iff_of_true rfl nofun
  | cons f rest ih => rw [List.flatMap_cons, List.flatMap_cons, Setting.hashed_append_iff, ih, List.forall_mem_cons]; rfl

/-- **Keys feed the same exactly if they are equal.** -/
theorem hashed_eq_iff : p.hashed = q.hashed ↔ p.same q = true := by
  rw [hashed, hashed, List.cons_inj_right, flatMap_hashed_iff, same_iff]
  exact ⟨fun h f => h f f.mem_numbers_or_others, fun h f _ => h f⟩

/-- equality of keys is equality of what they feed, and so an equivalence -/
theorem same_equivalence : Equivalence fun p q : WalkPreferences => p.same q = true := by
  have hfed : (fun p q : WalkPreferences => p.same q = true) = Function.onFun Eq hashed := by
    funext p q
    exact propext hashed_eq_iff.symm
  rw [hfed]
  exact eq_equivalence.comap hashed

/-- the surfaces that a walker is reluctant to use -/
def surfaces (p : WalkPreferences) : List Surface := p.get .reluctedSurfaces

/-- the surfaces are listed as a set is: once each, in their order -/
def SurfacesOnce (p : WalkPreferences) : Prop := Surface.all.filter p.surfaces.contains = p.surfaces

instance (p : WalkPreferences) : Decidable p.SurfacesOnce := inferInstanceAs (Decidable (_ = _))

/-- sets of surfaces are equal if they have the same members -/
theorem surfaces_agree_iff (hp : p.SurfacesOnce) (hq : q.SurfacesOnce) :
    Setting.Agrees .surfaces p.surfaces q.surfaces ↔ ∀ s, s ∈ p.surfaces ↔ s ∈ q.surfaces := by
  constructor
  · intro h s
    rw [show p.surfaces = q.surfaces from h]
  · intro h
    exact hp.symm.trans ((WalkField.normalize_surfaces_congr h).trans hq)

/-- **The laws of a key.** Equality is an equivalence; it is agreement in all fields, where surfaces agree if they are
the same set; and keys feed a hasher the same exactly if they are equal. -/
theorem key_laws :
    (Equivalence fun p q : WalkPreferences => p.same q = true) ∧
      (∀ p q : WalkPreferences, p.same q = true ↔ ∀ f : WalkField, f.setting.Agrees (p.get f) (q.get f)) ∧
      (∀ p q : WalkPreferences, p.SurfacesOnce → q.SurfacesOnce →
        (Setting.Agrees .surfaces p.surfaces q.surfaces ↔ ∀ s, s ∈ p.surfaces ↔ s ∈ q.surfaces)) ∧
      ∀ p q : WalkPreferences, p.hashed = q.hashed ↔ p.same q = true := by
  refine ⟨same_equivalence, fun p q => ?_, fun p q => surfaces_agree_iff, fun p q => hashed_eq_iff⟩
  exact same_iff.trans (forall_congr' fun f => f.setting.same_iff_agrees _ _)

/-- a walker with two surfaces, an incline that is no number, and a zero of either sign -/
def wary (negative : Bool) : WalkPreferences :=
  ((default.put .minimalWidth (Binary64.signed negative .zero)).put .maximalIncline Binary64.nan).put .reluctedSurfaces
    [.cobblestone, .sand]

/-- two spellings of one key: not the same numbers, and yet equal keys that feed the same -/
theorem key_laws_wary :
    (wary true).SurfacesOnce ∧ (wary false).SurfacesOnce ∧
      (wary true).get .minimalWidth ≠ (wary false).get .minimalWidth ∧
      (wary true).same (wary false) = true ∧ (wary true).hashed = (wary false).hashed ∧
      ∀ s, s ∈ (wary true).surfaces ↔ s ∈ (wary false).surfaces := by
  have hsame : (wary true).same (wary false) = true := by decide +kernel
  have honce : ∀ negative, (wary negative).SurfacesOnce := by decide
  have hagree := (key_laws.2.1 _ _).1 hsame .reluctedSurfaces
  refine ⟨honce true, honce false, by decide, hsame, (key_laws.2.2.2 _ _).2 hsame, ?_⟩
  exact (key_laws.2.2.1 _ _ (honce true) (honce false)).1 hagree

end WalkPreferences

end AccessibleWalk
