/-
What an import takes from a way, slot by slot. A slot is filled with what its tag holds and nothing else counts, so the
facts of a way are known as soon as it is known what each tag holds.

- `importSlot_cases`: all that one step can do.
- `get_importSlot_of_ne`: a slot's tag reaches no other slot.
- `foldlM_of_fills`: the slots of a run are filled with what each step fills an empty slot with.
- `sheet_of_reads`: tags that hold the facts of a sheet, slot by slot, are read as this sheet.
-/
import AccessibleWalk.Proofs.Text.Plain
import AccessibleWalk.Way.Import

namespace AccessibleWalk

theorem Sheet.put_none_of_empty {sheet : Sheet} {s : Slot} (h : sheet.get s = none) : sheet.put s none = sheet := by
  ext1
  funext k
  by_cases hk : s = k
  · subst hk; rw [get_put_self, h]
  · rw [get_put_of_ne hk]

theorem Tag.parse_eq {α : Type} [TagValue α] (raw : String) :
    (Tag.parse raw : Except TagError (Option α)) =
      if (Text.trim raw).isEmpty then .ok none else TagValue.read (Text.trim raw) := rfl

namespace WayTags

/-! ## Steps -/

@[simp] theorem get?_key (tags : WayTags) (s : Slot) : tags.get? s.key = tags.byKey.find? s.key := by
  rw [get?, Slot.lower_key]

/-- what the tag of a slot holds; no tag holds nothing -/
def read (tags : WayTags) (s : Slot) : Except TagError (Option s.Payload) :=
  match tags.byKey.find? s.key with
  | some raw => s.content.ofWayTag raw
  | none => .ok none

theorem read_of_find? {tags : WayTags} {s : Slot} {raw : String} (h : tags.byKey.find? s.key = some raw) :
    tags.read s = s.content.ofWayTag raw := by
  rw [read, h]

theorem read_of_absent {tags : WayTags} {s : Slot} (h : tags.byKey.find? s.key = none) : tags.read s = .ok none := by
  rw [read, h]

/-- a step of an import depends on what the tag of its slot holds -/
theorem importSlot_eq_read (tags : WayTags) (lenient : Bool) (sheet : Sheet) (s : Slot) :
    tags.importSlot lenient sheet s =
      match tags.read s with
      | .ok (some v) => .ok (sheet.put s (some v))
      | .ok none => .ok sheet
      | .error e => if lenient then .ok sheet else .error e := by
  unfold importSlot read
  rw [get?_key]
  cases tags.byKey.find? s.key <;> rfl

/-- **A step of an import** fills its slot with what the tag holds, or changes nothing. -/
theorem importSlot_cases {tags : WayTags} {lenient : Bool} {sheet sheet' : Sheet} {s : Slot}
    (h : tags.importSlot lenient sheet s = .ok sheet') :
    (∃ v : s.Payload, tags.read s = .ok (some v) ∧ sheet' = sheet.put s (some v)) ∨ sheet' = sheet := by
  rw [importSlot_eq_read] at h
  cases hread : tags.read s with
  | ok value =>
    rw [hread] at h
    cases value with
    | some v => exact .inl ⟨v, rfl, (Except.ok.inj h).symm⟩
    | none => exact .inr (Except.ok.inj h).symm
  | error e =>
    rw [hread] at h
    cases lenient with
    | true => exact .inr (Except.ok.inj h).symm
    | false => cases h

/-- **A slot's tag reaches no other slot.** -/
theorem get_importSlot_of_ne {tags : WayTags} {lenient : Bool} {sheet sheet' : Sheet} {s k : Slot} (h : s ≠ k)
    (hs : tags.importSlot lenient sheet s = .ok sheet') : sheet'.get k = sheet.get k := by
  rcases importSlot_cases hs with ⟨v, -, rfl⟩ | rfl
  · exact Sheet.get_put_of_ne h sheet _
  · rfl

/-! ## Runs -/

/-- **The facts of a way come from the tags of the slots alone.** -/
theorem sheet_congr {tags tags' : WayTags} (h : ∀ s : Slot, tags.read s = tags'.read s) (lenient : Bool) :
    tags.sheet lenient = tags'.sheet lenient := by
  have hstep : tags.importSlot lenient = tags'.importSlot lenient := by
    funext sheet s
    rw [importSlot_eq_read, importSlot_eq_read, h s]
  rw [sheet, sheet, hstep]

/-- a step fills an empty slot with what its tag holds -/
theorem importSlot_of_read {tags : WayTags} {s : Slot} {value : Option s.Payload} (h : tags.read s = .ok value)
    (lenient : Bool) {sheet : Sheet} (hempty : sheet.get s = none) :
    tags.importSlot lenient sheet s = .ok (sheet.put s value) := by
  rw [importSlot_eq_read, h]
  cases value with
  | some v => rfl
  | none => rw [Sheet.put_none_of_empty hempty]

/-- slots that are visited once are filled with these facts if every step does so with an empty slot -/
theorem foldlM_of_fills {tags : WayTags} {facts : Sheet} {lenient : Bool} {slots : List Slot}
    (fills : ∀ s ∈ slots, ∀ sheet : Sheet, sheet.get s = none →
      tags.importSlot lenient sheet s = .ok (sheet.put s (facts.get s)))
    (hnodup : slots.Nodup) (sheet : Sheet) (hempty : ∀ s ∈ slots, sheet.get s = none) :
    slots.foldlM (tags.importSlot lenient) sheet = .ok ⟨fun k => if k ∈ slots then facts.get k else sheet.get k⟩ := by
  induction slots generalizing sheet with
  | nil => simp [pure, Except.pure]
  | cons s rest ih =>
    obtain ⟨hs, hrest⟩ := List.nodup_cons.1 hnodup
    have hempty' (k : Slot) (hk : k ∈ rest) : (sheet.put s (facts.get s)).get k = none := by
      have hne : s ≠ k := fun he => hs (he ▸ hk)
      rw [Sheet.get_put_of_ne hne, hempty k (List.mem_cons_of_mem s hk)]
    rw [List.foldlM_cons, fills s List.mem_cons_self sheet (hempty s List.mem_cons_self)]
    have fills' := fun k hk => fills k (List.mem_cons_of_mem s hk)
    refine (ih fills' hrest _ hempty').trans (congrArg Except.ok ?_)
    ext1
    funext k
    by_cases hk : s = k
    · subst hk
      simp [hs]
    · simp [Sheet.get_put_of_ne hk, Ne.symm hk]

/-- all slots are filled with these facts if every step does so with an empty slot -/
theorem sheet_of_fills {tags : WayTags} {facts : Sheet} {lenient : Bool}
    (fills : ∀ (s : Slot) (sheet : Sheet), sheet.get s = none →
      tags.importSlot lenient sheet s = .ok (sheet.put s (facts.get s))) : tags.sheet lenient = .ok facts := by
  rw [sheet, foldlM_of_fills (fun s _ => fills s) Slot.all_nodup Sheet.empty fun _ _ => rfl]
  simp [Slot.mem_all]

/-- **Tags that hold these facts are read as these facts**, by a strict and by a lenient import. -/
theorem sheet_of_reads {tags : WayTags} {facts : Sheet} (h : ∀ s : Slot, tags.read s = .ok (facts.get s))
    (lenient : Bool) : tags.sheet lenient = .ok facts :=
  sheet_of_fills fun s _ => importSlot_of_read (h s) lenient

end WayTags

end AccessibleWalk
