/-
Importing a way tag by tag. A strict import is a run of single tag readings over the slots: a number, a flag or a slope
is read from its whole tag, a category from the first entry that is one of its labels. What the runs give is equal, the
facts as well as the first failure.

- `importSlot_eq_putEntry`: one step of either run does the same to a slot that is still empty.
- `foldlM_congr_of_empty`: runs whose steps agree on empty slots agree, each slot being visited once.
- `sheet_eq_foldlM_putEntry`: the two runs are equal.
-/
import AccessibleWalk.Proofs.Category.Labels
import AccessibleWalk.Proofs.Way.SlotReads

namespace AccessibleWalk

/-! ## Entries -/

/-- what a slot of this kind is filled from: all of a tag, or the entry that a list of values counts for -/
def Content.listed? : Content → String → Option String
  | .number, raw | .flag, raw | .incline, raw => some raw
  | .surface, raw => Category.firstLabelled? Surface raw
  | .smoothness, raw => Category.firstLabelled? Smoothness raw
  | .highway, raw => Category.firstLabelled? Highway raw
  | .footway, raw => Category.firstLabelled? Footway raw
  | .bevEtat, raw => Category.firstLabelled? BevEtat raw

/-- a category is read from a way's tag as from its entry -/
theorem Category.firstLabel?_eq_entry {α : Type} [Category α] [LawfulCategory α] (raw : String) :
    (.ok (firstLabel? raw) : Except TagError (Option α)) =
      match firstLabelled? α raw with
      | some entry => Tag.parse entry
      | none => .ok none := by
  cases h : firstLabelled? α raw with
  | some entry => exact (parse_firstLabelled h).symm
  | none => rw [firstLabel?_eq_bind, h]; rfl

/-- **A way's tag is read as its entry is.** -/
theorem Content.ofWayTag_eq_entry (c : Content) (raw : String) :
    c.ofWayTag raw =
      match c.listed? raw with
      | some entry => Tag.parse entry
      | none => .ok none := by
  cases c with
  | number => rfl
  | flag => rfl
  | incline => rfl
  | _ => exact Category.firstLabel?_eq_entry raw

theorem Content.ofWayTag_of_no_semicolon {raw : String} (h : ';' ∉ raw.toList) (c : Content) :
    c.ofWayTag raw = Tag.parse raw := by
  cases c with
  | number => rfl
  | flag => rfl
  | incline => rfl
  | _ => exact (Category.firstLabel?_of_no_semicolon h).symm

/-! ## Steps -/

namespace Sheet

/-- a tag put into an empty slot fills it or changes nothing -/
theorem putTag_of_empty {sheet : Sheet} {s : Slot} (h : sheet.get s = none) (raw : String) :
    sheet.putTag s raw =
      match (Tag.parse raw : Except TagError (Option s.Payload)) with
      | .ok (some v) => .ok (sheet.put s (some v))
      | .ok none => .ok sheet
      | .error e => .error e := by
  unfold putTag Property.parse
  cases (Tag.parse raw : Except TagError (Option s.Payload)) with
  | error e => rfl
  | ok v =>
    cases v with
    | some v => rfl
    | none => exact congrArg Except.ok (put_none_of_empty h)

end Sheet

namespace WayTags

/-- puts the entry of a slot's tag into the slot, if there is one -/
def putEntry (tags : WayTags) (sheet : Sheet) (s : Slot) : Except TagError Sheet :=
  match (tags.get? s.key).bind s.content.listed? with
  | some entry => sheet.putTag s entry
  | none => .ok sheet

/-- puts all of a slot's tag into the slot, if there is one -/
def putWhole (tags : WayTags) (sheet : Sheet) (s : Slot) : Except TagError Sheet :=
  match tags.get? s.key with
  | some raw => sheet.putTag s raw
  | none => .ok sheet

theorem importSlot_eq_putEntry (tags : WayTags) {sheet : Sheet} {s : Slot} (h : sheet.get s = none) :
    tags.importSlot false sheet s = tags.putEntry sheet s := by
  unfold importSlot putEntry
  cases tags.get? s.key with
  | none => rfl
  | some raw =>
    simp only [Option.bind_some, Content.ofWayTag_eq_entry]
    cases s.content.listed? raw with
    | none => rfl
    | some entry =>
      simp only [Sheet.putTag_of_empty h]
      cases (Tag.parse entry : Except TagError (Option s.Payload)) with
      | error e => rfl
      | ok v => cases v <;> rfl

theorem importSlot_eq_putWhole {tags : WayTags} {s : Slot} (hs : ∀ raw, tags.get? s.key = some raw → ';' ∉ raw.toList)
    {sheet : Sheet} (h : sheet.get s = none) : tags.importSlot false sheet s = tags.putWhole sheet s := by
  unfold importSlot putWhole
  cases hraw : tags.get? s.key with
  | none => rfl
  | some raw =>
    simp only [Content.ofWayTag_of_no_semicolon (hs raw hraw), Sheet.putTag_of_empty h]
    cases (Tag.parse raw : Except TagError (Option s.Payload)) with
    | error e => rfl
    | ok v => cases v <;> rfl

/-! ## Runs -/

/-- **Runs over distinct slots agree** if their steps agree on slots that are still empty: the slots to come stay empty,
as a step reaches no slot but its own. -/
theorem foldlM_congr_of_empty (tags : WayTags) {step : Sheet → Slot → Except TagError Sheet}
    (agree : ∀ sheet s, sheet.get s = none → tags.importSlot false sheet s = step sheet s) (slots : List Slot)
    (hnodup : slots.Nodup) (sheet : Sheet) (hempty : ∀ s ∈ slots, sheet.get s = none) :
    slots.foldlM (tags.importSlot false) sheet = slots.foldlM step sheet := by
  induction slots generalizing sheet with
  | nil => rfl
  | cons s rest ih =>
    rw [List.foldlM_cons, List.foldlM_cons, ← agree sheet s (hempty s List.mem_cons_self)]
    cases hs : tags.importSlot false sheet s with
    | error e => rfl
    | ok sheet' =>
      refine ih (List.nodup_cons.1 hnodup).2 sheet' fun k hk => ?_
      have hne : s ≠ k := fun he => (List.nodup_cons.1 hnodup).1 (he ▸ hk)
      rw [get_importSlot_of_ne hne hs, hempty k (List.mem_cons_of_mem s hk)]

/-- **An import is a run of tag readings.** With the entries of the tags it gives the same facts or the same first
failure; where no tag of a slot lists several values, the tags themselves may be read. -/
theorem sheet_eq_foldlM_putEntry (tags : WayTags) :
    tags.sheet false = Slot.all.foldlM tags.putEntry Sheet.empty ∧
      ((∀ (s : Slot) (raw : String), tags.get? s.key = some raw → ';' ∉ raw.toList) →
        tags.sheet false = Slot.all.foldlM tags.putWhole Sheet.empty) := by
  refine ⟨?_, fun h => ?_⟩
  · exact foldlM_congr_of_empty tags (fun _ _ => importSlot_eq_putEntry tags) _ Slot.all_nodup _ fun _ _ => rfl
  · exact foldlM_congr_of_empty tags (fun _ s => importSlot_eq_putWhole (h s)) _ Slot.all_nodup _ fun _ _ => rfl

/-- a way with one value a tag; `lava` is no surface, so that slot stays empty -/
def plainWay : WayTags :=
  ⟨⟨[("highway", "steps"), ("width", "1.20"), ("incline", "up"), ("surface", "lava"), ("lit", "no")], by decide⟩⟩

/-- its import succeeds, and so does the run -/
theorem sheet_plainWay :
    (∀ (s : Slot) (raw : String), plainWay.get? s.key = some raw → ';' ∉ raw.toList) ∧
      plainWay.sheet false = Slot.all.foldlM plainWay.putWhole Sheet.empty ∧
      (Slot.all.foldlM plainWay.putWhole Sheet.empty).isOk = true := by
  have h : ∀ s ∈ Slot.all, ∀ raw ∈ plainWay.byKey.find? s.key, ';' ∉ raw.toList := by decide
  have hplain (s : Slot) (raw : String) (hs : plainWay.get? s.key = some raw) : ';' ∉ raw.toList :=
    h s s.mem_all raw (by rwa [get?, Slot.lower_key] at hs)
  have hrun := (sheet_eq_foldlM_putEntry plainWay).2 hplain
  have hok : (plainWay.sheet false).isOk = true := by decide +kernel
  exact ⟨hplain, hrun, hrun ▸ hok⟩

end WayTags

end AccessibleWalk
