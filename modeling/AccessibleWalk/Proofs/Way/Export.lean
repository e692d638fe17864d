/-
Facts written as tags and read again. Each filled slot makes one tag, its key with the text of its payload; in whatever
order these tags are collected, an import gives the same facts, as long as all numbers are finite. Facts that come from
tags have no other numbers.

- `mem_exported`: the tags that are written are the texts of the filled slots.
- `finite_foldlM`: a run of steps that put finite numbers only.
- `import_exported`: export and import together.
-/
import AccessibleWalk.Proofs.Property.Store
import AccessibleWalk.Proofs.Tag.PayloadText
import AccessibleWalk.Proofs.Way.Lookup
import AccessibleWalk.Proofs.Way.SlotReads

namespace AccessibleWalk

namespace Sheet

/-! ## Finite numbers -/

/-- all numbers among the facts are finite -/
def Finite (sheet : Sheet) : Prop := ∀ (s : Slot) (v : s.Payload), sheet.get s = some v → s.content.isFinite v = true

theorem finite_empty : empty.Finite := by
  intro s v h
  cases h

theorem Finite.put {sheet : Sheet} (h : sheet.Finite) {s : Slot} {value : Option s.Payload}
    (hv : ∀ v : s.Payload, value = some v → s.content.isFinite v = true) : (sheet.put s value).Finite := by
  intro k v hk
  by_cases hs : s = k
  · subst hs
    rw [get_put_self] at hk
    exact hv v hk
  · rw [get_put_of_ne hs] at hk
    exact h k v hk

/-- a run of steps that keep all numbers finite does so -/
theorem finite_foldlM {α : Type} {step : Sheet → α → Except TagError Sheet}
    (hstep : ∀ {sheet sheet' : Sheet} {a : α}, sheet.Finite → step sheet a = .ok sheet' → sheet'.Finite)
    {l : List α} {sheet sheet' : Sheet} (h : sheet.Finite) (hl : l.foldlM step sheet = .ok sheet') : sheet'.Finite := by
  induction l generalizing sheet with
  | nil => cases hl; exact h
  | cons a rest ih =>
    rw [List.foldlM_cons] at hl
    cases ha : step sheet a with
    | error e => rw [ha] at hl; cases hl
    | ok next => rw [ha] at hl; exact ih (hstep h ha) hl

/-- a tag put into a slot -/
theorem Finite.putTag {sheet sheet' : Sheet} {s : Slot} {raw : String} (h : sheet.Finite)
    (hput : sheet.putTag s raw = .ok sheet') : sheet'.Finite := by
  cases hread : (Tag.parse raw : Except TagError (Option s.Payload)) with
  | error e =>
    unfold Sheet.putTag Property.parse at hput
    rw [hread] at hput
    cases hput
  | ok value =>
    rw [putTag_of_parse hread] at hput
    cases hput
    refine h.put fun v hv => ?_
    exact s.content.isFinite_of_parse (hread.trans (congrArg Except.ok hv))

/-- a tag taken from a way -/
theorem Finite.importSlot {tags : WayTags} {lenient : Bool} {sheet sheet' : Sheet} {s : Slot} (h : sheet.Finite)
    (hslot : tags.importSlot lenient sheet s = .ok sheet') : sheet'.Finite := by
  rcases WayTags.importSlot_cases hslot with ⟨v, hread, rfl⟩ | rfl
  · refine h.put fun w hw => ?_
    cases hw
    cases hraw : tags.byKey.find? s.key with
    | none => rw [WayTags.read_of_absent hraw] at hread; cases hread
    | some raw => rw [WayTags.read_of_find? hraw] at hread; exact s.content.isFinite_of_ofWayTag hread
  · exact h

/-- finite facts agree with themselves -/
theorem Finite.same_self {sheet : Sheet} (h : sheet.Finite) : sheet.same sheet = true := by
  rw [same, List.all_eq_true]
  intro s _
  unfold sameAt
  cases hv : sheet.get s with
  | none => rfl
  | some v => exact s.content.same_self v (h s v hv)

/-! ## Tags of facts -/

/-- the facts as tags, in slot order -/
def exported (sheet : Sheet) : List (String × String) := sheet.present.map fun p => (p.slot.key, p.text)

/-- **The tags that are written** are the texts of the filled slots. -/
theorem mem_exported {sheet : Sheet} {s : Slot} {raw : String} :
    (s.key, raw) ∈ sheet.exported ↔ ∃ v : s.Payload, sheet.get s = some v ∧ TagValue.text v = raw := by
  rw [exported, List.mem_map]
  constructor
  · rintro ⟨⟨k, v⟩, hp, he⟩
    obtain ⟨hkey, htext⟩ := Prod.mk.inj he
    have hk : k = s := Slot.key_injective hkey
    subst hk
    exact ⟨v, mem_present.1 hp, htext⟩
  · rintro ⟨v, hv, rfl⟩
    exact ⟨⟨s, v⟩, mem_present.2 hv, rfl⟩

/-- a slot makes one tag -/
theorem settled_exported (sheet : Sheet) (s : Slot) : Settled sheet.exported s.key := by
  intro v w hv hw
  obtain ⟨x, hx, rfl⟩ := mem_exported.1 hv
  obtain ⟨y, hy, rfl⟩ := mem_exported.1 hw
  rw [hx] at hy
  cases hy
  rfl

theorem Finite.stored?_of_mem {sheet : Sheet} (h : sheet.Finite) {tag : String × String} (ht : tag ∈ sheet.exported) :
    WayTags.stored? tag = some tag := by
  obtain ⟨p, hp, rfl⟩ := List.mem_map.1 ht
  have htext : IsTagText p.text := p.slot.content.isTagText_text p.payload (h _ _ (mem_present.1 hp))
  rw [WayTags.stored?, htext.trim_eq, if_neg (by simp [htext.isEmpty_eq]), Slot.trim_key, Slot.lower_key]

/-- **The tags are stored as they are written.** -/
theorem Finite.stored?_exported {sheet : Sheet} (h : sheet.Finite) :
    sheet.exported.filterMap WayTags.stored? = sheet.exported := by
  rw [List.filterMap_congr fun tag ht => h.stored?_of_mem ht, List.filterMap_some]

end Sheet

namespace WayTags

/-- each slot is found with what was written for it -/
theorem read_exported {facts : Sheet} (hfacts : facts.Finite) {pairs : List (String × String)}
    (hp : facts.exported.Perm pairs) (s : Slot) : (ofList pairs).read s = .ok (facts.get s) := by
  have hstored : facts.exported.filterMap stored? = facts.exported := hfacts.stored?_exported
  have hsettled : Settled (facts.exported.filterMap stored?) s.key := by
    rw [hstored]
    exact facts.settled_exported s
  have hfind (raw : String) : (ofList pairs).byKey.find? s.key = some raw ↔ (s.key, raw) ∈ facts.exported := by
    rw [← find?_ofList_perm hp hsettled, find?_ofList_eq_some_iff hsettled, hstored]
  cases hv : facts.get s with
  | some v =>
    rw [read_of_find? ((hfind _).2 (Sheet.mem_exported.2 ⟨v, hv, rfl⟩))]
    exact s.content.ofWayTag_text v (hfacts s v hv)
  | none =>
    refine read_of_absent (Option.eq_none_iff_forall_ne_some.2 fun raw hraw => ?_)
    obtain ⟨v, hv', -⟩ := Sheet.mem_exported.1 ((hfind raw).1 hraw)
    rw [hv] at hv'
    cases hv'

/-- **Export and import.** Facts with finite numbers are read back from their own tags, in whatever order the tags are
collected and whether or not unreadable tags are left out. Facts put together from tags, one by one or by an import,
have finite numbers. -/
theorem import_exported :
    (∀ (facts : Sheet) (pairs : List (String × String)) (lenient : Bool), facts.Finite → facts.exported.Perm pairs →
        (ofList pairs).sheet lenient = .ok facts ∧ facts.same facts = true) ∧
      (∀ (raws : List (Slot × String)) (facts : Sheet),
        raws.foldlM (fun sheet t => sheet.putTag t.1 t.2) Sheet.empty = .ok facts → facts.Finite) ∧
      ∀ (tags : WayTags) (lenient : Bool) (facts : Sheet), tags.sheet lenient = .ok facts → facts.Finite := by
  refine ⟨fun facts pairs lenient hfacts hp => ?_, fun raws facts h => ?_, fun tags lenient facts h => ?_⟩
  · exact ⟨sheet_of_reads (read_exported hfacts hp) lenient, hfacts.same_self⟩
  · exact Sheet.finite_foldlM (fun hs hput => hs.putTag hput) Sheet.finite_empty h
  · exact Sheet.finite_foldlM (fun hs hslot => hs.importSlot hslot) Sheet.finite_empty h

/-- a ramp with facts of four kinds -/
def ramp : Sheet :=
  (((Sheet.empty.put .width (some 0.9)).put .lit (some true)).put .surface (some .asphalt)).put .incline
    (some (.percent (-5)))

theorem import_exported_ramp :
    ramp.Finite ∧ ramp.exported.Perm ramp.exported.reverse ∧
      (ofList ramp.exported.reverse).sheet false = .ok ramp ∧ ramp.same ramp = true ∧
      ∃ facts : Sheet, [(Slot.lit, " yes"), (Slot.width, "")].foldlM (fun sheet t => sheet.putTag t.1 t.2) Sheet.empty =
        .ok facts ∧ facts.Finite := by
  have hfinite : ramp.Finite := by
    refine (((Sheet.finite_empty.put ?_).put ?_).put ?_).put ?_
    · rintro v ⟨⟩; decide +kernel
    · rintro v ⟨⟩; rfl
    · rintro v ⟨⟩; rfl
    · rintro v ⟨⟩; decide +kernel
  have hp : ramp.exported.Perm ramp.exported.reverse := (List.reverse_perm _).symm
  have hramp := import_exported.1 ramp _ false hfinite hp
  have hraws : [(Slot.lit, " yes"), (Slot.width, "")].foldlM (fun sheet t => sheet.putTag t.1 t.2) Sheet.empty =
      .ok ((Sheet.empty.put .lit (some true)).put .width none) := rfl
  exact ⟨import_exported.2.2 _ false ramp hramp.1, hp, hramp.1, hramp.2, _, hraws, import_exported.2.1 _ _ hraws⟩

end WayTags

end AccessibleWalk
