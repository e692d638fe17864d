/-
What an import gives, and when it fails. A lenient import never does: it takes what the readable tags hold. A strict one
gives the same facts, or the failure of the first slot whose tag cannot be read, and only the tags of the four number
slots can be unreadable.

- `sheet_lenient`, `sheet_strict`: the two imports.
- `failure?_of_ne_number`, `failure?_number`: what can be wrong with a tag.
-/
import AccessibleWalk.Proofs.Way.SlotReads

namespace AccessibleWalk

/-! ## Numbers -/

/-- what keeps a text from being a finite number -/
def numberFault? (raw : String) : Option String :=
  match Binary64.ofLiteral raw with
  | .error e => some e.message
  | .ok x => if x.isFinite then none else some "value is not finite"

/-- a text without a fault is a finite number, and the other way round -/
theorem isSome_numberFault?_iff {raw : String} :
    (numberFault? raw).isSome ↔ ∀ x, Binary64.ofLiteral raw = .ok x → x.isFinite = false := by
  unfold numberFault?
  cases Binary64.ofLiteral raw with
  | error e => simp
  | ok x => cases hx : x.isFinite <;> simp [hx]

theorem readFinite_of_fault {raw reason : String} (h : numberFault? raw = some reason) :
    readFinite raw = .error (.unreadable .number raw reason) := by
  unfold numberFault? at h
  unfold readFinite
  cases hx : Binary64.ofLiteral raw with
  | error e =>
    rw [hx] at h
    rw [← Option.some.inj h]
  | ok x =>
    rw [hx] at h
    cases hfinite : x.isFinite with
    | true => simp [hfinite] at h
    | false =>
      simp only [hfinite, Bool.false_eq_true, if_false, Option.some.injEq] at h
      simp [hfinite, h]

theorem readFinite_of_no_fault {raw : String} (h : numberFault? raw = none) : ∃ x, readFinite raw = .ok x := by
  unfold numberFault? at h
  unfold readFinite
  cases hx : Binary64.ofLiteral raw with
  | error e => simp [hx] at h
  | ok x =>
    cases hfinite : x.isFinite with
    | true => exact ⟨x, by simp [hfinite]⟩
    | false => simp [hx, hfinite] at h

namespace Slot

/-- the slots that hold numbers, in slot order -/
def numbers : List Slot := [.width, .ressautMax, .ressautMin, .travHTrt]

theorem mem_numbers_iff {s : Slot} : s ∈ numbers ↔ s.content = .number := by cases s <;> decide

end Slot

namespace Content

/-- what is wrong with a tag that holds a payload of this kind -/
def failure? (c : Content) (raw : String) : Option TagError :=
  match c.ofWayTag raw with
  | .error e => some e
  | .ok _ => none

theorem exists_ofWayTag {c : Content} {raw : String} (h : c.failure? raw = none) : ∃ v, c.ofWayTag raw = .ok v := by
  unfold failure? at h
  cases hv : c.ofWayTag raw with
  | error e => simp [hv] at h
  | ok v => exact ⟨v, rfl⟩

theorem ofWayTag_of_failure? {c : Content} {raw : String} {e : TagError} (h : c.failure? raw = some e) :
    c.ofWayTag raw = .error e := by
  unfold failure? at h
  cases hv : c.ofWayTag raw with
  | error e' =>
    rw [hv] at h
    exact congrArg Except.error (Option.some.inj h)
  | ok v => simp [hv] at h

/-- a tag that holds no number is always readable -/
theorem failure?_of_ne_number {c : Content} (hc : c ≠ .number) (raw : String) : c.failure? raw = none := by
  have parse {α : Type} [TagValue α] (h : ∀ raw, ∃ v, (TagValue.read raw : Except TagError (Option α)) = .ok v) :
      ∃ v, (Tag.parse raw : Except TagError (Option α)) = .ok v := by
    rw [Tag.parse_eq]
    split_ifs
    · exact ⟨_, rfl⟩
    · exact h _
  have hread : ∃ v, c.ofWayTag raw = .ok v := by
    cases c with
    | number => exact absurd rfl hc
    | flag => exact parse (α := Bool) fun _ => ⟨_, rfl⟩
    | incline => exact parse (α := Incline) fun _ => ⟨_, rfl⟩
    | _ => exact ⟨_, rfl⟩
  obtain ⟨v, hv⟩ := hread
  simp only [failure?, hv]

/-- what is wrong with a trimmed number tag is its fault -/
theorem failure?_number {raw : String} (htrim : Text.trim raw = raw) (hne : raw ≠ "") :
    number.failure? raw = (numberFault? raw).map (.unreadable .number raw) := by
  have hread : number.ofWayTag raw = (readFinite raw).map some := by
    show (Tag.parse raw : Except TagError (Option Binary64)) = _
    rw [Tag.parse_eq, htrim, if_neg (by simpa using hne)]
    rfl
  unfold failure?
  rw [hread]
  cases h : numberFault? raw with
  | none =>
    obtain ⟨x, hx⟩ := readFinite_of_no_fault h
    rw [hx]
    rfl
  | some reason =>
    rw [readFinite_of_fault h]
    rfl

end Content

/-! ## Imports -/

namespace WayTags

variable (tags : WayTags)

/-- what the readable tags hold -/
def facts : Sheet := ⟨fun s => (tags.read s).toOption.join⟩

/-- what is wrong with the tag of a slot -/
def failureAt? (s : Slot) : Option TagError := (tags.byKey.find? s.key).bind s.content.failure?

theorem exists_read {tags : WayTags} {s : Slot} (h : tags.failureAt? s = none) : ∃ value, tags.read s = .ok value := by
  cases hraw : tags.byKey.find? s.key with
  | none => exact ⟨_, read_of_absent hraw⟩
  | some raw =>
    rw [failureAt?, hraw, Option.bind_some] at h
    obtain ⟨value, hvalue⟩ := Content.exists_ofWayTag h
    exact ⟨value, (read_of_find? hraw).trans hvalue⟩

theorem read_of_failureAt? {tags : WayTags} {s : Slot} {e : TagError} (h : tags.failureAt? s = some e) :
    tags.read s = .error e := by
  obtain ⟨raw, hraw, hfail⟩ := Option.bind_eq_some_iff.1 h
  exact (read_of_find? hraw).trans (Content.ofWayTag_of_failure? hfail)

theorem get_facts_of_read {tags : WayTags} {s : Slot} {value : Option s.Payload} (h : tags.read s = .ok value) :
    tags.facts.get s = value := by
  show (tags.read s).toOption.join = value
  rw [h]
  cases value <;> rfl

theorem get_facts_of_error {tags : WayTags} {s : Slot} {e : TagError} (h : tags.read s = .error e) :
    tags.facts.get s = none := by
  show (tags.read s).toOption.join = none
  rw [h]
  rfl

/-- a strict step fills the slot of a readable tag -/
theorem importSlot_strict {tags : WayTags} {s : Slot} (h : tags.failureAt? s = none) {sheet : Sheet}
    (hempty : sheet.get s = none) : tags.importSlot false sheet s = .ok (sheet.put s (tags.facts.get s)) := by
  obtain ⟨value, hread⟩ := exists_read h
  rw [importSlot_of_read hread false hempty, get_facts_of_read hread]

/-- and fails on an unreadable one, whatever was read before -/
theorem importSlot_failing {tags : WayTags} {s : Slot} {e : TagError} (h : tags.failureAt? s = some e) (sheet : Sheet) :
    tags.importSlot false sheet s = .error e := by
  rw [importSlot_eq_read, read_of_failureAt? h]
  rfl

/-- **A lenient import** takes what it can read. -/
theorem sheet_lenient : tags.sheet true = .ok tags.facts := by
  refine sheet_of_fills fun s sheet hempty => ?_
  cases hread : tags.read s with
  | error e =>
    rw [importSlot_eq_read, hread, get_facts_of_error hread, Sheet.put_none_of_empty hempty]
    rfl
  | ok value => rw [importSlot_of_read hread true hempty, get_facts_of_read hread]

/-- **A strict import** fails with the first failure in slot order, or gives the same facts. -/
theorem sheet_strict :
    tags.sheet false =
      match Slot.all.findSome? tags.failureAt? with
      | some e => .error e
      | none => .ok tags.facts := by
  cases h : Slot.all.findSome? tags.failureAt? with
  | none =>
    rw [List.findSome?_eq_none_iff] at h
    exact sheet_of_fills fun s _ hempty => importSlot_strict (h s s.mem_all) hempty
  | some e =>
    obtain ⟨before, s, after, hall, hs, hbefore⟩ := List.findSome?_eq_some_iff.1 h
    have hnodup : before.Nodup := (List.nodup_append.1 (hall ▸ Slot.all_nodup)).1
    have hrun := foldlM_of_fills (fun k hk _ hempty => importSlot_strict (hbefore k hk) hempty) hnodup
      Sheet.empty fun _ _ => rfl
    rw [sheet, hall, List.foldlM_append, hrun]
    show List.foldlM (tags.importSlot false) _ (s :: after) = _
    rw [List.foldlM_cons, importSlot_failing hs]
    rfl

/-! ## Failures -/

/-- **Only numbers can be unreadable.** -/
theorem failureAt?_of_not_number {s : Slot} (h : s ∉ Slot.numbers) : tags.failureAt? s = none := by
  have hc : s.content ≠ .number := fun hc => h (Slot.mem_numbers_iff.2 hc)
  rw [failureAt?, funext (Content.failure?_of_ne_number hc)]
  cases tags.byKey.find? s.key <;> rfl

/-- so the first failure is that of a number slot -/
theorem findSome?_failureAt? : Slot.all.findSome? tags.failureAt? = Slot.numbers.findSome? tags.failureAt? := by
  have filter (slots : List Slot) :
      slots.findSome? tags.failureAt? = (slots.filter (· ∈ Slot.numbers)).findSome? tags.failureAt? := by
    induction slots with
    | nil => rfl
    | cons s rest ih =>
      by_cases hs : s ∈ Slot.numbers
      · rw [List.filter_cons_of_pos (by simpa using hs), List.findSome?_cons, List.findSome?_cons, ih]
      · rw [List.filter_cons_of_neg (by simpa using hs), List.findSome?_cons, tags.failureAt?_of_not_number hs, ih]
  rw [filter]
  rfl

end WayTags

end AccessibleWalk
