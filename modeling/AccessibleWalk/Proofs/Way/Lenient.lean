/-
Unreadable tags left out. A lenient import is a strict import of what can be read. So it never fails, it agrees with a
strict import that succeeds, and where a strict one fails, it gives what that would give once the number tags that
hold no finite number are taken out.

- `Dictionary.find?_filter`: look-ups in a part of a dictionary.
- `isSome_failureAt?_iff`: which tags cannot be read, said without the import.
- `importSlot_readable`, `sheet_readable`: a step of a lenient import is a step of a strict one over the readable
  tags, and so is the run.
- `sheet_lenient_refines`: the two imports compared.
-/
import AccessibleWalk.Proofs.Way.FirstFailure
import AccessibleWalk.Proofs.Way.Lookup

namespace AccessibleWalk

/-! ## Parts of a dictionary -/

namespace Dictionary

/-- the entries that pass a test -/
def filter (d : Dictionary) (passes : String × String → Bool) : Dictionary :=
  ⟨d.entries.filter passes, d.nodup.sublist (List.filter_sublist.map _)⟩

theorem find?_filter (d : Dictionary) (passes : String × String → Bool) (name text : String) :
    (d.filter passes).find? name = some text ↔ d.find? name = some text ∧ passes (name, text) = true := by
  unfold find?
  rw [(settled_of_nodup d.nodup name).lookup_eq_some_iff,
    (settled_of_nodup (d.filter passes).nodup name).lookup_eq_some_iff]
  exact List.mem_filter

end Dictionary

/-! ## Unreadable tags -/

/-- holds something, and that is no finite number -/
def HoldsNoNumber (raw : String) : Prop :=
  Text.trim raw ≠ "" ∧ ∀ x, Binary64.ofLiteral (Text.trim raw) = .ok x → x.isFinite = false

instance (raw : String) : Decidable (HoldsNoNumber raw) :=
  decidable_of_iff _ (and_congr_right' isSome_numberFault?_iff)

/-- an unreadable tag is one of a number slot that holds no number -/
def IsUnreadable (tag : String × String) : Prop := ∃ s ∈ Slot.numbers, tag.1 = s.key ∧ HoldsNoNumber tag.2

instance (tag : String × String) : Decidable (IsUnreadable tag) :=
  inferInstanceAs (Decidable (∃ s ∈ Slot.numbers, tag.1 = s.key ∧ HoldsNoNumber tag.2))

theorem isUnreadable_iff {s : Slot} {raw : String} :
    IsUnreadable (s.key, raw) ↔ s ∈ Slot.numbers ∧ HoldsNoNumber raw := by
  constructor
  · rintro ⟨k, hk, hkey, hraw⟩
    rw [Slot.key_injective hkey]
    exact ⟨hk, hraw⟩
  · rintro ⟨hs, hraw⟩
    exact ⟨s, hs, rfl, hraw⟩

/-- a number tag fails exactly if it holds no number -/
theorem Content.isSome_failure?_number {raw : String} : (number.failure? raw).isSome ↔ HoldsNoNumber raw := by
  have htrimmed : number.failure? raw = number.failure? (Text.trim raw) := by
    have hread : number.ofWayTag raw = number.ofWayTag (Text.trim raw) := by
      show (Tag.parse raw : Except TagError (Option Binary64)) = Tag.parse (Text.trim raw)
      rw [Tag.parse_eq, Tag.parse_eq, Text.trim_trim]
    rw [failure?, failure?, hread]
  by_cases hblank : Text.trim raw = ""
  · rw [htrimmed, hblank]
    exact iff_of_false (by decide) fun h => h.1 hblank
  · rw [htrimmed, failure?_number (Text.trim_trim raw) hblank, Option.isSome_map, isSome_numberFault?_iff]
    exact (and_iff_right hblank).symm

namespace WayTags

variable (tags : WayTags)

/-- **A tag cannot be read** exactly if it is unreadable. -/
theorem isSome_failureAt?_iff {s : Slot} :
    (tags.failureAt? s).isSome ↔ ∃ raw, tags.byKey.find? s.key = some raw ∧ IsUnreadable (s.key, raw) := by
  simp only [isUnreadable_iff]
  by_cases hs : s ∈ Slot.numbers
  · rw [failureAt?, Slot.mem_numbers_iff.1 hs]
    cases tags.byKey.find? s.key with
    | none => simp
    | some raw => simp [hs, Content.isSome_failure?_number]
  · rw [tags.failureAt?_of_not_number hs]
    simp [hs]

/-- the tags without the unreadable ones -/
def readable : WayTags := ⟨tags.byKey.filter fun tag => !decide (IsUnreadable tag)⟩

theorem find?_readable (key raw : String) :
    tags.readable.byKey.find? key = some raw ↔ tags.byKey.find? key = some raw ∧ ¬ IsUnreadable (key, raw) := by
  rw [readable, Dictionary.find?_filter, Bool.not_eq_true', decide_eq_false_iff_not]

/-! ## Imports -/

/-- what is left of each tag is what it holds, if it can be read -/
theorem read_readable (s : Slot) : tags.readable.read s = .ok (tags.facts.get s) := by
  have hreadable := tags.find?_readable s.key
  cases hfail : tags.failureAt? s with
  | some e =>
    obtain ⟨raw, hraw, hbad⟩ := tags.isSome_failureAt?_iff.1 (by rw [hfail]; rfl)
    have hgone : tags.readable.byKey.find? s.key = none := by
      refine Option.eq_none_iff_forall_ne_some.2 fun text htext => ?_
      obtain ⟨hfound, hgood⟩ := (hreadable text).1 htext
      rw [hraw] at hfound
      exact hgood (Option.some.inj hfound ▸ hbad)
    rw [read_of_absent hgone, get_facts_of_error (read_of_failureAt? hfail)]
  | none =>
    obtain ⟨value, hvalue⟩ := exists_read hfail
    have hkept : tags.readable.byKey.find? s.key = tags.byKey.find? s.key := by
      refine Option.ext fun raw => (hreadable raw).trans (and_iff_left_of_imp fun hraw hbad => ?_)
      have hsome := tags.isSome_failureAt?_iff.2 ⟨raw, hraw, hbad⟩
      rw [hfail] at hsome
      cases hsome
    have hread : tags.readable.read s = tags.read s := by rw [read, read, hkept]
    rw [hread, hvalue, get_facts_of_read hvalue]

/-- **A step of a lenient import** is a step of a strict one that does not see the unreadable tags. -/
theorem importSlot_readable (sheet : Sheet) (s : Slot) :
    tags.readable.importSlot false sheet s = tags.importSlot true sheet s := by
  rw [importSlot_eq_read, importSlot_eq_read, tags.read_readable]
  cases hread : tags.read s with
  | error e => rw [get_facts_of_error hread]; rfl
  | ok value => rw [get_facts_of_read hread]; cases value <;> rfl

/-- **And so is the run.** -/
theorem sheet_readable : tags.readable.sheet false = tags.sheet true := by
  have hstep : tags.readable.importSlot false = tags.importSlot true :=
    funext fun sheet => funext fun s => tags.importSlot_readable sheet s
  rw [sheet, sheet, hstep]

/-- a strict import fails exactly if there is an unreadable tag -/
theorem sheet_strict_fails_iff :
    (∃ e, tags.sheet false = .error e) ↔ ∃ s ∈ Slot.numbers, ∃ raw, tags.get? s.key = some raw ∧ HoldsNoNumber raw := by
  have hfails : (∃ e, tags.sheet false = .error e) ↔ (Slot.numbers.findSome? tags.failureAt?).isSome := by
    rw [sheet_strict, findSome?_failureAt?]
    cases Slot.numbers.findSome? tags.failureAt? <;> simp
  rw [hfails, List.findSome?_isSome_iff]
  refine exists_congr fun s => and_congr_right fun hs => ?_
  rw [tags.isSome_failureAt?_iff, get?_key]
  simp only [isUnreadable_iff, hs, true_and]

/-- **A lenient import refines a strict one.** It never fails, and it agrees with a strict import that succeeds. A
strict one fails exactly for number tags that hold no number; then the lenient facts are those of a strict import of
the tags without precisely these, and their slots are empty. -/
theorem sheet_lenient_refines :
    (∃ facts, tags.sheet true = .ok facts) ∧
      (∀ facts, tags.sheet false = .ok facts → tags.sheet true = .ok facts) ∧
      (∀ e, tags.sheet false = .error e → ∃ facts, tags.sheet true = .ok facts ∧ tags.readable.sheet false = .ok facts ∧
        ∀ s ∈ Slot.numbers, ∀ raw, tags.get? s.key = some raw → HoldsNoNumber raw → facts.get s = none) ∧
      ((∃ e, tags.sheet false = .error e) ↔
        ∃ s ∈ Slot.numbers, ∃ raw, tags.get? s.key = some raw ∧ HoldsNoNumber raw) ∧
      ∀ key raw, tags.readable.get? key = some raw ↔ tags.get? key = some raw ∧
        ¬ ((∃ s ∈ Slot.numbers, Text.lower key = s.key) ∧ HoldsNoNumber raw) := by
  have hlenient : tags.sheet true = .ok tags.facts := tags.sheet_lenient
  refine ⟨⟨_, hlenient⟩, fun facts hfacts => ?_, fun e _ => ?_, tags.sheet_strict_fails_iff, fun key raw => ?_⟩
  · rw [sheet_strict] at hfacts
    split at hfacts
    · cases hfacts
    · exact hlenient.trans hfacts
  · refine ⟨_, hlenient, tags.sheet_readable.trans hlenient, fun s hs raw hraw hbad => ?_⟩
    rw [get?_key] at hraw
    obtain ⟨failure, hfailure⟩ := Option.isSome_iff_exists.1
      (tags.isSome_failureAt?_iff.2 ⟨raw, hraw, isUnreadable_iff.2 ⟨hs, hbad⟩⟩)
    exact get_facts_of_error (read_of_failureAt? hfailure)
  · rw [get?, get?, find?_readable, IsUnreadable]
    simp only [← and_assoc, ← exists_and_right]

/-- a way with two number tags that hold no number, one of them before all others -/
def narrowWay : WayTags :=
  ⟨⟨[("width", "narrow"), ("surface", "gravel"), ("wgt:ressaut_max", "-inf"), ("lit", "yes")], by decide⟩⟩

/-- neither of them keeps the other tags from being read -/
theorem sheet_narrowWay :
    (∃ e, narrowWay.sheet false = .error e) ∧
      ∃ facts, narrowWay.sheet true = .ok facts ∧ narrowWay.readable.sheet false = .ok facts ∧
        narrowWay.readable.sheet true = .ok facts ∧ facts.get .width = none ∧ facts.get .ressautMax = none ∧
        facts.get .surface = some Surface.gravel ∧ facts.get .lit = some true := by
  obtain ⟨-, -, hfailing, hfails, -⟩ := sheet_lenient_refines narrowWay
  have hwidth : narrowWay.get? Slot.width.key = some "narrow" := by rw [get?_key]; decide
  have hcurb : narrowWay.get? Slot.ressautMax.key = some "-inf" := by rw [get?_key]; decide
  have hnarrow : HoldsNoNumber "narrow" := by decide +kernel
  have hinfinite : HoldsNoNumber "-inf" := by decide +kernel
  have hstrict : ∃ e, narrowWay.sheet false = .error e := hfails.2 ⟨.width, by decide, _, hwidth, hnarrow⟩
  obtain ⟨e, he⟩ := hstrict
  obtain ⟨facts, hlenient, hreadable, hempty⟩ := hfailing e he
  have hfacts : facts = narrowWay.facts := Except.ok.inj (hlenient.symm.trans narrowWay.sheet_lenient)
  refine ⟨⟨e, he⟩, facts, hlenient, hreadable, ?_, ?_, ?_, ?_, ?_⟩
  · exact (sheet_lenient_refines narrowWay.readable).2.1 facts hreadable
  · exact hempty .width (by decide) _ hwidth hnarrow
  · exact hempty .ressautMax (by decide) _ hcurb hinfinite
  · rw [hfacts]; decide +kernel
  · rw [hfacts]; decide +kernel

end WayTags

end AccessibleWalk
