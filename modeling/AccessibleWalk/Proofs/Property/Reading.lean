/-
Reading a property from a raw tag. Blanks around a tag do not count and a blank tag is none. Of the other tags only
those of number slots can be refused: a flag, a category or a slope that is not understood counts as no tag. What is
read is written as a text that reads back to it, so a property survives being stored as a tag.

- `parse_eq_error_iff`: which tags are refused, and with which error.
- `parse_eq_some_iff`: a property is read for its own slot, from the payload of the tag.
- `parse_lawful`: refusal, slot, finiteness and reading back together.
-/
import AccessibleWalk.Proofs.Tag.PayloadText
import AccessibleWalk.Proofs.Way.FirstFailure

namespace AccessibleWalk

/-! ## Kinds of payload -/

namespace Content

/-- a kind that refuses nothing takes what it does not understand for no payload -/
theorem exists_read {c : Content} (hc : c ≠ .number) (raw : String) :
    ∃ value, (TagValue.read raw : Except TagError (Option c.Value)) = .ok value := by
  cases c with
  | number => exact absurd rfl hc
  | _ => exact ⟨_, rfl⟩

/-- a number is refused for its fault -/
theorem read_number_eq_error_iff (raw : String) (e : TagError) :
    (TagValue.read raw : Except TagError (Option number.Value)) = .error e ↔
      ∃ reason, numberFault? raw = some reason ∧ e = .unreadable .number raw reason := by
  show (readFinite raw).map some = .error e ↔ _
  cases hfault : numberFault? raw with
  | none =>
    obtain ⟨x, hx⟩ := readFinite_of_no_fault hfault
    simp [hx, Except.map]
  | some reason =>
    rw [readFinite_of_fault hfault]
    simp [Except.map, eq_comm]

/-- **Only numbers are refused**, and only where something stands that is no finite number. -/
theorem parse_eq_error_iff (c : Content) (raw : String) (e : TagError) :
    (Tag.parse raw : Except TagError (Option c.Value)) = .error e ↔
      c = .number ∧ Text.trim raw ≠ "" ∧
        ∃ reason, numberFault? (Text.trim raw) = some reason ∧ e = .unreadable .number (Text.trim raw) reason := by
  rw [Tag.parse_eq]
  by_cases hblank : Text.trim raw = ""
  · simp [hblank]
  · rw [if_neg (by simpa using hblank)]
    by_cases hc : c = .number
    · subst hc
      rw [read_number_eq_error_iff]
      simp [hblank]
    · obtain ⟨value, hvalue⟩ := exists_read hc (Text.trim raw)
      rw [hvalue]
      simp [hc]

end Content

theorem Slot.shape_eq_number_iff (s : Slot) : s.shape = .number ↔ s.content = .number := by cases s <;> decide

/-! ## Properties -/

namespace Property

variable {s : Slot} {raw : String}

theorem parse_eq_error_iff {e : TagError} :
    parse s raw = .error e ↔ s.shape = .number ∧ Text.trim raw ≠ "" ∧
      ∃ reason, numberFault? (Text.trim raw) = some reason ∧ e = .unreadable .number (Text.trim raw) reason := by
  rw [s.shape_eq_number_iff, ← Content.parse_eq_error_iff, parse]
  cases (Tag.parse raw : Except TagError (Option s.Payload)) with
  | error e' => simp [Except.map]
  | ok value => simp [Except.map]

/-- what is read for a slot is a property of this slot -/
theorem parse_eq_some_iff {p : Property} :
    parse s raw = .ok (some p) ↔
      ∃ v, (Tag.parse raw : Except TagError (Option s.Payload)) = .ok (some v) ∧ p = ⟨s, v⟩ := by
  rw [parse]
  cases (Tag.parse raw : Except TagError (Option s.Payload)) with
  | error e => simp [Except.map]
  | ok value =>
    cases value with
    | none => simp [Except.map]
    | some v => simp [Except.map, eq_comm]

theorem parse_of_blank (h : Text.trim raw = "") : parse s raw = .ok none := by
  rw [parse, Tag.parse_eq, if_pos (by simpa using h)]
  rfl

/-- **A property is read back from its text** if its numbers are finite. -/
theorem parse_text (p : Property) (h : p.slot.content.isFinite p.payload = true) :
    parse p.slot p.text = .ok (some p) :=
  parse_eq_some_iff.2 ⟨p.payload, p.slot.content.parse_text p.payload h, rfl⟩

/-- **Reading a property is exact.** A tag is refused exactly if it stands for a number, is not blank and is no
literal of a finite number, and the error names the tag without the blanks around it. What is read belongs to the
slot, has finite numbers only, and is read back from its own text; blank tags are none. -/
theorem parse_lawful (s : Slot) (raw : String) :
    ((∃ e, parse s raw = .error e) ↔ s.shape = .number ∧ Text.trim raw ≠ "" ∧
      ∀ x, Binary64.ofLiteral (Text.trim raw) = .ok x → x.isFinite = false) ∧
    (∀ e, parse s raw = .error e → ∃ reason, e = .unreadable .number (Text.trim raw) reason) ∧
    (∀ p, parse s raw = .ok (some p) →
      p.slot = s ∧ p.slot.content.isFinite p.payload = true ∧ parse s p.text = .ok (some p)) ∧
    (Text.trim raw = "" → parse s raw = .ok none) := by
  refine ⟨?_, fun e he => ?_, fun p hp => ?_, parse_of_blank⟩
  · simp only [parse_eq_error_iff, ← isSome_numberFault?_iff, Option.isSome_iff_exists]
    constructor
    · rintro ⟨-, hs, hne, reason, hreason, -⟩
      exact ⟨hs, hne, reason, hreason⟩
    · rintro ⟨hs, hne, reason, hreason⟩
      exact ⟨_, hs, hne, reason, hreason, rfl⟩
  · obtain ⟨-, -, reason, -, he⟩ := parse_eq_error_iff.1 he
    exact ⟨reason, he⟩
  · obtain ⟨v, hv, rfl⟩ := parse_eq_some_iff.1 hp
    have hfinite := s.content.isFinite_of_parse hv
    exact ⟨rfl, hfinite, parse_text ⟨s, v⟩ hfinite⟩

/-- a slope that is a negative zero -/
def levelDown : Property := ⟨.incline, .percent (.signed true .zero)⟩

/-- a width that overflows, a slope with a percent sign behind a blank, and a blank flag -/
theorem parse_levelDown :
    (∃ reason, parse .width " 1e999\t" = .error (.unreadable .number "1e999" reason)) ∧
      parse .incline "-0.0 % " = .ok (some levelDown) ∧ levelDown.text = "-0" ∧
      parse .incline levelDown.text = .ok (some levelDown) ∧ parse .lit "\u00A0 " = .ok none := by
  have htrim : Text.trim " 1e999\t" = "1e999" := by decide +kernel
  have hwidth : ∃ e, parse .width " 1e999\t" = .error e := by
    refine (parse_lawful .width " 1e999\t").1.2 ⟨rfl, ?_, ?_⟩
    · rw [htrim]
      decide
    · rw [htrim, ← isSome_numberFault?_iff]
      decide +kernel
  have hslope : parse .incline "-0.0 % " = .ok (some levelDown) := by
    refine parse_eq_some_iff.2 ⟨.percent (.signed true .zero), ?_, rfl⟩
    show (Tag.parse "-0.0 % " : Except TagError (Option Incline)) = _
    decide +kernel
  obtain ⟨e, he⟩ := hwidth
  obtain ⟨reason, hreason⟩ := (parse_lawful .width " 1e999\t").2.1 e he
  rw [htrim] at hreason
  refine ⟨⟨reason, hreason ▸ he⟩, hslope, by decide +kernel, ?_, ?_⟩
  · exact ((parse_lawful .incline "-0.0 % ").2.2.1 levelDown hslope).2.2
  · exact (parse_lawful .lit "\u00A0 ").2.2.2 (by decide +kernel)

end Property

end AccessibleWalk
