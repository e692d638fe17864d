/-
The facts of an edge as a store of thirteen slots. A slot holds what was put there last, be it from a raw tag, as a
payload or as nothing. What is done to other slots leaves it alone, and so does a tag that cannot be read.

- `property?_perform_of_ok`, `property?_perform_of_ne`, `perform_of_error`: one step.
- `property?_foldl_perform_of_failing`: a run leaves a slot alone unless a step on it succeeds.
- `mem_present`, `map_slot_present`: the filled slots are listed once each and in slot order.
- `property?_foldl_fill`: what is listed fills an empty edge with the same facts, in any order.
- `same_iff`, `isEmpty_iff`: equality and emptiness, slot by slot.
- `store_lawful`: all of this together.
-/
import AccessibleWalk.Proofs.Property.Reading
import AccessibleWalk.Property.Sheet

namespace AccessibleWalk

/-- properties of one slot with agreeing payloads -/
inductive Property.Agrees : Property → Property → Prop where
  | payloads {s : Slot} {v w : s.Payload} (h : TagValue.same v w = true) : Agrees ⟨s, v⟩ ⟨s, w⟩

namespace Sheet

variable {sheet a b : Sheet} {s : Slot} {p : Property}

/-! ## Slots -/

theorem slot_of_property? (h : sheet.property? s = some p) : p.slot = s := by
  obtain ⟨v, -, rfl⟩ := Option.map_eq_some_iff.1 h
  rfl

theorem property?_slot : sheet.property? p.slot = some p ↔ sheet.get p.slot = some p.payload := by
  obtain ⟨s, v⟩ := p
  rw [property?, Option.map_eq_some_iff]
  constructor
  · rintro ⟨w, hw, hwv⟩
    cases hwv
    exact hw
  · exact fun h => ⟨v, h, rfl⟩

@[simp] theorem property?_empty (s : Slot) : empty.property? s = none := rfl

theorem property?_fill_self (sheet : Sheet) (p : Property) : (sheet.fill p).property? p.slot = some p :=
  property?_slot.2 (get_fill_self sheet p)

theorem property?_fill_of_ne (h : p.slot ≠ s) (sheet : Sheet) : (sheet.fill p).property? s = sheet.property? s := by
  rw [property?, get_fill_of_ne h, property?]

theorem property?_clear_self (sheet : Sheet) (s : Slot) : (sheet.clear s).property? s = none := by
  rw [property?, get_clear_self, Option.map_none]

theorem property?_clear_of_ne {k : Slot} (h : s ≠ k) (sheet : Sheet) :
    (sheet.clear s).property? k = sheet.property? k := by
  rw [property?, get_clear_of_ne h, property?]

/-- a readable tag fills its slot or empties it -/
theorem putTag_of_parse {raw : String} {value : Option s.Payload}
    (h : (Tag.parse raw : Except TagError (Option s.Payload)) = .ok value) (sheet : Sheet) :
    sheet.putTag s raw = .ok (sheet.put s value) := by
  unfold putTag Property.parse
  rw [h]
  cases value <;> rfl

/-! ## Operations -/

/-- what is done to an edge: a raw tag is put into a slot, a payload is filled in, or a slot is emptied -/
inductive Operation where
  | tag (s : Slot) (raw : String)
  | value (p : Property)
  | without (s : Slot)

namespace Operation

def slot : Operation → Slot
  | tag s _ => s
  | value p => p.slot
  | without s => s

/-- what an operation puts into its slot if it succeeds; a tag without anything usable and an emptying put nothing
there -/
def outcome : Operation → Except TagError (Option Property)
  | tag s raw => Property.parse s raw
  | value p => .ok (some p)
  | without _ => .ok none

theorem slot_of_outcome {op : Operation} (h : op.outcome = .ok (some p)) : p.slot = op.slot := by
  cases op with
  | tag s raw =>
    obtain ⟨v, -, rfl⟩ := Property.parse_eq_some_iff.1 h
    rfl
  | value q =>
    cases h
    rfl
  | without s => cases h

end Operation

/-- the edge after an operation, or what is wrong with its tag -/
def attempt (sheet : Sheet) : Operation → Except TagError Sheet
  | .tag s raw => sheet.putTag s raw
  | .value p => .ok (sheet.fill p)
  | .without s => .ok (sheet.clear s)

/-- the edge after an operation, which is the old one if the operation fails -/
def perform (sheet : Sheet) (op : Operation) : Sheet :=
  match sheet.attempt op with
  | .ok next => next
  | .error _ => sheet

variable {op : Operation} {e : TagError}

theorem attempt_of_error (h : op.outcome = .error e) (sheet : Sheet) : sheet.attempt op = .error e := by
  cases op with
  | tag s raw =>
    have hparse : Property.parse s raw = .error e := h
    rw [attempt, putTag, hparse]
    rfl
  | value p => cases h
  | without s => cases h

theorem attempt_of_some (h : op.outcome = .ok (some p)) (sheet : Sheet) : sheet.attempt op = .ok (sheet.fill p) := by
  cases op with
  | tag s raw =>
    have hparse : Property.parse s raw = .ok (some p) := h
    rw [attempt, putTag, hparse]
    rfl
  | value q =>
    cases h
    rfl
  | without s => cases h

theorem attempt_of_none (h : op.outcome = .ok none) (sheet : Sheet) : sheet.attempt op = .ok (sheet.clear op.slot) := by
  cases op with
  | tag s raw =>
    have hparse : Property.parse s raw = .ok none := h
    rw [attempt, putTag, hparse]
    rfl
  | value q => cases h
  | without s => rfl

/-- **A failing operation** leaves the edge as it is. -/
theorem perform_of_error (h : op.outcome = .error e) (sheet : Sheet) : sheet.perform op = sheet := by
  rw [perform, attempt_of_error h]

/-- **An operation that succeeds** decides what is in its slot. -/
theorem property?_perform_of_ok {value : Option Property} (h : op.outcome = .ok value) (sheet : Sheet) :
    (sheet.perform op).property? op.slot = value := by
  cases value with
  | some p =>
    rw [perform, attempt_of_some h, ← Operation.slot_of_outcome h]
    exact property?_fill_self sheet p
  | none =>
    rw [perform, attempt_of_none h]
    exact property?_clear_self sheet op.slot

/-- **Other slots** are left alone. -/
theorem property?_perform_of_ne (h : op.slot ≠ s) (sheet : Sheet) :
    (sheet.perform op).property? s = sheet.property? s := by
  cases hop : op.outcome with
  | error e => rw [perform_of_error hop]
  | ok value =>
    cases value with
    | some p =>
      rw [← Operation.slot_of_outcome hop] at h
      rw [perform, attempt_of_some hop]
      exact property?_fill_of_ne h sheet
    | none =>
      rw [perform, attempt_of_none hop]
      exact property?_clear_of_ne h sheet

/-- **A run leaves a slot alone** unless one of its steps succeeds on it. -/
theorem property?_foldl_perform_of_failing {ops : List Operation}
    (h : ∀ op ∈ ops, op.slot = s → ∃ e, op.outcome = .error e) (sheet : Sheet) :
    (ops.foldl perform sheet).property? s = sheet.property? s := by
  induction ops generalizing sheet with
  | nil => rfl
  | cons op ops ih =>
    rw [List.foldl_cons, ih fun op hop => h op (List.mem_cons_of_mem _ hop)]
    by_cases hs : op.slot = s
    · obtain ⟨e, he⟩ := h op List.mem_cons_self hs
      rw [perform_of_error he]
    · exact property?_perform_of_ne hs sheet

/-- **The last step that succeeds on a slot** decides what is in it after the run. -/
theorem property?_foldl_perform_of_last {before after : List Operation} {value : Option Property}
    (h : op.outcome = .ok value) (hafter : ∀ later ∈ after, later.slot = op.slot → ∃ e, later.outcome = .error e)
    (sheet : Sheet) : ((before ++ op :: after).foldl perform sheet).property? op.slot = value := by
  rw [List.foldl_append, List.foldl_cons, property?_foldl_perform_of_failing hafter, property?_perform_of_ok h]

/-! ## Listed facts -/

theorem mem_present : p ∈ sheet.present ↔ sheet.get p.slot = some p.payload := by
  rw [← property?_slot, present, List.mem_filterMap]
  constructor
  · rintro ⟨s, -, hs⟩
    rw [slot_of_property? hs]
    exact hs
  · exact fun h => ⟨p.slot, p.slot.mem_all, h⟩

/-- **The filled slots are listed** once each and in slot order. -/
theorem map_slot_present (sheet : Sheet) :
    sheet.present.map Property.slot = Slot.all.filter fun s => (sheet.property? s).isSome := by
  rw [present, List.map_filterMap, ← List.filterMap_eq_filter]
  refine List.filterMap_congr fun s _ => ?_
  cases hs : sheet.property? s with
  | none => simp [Option.guard, hs]
  | some p => simp [Option.guard, hs, slot_of_property? hs]

theorem slots_sublist (sheet : Sheet) : (sheet.present.map Property.slot).Sublist Slot.all := by
  rw [map_slot_present]
  exact List.filter_sublist

/-- **What is listed fills an empty edge** with the same facts, in any order. -/
theorem property?_foldl_fill {facts : List Property} (h : facts.Perm sheet.present) (s : Slot) :
    (facts.foldl fill empty).property? s = sheet.property? s := by
  have hfill : facts.foldl fill empty = (facts.map Operation.value).foldl perform empty := by
    rw [List.foldl_map]
    rfl
  have hmem (p : Property) : p ∈ facts ↔ sheet.property? p.slot = some p := by
    rw [h.mem_iff, mem_present, property?_slot]
  rw [hfill]
  cases hs : sheet.property? s with
  | none =>
    refine property?_foldl_perform_of_failing (fun op hop hslot => ?_) empty
    obtain ⟨p, hp, rfl⟩ := List.mem_map.1 hop
    have hfilled := (hmem p).1 hp
    rw [show p.slot = s from hslot, hs] at hfilled
    cases hfilled
  | some p =>
    obtain rfl := slot_of_property? hs
    obtain ⟨before, after, hsplit⟩ := List.append_of_mem ((hmem p).2 hs)
    -- a slot is listed once, so nothing is filled into it afterwards
    have honce : (facts.map Property.slot).Nodup :=
      (h.map Property.slot).nodup_iff.2 (Slot.all_nodup.sublist sheet.slots_sublist)
    rw [hsplit, List.map_append, List.map_cons] at honce
    rw [hsplit, List.map_append, List.map_cons]
    have hvalue : (Operation.value p).outcome = .ok (some p) := rfl
    refine property?_foldl_perform_of_last hvalue (fun later hlater hslot => ?_) empty
    obtain ⟨q, hq, rfl⟩ := List.mem_map.1 hlater
    refine absurd ?_ (List.nodup_cons.1 (List.nodup_append.1 honce).2.1).1
    exact List.mem_map.2 ⟨q, hq, hslot⟩

/-! ## Agreement -/

theorem sameAt_iff : a.sameAt b s = true ↔ Option.Rel Property.Agrees (a.property? s) (b.property? s) := by
  unfold sameAt property?
  generalize a.get s = first, b.get s = second
  cases first with
  | none => cases second with
    | none => exact iff_of_true rfl .none
    | some w => exact iff_of_false Bool.false_ne_true nofun
  | some v => cases second with
    | none => exact iff_of_false Bool.false_ne_true nofun
    | some w =>
      constructor
      · exact fun h => .some (.payloads h)
      · intro h
        cases h with
        | some hvw => cases hvw with
          | payloads h => exact h

/-- **Edges are equal** if they agree in every slot. -/
theorem same_iff : a.same b = true ↔ ∀ s, Option.Rel Property.Agrees (a.property? s) (b.property? s) := by
  rw [same, List.all_eq_true]
  exact ⟨fun h s => sameAt_iff.1 (h s s.mem_all), fun h s _ => sameAt_iff.2 (h s)⟩

/-- **An edge is empty** if it equals the empty one. -/
theorem isEmpty_iff : sheet.isEmpty = true ↔ sheet.same empty = true := by
  have hrel (s : Slot) :
      Option.Rel Property.Agrees (sheet.property? s) (empty.property? s) ↔ sheet.property? s = none := by
    rw [property?_empty]
    cases sheet.property? s with
    | none => exact iff_of_true .none rfl
    | some p => exact iff_of_false nofun nofun
  rw [isEmpty, List.isEmpty_iff, present, List.filterMap_eq_nil_iff, same_iff]
  exact ⟨fun h s => (hrel s).2 (h s s.mem_all), fun h s _ => (hrel s).1 (h s)⟩

/-! ## All laws -/

/-- **The facts of an edge are a lawful store.** After any run of operations on an empty edge a slot holds what the
last operation that succeeded on it put there, and nothing if none did; operations on other slots and failing ones
leave it alone. The filled slots are listed once each and in slot order, each with the property it holds, and whoever
fills what is listed into an empty edge, in any order, finds the same facts. Edges are equal exactly if they agree in
every slot, and empty exactly if they equal the empty edge. -/
theorem store_lawful :
    (∀ (before after : List Operation) (op : Operation) (value : Option Property), op.outcome = .ok value →
      (∀ later ∈ after, later.slot = op.slot → ∃ e, later.outcome = .error e) →
      ((before ++ op :: after).foldl perform empty).property? op.slot = value) ∧
    (∀ (ops : List Operation) (s : Slot), (∀ op ∈ ops, op.slot = s → ∃ e, op.outcome = .error e) →
      (ops.foldl perform empty).property? s = none) ∧
    (∀ (sheet : Sheet) (op : Operation), (∀ s, op.slot ≠ s → (sheet.perform op).property? s = sheet.property? s) ∧
      ∀ e, op.outcome = .error e → sheet.attempt op = .error e ∧ sheet.perform op = sheet) ∧
    (∀ sheet : Sheet, (sheet.present.map Property.slot = Slot.all.filter fun s => (sheet.property? s).isSome) ∧
      (∀ p, p ∈ sheet.present ↔ sheet.property? p.slot = some p) ∧
      ∀ (s : Slot) (p : Property), sheet.property? s = some p → p.slot = s) ∧
    (∀ (sheet : Sheet) (facts : List Property), facts.Perm sheet.present →
      ∀ s, (facts.foldl fill empty).property? s = sheet.property? s) ∧
    (∀ a b : Sheet, a.same b = true ↔ ∀ s, Option.Rel Property.Agrees (a.property? s) (b.property? s)) ∧
    ∀ sheet : Sheet, sheet.isEmpty = true ↔ sheet.same empty = true := by
  refine ⟨?_, ?_, ?_, ?_, ?_, ?_, ?_⟩
  · exact fun before after op value h hafter => property?_foldl_perform_of_last h hafter empty
  · exact fun ops s h => property?_foldl_perform_of_failing h empty
  · exact fun sheet op =>
      ⟨fun s h => property?_perform_of_ne h sheet, fun e h => ⟨attempt_of_error h sheet, perform_of_error h sheet⟩⟩
  · exact fun sheet => ⟨map_slot_present sheet, fun p => mem_present.trans property?_slot.symm,
      fun s p => slot_of_property?⟩
  · exact fun sheet facts h s => property?_foldl_fill h s
  · exact fun a b => same_iff
  · exact fun sheet => isEmpty_iff

/-- a width that is measured, a light that is cleared again by a tag that says nothing, and a second width that is
misspelt -/
def survey : List Operation :=
  [.value ⟨.lit, true⟩, .tag .width "0.9", .tag .lit "maybe", .tag .width "1m20", .value ⟨.surface, Surface.sand⟩]

/-- the misspelt width leaves the measured one, and the facts can be filled in again from the last to the first -/
theorem store_lawful_survey :
    (survey.foldl perform empty).property? .width = some ⟨.width, (0.9 : Binary64)⟩ ∧
      (survey.foldl perform empty).property? .lit = none ∧
      (∃ e, (survey.foldl perform empty).attempt (.tag .width "1m20") = .error e ∧
        (survey.foldl perform empty).perform (.tag .width "1m20") = survey.foldl perform empty) ∧
      (survey.foldl perform empty).property? .highway = none ∧
      ((survey.foldl perform empty).present.reverse.foldl fill empty).property? .width =
        some ⟨.width, (0.9 : Binary64)⟩ := by
  obtain ⟨hlast, hnone, hstep, -, hrefill, -, -⟩ := store_lawful
  have hwidth : Operation.outcome (.tag .width "0.9") = .ok (some ⟨.width, (0.9 : Binary64)⟩) := by
    refine Property.parse_eq_some_iff.2 ⟨(0.9 : Binary64), ?_, rfl⟩
    show (Tag.parse "0.9" : Except TagError (Option Binary64)) = _
    decide +kernel
  have hmisspelt : ∃ e, Operation.outcome (.tag .width "1m20") = .error e := by
    refine (Property.parse_lawful .width "1m20").1.2 ⟨rfl, by decide +kernel, ?_⟩
    rw [← isSome_numberFault?_iff]
    decide +kernel
  have hmaybe : Operation.outcome (.tag .lit "maybe") = .ok none := by
    have hread : (Tag.parse "maybe" : Except TagError (Option Bool)) = .ok none := by decide +kernel
    show Property.parse .lit "maybe" = _
    unfold Property.parse
    exact congrArg (Except.map _) hread
  have hmeasured : (survey.foldl perform empty).property? .width = some ⟨.width, (0.9 : Binary64)⟩ := by
    refine hlast [.value ⟨.lit, true⟩] _ (.tag .width "0.9") _ hwidth fun later hlater hslot => ?_
    simp only [List.mem_cons, List.not_mem_nil, or_false] at hlater
    rcases hlater with rfl | rfl | rfl
    · cases hslot
    · exact hmisspelt
    · cases hslot
  have hcleared : (survey.foldl perform empty).property? .lit = none := by
    refine hlast [.value ⟨.lit, true⟩, .tag .width "0.9"] _ (.tag .lit "maybe") _ hmaybe fun later hlater hslot => ?_
    simp only [List.mem_cons, List.not_mem_nil, or_false] at hlater
    rcases hlater with rfl | rfl
    · cases hslot
    · cases hslot
  have huntouched : (survey.foldl perform empty).property? .highway = none := by
    refine hnone survey .highway fun op hop hslot => ?_
    simp only [survey, List.mem_cons, List.not_mem_nil, or_false] at hop
    rcases hop with rfl | rfl | rfl | rfl | rfl <;> cases hslot
  obtain ⟨e, he⟩ := hmisspelt
  refine ⟨hmeasured, hcleared, ⟨e, (hstep _ (.tag .width "1m20")).2 e he⟩, huntouched, ?_⟩
  rw [hrefill _ _ (List.reverse_perm _)]
  exact hmeasured

end Sheet

end AccessibleWalk
