/-
What travellers are told about a step is what is known about its edge. The step depends on nine slots and on no other,
and no two contents of these slots look the same: categories have names of their own, and the text of a slope is read
back as the slope, so that no direction passes for a percentage. The JSON text of a step gives the step back.

- `get_eq_of_sameWords`, `sameAt_of_same`: equal steps come from equal facts.
- `ofSheet_congr`: facts that are not shown do not count.
- `read_json`: a step is read back from its text, if its numbers are.
- `ofSheet_faithful`: all of this together.
-/
import AccessibleWalk.Itinerary.Step
import AccessibleWalk.Proofs.Routing.RoundTrip
import AccessibleWalk.Proofs.Way.Export

namespace AccessibleWalk

/-! ## Facts -/

/-- a text stands for one payload -/
theorem Content.text_injective (c : Content) {v w : c.Value} (hv : c.isFinite v = true) (hw : c.isFinite w = true)
    (h : TagValue.text v = TagValue.text w) : v = w := by
  have hread := c.parse_text v hv
  rw [h, c.parse_text w hw] at hread
  exact (Option.some.inj (Except.ok.inj hread)).symm

namespace Sheet

variable {a b : Sheet} {s : Slot}

/-- facts that are the same agree, as their numbers do -/
theorem Finite.sameAt_of_eq (ha : a.Finite) (h : a.get s = b.get s) : a.sameAt b s = true := by
  unfold sameAt
  rw [← h]
  cases hv : a.get s with
  | none => rfl
  | some v => exact s.content.same_self v (ha s v hv)

/-- facts with the same text are the same -/
theorem Finite.get_eq_of_text (ha : a.Finite) (hb : b.Finite)
    (h : (a.get s).map TagValue.text = (b.get s).map TagValue.text) : a.get s = b.get s := by
  cases hv : a.get s with
  | none =>
    rw [hv, Option.map_none, eq_comm, Option.map_eq_none_iff] at h
    exact h.symm
  | some v =>
    rw [hv, Option.map_some, eq_comm, Option.map_eq_some_iff] at h
    obtain ⟨w, hw, htext⟩ := h
    rw [hw, s.content.text_injective (hb s w hw) (ha s v hv) htext]

end Sheet

/-- the slots that a traveller is told about -/
def Slot.shown : List Slot :=
  [.width, .lit, .surface, .tactilePaving, .smoothness, .highway, .footway, .incline, .travHTrt]

/-- the numbers that a traveller is told -/
theorem Slot.width_or_travHTrt {s : Slot} (hs : s ∈ shown) (h : s.content = .number) : s = .width ∨ s = .travHTrt := by
  revert s
  decide

namespace WalkStep

/-! ## Equal steps -/

/-- everything but the numbers is the same -/
structure SameWords (x y : WalkStep) : Prop where
  lit : x.lit = y.lit
  surface : x.surface = y.surface
  tactilePaving : x.tactilePaving = y.tactilePaving
  smoothness : x.smoothness = y.smoothness
  highway : x.highway = y.highway
  footway : x.footway = y.footway
  incline : x.incline = y.incline

theorem same_iff {x y : WalkStep} :
    x.same y = true ↔ SameWords x y ∧ sameNumber x.width y.width = true ∧ sameNumber x.travHTrt y.travHTrt = true := by
  simp only [same, Bool.and_eq_true, beq_iff_eq]
  constructor
  · rintro ⟨⟨⟨⟨⟨⟨⟨⟨hwidth, hlit⟩, hsurface⟩, hpaving⟩, hsmoothness⟩, hhighway⟩, hfootway⟩, hincline⟩, hcrossing⟩
    exact ⟨⟨hlit, hsurface, hpaving, hsmoothness, hhighway, hfootway, hincline⟩, hwidth, hcrossing⟩
  · rintro ⟨⟨hlit, hsurface, hpaving, hsmoothness, hhighway, hfootway, hincline⟩, hwidth, hcrossing⟩
    exact ⟨⟨⟨⟨⟨⟨⟨⟨hwidth, hlit⟩, hsurface⟩, hpaving⟩, hsmoothness⟩, hhighway⟩, hfootway⟩, hincline⟩, hcrossing⟩

section Facts

variable {a b : Sheet}

/-- **The same words stand for the same facts**: a name for one value, the text of a slope for one slope, and what is
missing for nothing. -/
theorem get_eq_of_sameWords (ha : a.Finite) (hb : b.Finite) (h : SameWords (ofSheet a) (ofSheet b)) {s : Slot}
    (hs : s ∈ Slot.shown) (hnumber : s.content ≠ .number) : a.get s = b.get s := by
  have names {α : Type} [Category α] [NamedCategory α] {v w : Option α}
      (h : v.map Category.name = w.map Category.name) : v = w :=
    Option.map_injective NamedCategory.name_injective h
  simp only [Slot.shown, List.mem_cons, List.not_mem_nil, or_false] at hs
  rcases hs with rfl | rfl | rfl | rfl | rfl | rfl | rfl | rfl | rfl
  · exact absurd rfl hnumber
  · exact h.lit
  · exact names h.surface
  · exact h.tactilePaving
  · exact names h.smoothness
  · exact names h.highway
  · exact names h.footway
  · exact ha.get_eq_of_text hb h.incline
  · exact absurd rfl hnumber

theorem sameNumber_eq_sameAt (a b : Sheet) :
    sameNumber (a.get .width) (b.get .width) = a.sameAt b .width ∧
      sameNumber (a.get .travHTrt) (b.get .travHTrt) = a.sameAt b .travHTrt := by
  unfold sameNumber Sheet.sameAt
  constructor
  · cases a.get .width <;> cases b.get .width <;> rfl
  · cases a.get .travHTrt <;> cases b.get .travHTrt <;> rfl

/-- **Equal steps come from edges that agree** in what is shown. -/
theorem sameAt_of_same (ha : a.Finite) (hb : b.Finite) (h : (ofSheet a).same (ofSheet b) = true) {s : Slot}
    (hs : s ∈ Slot.shown) : a.sameAt b s = true := by
  obtain ⟨hwords, hwidth, hcrossing⟩ := same_iff.1 h
  by_cases hnumber : s.content = .number
  · rcases Slot.width_or_travHTrt hs hnumber with rfl | rfl
    · rw [← (sameNumber_eq_sameAt a b).1]
      exact hwidth
    · rw [← (sameNumber_eq_sameAt a b).2]
      exact hcrossing
  · exact ha.sameAt_of_eq (get_eq_of_sameWords ha hb hwords hs hnumber)

/-- one step comes from one edge, as far as it is shown -/
theorem get_eq_of_ofSheet_eq (ha : a.Finite) (hb : b.Finite) (h : ofSheet a = ofSheet b) {s : Slot}
    (hs : s ∈ Slot.shown) : a.get s = b.get s := by
  by_cases hnumber : s.content = .number
  · rcases Slot.width_or_travHTrt hs hnumber with rfl | rfl
    · exact congrArg WalkStep.width h
    · exact congrArg WalkStep.travHTrt h
  · refine get_eq_of_sameWords ha hb ?_ hs hnumber
    rw [h]
    exact ⟨rfl, rfl, rfl, rfl, rfl, rfl, rfl⟩

/-- **What is not shown does not count.** -/
theorem ofSheet_congr (h : ∀ s ∈ Slot.shown, a.get s = b.get s) : ofSheet a = ofSheet b := by
  have hat (s : Slot) (hs : s ∈ Slot.shown := by decide) : a.get s = b.get s := h s hs
  rw [ofSheet, hat .width, hat .lit, hat .surface, hat .tactilePaving, hat .smoothness, hat .highway, hat .footway,
    hat .incline, hat .travHTrt]
  rfl

end Facts

/-! ## Reading what was written -/

open Decode (Written)

variable {dialect : Dialect}

/-- a field that is written as null where nothing is known -/
def writtenField {α : Type} (name : String) (decode : Decoder α) (update : Option α → WalkStep → WalkStep)
    (encode : α → Document) (v : Option α) (hread : ∀ w, decode dialect (encode w) = .ok w)
    (hvalue : ∀ w, encode w ≠ .null ∧ ∀ d, encode w ≠ .misnamed d) : Written WalkStep dialect :=
  .of name (Decode.optional decode) update (Encode.optional encode v) v
    (Decode.optional_encode (fun w _ => hread w) fun w _ => (hvalue w).1) (by
      cases v with
      | none => exact fun _ => Document.noConfusion
      | some w => exact (hvalue w).2)

def writtenNumber (name : String) (update : Option Binary64 → WalkStep → WalkStep) (v : Option Binary64) :
    Written WalkStep dialect :=
  writtenField name Decode.number update .real v Decode.number_real fun _ =>
    ⟨Document.noConfusion, fun _ => Document.noConfusion⟩

def writtenFlag (name : String) (update : Option Bool → WalkStep → WalkStep) (v : Option Bool) :
    Written WalkStep dialect :=
  writtenField name Decode.flag update .flag v Decode.flag_flag fun _ =>
    ⟨Document.noConfusion, fun _ => Document.noConfusion⟩

def writtenText (name : String) (update : Option String → WalkStep → WalkStep) (v : Option String) :
    Written WalkStep dialect :=
  writtenField name Decode.text update .text v Decode.text_text fun _ =>
    ⟨Document.noConfusion, fun _ => Document.noConfusion⟩

/-- every field of a step with what is written for it -/
def written (step : WalkStep) : List (Written WalkStep dialect) :=
  [
    writtenNumber "width" (fun v step => { step with width := v }) step.width,
    writtenFlag "lit" (fun v step => { step with lit := v }) step.lit,
    writtenText "surface" (fun v step => { step with surface := v }) step.surface,
    writtenFlag "tactile_paving" (fun v step => { step with tactilePaving := v }) step.tactilePaving,
    writtenText "smoothness" (fun v step => { step with smoothness := v }) step.smoothness,
    writtenText "highway" (fun v step => { step with highway := v }) step.highway,
    writtenText "footway" (fun v step => { step with footway := v }) step.footway,
    writtenText "incline" (fun v step => { step with incline := v }) step.incline,
    writtenNumber "trav_h_trt" (fun v step => { step with travHTrt := v }) step.travHTrt]

/-- **A step is read back from its document**, in every notation. -/
theorem decode_toDocument (step : WalkStep) : decode dialect step.toDocument = .ok step := by
  let ws : List (Written WalkStep dialect) := step.written
  have happly : Written.apply ws {} = step := by
    cases step
    rfl
  have hread := Decode.record_written fields ws rfl (by decide) false {}
  rw [happly] at hread
  exact hread

variable {rounding : Decimal → Magnitude} {numeral : Binary64 → List Char}

/-- a step in JSON -/
def ofJson (text : String) (rounding : Decimal → Magnitude := Decimal.magnitude) : Except DecodeError WalkStep :=
  decode.ofJson text rounding

/-- the JSON text of a step -/
def json (step : WalkStep) (numeral : Binary64 → List Char := Json.realText) : String :=
  Json.render step.toDocument numeral

/-- a step has two numbers, and everything else in its document stands for itself -/
theorem leaves_isKept_toDocument {step : WalkStep}
    (h : ∀ x, step.width = some x ∨ step.travHTrt = some x → Json.readsBack rounding numeral x = true) :
    step.toDocument.leaves (Json.isKept rounding numeral) = true := by
  have hnumber : ∀ v : Option Binary64, (∀ x, v = some x → Json.readsBack rounding numeral x = true) →
      (Encode.optional Document.real v).leaves (Json.isKept rounding numeral) = true := by
    intro v hv
    cases v with
    | none => rfl
    | some x => exact hv x rfl
  have hflag : ∀ v : Option Bool, (Encode.optional Document.flag v).leaves (Json.isKept rounding numeral) = true := by
    intro v
    cases v <;> rfl
  have htext : ∀ v : Option String, (Encode.optional Document.text v).leaves (Json.isKept rounding numeral) = true := by
    intro v
    cases v <;> rfl
  have hwidth := hnumber step.width fun x hx => h x (.inl hx)
  have hcrossing := hnumber step.travHTrt fun x hx => h x (.inr hx)
  simp [toDocument, hwidth, hcrossing, hflag, htext]

/-- **A step is read back from its text**, if its numbers are. -/
theorem read_json {step : WalkStep}
    (h : ∀ x, step.width = some x ∨ step.travHTrt = some x → Json.readsBack rounding numeral x = true) :
    ofJson (step.json numeral) rounding = .ok step :=
  (Decoder.ofJson_render decode (leaves_isKept_toDocument h)).trans (decode_toDocument step)

/-! ## Faithful steps -/

/-- **A step is faithful to its edge.** Of two edges with finite numbers, equal steps come from facts that agree, and
one step from the same facts, in every slot that is shown; facts that are not shown do not change the step; and the
step is read back from its JSON text. With any other way to write reals and to round decimals it still is, if the
numbers of the edge that it shows are read back from theirs. -/
theorem ofSheet_faithful :
    (∀ a b : Sheet, a.Finite → b.Finite →
      ((ofSheet a).same (ofSheet b) = true → ∀ s ∈ Slot.shown, a.sameAt b s = true) ∧
      (ofSheet a = ofSheet b → ∀ s ∈ Slot.shown, a.get s = b.get s)) ∧
    (∀ a b : Sheet, (∀ s ∈ Slot.shown, a.get s = b.get s) → ofSheet a = ofSheet b) ∧
    (∀ sheet : Sheet, sheet.Finite → ofJson (ofSheet sheet).json = .ok (ofSheet sheet)) ∧
    ∀ (rounding : Decimal → Magnitude) (numeral : Binary64 → List Char) (sheet : Sheet),
      (∀ x, sheet.get .width = some x ∨ sheet.get .travHTrt = some x → Json.readsBack rounding numeral x = true) →
      ofJson ((ofSheet sheet).json numeral) rounding = .ok (ofSheet sheet) := by
  refine ⟨?_, ?_, ?_, ?_⟩
  · intro a b ha hb
    exact ⟨fun h s hs => sameAt_of_same ha hb h hs, fun h s hs => get_eq_of_ofSheet_eq ha hb h hs⟩
  · intro a b h
    exact ofSheet_congr h
  · intro sheet h
    refine read_json fun x hx => Json.readsBack_realText ?_
    rcases hx with hx | hx
    · exact h .width x hx
    · exact h .travHTrt x hx
  · intro rounding numeral sheet h
    exact read_json h

/-- a way on concrete lanes that is no width wide, with a curb that travellers are not told about -/
def alley (negative : Bool) (curb : Binary64) : Sheet :=
  (((Sheet.empty.put .width (some (Binary64.signed negative .zero))).put .surface (some .concreteLanes)).put .incline
    (some (.percent (-5)))).put .ressautMax (some curb)

theorem alley_finite (negative : Bool) {curb : Binary64} (h : curb.isFinite = true) : (alley negative curb).Finite := by
  refine (((Sheet.finite_empty.put ?_).put ?_).put ?_).put ?_
  · rintro v ⟨⟩; rfl
  · rintro v ⟨⟩; rfl
  · rintro v ⟨⟩; decide +kernel
  · rintro v ⟨⟩; exact h

/-- zeros of either sign are one width, another curb makes no other step, and rounding in steps keeps the sign of the
zero -/
theorem ofSheet_faithful_alley :
    (alley true 0.02).Finite ∧ (alley false 0.1).Finite ∧
      (ofSheet (alley true 0.02)).same (ofSheet (alley false 0.1)) = true ∧
      (alley true 0.02).sameAt (alley false 0.1) .width = true ∧
      (∀ s ∈ Slot.shown, (alley true 0.02).get s = (alley true 0.1).get s) ∧
      ofSheet (alley true 0.02) = ofSheet (alley true 0.1) ∧
      (alley true 0.02).get .incline = (alley true 0.1).get .incline ∧
      ofJson (ofSheet (alley true 0.02)).json = .ok (ofSheet (alley true 0.02)) ∧
      ofJson ((ofSheet (alley true 0.02)).json WalkPreferences.layout.write) Json.stepwise =
        .ok (ofSheet (alley true 0.02)) := by
  have hlow : (alley true 0.02).Finite := alley_finite true (by decide +kernel)
  have hhigh (negative : Bool) : (alley negative 0.1).Finite := alley_finite negative (by decide +kernel)
  have hsame : (ofSheet (alley true 0.02)).same (ofSheet (alley false 0.1)) = true := by decide +kernel
  have hshown : ∀ s ∈ Slot.shown, (alley true 0.02).get s = (alley true 0.1).get s := by
    intro s hs
    have hcurb : Slot.ressautMax ≠ s := fun h => absurd (h ▸ hs) (by decide)
    rw [alley, alley, Sheet.get_put_of_ne hcurb, Sheet.get_put_of_ne hcurb]
  have hzero : Json.readsBack Json.stepwise WalkPreferences.layout.write (Binary64.signed true .zero) = true := by
    decide +kernel
  have hreads : ∀ x, (alley true 0.02).get .width = some x ∨ (alley true 0.02).get .travHTrt = some x →
      Json.readsBack Json.stepwise WalkPreferences.layout.write x = true := by
    rintro x (hx | hx)
    · obtain rfl := Option.some.inj hx
      exact hzero
    · cases hx
  have hstep := ofSheet_faithful.2.1 _ _ hshown
  have hequal := (ofSheet_faithful.1 _ _ hlow (hhigh false)).1 hsame .width (by decide)
  have hone := (ofSheet_faithful.1 _ _ hlow (hhigh true)).2 hstep .incline (by decide)
  exact ⟨hlow, hhigh false, hsame, hequal, hshown, hstep, hone, ofSheet_faithful.2.2.1 _ hlow,
    ofSheet_faithful.2.2.2 Json.stepwise WalkPreferences.layout.write _ hreads⟩

end WalkStep

end AccessibleWalk
