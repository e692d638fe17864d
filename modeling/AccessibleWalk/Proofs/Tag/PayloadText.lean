/-
Texts of payloads. Every payload with finite numbers is read back from its own text, which has no blanks and lists one
value only, so that it is the same tag for the reader of single tags and for the reader of a way's tags.

- `text_ne`, `isBlank_of_mem_text`: the text is a tag as it stands.
- `parse_text`: it is a tag of the payload.
- `ofWayTag_text`: so it is on a way.
- `isFinite_of_ofWayTag`: no tag holds a number that is not finite.
-/
import AccessibleWalk.Proofs.Number.ReadBack
import AccessibleWalk.Proofs.Way.TagFold

namespace AccessibleWalk

/-! ## Numbers -/

theorem readFinite_write {x : Binary64} (hx : x.isFinite = true) :
    readFinite (String.ofList (Layout.tag.write x)) = .ok x := by
  rw [readFinite, Layout.ofLiteral_write (fun _ => rfl) hx]
  exact if_pos hx

theorem isFinite_of_readFinite {raw : String} {x : Binary64} (h : readFinite raw = .ok x) : x.isFinite = true := by
  unfold readFinite at h
  split at h
  · cases h
  · split at h
    · next hx => cases h; exact hx
    · cases h

/-- what stands in the text of a number is no blank, no percent sign and no letter -/
theorem isBlank_of_isNumeral {c : Char} (h : isNumeral c = true) : Text.isBlank c = false := by
  have := toNat_of_isNumeral h
  simp only [Text.isBlank, Bool.or_eq_false_iff, Bool.and_eq_false_iff, decide_eq_false_iff_not, beq_eq_false_iff_ne]
  omega

/-! ## Texts without blanks -/

/-- a tag that is read as it stands -/
def IsTagText (raw : String) : Prop := raw ≠ "" ∧ ∀ c ∈ raw.toList, Text.isBlank c = false

theorem IsTagText.trim_eq {raw : String} (h : IsTagText raw) : Text.trim raw = raw := Text.trim_eq_self h.2

theorem IsTagText.isEmpty_eq {raw : String} (h : IsTagText raw) : raw.isEmpty = false := by simpa using h.1

theorem IsTagText.parse_eq_read {α : Type} [TagValue α] {raw : String} (h : IsTagText raw) :
    (Tag.parse raw : Except TagError (Option α)) = TagValue.read raw := by
  simp [Tag.parse_eq, h.trim_eq, h.isEmpty_eq]

theorem isTagText_label {α : Type} [Category α] [LawfulCategory α] (c : α) : IsTagText (Category.label c) :=
  ⟨LawfulCategory.label_ne c, fun ch h => (LawfulCategory.label_plain c ch h).1⟩

theorem isTagText_write {x : Binary64} (hx : x.isFinite = true) : IsTagText (String.ofList (Layout.tag.write x)) := by
  refine ⟨by simpa using Layout.write_ne_nil (fun _ => rfl) hx, fun c hc => ?_⟩
  rw [String.toList_ofList] at hc
  exact isBlank_of_isNumeral (Layout.isNumeral_of_mem_write (fun _ => rfl) hx hc)

/-! ## Slopes -/

namespace Incline

theorem percentOf?_write {p : Binary64} (hp : p.isFinite = true) :
    percentOf? (String.ofList (Layout.tag.write p)) = some p := by
  have hpercent : withoutPercent (Layout.tag.write p) = Layout.tag.write p := by
    refine if_neg fun hlast => ?_
    have := Layout.isNumeral_of_mem_write (fun _ => rfl) hp (List.mem_of_getLast? hlast)
    revert this
    decide
  have htrim : Text.trimChars (Layout.tag.write p) = Layout.tag.write p :=
    Text.trimChars_eq_self fun c hc => isBlank_of_isNumeral (Layout.isNumeral_of_mem_write (fun _ => rfl) hp hc)
  rw [percentOf?, String.toList_ofList, hpercent, htrim, readFinite_write hp]
  rfl

/-- the text of a number is no direction -/
theorem ofLabel?_write {p : Binary64} (hp : p.isFinite = true) :
    (Category.ofLabel? (String.ofList (Layout.tag.write p)) : Option InclineDirection) = none := by
  cases hd : (Category.ofLabel? (String.ofList (Layout.tag.write p)) : Option InclineDirection) with
  | none => rfl
  | some d =>
    -- a label has letters
    have hletter : ((Category.label d).toList.any fun c => !isNumeral c) = true := by cases d <;> decide
    obtain ⟨c, hc, hn⟩ := List.any_eq_true.1 hletter
    rw [Category.ofLabel?_eq_some_iff.1 hd, String.toList_ofList] at hc
    rw [Layout.isNumeral_of_mem_write (fun _ => rfl) hp hc] at hn
    cases hn

theorem isFinite_of_ofRaw? {raw : String} {p : Binary64} (h : ofRaw? raw = some (.percent p)) : p.isFinite = true := by
  unfold ofRaw? at h
  split at h
  · cases h
  · obtain ⟨x, hx, he⟩ := Option.map_eq_some_iff.1 h
    cases he
    unfold percentOf? at hx
    cases hread : readFinite (String.ofList (Text.trimChars (withoutPercent raw.toList))) with
    | error e => rw [hread] at hx; cases hx
    | ok x => rw [hread] at hx; cases hx; exact isFinite_of_readFinite hread

end Incline

/-! ## Payloads -/

namespace Content

/-- are the numbers of a payload finite? -/
def isFinite : (c : Content) → c.Value → Bool
  | .number, x => Binary64.isFinite x
  | .incline, .percent p => p.isFinite
  | .incline, .direction _ => true
  | .flag, _ | .surface, _ | .smoothness, _ | .highway, _ | .footway, _ | .bevEtat, _ => true

theorem isTagText_text (c : Content) (v : c.Value) (hv : c.isFinite v = true) : IsTagText (TagValue.text v) := by
  cases c with
  | number => exact isTagText_write hv
  | flag =>
    have hflag (b : Bool) : IsTagText (if b then "true" else "false") := by
      have hall : ((if b then "true" else "false").toList.all fun c => !Text.isBlank c) = true := by cases b <;> decide
      exact ⟨by cases b <;> decide, by simpa using hall⟩
    exact hflag v
  | incline =>
    cases v with
    | direction d => exact isTagText_label d
    | percent p => exact isTagText_write hv
  | _ => exact isTagText_label (α := _) v

/-- **A payload is read back from its text.** -/
theorem parse_text (c : Content) (v : c.Value) (hv : c.isFinite v = true) :
    (Tag.parse (TagValue.text v) : Except TagError (Option c.Value)) = .ok (some v) := by
  cases c with
  | number =>
    rw [(isTagText_text .number v hv).parse_eq_read]
    show (readFinite (String.ofList (Layout.tag.write v))).map some = .ok (some v)
    rw [readFinite_write hv]
    rfl
  | flag =>
    rw [(isTagText_text .flag v hv).parse_eq_read]
    cases v with
    | true => rfl
    | false => rfl
  | incline =>
    rw [(isTagText_text .incline v hv).parse_eq_read]
    cases v with
    | direction d => cases d <;> rfl
    | percent p =>
      show Except.ok (Incline.ofRaw? (String.ofList (Layout.tag.write p))) = .ok (some (.percent p))
      rw [Incline.ofRaw?, Incline.ofLabel?_write hv, Incline.percentOf?_write hv]
      rfl
  | _ => exact Category.parse_label v

/-- **On a way too**, where a category is read from a list of values. -/
theorem ofWayTag_text (c : Content) (v : c.Value) (hv : c.isFinite v = true) :
    c.ofWayTag (TagValue.text v) = .ok (some v) := by
  cases c with
  | number => exact parse_text .number v hv
  | flag => exact parse_text .flag v hv
  | incline => exact parse_text .incline v hv
  | _ => exact congrArg Except.ok (Category.firstLabel?_label v)

/-- a payload agrees with itself, as its numbers do -/
theorem same_self (c : Content) (v : c.Value) (hv : c.isFinite v = true) : TagValue.same v v = true := by
  have hnumber {x : Binary64} (hx : x.isFinite = true) : x.equals x = true := by
    refine Binary64.equals_iff.2 ⟨rfl, ?_⟩
    rintro rfl
    cases hx
  cases c with
  | number => exact hnumber hv
  | flag => exact beq_self_eq_true v
  | incline =>
    cases v with
    | direction d => exact beq_self_eq_true d
    | percent p => exact hnumber hv
  | _ => exact beq_self_eq_true v

/-- what is read is finite -/
theorem isFinite_of_read (c : Content) {raw : String} {v : c.Value}
    (h : (TagValue.read raw : Except TagError (Option c.Value)) = .ok (some v)) : c.isFinite v = true := by
  cases c with
  | number =>
    change (readFinite raw).map some = .ok (some v) at h
    cases hx : readFinite raw with
    | error e => rw [hx] at h; cases h
    | ok x => rw [hx] at h; cases h; exact isFinite_of_readFinite hx
  | incline =>
    change Except.ok (Incline.ofRaw? raw) = .ok (some v) at h
    cases v with
    | direction d => rfl
    | percent p => exact Incline.isFinite_of_ofRaw? (Except.ok.inj h)
  | _ => rfl

/-- **No tag holds a number that is not finite.** -/
theorem isFinite_of_parse (c : Content) {raw : String} {v : c.Value}
    (h : (Tag.parse raw : Except TagError (Option c.Value)) = .ok (some v)) : c.isFinite v = true := by
  rw [Tag.parse_eq] at h
  split_ifs at h with hblank
  · cases h
  · exact c.isFinite_of_read h

theorem isFinite_of_ofWayTag (c : Content) {raw : String} {v : c.Value} (h : c.ofWayTag raw = .ok (some v)) :
    c.isFinite v = true := by
  rw [c.ofWayTag_eq_entry] at h
  cases hentry : c.listed? raw with
  | none => rw [hentry] at h; cases h
  | some entry => rw [hentry] at h; exact c.isFinite_of_parse h

end Content

end AccessibleWalk
