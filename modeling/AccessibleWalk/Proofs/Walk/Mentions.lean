/-
The text of preferences tells them apart. It can be read: what stands between its braces falls into the mentions of
fields, a mention begins with the name of its field, and what stands behind the name is the text of one value. So
preferences with one text mention the same fields with the same values, and the other fields have their defaults.

- `Layout.write_injective`: a notation that keeps points tells all numbers apart.
- `same_of_valueText`: a value that is no default is told by its text.
- `readMentions_text`: the mentions are read from the text.
- `mentioned_text_iff`: the fields that differ from the defaults are mentioned, and no others.
- `text_identifies`: all of this together.
-/
import Mathlib
import AccessibleWalk.Proofs.Category.Labels
import AccessibleWalk.Proofs.Document.JsonWord
import AccessibleWalk.Proofs.Text.Parts
import AccessibleWalk.Proofs.Walk.KeyLaws

namespace AccessibleWalk

/-! ## Numbers -/

namespace Layout

variable {l : Layout}

/-- numbers that are not finite are written as three words -/
theorem write_of_not_isFinite (l : Layout) {x : Binary64} (hx : ¬x.isFinite = true) :
    (x = .nan ∧ l.write x = ['N', 'a', 'N']) ∨
      (x = .signed false .infinity ∧ l.write x = ['i', 'n', 'f']) ∨
      (x = .signed true .infinity ∧ l.write x = ['-', 'i', 'n', 'f']) := by
  cases x with
  | nan => exact .inl ⟨rfl, rfl⟩
  | signed negative m =>
    have hm : m = .infinity := by
      by_contra hne
      exact hx (Magnitude.isFinite_iff.2 hne)
    subst hm
    cases negative with
    | false => exact .inr (.inl ⟨rfl, rfl⟩)
    | true => exact .inr (.inr ⟨rfl, rfl⟩)

/-- the words are not digits, but they are read as what they say -/
theorem read_write_of_not_isFinite (l : Layout) {x : Binary64} (hx : ¬x.isFinite = true) :
    Json.number? Decimal.magnitude (l.write x) = none ∧ Binary64.ofLiteral (String.ofList (l.write x)) = .ok x := by
  rcases l.write_of_not_isFinite hx with ⟨rfl, hword⟩ | ⟨rfl, hword⟩ | ⟨rfl, hword⟩
  · rw [hword]; exact ⟨rfl, rfl⟩
  · rw [hword]; exact ⟨rfl, rfl⟩
  · rw [hword]; exact ⟨rfl, rfl⟩

theorem isWordChar_of_mem_write (hl : l.keepsPoint = true) {x : Binary64} {c : Char} (hc : c ∈ l.write x) :
    Json.isWordChar c = true := by
  by_cases hx : x.isFinite = true
  · exact (Json.isWordChar_of_number? (Json.number?_write hl hx)).2 c hc
  · have hword : (l.write x).all Json.isWordChar = true := by
      rcases l.write_of_not_isFinite hx with ⟨-, hword⟩ | ⟨-, hword⟩ | ⟨-, hword⟩ <;> rw [hword] <;> rfl
    exact List.all_eq_true.1 hword c hc

/-- **All numbers are told apart** by a notation that keeps points, zeros of either sign included. -/
theorem write_injective (hl : l.keepsPoint = true) : Function.Injective l.write := by
  intro x y h
  have hdigits := congrArg (Json.number? Decimal.magnitude) h
  by_cases hx : x.isFinite = true <;> by_cases hy : y.isFinite = true
  · rw [Json.number?_write hl hx, Json.number?_write hl hy] at hdigits
    exact Document.real.inj (Option.some.inj hdigits)
  · rw [Json.number?_write hl hx, (l.read_write_of_not_isFinite hy).1] at hdigits
    cases hdigits
  · rw [Json.number?_write hl hy, (l.read_write_of_not_isFinite hx).1] at hdigits
    cases hdigits
  · have hword := (l.read_write_of_not_isFinite hx).2
    rw [h, (l.read_write_of_not_isFinite hy).2] at hword
    exact (Except.ok.inj hword).symm

end Layout

/-! ## Words -/

theorem Text.toList_injective : Function.Injective String.toList := fun _ _ => String.toList_injective

/-- labels of surfaces have no commas and no brackets -/
theorem Surface.label_spec (s : Surface) :
    s.label.toList ≠ [] ∧ ∀ c ∈ s.label.toList, Text.isDivider c = false := by
  have hall : (s.label.toList.all fun c => !Text.isDivider c) = true := by cases s <;> decide
  exact ⟨by cases s <;> decide, by simpa using hall⟩

theorem Profile.name_injective : Function.Injective Profile.name := by
  intro p q h
  cases p <;> cases q <;> simp [name] at h ⊢

/-- names of fields have no colons, commas or brackets -/
theorem WalkField.name_spec (f : WalkField) :
    f.name.toList ≠ [] ∧ ∀ c ∈ f.name.toList, Text.isDivider c = false ∧ c ≠ ':' := by
  have hall : (f.name.toList.all fun c => !Text.isDivider c && c != ':') = true := by cases f <;> decide
  exact ⟨by cases f <;> decide, by simpa using hall⟩

theorem WalkField.name_injective : Function.Injective WalkField.name := by
  have hall : ∀ f ∈ all, ∀ g ∈ all, f.name = g.name → f = g := by decide
  exact fun f g h => hall f f.mem_all g g.mem_all h

/-! ## Values -/

namespace WalkPreferences

/-- the labels of surfaces, joined -/
def surfaceList (l : List Surface) : List Char := [',', ' '].intercalate (l.map fun s => s.label.toList)

theorem valueText_surfaces (l : List Surface) :
    valueText .surfaces l = some (String.ofList ('[' :: (surfaceList l ++ [']']))) := by
  have htext : "[" ++ ", ".intercalate (l.map Surface.label) ++ "]" =
      String.ofList ('[' :: (surfaceList l ++ [']'])) := by
    apply String.toList_injective
    simp [String.toList_intercalate, surfaceList, Function.comp_def]
  exact congrArg some htext

/-- surfaces are read back from their joined labels -/
theorem listed_surfaceList (l : List Surface) : Text.listed (surfaceList l) = l.map fun s => s.label.toList := by
  apply Text.listed_intercalate
  intro cs hcs
  obtain ⟨s, -, rfl⟩ := List.mem_map.1 hcs
  exact ⟨Text.isPart_of_no_divider s.label_spec.2, s.label_spec.1⟩

theorem surfaceList_injective : Function.Injective surfaceList := by
  intro l k h
  have hlabels := congrArg Text.listed h
  rw [listed_surfaceList, listed_surfaceList] at hlabels
  have hinjective : Function.Injective fun s : Surface => s.label.toList :=
    Text.toList_injective.comp (LawfulCategory.label_injective (α := Surface))
  exact hinjective.list_map hlabels

/-- characters of words divide nothing -/
theorem isDivider_of_isWordChar {c : Char} (h : Json.isWordChar c = true) : Text.isDivider c = false := by
  by_contra hdivider
  simp only [Text.isDivider, Bool.not_eq_false, Bool.or_eq_true, beq_iff_eq] at hdivider
  rcases hdivider with (rfl | rfl) | rfl <;> revert h <;> decide

theorem isDivider_of_mem_repr {i : Int} {c : Char} (hc : c ∈ i.repr.toList) : Text.isDivider c = false := by
  have hdigits (n : Nat) (hc : c ∈ n.repr.toList) : Text.isDivider c = false := by
    rw [Nat.repr, String.toList_ofList] at hc
    exact isDivider_of_isWordChar (Json.isWordChar_of_isDigit (AllDigits.toDigits n c hc))
  cases i with
  | ofNat n => exact hdigits n hc
  | negSucc n =>
    have hsign : c = '-' ∨ c ∈ (n + 1).repr.toList := by simpa [Int.repr] using hc
    rcases hsign with rfl | hc
    · decide
    · exact hdigits (n + 1) hc

/-- **The text of a value** reads as one part. -/
theorem isPart_valueText {k : Setting} {v : k.Value} {text : String} (h : valueText k v = some text) :
    Text.IsPart false text.toList := by
  have word {word : String} (hall : (word.toList.all fun c => !Text.isDivider c) = true) :
      Text.IsPart false word.toList :=
    Text.isPart_of_no_divider (by simpa using hall)
  cases k with
  | number =>
    cases h
    refine Text.isPart_of_no_divider fun c hc => isDivider_of_isWordChar ?_
    rw [String.toList_ofList] at hc
    exact Layout.isWordChar_of_mem_write rfl hc
  | cost =>
    cases h
    exact Text.isPart_of_no_divider fun c hc => isDivider_of_mem_repr hc
  | flag => cases h
  | surfaces =>
    rw [valueText_surfaces] at h
    cases h
    rw [String.toList_ofList]
    refine Text.isPart_brackets (Text.notMem_intercalate (by decide) ?_)
    intro cs hcs hclose
    obtain ⟨s, -, rfl⟩ := List.mem_map.1 hcs
    exact absurd (s.label_spec.2 ']' hclose) (by decide)
  | smoothness =>
    cases h
    exact word (by cases v <;> decide)
  | bevEtat =>
    cases h
    exact word (by cases v <;> decide)
  | profile =>
    cases h
    exact word (by cases v <;> decide)

/-- **A value that is no default is told by its text.** A flag has no text, but only one value that is no default. -/
theorem same_of_valueText {k : Setting} {v w d : k.Value} (hv : k.same v d = false) (hw : k.same w d = false)
    (h : valueText k v = valueText k w) : k.same v w = true := by
  cases k with
  | number =>
    have htext := String.ofList_injective (Option.some.inj h)
    have hvw : v = w := Layout.write_injective rfl htext
    exact Binary64.same_iff.2 (congrArg Binary64.rank? hvw)
  | cost =>
    have hvw : v = w := Int.repr_inj.1 (Option.some.inj h)
    exact beq_iff_eq.2 hvw
  | flag =>
    have hbool : ∀ v w d : Bool, (v == d) = false → (w == d) = false → (v == w) = true := by decide
    exact hbool v w d hv hw
  | surfaces =>
    rw [valueText_surfaces, valueText_surfaces] at h
    have htext := String.ofList_injective (Option.some.inj h)
    have hvw : v = w := surfaceList_injective (List.append_cancel_right (List.cons.inj htext).2)
    exact beq_iff_eq.2 hvw
  | smoothness =>
    have hname := (String.append_right_inj "'").1 ((String.append_left_inj "'").1 (Option.some.inj h))
    have hvw : v = w := NamedCategory.name_injective (α := Smoothness) hname
    exact beq_iff_eq.2 hvw
  | bevEtat =>
    have hvw : v = w := NamedCategory.name_injective (α := BevEtat) (Option.some.inj h)
    exact beq_iff_eq.2 hvw
  | profile =>
    have hvw : v = w := Profile.name_injective (Option.some.inj h)
    exact beq_iff_eq.2 hvw

/-! ## Mentions -/

theorem toList_mention (f : WalkField) (v : f.Value) :
    (mention f v).toList = f.name.toList ++
      match valueText f.setting v with
      | some text => ':' :: ' ' :: text.toList
      | none => [] := by
  unfold mention
  cases valueText f.setting v with
  | some text => simp
  | none => simp

/-- **A mention** reads as one part. -/
theorem isPart_mention (f : WalkField) (v : f.Value) : Text.IsPart false (mention f v).toList := by
  rw [toList_mention]
  apply Text.IsPart.append_left fun c hc => (f.name_spec.2 c hc).1
  cases htext : valueText f.setting v with
  | none => rfl
  | some text =>
    have hcolon : ∀ c ∈ [':', ' '], Text.isDivider c = false := by simp [Text.isDivider]
    exact Text.IsPart.append_left hcolon (isPart_valueText htext)

theorem mention_ne_nil (f : WalkField) (v : f.Value) : (mention f v).toList ≠ [] := by
  rw [toList_mention]
  intro hnil
  exact f.name_spec.1 (List.append_eq_nil_iff.1 hnil).1

/-- the name that a mention begins with -/
def nameOf (part : List Char) : List Char := part.takeWhile (· != ':')

/-- **A mention begins with the name of its field.** -/
theorem nameOf_mention (f : WalkField) (v : f.Value) : nameOf (mention f v).toList = f.name.toList := by
  have hname : ∀ c ∈ f.name.toList, (c != ':') = true := by
    intro c hc
    simpa using (f.name_spec.2 c hc).2
  rw [nameOf, toList_mention, List.takeWhile_append_of_pos hname]
  cases valueText f.setting v with
  | none => simp
  | some text => simp

/-- mentions of a field are equal only if the values have one text -/
theorem valueText_of_mention {f : WalkField} {v w : f.Value} (h : mention f v = mention f w) :
    valueText f.setting v = valueText f.setting w := by
  have hbehind := congrArg String.toList h
  rw [toList_mention, toList_mention, List.append_right_inj] at hbehind
  cases hv : valueText f.setting v with
  | none =>
    cases hw : valueText f.setting w with
    | none => rfl
    | some text => simp [hv, hw] at hbehind
  | some text =>
    cases hw : valueText f.setting w with
    | none => simp [hv, hw] at hbehind
    | some text' =>
      have htext : text.toList = text'.toList := by simpa [hv, hw] using hbehind
      exact congrArg some (String.toList_injective htext)

/-! ## Texts -/

/-- the mentions in a text of preferences: what stands between its braces, part by part -/
def readMentions (text : String) : List (List Char) :=
  Text.listed ((text.toList.drop "WalkPreferences\x7b".length).dropLast)

/-- the text mentions the field -/
def Mentioned (text : String) (f : WalkField) : Prop := ∃ part ∈ readMentions text, nameOf part = f.name.toList

variable {p q : WalkPreferences} {f : WalkField}

/-- the fields that are mentioned, in the order of the text -/
def differing (p : WalkPreferences) : List WalkField := textOrder.filter fun f => !f.same (p.get f) f.default

theorem mem_differing_iff : f ∈ p.differing ↔ f.same (p.get f) f.default = false := by
  have hall : f ∈ textOrder := by cases f <;> decide
  simp [differing, hall]

theorem mentions_eq (p : WalkPreferences) : p.mentions = p.differing.map fun f => mention f (p.get f) := rfl

theorem text_eq (p : WalkPreferences) : p.text = "WalkPreferences\x7b" ++ ", ".intercalate p.mentions ++ "\x7d" := rfl

/-- the mentions stand between the braces, joined -/
theorem toList_text (p : WalkPreferences) : p.text.toList =
    "WalkPreferences\x7b".toList ++ ([',', ' '].intercalate (p.mentions.map String.toList) ++ ['\x7d']) := by
  have happend (opening body closing : String) :
      (opening ++ body ++ closing).toList = opening.toList ++ (body.toList ++ closing.toList) := by
    rw [String.toList_append, String.toList_append, List.append_assoc]
  have hbody : (", ".intercalate p.mentions).toList = [',', ' '].intercalate (p.mentions.map String.toList) :=
    String.toList_intercalate
  rw [text_eq, happend, hbody]
  rfl

/-- **The mentions are read from the text.** -/
theorem readMentions_text (p : WalkPreferences) : readMentions p.text = p.mentions.map String.toList := by
  have hbody : (p.text.toList.drop "WalkPreferences\x7b".length).dropLast =
      [',', ' '].intercalate (p.mentions.map String.toList) := by
    rw [toList_text, ← String.length_toList, List.drop_left, List.dropLast_concat]
  rw [readMentions, hbody]
  apply Text.listed_intercalate
  intro part hpart
  obtain ⟨mention, hmention, rfl⟩ := List.mem_map.1 hpart
  obtain ⟨f, -, rfl⟩ := List.mem_map.1 hmention
  exact ⟨isPart_mention f _, mention_ne_nil f _⟩

theorem mentions_of_text (h : p.text = q.text) : p.mentions = q.mentions := by
  have hread := congrArg readMentions h
  rw [readMentions_text, readMentions_text] at hread
  exact Text.toList_injective.list_map hread

theorem differing_of_text (h : p.text = q.text) : p.differing = q.differing := by
  have hnames (p : WalkPreferences) :
      p.mentions.map (nameOf ∘ String.toList) = p.differing.map fun f => f.name.toList := by
    rw [mentions_eq, List.map_map]
    exact List.map_congr_left fun f _ => nameOf_mention f _
  have hnamed := hnames p
  rw [mentions_of_text h, hnames q] at hnamed
  exact (Text.toList_injective.comp WalkField.name_injective).list_map hnamed.symm

/-- **The fields that differ are mentioned**, and no others. -/
theorem mentioned_text_iff : Mentioned p.text f ↔ f.same (p.get f) f.default = false := by
  rw [← mem_differing_iff, Mentioned, readMentions_text, mentions_eq, List.map_map]
  constructor
  · rintro ⟨part, hpart, hname⟩
    obtain ⟨g, hg, rfl⟩ := List.mem_map.1 hpart
    rw [Function.comp_apply, nameOf_mention] at hname
    rwa [← WalkField.name_injective (String.toList_injective hname)]
  · intro hf
    exact ⟨_, List.mem_map_of_mem hf, nameOf_mention f _⟩

/-- values that agree with the default agree with each other -/
theorem same_of_same_default (hp : f.same (p.get f) f.default = true) (hq : f.same (q.get f) f.default = true) :
    f.same (p.get f) (q.get f) = true := by
  have hfed := (f.setting.hashed_append_iff _ _ [] []).2 ⟨hp, rfl⟩
  rw [← (f.setting.hashed_append_iff _ _ [] []).2 ⟨hq, rfl⟩] at hfed
  exact ((f.setting.hashed_append_iff _ _ [] []).1 hfed).1

/-- **Preferences with one text are equal.** A field that is mentioned has the value whose text stands behind its
name, a field that is not has its default. -/
theorem same_of_text (h : p.text = q.text) : p.same q = true := by
  have hmentions := mentions_of_text h
  rw [mentions_eq, mentions_eq, ← differing_of_text h, List.map_inj_left] at hmentions
  refine same_iff.2 fun f => ?_
  by_cases hf : f ∈ p.differing
  · have hp := mem_differing_iff.1 hf
    have hq := mem_differing_iff.1 (differing_of_text h ▸ hf)
    exact same_of_valueText hp hq (valueText_of_mention (hmentions f hf))
  · have hp := mt mem_differing_iff.2 hf
    have hq := mt mem_differing_iff.2 (differing_of_text h ▸ hf)
    exact same_of_same_default (Bool.of_not_eq_false hp) (Bool.of_not_eq_false hq)

theorem mentions_eq_nil_of_same_default (h : p.same default = true) : p.mentions = [] := by
  rw [mentions_eq, List.map_eq_nil_iff, List.eq_nil_iff_forall_not_mem]
  intro f hf
  have hdiffers := mem_differing_iff.1 hf
  have hsame : f.same (p.get f) f.default = true := same_iff.1 h f
  rw [hsame] at hdiffers
  cases hdiffers

/-- **Nothing stands between the braces** of the defaults, and of no others. -/
theorem text_eq_empty_iff : p.text = "WalkPreferences\x7b\x7d" ↔ p.same default = true := by
  have hself : default.same default = true := same_iff.2 fun f => f.setting.same_refl _
  have hdefault : default.text = "WalkPreferences\x7b\x7d" := by
    rw [text_eq, mentions_eq_nil_of_same_default hself]
    rfl
  rw [← hdefault]
  refine ⟨same_of_text, fun h => ?_⟩
  rw [text_eq, text_eq, mentions_eq_nil_of_same_default h, mentions_eq_nil_of_same_default hself]

/-- **The text identifies the preferences.** Preferences with one text are equal; the text is empty between its braces
exactly if they equal the defaults; and it mentions the fields that differ from the defaults, and no others. -/
theorem text_identifies :
    (∀ p q : WalkPreferences, p.text = q.text → p.same q = true) ∧
      (∀ p : WalkPreferences, p.text = "WalkPreferences\x7b\x7d" ↔ p.same default = true) ∧
      ∀ (p : WalkPreferences) (f : WalkField), Mentioned p.text f ↔ f.same (p.get f) f.default = false :=
  ⟨fun _ _ => same_of_text, fun _ => text_eq_empty_iff, fun _ _ => mentioned_text_iff⟩

/-- zeros of either sign are the default width, so the texts are equal, and with them the preferences -/
theorem text_identifies_wary :
    (wary true).text = (wary false).text ∧ (wary true).same (wary false) = true ∧
      Mentioned (wary true).text .maximalIncline ∧ ¬Mentioned (wary true).text .minimalWidth := by
  have htext : (wary true).text = (wary false).text := by decide +kernel
  refine ⟨htext, text_identifies.1 _ _ htext, (text_identifies.2.2 _ _).2 (by decide +kernel), ?_⟩
  rw [text_identifies.2.2]
  decide +kernel

end WalkPreferences

end AccessibleWalk
