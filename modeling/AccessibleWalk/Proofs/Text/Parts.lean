/-
Texts that list parts behind commas. A part may hold a list of its own between brackets, so a comma separates parts only
outside of brackets; the blank behind it belongs to neither.

- `parts_append`: what reads as one part is the beginning of the first part.
- `parts_intercalate`, `listed_intercalate`: parts that were joined are found again.
-/
import Mathlib.Data.List.Basic

namespace AccessibleWalk.Text

/-- are we between brackets behind this character? -/
def inBrackets (inside : Bool) (c : Char) : Bool := if c = '[' then true else if c = ']' then false else inside

/-- the parts of a text, read from inside of brackets or from outside -/
def parts (inside : Bool) : List Char → List (List Char)
  | [] => [[]]
  | c :: rest =>
    if c = ',' ∧ inside = false then [] :: (parts false rest).modifyHead List.tail
    else (parts (inBrackets inside c) rest).modifyHead (c :: ·)

/-- the parts that are not empty -/
def listed (cs : List Char) : List (List Char) := (parts false cs).filter fun part => !part.isEmpty

/-- reads as one part: no comma outside of brackets, and no bracket stays open -/
def IsPart (inside : Bool) : List Char → Prop
  | [] => inside = false
  | c :: rest => ¬(c = ',' ∧ inside = false) ∧ IsPart (inBrackets inside c) rest

variable {inside : Bool} {cs : List Char}

/-- **What reads as one part** begins the first part of a text. -/
theorem parts_append (h : IsPart inside cs) (tail : List Char) :
    parts inside (cs ++ tail) = (parts false tail).modifyHead (cs ++ ·) := by
  induction cs generalizing inside with
  | nil =>
    have hinside : inside = false := h
    subst hinside
    exact (congrFun List.modifyHead_id _).symm
  | cons c rest ih =>
    obtain ⟨hc, hrest⟩ := h
    rw [List.cons_append, parts, if_neg hc, ih hrest, List.modifyHead_modifyHead]
    rfl

/-- **Parts that were joined are found again.** -/
theorem parts_intercalate {texts : List (List Char)} (h : ∀ cs ∈ texts, IsPart false cs) (hne : texts ≠ []) :
    parts false ([',', ' '].intercalate texts) = texts := by
  induction texts with
  | nil => exact absurd rfl hne
  | cons first rest ih =>
    obtain ⟨hfirst, hrest⟩ := List.forall_mem_cons.1 h
    cases rest with
    | nil =>
      rw [List.intercalate_singleton, ← List.append_nil first, parts_append hfirst]
      simp [parts]
    | cons next more =>
      have hfound := ih hrest (List.cons_ne_nil next more)
      rw [List.intercalate_cons_cons, List.append_assoc, parts_append hfirst]
      simp [parts, inBrackets, hfound]

theorem listed_intercalate {texts : List (List Char)} (h : ∀ cs ∈ texts, IsPart false cs ∧ cs ≠ []) :
    listed ([',', ' '].intercalate texts) = texts := by
  by_cases hne : texts = []
  · subst hne
    rfl
  · rw [listed, parts_intercalate (fun cs hcs => (h cs hcs).1) hne, List.filter_eq_self]
    intro cs hcs
    simpa using (h cs hcs).2

/-- what is in no text and in no separator is not in the texts joined -/
theorem notMem_intercalate {separator : List Char} {texts : List (List Char)} {c : Char} (hseparator : c ∉ separator)
    (h : ∀ cs ∈ texts, c ∉ cs) : c ∉ separator.intercalate texts := by
  induction texts with
  | nil => exact List.not_mem_nil
  | cons first rest ih =>
    obtain ⟨hfirst, hrest⟩ := List.forall_mem_cons.1 h
    cases rest with
    | nil => rwa [List.intercalate_singleton]
    | cons next more =>
      rw [List.intercalate_cons_cons]
      simp only [List.mem_append, not_or]
      exact ⟨⟨hfirst, hseparator⟩, ih hrest⟩

/-! ## What reads as one part -/

/-- a comma or a bracket -/
def isDivider (c : Char) : Bool := c == ',' || c == '[' || c == ']'

/-- a text without commas and brackets in front of a part makes one part with it -/
theorem IsPart.append_left {before : List Char} (hbefore : ∀ c ∈ before, isDivider c = false)
    (h : IsPart false cs) : IsPart false (before ++ cs) := by
  induction before with
  | nil => exact h
  | cons c rest ih =>
    obtain ⟨hc, hrest⟩ := List.forall_mem_cons.1 hbefore
    simp only [isDivider, Bool.or_eq_false_iff, beq_eq_false_iff_ne] at hc
    obtain ⟨⟨hcomma, hopen⟩, hclose⟩ := hc
    have hstay : inBrackets false c = false := by simp [inBrackets, hopen, hclose]
    refine ⟨fun hcut => hcomma hcut.1, ?_⟩
    rw [hstay]
    exact ih hrest

theorem isPart_of_no_divider (h : ∀ c ∈ cs, isDivider c = false) : IsPart false cs := by
  rw [← List.append_nil cs]
  exact IsPart.append_left h rfl

/-- whatever stands between brackets is one part, unless it closes them -/
theorem isPart_brackets (h : ']' ∉ cs) : IsPart false ('[' :: (cs ++ [']'])) := by
  have hinside : IsPart true (cs ++ [']']) := by
    induction cs with
    | nil => exact ⟨by simp, rfl⟩
    | cons c rest ih =>
      obtain ⟨hc, hrest⟩ := not_or.1 (List.mem_cons.not.1 h)
      have hstay : inBrackets true c = true := by simp [inBrackets, Ne.symm hc]
      refine ⟨by simp, ?_⟩
      rw [hstay]
      exact ih hrest
  exact ⟨by simp, hinside⟩

end AccessibleWalk.Text
