/-
Texts that stay as they are. Without blanks nothing is trimmed, without separators there is one piece, and without
capitals nothing is lowered: below the first accented capital only the ASCII capitals have another small letter. The
keys of the slots are such texts.

- `trim_trim`: trimmed texts stay as they are.
- `trim_eq_self`, `pieces_eq_singleton`, `lower_of_isPlain`: what trimming, splitting and lowering leave alone.
- `key_injective`: slots are told apart by their keys.
-/
import Mathlib.Data.List.DropRight
import AccessibleWalk.Property.Slot
import AccessibleWalk.Text.Case

namespace AccessibleWalk

namespace Text

/-! ## Blanks and separators -/

/-- **Nothing to trim** where there is no blank. -/
theorem trimChars_eq_self {cs : List Char} (h : ∀ c ∈ cs, isBlank c = false) : trimChars cs = cs := by
  have keep (l : List Char) (hl : ∀ c ∈ l, isBlank c = false) : l.dropWhile isBlank = l := by
    cases l with
    | nil => rfl
    | cons c l => simp [List.dropWhile, hl c List.mem_cons_self]
  unfold trimChars
  rw [keep cs h, keep cs.reverse fun c hc => h c (List.mem_reverse.1 hc), List.reverse_reverse]

theorem trim_eq_self {s : String} (h : ∀ c ∈ s.toList, isBlank c = false) : trim s = s := by
  rw [trim, trimChars_eq_self h, String.ofList_toList]

/-- **Trimming twice is trimming once**: what is left starts and ends without a blank. -/
theorem trim_trim (s : String) : trim (trim s) = trim s := by
  have htrim (cs : List Char) : trimChars (trimChars cs) = trimChars cs := by
    have hfirst : (trimChars cs).dropWhile isBlank = trimChars cs := by
      obtain ⟨after, hafter⟩ : trimChars cs <+: cs.dropWhile isBlank := List.rdropWhile_prefix isBlank _
      cases h : trimChars cs with
      | nil => rfl
      | cons c rest =>
        have hhead := List.head?_dropWhile_not isBlank cs
        rw [← hafter, h] at hhead
        exact List.dropWhile_cons_of_neg (Bool.eq_false_iff.1 hhead)
    calc trimChars (trimChars cs) = ((trimChars cs).dropWhile isBlank).rdropWhile isBlank := rfl
      _ = (trimChars cs).rdropWhile isBlank := by rw [hfirst]
      _ = trimChars cs := List.rdropWhile_idempotent isBlank _
  rw [trim, trim, String.toList_ofList, htrim]

/-- **One piece** where there is no separator. -/
theorem pieces_eq_singleton {separator : Char} {cs : List Char} (h : separator ∉ cs) : pieces separator cs = [cs] := by
  induction cs with
  | nil => rfl
  | cons c cs ih =>
    have hc : c ≠ separator := fun he => h (by simp [he])
    have hcs : separator ∉ cs := fun hm => h (List.mem_cons_of_mem c hm)
    simp only [pieces, if_neg hc, ih hcs]

/-! ## Small letters -/

/-- below the accented letters, and no capital -/
def isPlain (c : Char) : Bool := decide (c.toNat < 0xC0) && (decide (c.toNat < 0x41) || decide (0x5A < c.toNat))

theorem isPlain_iff {c : Char} : isPlain c = true ↔ c.toNat < 0xC0 ∧ (c.toNat < 0x41 ∨ 0x5A < c.toNat) := by
  simp [isPlain]

/-- the first run of capitals is ASCII and the others start with the accented letters -/
theorem smallLetterRuns_first : ∀ run ∈ smallLetterRuns, (run.1 = 0x41 ∧ run.2.1 = 0x5A) ∨ 0xC0 ≤ run.1 := by
  decide +kernel

theorem smallLetter_of_isPlain {c : Char} (h : isPlain c = true) : smallLetter c = [c] := by
  obtain ⟨hlow, hcapital⟩ := isPlain_iff.1 h
  have hdot : c ≠ 'İ' := fun he => absurd hlow (by rw [he]; decide)
  rw [smallLetter, if_neg hdot]
  split
  · next first last step distance hfind =>
    have hin := List.find?_some hfind
    simp only [Bool.and_eq_true, decide_eq_true_eq] at hin
    rcases smallLetterRuns_first _ (List.mem_of_find?_eq_some hfind) with ⟨rfl, rfl⟩ | hfirst
    · have := hin.1; omega
    · simp only at hfirst; omega
  · rfl

theorem lowerAfter_of_isPlain (before : List Char) {cs : List Char} (h : ∀ c ∈ cs, isPlain c = true) :
    lowerAfter before cs = cs := by
  induction cs generalizing before with
  | nil => rfl
  | cons c cs ih =>
    have hc := h c List.mem_cons_self
    have hsigma : c ≠ 'Σ' := fun he => absurd hc (by rw [he]; decide)
    simp only [lowerAfter, if_neg hsigma, smallLetter_of_isPlain hc, List.singleton_append]
    rw [ih (c :: before) fun d hd => h d (List.mem_cons_of_mem c hd)]

/-- **A plain text is in small letters.** -/
theorem lower_of_isPlain {s : String} (h : ∀ c ∈ s.toList, isPlain c = true) : lower s = s := by
  rw [lower, lowerAfter_of_isPlain [] h, String.ofList_toList]

end Text

namespace Slot

/-- keys are plain texts without blanks -/
theorem key_plain (s : Slot) : ∀ c ∈ s.key.toList, Text.isPlain c = true ∧ Text.isBlank c = false := by
  have hall : (s.key.toList.all fun c => Text.isPlain c && !Text.isBlank c) = true := by cases s <;> decide
  simpa using hall

@[simp] theorem lower_key (s : Slot) : Text.lower s.key = s.key :=
  Text.lower_of_isPlain fun c hc => (s.key_plain c hc).1

@[simp] theorem trim_key (s : Slot) : Text.trim s.key = s.key :=
  Text.trim_eq_self fun c hc => (s.key_plain c hc).2

theorem key_injective {s k : Slot} (h : s.key = k.key) : s = k := by
  have all : ∀ s ∈ Slot.all, ∀ k ∈ Slot.all, s.key = k.key → s = k := by decide
  exact all s s.mem_all k k.mem_all h

end Slot

end AccessibleWalk
