/-
Capitals of ASCII. Small letters by the rules of Unicode do not tell texts apart that differ in such capitals only: a
capital and its small letter have the same small letter, and as neighbours of a sigma they count alike.

- `capitals_spec`: what the tables say about the capitals.
- `lower_congr`: texts that differ in capitals only have the same small letters.
-/
import AccessibleWalk.Proofs.Text.Plain

namespace AccessibleWalk.Text

/-! ## Letters -/

def capitals : List Char := (List.range 26).map fun n => Char.ofNat ('A'.toNat + n)

/-- only capitals have another small letter in ASCII -/
theorem toLower_eq_self_or_mem_capitals (c : Char) : c.toLower = c ∨ c ∈ capitals := by
  by_cases h : 'A'.val ≤ c.val ∧ c.val ≤ 'Z'.val
  · obtain ⟨hlow, hhigh⟩ := h
    have hlow' : 0x41 ≤ c.toNat := UInt32.le_iff_toNat_le.1 hlow
    have hhigh' : c.toNat ≤ 0x5A := UInt32.le_iff_toNat_le.1 hhigh
    refine .inr (List.mem_map.2 ⟨c.toNat - 0x41, List.mem_range.2 (by omega), ?_⟩)
    have hsum : 'A'.toNat + (c.toNat - 0x41) = c.toNat := by
      show 0x41 + (c.toNat - 0x41) = c.toNat
      omega
    rw [hsum, Char.ofNat_toNat]
  · exact .inl (dif_neg h)

/-- letters that the rules for small letters treat alike -/
structure Alike (c d : Char) : Prop where
  small : smallLetter c = smallLetter d
  sigma : c = 'Σ' ↔ d = 'Σ'
  ignorable : inRanges caseIgnorableRanges c = inRanges caseIgnorableRanges d
  cased : inRanges casedRanges c = inRanges casedRanges d

/-- no range of characters that case ignores has a letter of ASCII in it -/
theorem caseIgnorableRanges_spec : ∀ range ∈ caseIgnorableRanges,
    range.2 < 0x41 ∨ (0x5A < range.1 ∧ range.2 < 0x61) ∨ 0x7A < range.1 := by
  decide +kernel

theorem not_ignorable_of_letter {c : Char} (h : (0x41 ≤ c.toNat ∧ c.toNat ≤ 0x5A) ∨ (0x61 ≤ c.toNat ∧ c.toNat ≤ 0x7A)) :
    inRanges caseIgnorableRanges c = false := by
  refine List.any_eq_false.2 fun range hrange hin => ?_
  have hspec := caseIgnorableRanges_spec range hrange
  simp only [Bool.and_eq_true, decide_eq_true_eq] at hin
  omega

theorem capitals_spec : ∀ c ∈ capitals, smallLetter c = [c.toLower] ∧ isPlain c.toLower = true ∧
    (c.toLower = 'Σ' ↔ c = 'Σ') ∧ inRanges casedRanges c.toLower = inRanges casedRanges c ∧
    (0x41 ≤ c.toNat ∧ c.toNat ≤ 0x5A) ∧ 0x61 ≤ c.toLower.toNat ∧ c.toLower.toNat ≤ 0x7A := by
  -- one capital after the other, as there are too many characters to try them all
  have hall : (capitals.all fun c => decide (smallLetter c = [c.toLower] ∧ isPlain c.toLower = true ∧
      (c.toLower = 'Σ' ↔ c = 'Σ') ∧ inRanges casedRanges c.toLower = inRanges casedRanges c ∧
      (0x41 ≤ c.toNat ∧ c.toNat ≤ 0x5A) ∧ 0x61 ≤ c.toLower.toNat ∧ c.toLower.toNat ≤ 0x7A)) = true := by
    decide +kernel
  exact fun c hc => of_decide_eq_true (List.all_eq_true.1 hall c hc)

/-- **A letter and its small letter are alike.** -/
theorem alike_toLower (c : Char) : Alike c.toLower c := by
  rcases toLower_eq_self_or_mem_capitals c with h | h
  · rw [h]
    exact ⟨rfl, Iff.rfl, rfl, rfl⟩
  · obtain ⟨hcapital, hplain, hsigma, hcased, hrange, hlower⟩ := capitals_spec c h
    refine ⟨?_, hsigma, ?_, hcased⟩
    · rw [smallLetter_of_isPlain hplain, hcapital]
    · rw [not_ignorable_of_letter (.inl hrange), not_ignorable_of_letter (.inr hlower)]

/-! ## Texts -/

theorem meetsCased_map_toLower (cs : List Char) : meetsCased (cs.map Char.toLower) = meetsCased cs := by
  induction cs with
  | nil => rfl
  | cons c cs ih =>
    have hc := alike_toLower c
    unfold meetsCased at ih ⊢
    rw [List.map_cons, List.find?_cons, List.find?_cons, hc.ignorable]
    cases inRanges caseIgnorableRanges c with
    | true => exact ih
    | false => exact hc.cased

theorem lowerAfter_map_toLower (before cs : List Char) :
    lowerAfter (before.map Char.toLower) (cs.map Char.toLower) = lowerAfter before cs := by
  induction cs generalizing before with
  | nil => rfl
  | cons c cs ih =>
    have hc := alike_toLower c
    have hrest := ih (c :: before)
    rw [List.map_cons] at hrest
    simp only [List.map_cons, lowerAfter, meetsCased_map_toLower, hc.small, hc.sigma, hrest]

/-- the same text but for capitals of ASCII -/
def SameButCapitals (s t : String) : Prop := s.toList.map Char.toLower = t.toList.map Char.toLower

instance (s t : String) : Decidable (SameButCapitals s t) := inferInstanceAs (Decidable (_ = _))

/-- **Capitals of ASCII do not count** in small letters. -/
theorem lower_congr {s t : String} (h : SameButCapitals s t) : lower s = lower t := by
  have hs := lowerAfter_map_toLower [] s.toList
  have ht := lowerAfter_map_toLower [] t.toList
  rw [h] at hs
  rw [lower, lower, ← hs, ← ht]

end AccessibleWalk.Text
