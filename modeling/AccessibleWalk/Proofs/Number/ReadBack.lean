/-
Numbers written with all their places read back. The text is a sign, digits, and digits behind a point where there is a
fraction; reading it takes the digits and the length of the fraction, which is the decimal that was written, or one of
the same value.

- `ofChars?_plain`: digits with or without a point are read as the decimal they show.
- `exists_plain`: what is written for a decimal is such a text, and shows a decimal of the same magnitude.
- `ofLiteral_write`: a finite number is read back from its text, the sign of a zero included.
-/
import Mathlib.Data.List.TakeWhile
import AccessibleWalk.Number.Layout
import AccessibleWalk.Number.Literal
import AccessibleWalk.Proofs.Number.Shortest

namespace AccessibleWalk

/-! ## Reading digits -/

/-- a text of digits alone -/
def AllDigits (cs : List Char) : Prop := ∀ c ∈ cs, c.isDigit = true

namespace AllDigits

theorem append {cs ds : List Char} (hc : AllDigits cs) (hd : AllDigits ds) : AllDigits (cs ++ ds) := by
  intro c h
  rcases List.mem_append.1 h with h | h
  · exact hc c h
  · exact hd c h

theorem zeros (n : Nat) : AllDigits (List.replicate n '0') := by
  intro c h
  rw [List.eq_of_mem_replicate h]
  decide

theorem toDigits (n : Nat) : AllDigits (Nat.toDigits 10 n) := fun _ h =>
  Nat.isDigit_of_mem_toDigits (by decide) (by decide) h

theorem takeWhile_eq {cs : List Char} (h : AllDigits cs) : cs.takeWhile Char.isDigit = cs :=
  List.takeWhile_eq_self_iff.2 h

theorem dropWhile_eq {cs : List Char} (h : AllDigits cs) : cs.dropWhile Char.isDigit = [] :=
  List.dropWhile_eq_nil_iff.2 h

theorem takeWhile_append {cs tail : List Char} (h : AllDigits cs) (ht : ∀ c ∈ tail.head?, c.isDigit = false) :
    (cs ++ tail).takeWhile Char.isDigit = cs := by
  rw [List.takeWhile_append_of_pos h]
  cases tail with
  | nil => simp
  | cons c rest => simp [ht c rfl]

theorem dropWhile_append {cs tail : List Char} (h : AllDigits cs) (ht : ∀ c ∈ tail.head?, c.isDigit = false) :
    (cs ++ tail).dropWhile Char.isDigit = tail := by
  rw [List.dropWhile_append_of_pos h]
  cases tail with
  | nil => simp
  | cons c rest => simp [ht c rfl]

end AllDigits

/-- no zero in front of other digits -/
def NoNeedlessZero (cs : List Char) : Prop := cs.head? = some '0' → cs.length = 1

theorem head?_toDigits {n : Nat} (hn : n ≠ 0) : (Nat.toDigits 10 n).head? ≠ some '0' := by
  induction n using Nat.strongRecOn with
  | ind n ih =>
    rcases Nat.lt_or_ge n 10 with h | h
    · rw [Nat.toDigits_of_lt_base h]
      intro hzero
      have hdigit : n.digitChar = '0' := by simpa using hzero
      interval_cases n <;> simp_all
    · rw [Nat.toDigits_of_base_le (by decide) h, List.head?_append_of_ne_nil _ Nat.toDigits_ne_nil]
      exact ih (n / 10) (by omega) (by omega)

theorem NoNeedlessZero.toDigits (n : Nat) : NoNeedlessZero (Nat.toDigits 10 n) := by
  intro hzero
  by_cases hn : n = 0
  · rw [hn]; rfl
  · exact absurd hzero (head?_toDigits hn)

/-- digits, with a point between the whole part and the fraction if there is one -/
def plain (whole fraction : List Char) : List Char := if fraction.isEmpty then whole else whole ++ '.' :: fraction

/-- the decimal that digits show -/
def shown (whole fraction : List Char) : Decimal :=
  ⟨Nat.ofDigitChars 10 (whole ++ fraction) 0, -(fraction.length : Int)⟩

variable {whole fraction : List Char}

/-- **Digits are read as the decimal they show.** -/
theorem Decimal.ofChars?_plain (hw : AllDigits whole) (hf : AllDigits fraction) (hne : whole ≠ []) :
    ofChars? (plain whole fraction) = some (shown whole fraction) := by
  unfold plain
  split_ifs with h
  · rw [List.isEmpty_iff] at h
    subst h
    simp [ofChars?, hw.takeWhile_eq, hw.dropWhile_eq, splitFraction, exponent?, shown, hne]
  · have htake : (whole ++ '.' :: fraction).takeWhile Char.isDigit = whole := by
      simp [List.takeWhile_append_of_pos hw]
    have hdrop : (whole ++ '.' :: fraction).dropWhile Char.isDigit = '.' :: fraction := by
      simp [List.dropWhile_append_of_pos hw]
    simp [ofChars?, htake, hdrop, splitFraction, hf.takeWhile_eq, hf.dropWhile_eq, exponent?, shown, hne]

/-! ## Writing decimals -/

namespace Layout

theorem joined_of_ne_nil (l : Layout) (hf : fraction ≠ []) : l.joined whole fraction = plain whole fraction := by
  simp [joined, plain, hf]

/-- a whole number has a zero behind the point, or no point -/
theorem joined_nil (l : Layout) (whole : List Char) :
    l.joined whole [] = plain whole (List.replicate (if l.keepsPoint then 1 else 0) '0') := by
  cases h : l.keepsPoint <;> simp [joined, plain, h]

/-- zeros after a number show the number again -/
theorem magnitude_shown_zeros (digits zeros places : Nat) (hz : zeros ≤ 400) (hp : places ≤ 1) :
    (shown (Nat.toDigits 10 digits ++ List.replicate zeros '0') (List.replicate places '0')).magnitude =
      Decimal.magnitude ⟨digits, zeros⟩ := by
  have hshown : shown (Nat.toDigits 10 digits ++ List.replicate zeros '0') (List.replicate places '0') =
      ⟨10 ^ places * (10 ^ zeros * digits), -(places : Int)⟩ := by
    simp only [shown, Nat.ofDigitChars_append, Nat.ofDigitChars_ten_toDigits, Nat.ofDigitChars_replicate_zero,
      List.length_replicate]
  have hterm : 10 ^ places * (10 ^ zeros * digits) * 10 ^ 0 = digits * 10 ^ (zeros + places) := by ring
  rw [hshown, Decimal.magnitude_eq_nearest 0 places (by simp) (by simp only; omega) (by simp only; omega),
    Decimal.magnitude_eq_nearest (d := ⟨digits, zeros⟩) (zeros + places) places (by simp) (by simp only; omega)
      (by simp only; omega), hterm]

/-- digits with a point before the last `places` of them show their value; where they are too few, zeros come first -/
theorem exists_plain_point (l : Layout) {digits : List Char} (hdigits : AllDigits digits) (hne : digits ≠ [])
    (hzero : NoNeedlessZero digits) {places : Nat} (hpos : 0 < places) :
    ∃ whole fraction : List Char, AllDigits whole ∧ AllDigits fraction ∧ whole ≠ [] ∧ NoNeedlessZero whole ∧
      fraction ≠ [] ∧ (if places < digits.length then
          l.joined (digits.take (digits.length - places)) (digits.drop (digits.length - places))
        else l.joined ['0'] (List.replicate (places - digits.length) '0' ++ digits)) = plain whole fraction ∧
      shown whole fraction = ⟨Nat.ofDigitChars 10 digits 0, -(places : Int)⟩ := by
  by_cases hplaces : places < digits.length
  · have hwhole : digits.take (digits.length - places) ≠ [] := by
      simp only [ne_eq, List.take_eq_nil_iff, hne, or_false]; omega
    have hfraction : digits.drop (digits.length - places) ≠ [] := by
      simp only [ne_eq, List.drop_eq_nil_iff]; omega
    refine ⟨digits.take (digits.length - places), digits.drop (digits.length - places), ?_, ?_,
      hwhole, ?_, hfraction, ?_,
      ?_⟩
    · exact fun c hc => hdigits c (List.mem_of_mem_take hc)
    · exact fun c hc => hdigits c (List.mem_of_mem_drop hc)
    · intro hhead
      have hlength : digits.length = 1 := hzero (by rwa [List.head?_take, if_neg (by omega)] at hhead)
      omega
    · rw [if_pos hplaces, l.joined_of_ne_nil hfraction]
    · rw [shown, List.take_append_drop, List.length_drop, Nat.sub_sub_self hplaces.le]
  · have hfraction : List.replicate (places - digits.length) '0' ++ digits ≠ [] := by simp [hne]
    have hvalue : Nat.ofDigitChars 10 ['0'] 0 = 0 := by decide
    refine ⟨['0'], List.replicate (places - digits.length) '0' ++ digits, ?_, ?_, by simp, fun _ => rfl,
      hfraction, ?_, ?_⟩
    · exact AllDigits.zeros 1
    · exact (AllDigits.zeros _).append hdigits
    · rw [if_neg hplaces, l.joined_of_ne_nil hfraction]
    · rw [shown, Nat.ofDigitChars_append, hvalue, Nat.ofDigitChars_append, Nat.ofDigitChars_replicate_zero, Nat.mul_zero,
        List.length_append, List.length_replicate, Nat.sub_add_cancel (Nat.le_of_not_lt hplaces)]

/-- **What is written for a decimal shows it**, as far as its magnitude. No zero is needless unless the decimal is a
zero with a power of ten, and a notation that keeps points has a fraction. -/
theorem exists_plain (l : Layout) {d : Decimal} (hd : d.exponent ≤ 400) :
    ∃ whole fraction : List Char, AllDigits whole ∧ AllDigits fraction ∧ whole ≠ [] ∧
      ((d.digits = 0 → d.exponent ≤ 0) → NoNeedlessZero whole) ∧ (l.keepsPoint = true → fraction ≠ []) ∧
      l.positionalText d = plain whole fraction ∧ (shown whole fraction).magnitude = d.magnitude := by
  obtain ⟨n, exponent⟩ := d
  have hdigits := AllDigits.toDigits n
  have hne : Nat.toDigits 10 n ≠ [] := Nat.toDigits_ne_nil
  cases exponent with
  | ofNat zeros =>
    refine ⟨_, _, hdigits.append (.zeros zeros), .zeros _, by simp [hne], ?_, ?_, l.joined_nil _, ?_⟩
    · intro hsmall hhead
      rw [List.head?_append_of_ne_nil _ hne] at hhead
      have hn : n = 0 := by_contra fun hn => head?_toDigits hn hhead
      have hzeros : zeros = 0 := by simpa using hsmall hn
      simp [hn, hzeros]
    · intro hkeeps
      simp [hkeeps]
    · exact magnitude_shown_zeros n zeros _ (by simpa using hd) (by split <;> decide)
  | negSucc k =>
    obtain ⟨whole, fraction, hw, hf, hwne, hlead, hfne, htext, hshown⟩ :=
      l.exists_plain_point hdigits hne (.toDigits n) k.succ_pos
    refine ⟨whole, fraction, hw, hf, hwne, fun _ => hlead, fun _ => hfne, htext, ?_⟩
    rw [hshown, Nat.ofDigitChars_ten_toDigits]
    rfl

end Layout

/-! ## Numbers -/

/-- a digit, a point or a minus -/
def isNumeral (c : Char) : Bool := c.isDigit || c == '.' || c == '-'

theorem toLower_of_isDigit {c : Char} (h : c.isDigit = true) : c.toLower = c := by
  have hdigit : c.toNat ≤ 0x39 := (Char.isDigit_iff_toNat.1 h).2
  have hcapital : ¬('A'.val ≤ c.val ∧ c.val ≤ 'Z'.val) := by
    rintro ⟨hlow, -⟩
    have : 0x41 ≤ c.toNat := UInt32.le_iff_toNat_le.1 hlow
    omega
  exact dif_neg hcapital

theorem toNat_of_isNumeral {c : Char} (h : isNumeral c = true) : 0x2D ≤ c.toNat ∧ c.toNat ≤ 0x39 := by
  simp only [isNumeral, Bool.or_eq_true, beq_iff_eq] at h
  rcases h with (h | rfl) | rfl
  · have hdigit : 0x30 ≤ c.toNat ∧ c.toNat ≤ 0x39 := Char.isDigit_iff_toNat.1 h
    omega
  · decide
  · decide

theorem isNumeral_of_mem_plain (hw : AllDigits whole) (hf : AllDigits fraction) {c : Char}
    (h : c ∈ plain whole fraction) : isNumeral c = true := by
  have hmem : c ∈ whole ∨ c = '.' ∨ c ∈ fraction := by
    unfold plain at h
    split_ifs at h
    · exact .inl h
    · simpa using h
  rcases hmem with h | rfl | h
  · simp [isNumeral, hw c h]
  · decide
  · simp [isNumeral, hf c h]

theorem exists_plain_eq_cons (hw : AllDigits whole) (hne : whole ≠ []) (fraction : List Char) :
    ∃ (c : Char) (rest : List Char), c.isDigit = true ∧ plain whole fraction = c :: rest := by
  obtain ⟨c, rest, rfl⟩ := List.exists_cons_of_ne_nil hne
  have hc := hw c List.mem_cons_self
  unfold plain
  split_ifs
  · exact ⟨c, rest, hc, rfl⟩
  · exact ⟨c, _, hc, rfl⟩

theorem Decimal.splitSign_of_isDigit {c : Char} (hc : c.isDigit = true) (rest : List Char) :
    splitSign (c :: rest) = (false, c :: rest) := by
  unfold splitSign
  split
  · next h => cases h; cases hc
  · next h => cases h; cases hc
  · rfl

namespace Binary64

open Decimal (splitSign_of_isDigit)

/-- what begins with a digit is none of the words -/
theorem unsigned?_of_isDigit {c : Char} (hc : c.isDigit = true) (negative : Bool) (rest : List Char) :
    unsigned? negative (c :: rest) = (Decimal.ofChars? (c :: rest)).map fun d => .signed negative d.magnitude := by
  have hlow := toLower_of_isDigit hc
  have hword (word : String) (hhead : word.toList.head? ≠ some c) :
      String.ofList ((c :: rest).map Char.toLower) ≠ word := by
    rintro rfl
    simp [hlow] at hhead
  have hletter (letter : Char) (hl : letter.isDigit = false) : some letter ≠ some c := by
    rintro ⟨⟩
    rw [hc] at hl
    cases hl
  simp only [unsigned?, hword "inf" (hletter 'i' rfl), hword "infinity" (hletter 'i' rfl),
    hword "nan" (hletter 'n' rfl),
    or_self, if_false]

/-- **Digits are read as the number they show**, with or without a minus. -/
theorem ofLiteral_plain (hw : AllDigits whole) (hf : AllDigits fraction) (hne : whole ≠ []) (negative : Bool) :
    ofLiteral (String.ofList ((if negative then ['-'] else []) ++ plain whole fraction)) =
      .ok (.signed negative (shown whole fraction).magnitude) := by
  obtain ⟨c, rest, hc, hplain⟩ := exists_plain_eq_cons hw hne fraction
  have hread := unsigned?_of_isDigit hc negative rest
  rw [← hplain, Decimal.ofChars?_plain hw hf hne, Option.map_some] at hread
  have hsign : Decimal.splitSign ((if negative then ['-'] else []) ++ plain whole fraction) =
      (negative, plain whole fraction) := by
    cases negative with
    | true => rfl
    | false =>
      simp only [Bool.false_eq_true, if_false, List.nil_append, hplain]
      exact splitSign_of_isDigit hc rest
  have hempty : (String.ofList ((if negative then ['-'] else []) ++ plain whole fraction)).isEmpty = false := by
    simp [hplain]
  simp only [ofLiteral, hempty, String.toList_ofList, hsign, hread]
  rfl

end Binary64

namespace Layout

/-- a finite number is written as a sign with digits that show it -/
theorem exists_write {l : Layout} (hl : ∀ e, l.positional e = true) {x : Binary64} (hx : x.isFinite = true) :
    ∃ (negative : Bool) (whole fraction : List Char), AllDigits whole ∧ AllDigits fraction ∧ whole ≠ [] ∧
      l.write x = (if negative then ['-'] else []) ++ plain whole fraction ∧
      x = .signed negative (shown whole fraction).magnitude := by
  cases x with
  | nan => cases hx
  | signed negative m =>
    rw [Binary64.isFinite] at hx
    obtain ⟨whole, fraction, hw, hf, hne, -, -, htext, hshown⟩ := l.exists_plain (m.exponent_shortest_le l.tie)
    have hm : l.magnitudeText m = plain whole fraction := by
      rw [magnitudeText, if_pos hx, decimalText, if_pos (hl _), htext]
    refine ⟨negative, whole, fraction, hw, hf, hne, ?_, by rw [hshown, Magnitude.magnitude_shortest]⟩
    rw [← hm]
    cases negative with
    | true => rfl
    | false => rfl

section Finite

variable {l : Layout} (hl : ∀ e, l.positional e = true) {x : Binary64} (hx : x.isFinite = true)
include hl hx

/-- **A finite number is read back from its text**, with the sign of a zero. -/
theorem ofLiteral_write : Binary64.ofLiteral (String.ofList (l.write x)) = .ok x := by
  obtain ⟨negative, whole, fraction, hw, hf, hne, htext, rfl⟩ := exists_write hl hx
  rw [htext, Binary64.ofLiteral_plain hw hf hne]

theorem isNumeral_of_mem_write {c : Char} (h : c ∈ l.write x) : isNumeral c = true := by
  obtain ⟨negative, whole, fraction, hw, hf, -, htext, -⟩ := exists_write hl hx
  rw [htext] at h
  rcases List.mem_append.1 h with h | h
  · cases negative with
    | true => rw [List.mem_singleton.1 h]; decide
    | false => cases h
  · exact isNumeral_of_mem_plain hw hf h

theorem write_ne_nil : l.write x ≠ [] := by
  obtain ⟨negative, whole, fraction, hw, -, hne, htext, -⟩ := exists_write hl hx
  obtain ⟨c, rest, -, hplain⟩ := exists_plain_eq_cons hw hne fraction
  simp [htext, hplain]

end Finite

end Layout

end AccessibleWalk
