/-
Words of JSON text. Numbers are read back from what is written for them. A whole number is an integer; a real always
shows that it is none, by a point or by an exponent, and so it is read as the decimal that it shows, rounded. With the
shortest digits in the text and a rounding to the closest double this is the real that was written, with the sign of
its zero.

- `number?_numeral`: digits with a fraction or an exponent are read as the decimal they show, whatever the rounding.
- `number?_integerText`, `number?_write`: what is written for a number is read as that number.
- `isWordChar_of_word?`: whatever is read from a word, the word was nothing but characters of words.
-/
import AccessibleWalk.Document.JsonReader
import AccessibleWalk.Document.JsonWriter
import AccessibleWalk.Proofs.Number.ReadBack

namespace AccessibleWalk

/-! ## Decimals of zero -/

theorem Decimal.magnitude_of_digits_eq_zero {d : Decimal} (h : d.digits = 0) : d.magnitude = Magnitude.zero := by
  unfold magnitude
  split
  · rw [h]; simp
  · rw [h, Nat.zero_mul]
    exact Magnitude.nearest_zero (Nat.pow_pos (by decide))

/-- a zero is written without a power of ten -/
theorem Magnitude.exponent_shortest_of_digits_eq_zero {m : Magnitude} {tie : Tie} (h : (m.shortest tie).digits = 0) :
    (m.shortest tie).exponent ≤ 0 := by
  have hm : m = zero := by rw [← m.magnitude_shortest tie, Decimal.magnitude_of_digits_eq_zero h]
  subst hm
  exact Int.le_refl 0

namespace Json

/-! ## Reading numerals -/

/-- a minus in front of a negative number -/
def minus (negative : Bool) : List Char := if negative then ['-'] else []

/-- a power of ten begins with its mark -/
theorem head?_of_exponent? {power : List Char} {e : Int} (h : Decimal.exponent? power = some e) :
    ∀ c ∈ power.head?, c = 'e' ∨ c = 'E' := by
  intro c hc
  obtain ⟨rest, rfl⟩ : ∃ rest, power = c :: rest := List.head?_eq_some_iff.1 hc
  by_contra hmark
  simp [Decimal.exponent?, hmark] at h

section Numeral

variable (rounding : Decimal → Magnitude) {whole fraction : List Char}
variable (hw : AllDigits whole) (hne : whole ≠ []) (hlead : NoNeedlessZero whole)
include hw hne hlead

/-- a number is split into its sign, the digits in front, and what follows them -/
theorem number?_minus (negative : Bool) (tail : List Char) (htail : ∀ c ∈ tail.head?, c.isDigit = false) :
    number? rounding (minus negative ++ (whole ++ tail)) =
      let (fraction, power) := Decimal.splitFraction tail
      if tail.isEmpty then some (fitReal (wholeNumber rounding negative (Nat.ofDigitChars 10 whole 0)))
      else if tail.head? == some '.' && fraction.isEmpty then none
      else
        (Decimal.exponent? power).map fun e =>
          fitReal (.real (.signed negative
            (rounding ⟨Nat.ofDigitChars 10 (whole ++ fraction) 0, e - fraction.length⟩))) := by
  obtain ⟨c, rest, rfl⟩ := List.exists_cons_of_ne_nil hne
  have hc : c ≠ '-' := fun h => absurd (hw c List.mem_cons_self) (by rw [h]; decide)
  have hsign : ((minus negative ++ (c :: rest ++ tail)).head? == some '-') = negative := by
    cases negative with
    | true => rfl
    | false => simpa [minus] using hc
  have hunsigned : (if negative then (minus negative ++ (c :: rest ++ tail)).tail
      else minus negative ++ (c :: rest ++ tail)) = c :: rest ++ tail := by
    cases negative with
    | true => rfl
    | false => rfl
  have htake : (c :: rest ++ tail).takeWhile Char.isDigit = c :: rest := hw.takeWhile_append htail
  have hdrop : (c :: rest ++ tail).dropWhile Char.isDigit = tail := hw.dropWhile_append htail
  have hplain : ((c :: rest).head? == some '0' && (c :: rest).length != 1) = false := by
    simpa [NoNeedlessZero] using hlead
  simp only [number?, hsign, hunsigned, htake, hdrop, hplain, List.isEmpty_cons, Bool.or_self, Bool.false_eq_true,
    if_false]

theorem number?_whole (negative : Bool) : number? rounding (minus negative ++ whole) =
    some (fitReal (wholeNumber rounding negative (Nat.ofDigitChars 10 whole 0))) := by
  simpa using number?_minus rounding hw hne hlead negative [] (by simp)

/-- **Digits with a fraction or an exponent are read as the decimal they show.** -/
theorem number?_numeral (negative : Bool) (hf : AllDigits fraction) {power : List Char} {e : Int}
    (hpower : Decimal.exponent? power = some e) (htail : fraction ≠ [] ∨ power ≠ []) :
    number? rounding (minus negative ++ (plain whole fraction ++ power)) =
      some (fitReal (.real (.signed negative
        (rounding ⟨Nat.ofDigitChars 10 (whole ++ fraction) 0, e - fraction.length⟩)))) := by
  have hmark := head?_of_exponent? hpower
  have hdigit : ∀ c ∈ power.head?, c.isDigit = false ∧ c ≠ '.' := by
    intro c hc
    rcases hmark c hc with rfl | rfl <;> decide
  by_cases hfraction : fraction = []
  · subst hfraction
    have hpower_ne : power ≠ [] := by simpa using htail
    have hsplit : Decimal.splitFraction power = ([], power) := by
      unfold Decimal.splitFraction
      split
      · exact absurd rfl (hdigit '.' rfl).2
      · rfl
    have hpoint : (power.head? == some '.') = false := by
      rw [beq_eq_false_iff_ne]
      intro hhead
      exact absurd rfl (hdigit '.' hhead).2
    have hread := number?_minus rounding hw hne hlead negative power fun c hc => (hdigit c hc).1
    simpa [plain, hsplit, hpoint, hpower_ne, hpower] using hread
  · have htake := hf.takeWhile_append fun c hc => (hdigit c hc).1
    have hdrop := hf.dropWhile_append fun c hc => (hdigit c hc).1
    have hread := number?_minus rounding hw hne hlead negative ('.' :: (fraction ++ power)) (by simp)
    simpa [plain, Decimal.splitFraction, htake, hdrop, hfraction, hpower] using hread

end Numeral

/-! ## Writing numbers -/

variable {rounding : Decimal → Magnitude}

/-- **An integer is read back from its digits**, however decimals are rounded. -/
theorem number?_integerText {i : Int} (hi : -0x8000000000000000 ≤ i ∧ i ≤ 0xFFFFFFFFFFFFFFFF) :
    number? rounding (integerText i) = some (.integer i) := by
  have hread (negative : Bool) (n : Nat) :=
    number?_whole rounding (AllDigits.toDigits n) Nat.toDigits_ne_nil (.toDigits n) negative
  simp only [Nat.ofDigitChars_ten_toDigits] at hread
  cases i with
  | ofNat n =>
    have hn : n ≤ 0xFFFFFFFFFFFFFFFF := by simpa using hi.2
    simpa [minus, integerText, wholeNumber, hn, fitReal] using hread false n
  | negSucc n =>
    have hn : n + 1 ≤ 0x8000000000000000 := by omega
    simpa [minus, integerText, wholeNumber, hn, fitReal, Int.negSucc_eq] using hread true (n + 1)

/-- what stands behind the mark of a power of ten is read as the power -/
theorem exponent?_power (plusExponent : Bool) (e : Int) :
    Decimal.exponent? ('e' :: match e with
      | .ofNat e => (if plusExponent then ['+'] else []) ++ Nat.toDigits 10 e
      | .negSucc n => '-' :: Nat.toDigits 10 (n + 1)) = some e := by
  have hall (n : Nat) : (Nat.toDigits 10 n).all Char.isDigit = true := List.all_eq_true.2 (AllDigits.toDigits n)
  cases e with
  | ofNat n =>
    have hsign : Decimal.splitSign ((if plusExponent then ['+'] else []) ++ Nat.toDigits 10 n) =
        (false, Nat.toDigits 10 n) := by
      cases plusExponent with
      | true => rfl
      | false =>
        obtain ⟨c, rest, hc⟩ := List.exists_cons_of_ne_nil (Nat.toDigits_ne_nil (n := n) (b := 10))
        have hdigit : c.isDigit = true := AllDigits.toDigits n c (hc ▸ List.mem_cons_self)
        simpa [hc] using Decimal.splitSign_of_isDigit hdigit rest
    simp [Decimal.exponent?, hsign, hall, Nat.toDigits_ne_nil, Nat.ofDigitChars_ten_toDigits]
  | negSucc n =>
    simp [Decimal.exponent?, Decimal.splitSign, hall, Nat.toDigits_ne_nil, Nat.ofDigitChars_ten_toDigits,
      Int.negSucc_eq]

/-- digits with a power of ten are read as the decimal that was written, and so they are rounded as it is -/
theorem number?_exponentText (l : Layout) (negative : Bool) (d : Decimal) :
    number? rounding (minus negative ++ l.exponentText d) = some (fitReal (.real (.signed negative (rounding d)))) := by
  obtain ⟨digit, more, hdigits⟩ := List.exists_cons_of_ne_nil (Nat.toDigits_ne_nil (n := d.digits) (b := 10))
  have hall : AllDigits (digit :: more) := hdigits ▸ AllDigits.toDigits d.digits
  have hvalue : Nat.ofDigitChars 10 (digit :: more) 0 = d.digits := by rw [← hdigits, Nat.ofDigitChars_ten_toDigits]
  have hplaces : d.leadingExponent - more.length = d.exponent := by
    simp only [Decimal.leadingExponent, hdigits, List.length_cons]
    omega
  have hwhole : AllDigits [digit] := fun c hc => hall c (by simp_all)
  have hfraction : AllDigits more := fun c hc => hall c (List.mem_cons_of_mem digit hc)
  have hread := number?_numeral rounding hwhole (by simp) (fun _ => rfl) negative hfraction
    (exponent?_power l.plusExponent d.leadingExponent) (.inr (by simp))
  simp only [List.cons_append, List.nil_append, hvalue, hplaces] at hread
  rw [← hread, Layout.exponentText, hdigits]
  cases more with
  | nil => rfl
  | cons _ _ => rfl

/-- all places are read as a decimal of the value that was written -/
theorem number?_positionalText {l : Layout} (hl : l.keepsPoint = true) (negative : Bool) {d : Decimal}
    (hd : d.exponent ≤ 400) (hzero : d.digits = 0 → d.exponent ≤ 0) :
    number? Decimal.magnitude (minus negative ++ l.positionalText d) =
      some (fitReal (.real (.signed negative d.magnitude))) := by
  obtain ⟨whole, fraction, hw, hf, hne, hlead, hfraction, htext, hshown⟩ := l.exists_plain hd
  have hpower : Decimal.exponent? [] = some 0 := rfl
  have hread := number?_numeral Decimal.magnitude hw hne (hlead hzero) negative hf hpower (.inl (hfraction hl))
  rw [htext, ← hshown]
  simpa [shown] using hread

/-- **A finite number is read back from its text**, with the sign of a zero, where the notation keeps points. -/
theorem number?_write {l : Layout} (hl : l.keepsPoint = true) {x : Binary64} (hx : x.isFinite = true) :
    number? Decimal.magnitude (l.write x) = some (.real x) := by
  cases x with
  | nan => cases hx
  | signed negative m =>
    have hm : m.isFinite = true := hx
    have hwrite : l.write (.signed negative m) = minus negative ++ l.decimalText (m.shortest l.tie) := by
      cases negative <;> simp [Layout.write, Layout.magnitudeText, hm, minus]
    have hread : number? Decimal.magnitude (minus negative ++ l.decimalText (m.shortest l.tie)) =
        some (fitReal (.real (.signed negative (m.shortest l.tie).magnitude))) := by
      unfold Layout.decimalText
      split
      · exact number?_positionalText hl negative (m.exponent_shortest_le l.tie)
          Magnitude.exponent_shortest_of_digits_eq_zero
      · exact number?_exponentText l negative _
    rw [hwrite, hread, Magnitude.magnitude_shortest, fitReal, if_pos hx]

theorem number?_realText {x : Binary64} (hx : x.isFinite = true) :
    number? Decimal.magnitude (realText x) = some (.real x) := by
  rw [realText, if_pos hx]
  exact number?_write rfl hx

/-! ## Characters of words -/

theorem isWordChar_of_isDigit {c : Char} (h : c.isDigit = true) : isWordChar c = true := by
  simp [isWordChar, Char.isAlphanum, h]

/-- a sign is a character of words, so a text of such characters behind its sign is one of such characters -/
theorem isWordChar_of_splitSign {cs : List Char} (h : ∀ c ∈ (Decimal.splitSign cs).2, isWordChar c = true) :
    ∀ c ∈ cs, isWordChar c = true := by
  unfold Decimal.splitSign at h
  split at h
  · simpa using ⟨by decide, h⟩
  · simpa using ⟨by decide, h⟩
  · exact h

theorem isWordChar_of_exponent? {power : List Char} {e : Int} (h : Decimal.exponent? power = some e) :
    ∀ c ∈ power, isWordChar c = true := by
  cases power with
  | nil => simp
  | cons mark rest =>
    have hmark : mark = 'e' ∨ mark = 'E' := head?_of_exponent? h mark rfl
    have hmark_char : isWordChar mark = true := by rcases hmark with rfl | rfl <;> decide
    have hdigits : ∀ c ∈ (Decimal.splitSign rest).2, c.isDigit = true := by
      rw [Decimal.exponent?, if_pos hmark] at h
      by_contra hno
      simp [List.all_eq_false.2 (by simpa using hno)] at h
    have hrest := isWordChar_of_splitSign fun c hc => isWordChar_of_isDigit (hdigits c hc)
    simpa using ⟨hmark_char, hrest⟩

/-- what a fraction and a power are split from -/
theorem isWordChar_of_splitFraction {tail : List Char}
    (h : ∀ c ∈ (Decimal.splitFraction tail).2, isWordChar c = true) : ∀ c ∈ tail, isWordChar c = true := by
  unfold Decimal.splitFraction at h
  split at h
  · next rest =>
    have hrest : ∀ c ∈ rest, isWordChar c = true := by
      intro c hc
      rw [← List.takeWhile_append_dropWhile (p := Char.isDigit) (l := rest)] at hc
      rcases List.mem_append.1 hc with hc | hc
      · exact isWordChar_of_isDigit (List.mem_takeWhile_imp hc)
      · exact h c hc
    simpa using ⟨by decide, hrest⟩
  · exact h

theorem isWordChar_of_number? {word : List Char} {d : Document} (h : number? rounding word = some d) :
    word ≠ [] ∧ ∀ c ∈ word, isWordChar c = true := by
  have hne : word ≠ [] := by rintro rfl; cases h
  refine ⟨hne, ?_⟩
  simp only [number?] at h
  generalize hword : (if word.head? == some '-' then word.tail else word) = unsigned at h
  have htail : ∀ c ∈ unsigned.dropWhile Char.isDigit, isWordChar c = true := by
    split_ifs at h with hwhole hempty hpoint
    · rw [List.isEmpty_iff.1 hempty]
      simp
    · obtain ⟨e, he, -⟩ := Option.map_eq_some_iff.1 h
      exact isWordChar_of_splitFraction (isWordChar_of_exponent? he)
  have hunsigned : ∀ c ∈ unsigned, isWordChar c = true := by
    intro c hc
    rw [← List.takeWhile_append_dropWhile (p := Char.isDigit) (l := unsigned)] at hc
    rcases List.mem_append.1 hc with hc | hc
    · exact isWordChar_of_isDigit (List.mem_takeWhile_imp hc)
    · exact htail c hc
  by_cases hminus : word.head? = some '-'
  · obtain ⟨rest, rfl⟩ := List.head?_eq_some_iff.1 hminus
    have hrest : rest = unsigned := by simpa using hword
    simpa [hrest] using ⟨by decide, hunsigned⟩
  · have hsame : word = unsigned := by simpa [hminus] using hword
    rwa [hsame]

/-- **Only characters of words make a word.** -/
theorem isWordChar_of_word? {word : List Char} {d : Document} (h : word? rounding word = some d) :
    word ≠ [] ∧ ∀ c ∈ word, isWordChar c = true := by
  have hletters (letters : List Char) (hne : letters ≠ []) (hall : letters.all isWordChar = true) :
      letters ≠ [] ∧ ∀ c ∈ letters, isWordChar c = true :=
    ⟨hne, List.all_eq_true.1 hall⟩
  unfold word? at h
  split_ifs at h with htrue hfalse hnull
  · subst htrue
    exact hletters _ (by simp) (by decide)
  · subst hfalse
    exact hletters _ (by simp) (by decide)
  · subst hnull
    exact hletters _ (by simp) (by decide)
  · exact isWordChar_of_number? h

theorem word?_of_number? {word : List Char} {d : Document} (h : number? rounding word = some d) :
    word? rounding word = some d := by
  unfold word?
  split_ifs with htrue hfalse hnull
  · subst htrue; cases h
  · subst hfalse; cases h
  · subst hnull; cases h
  · exact h

end Json

end AccessibleWalk
