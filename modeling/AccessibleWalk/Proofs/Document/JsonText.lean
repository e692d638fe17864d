/-
JSON text reads back. The reader takes what the writer makes of a document one piece at a time, and ends every piece
where it would be had it been given the document itself. A word ends only with the character behind it, so "where" is
meant up to the characters of words.

- `readsBack_realText`: the numbers that are written are read back; another rounding may miss some.
- `run_word`, `run_quoted`: a word is read as its value, and a quoted text as the text.
- `run_write`: what is written for a document takes a reader where the document would take it.
- `read_render`: a document is read back from its text if its numbers are.
-/
import AccessibleWalk.Proofs.Document.JsonWord
import AccessibleWalk.Proofs.Document.Leaves

namespace AccessibleWalk

namespace Json

/-! ## Numbers -/

section Numbers

variable {rounding : Decimal → Magnitude} {numeral : Binary64 → List Char}

/-- is a real read back from its text? -/
def readsBack (rounding : Decimal → Magnitude) (numeral : Binary64 → List Char) (x : Binary64) : Bool :=
  match number? rounding (numeral x) with
  | some (.real y) => decide (y = x)
  | _ => false

theorem readsBack_iff {x : Binary64} :
    readsBack rounding numeral x = true ↔ number? rounding (numeral x) = some (.real x) := by
  unfold readsBack
  constructor
  · intro h
    split at h
    · next y hread => rw [hread, of_decide_eq_true h]
    · cases h
  · intro h
    rw [h]
    exact decide_eq_true rfl

/-- the closest double to the shortest digits of a finite number is the number -/
theorem readsBack_realText {x : Binary64} (hx : x.isFinite = true) : readsBack Decimal.magnitude realText x = true :=
  readsBack_iff.2 (number?_realText hx)

/-- the digits rounded first, and what their power of ten makes of them rounded again; there is no power beyond
10^308, so small numbers take two steps -/
def stepwise (d : Decimal) : Magnitude :=
  let digits := Magnitude.ofNat d.digits
  match d.exponent with
  | .ofNat up => digits.mul (.ofNat (10 ^ up))
  | .negSucc down =>
    if down < 308 then digits.div (.ofNat (10 ^ (down + 1)))
    else (digits.div (.ofNat (10 ^ 308))).div (.ofNat (10 ^ (down + 1 - 308)))

/-- **Not every number is read back** by a reader that rounds on the way. -/
example : readsBack stepwise realText 51.248178375505404 = false := by decide +kernel

/-- a leaf that stands for itself and that is read back if it is a real -/
def isKept (rounding : Decimal → Magnitude) (numeral : Binary64 → List Char) : Document → Bool
  | .real x => readsBack rounding numeral x
  | leaf => leaf.isPlain

/-- where all finite numbers are read back, plain documents have such leaves -/
theorem leaves_isKept (h : ∀ x : Binary64, x.isFinite = true → readsBack rounding numeral x = true) {d : Document}
    (hd : d.leaves Document.isPlain = true) : d.leaves (isKept rounding numeral) = true := by
  refine Document.leaves_mono (fun leaf hleaf => ?_) hd
  cases leaf with
  | real x => exact h x hleaf
  | _ => exact hleaf

/-- so plain documents are kept by the closest double and the shortest digits -/
theorem leaves_isKept_realText {d : Document} (hd : d.leaves Document.isPlain = true) :
    d.leaves (isKept Decimal.magnitude realText) = true :=
  leaves_isKept (fun _ => readsBack_realText) hd

end Numbers

/-! ## Quoted text -/

namespace Quoted

/-- a fit text that is being read, outside an escape -/
def holding (seen : List Char) : Quoted := { seen := seen }

/-- moves on by characters none of which closes the text -/
def runs? (q : Quoted) (cs : List Char) : Option Quoted :=
  cs.foldlM (fun q c => if c = '"' && q.mayClose then none else q.step? c) q

theorem hexValue?_digitChar {n : Nat} (h : n < 16) : hexValue? (Nat.digitChar n) = some n := by
  interval_cases n <;> rfl

/-- a code below those of the surrogates is a character -/
theorem pushUnit_holding (seen : List Char) (escape : Escape) {c : Char} (h : c.toNat < 0x20) :
    { holding seen with escape := escape }.pushUnit c.toNat = holding (c :: seen) := by
  unfold pushUnit
  rw [if_neg (by omega), if_neg (by omega), Char.ofNat_toNat]
  rfl

/-- **A written character is read as itself.** -/
theorem runs?_escaped (seen : List Char) (c : Char) :
    (holding seen).runs? (escaped c) = some (holding (c :: seen)) := by
  unfold escaped
  split_ifs with hquote hslash hnewline hreturn htab hback hform hcontrol
  · subst hquote; rfl
  · subst hslash; rfl
  · subst hnewline; rfl
  · subst hreturn; rfl
  · subst htab; rfl
  · subst hback; rfl
  · subst hform; rfl
  · have hhigh := hexValue?_digitChar (n := c.toNat / 16) (by omega)
    have hlow := hexValue?_digitChar (n := c.toNat % 16) (by omega)
    have hvalue : 16 * (c.toNat / 16) + c.toNat % 16 = c.toNat := Nat.div_add_mod ..
    have hzero : hexValue? '0' = some 0 := rfl
    have hcode := pushUnit_holding seen (.code 3 (c.toNat / 16)) hcontrol
    simpa [runs?, step?, mayClose, holding, hzero, hhigh, hlow, hvalue] using hcode
  · simp [runs?, step?, holding, hquote, hslash, hcontrol, push]

theorem runs?_append (q : Quoted) (cs ds : List Char) : q.runs? (cs ++ ds) = (q.runs? cs).bind fun q => q.runs? ds := by
  simp [runs?, List.foldlM_append]

theorem runs?_flatMap_escaped (seen cs : List Char) :
    (holding seen).runs? (cs.flatMap escaped) = some (holding (cs.reverse ++ seen)) := by
  induction cs generalizing seen with
  | nil => rfl
  | cons c cs ih =>
    rw [List.flatMap_cons, runs?_append, runs?_escaped, Option.bind_some, ih]
    simp

end Quoted

/-! ## Places of the reader -/

namespace Reader

/-- goes on by a run of characters -/
def run (r : Reader) (cs : List Char) : Reader := cs.foldl step r

@[simp] theorem run_nil (r : Reader) : r.run [] = r := rfl

@[simp] theorem run_cons (r : Reader) (c : Char) (cs : List Char) : r.run (c :: cs) = (r.step c).run cs := rfl

@[simp] theorem run_append (r : Reader) (cs ds : List Char) : r.run (cs ++ ds) = (r.run cs).run ds := by
  simp [run, List.foldl_append]

/-- between words and quoted texts, where nothing has gone wrong -/
structure Between (r : Reader) : Prop where
  broken : r.broken = false
  lexeme : r.lexeme = .between

/-- where a value may come -/
structure Ready (r : Reader) : Prop extends r.Between where
  wants : r.wantsValue = true
  frames : ∀ done outer, r.frames ≠ .record done :: outer

theorem step_of_between {r : Reader} (h : r.Between) (c : Char) : r.step c = r.between c := by
  simp [step, h.broken, h.lexeme]

theorem close_of_between {r : Reader} (h : r.Between) : r.close = r := by simp [close, h.broken, h.lexeme]

/-- both end alike and go on alike, unless a character of a word comes next -/
def EndsAs (r s : Reader) : Prop := r.close = s.close ∧ ∀ c, isWordChar c = false → r.step c = s.step c

theorem EndsAs.refl (r : Reader) : r.EndsAs r := ⟨rfl, fun _ _ => rfl⟩

theorem put_between {r : Reader} (h : r.Ready) (d : Document) : (r.put d).Between := by
  unfold put
  split
  · exact ⟨h.broken, h.lexeme⟩
  · exact ⟨h.broken, h.lexeme⟩
  · exact ⟨h.broken, h.lexeme⟩
  · next hframes => exact absurd hframes (h.frames _ _)

theorem put_with_expect {r : Reader} (h : r.Ready) (e : Expect) (d : Document) :
    { r with expect := e }.put d = r.put d := by
  unfold put
  cases hframes : r.frames with
  | nil => rfl
  | cons frame outer =>
    cases frame with
    | list done => rfl
    | field done name => rfl
    | record done => exact absurd hframes (h.frames _ _)

/-! ## Pieces -/

/-- a character of a word begins one -/
theorem step_word {r : Reader} (hr : r.Ready) {c : Char} (hc : isWordChar c = true) :
    r.step c = { r with lexeme := .word [c] } := by
  have hne (d : Char) (hd : isWordChar d = false) : c ≠ d := by
    rintro rfl
    rw [hc] at hd
    cases hd
  rw [step_of_between hr.toBetween]
  simp [between, hne ' ' rfl, hne '\n' rfl, hne '\t' rfl, hne '\r' rfl, hne '"' rfl, hne '[' rfl, hne '\x7b' rfl,
    hne ']' rfl, hne '\x7d' rfl, hne ',' rfl, hne ':' rfl, hc, hr.wants]

/-- further characters of a word are kept in reverse -/
theorem run_word_more {r : Reader} (hr : r.broken = false) (seen : List Char) {cs : List Char}
    (hcs : ∀ c ∈ cs, isWordChar c = true) :
    { r with lexeme := .word seen }.run cs = { r with lexeme := .word (cs.reverse ++ seen) } := by
  induction cs generalizing seen with
  | nil => rfl
  | cons c cs ih =>
    have hstep : { r with lexeme := .word seen }.step c = { r with lexeme := .word (c :: seen) } := by
      simp [step, hr, hcs c List.mem_cons_self]
    rw [run_cons, hstep, ih (c :: seen) fun d hd => hcs d (List.mem_cons_of_mem c hd)]
    simp

/-- a word ends before a character that is of no word -/
theorem step_word_end {r s : Reader} (hr : r.broken = false) {word : List Char}
    (hput : { r with lexeme := .between }.putWord word = s) (hs : s.broken = false) {c : Char}
    (hc : isWordChar c = false) :
    { r with lexeme := .word word.reverse }.step c = s.between c := by
  simp only [step, hr, hc, Bool.false_eq_true, if_false, List.reverse_reverse]
  rw [← hr, hput, hs]
  rfl

/-- **A word is read as its value** when it ends. -/
theorem run_word {r : Reader} (hr : r.Ready) {word : List Char} {d : Document} (h : word? r.rounding word = some d) :
    (r.run word).EndsAs (r.put d) := by
  obtain ⟨hne, hchars⟩ := isWordChar_of_word? h
  obtain ⟨c, rest, rfl⟩ := List.exists_cons_of_ne_nil hne
  have hrun : r.run (c :: rest) = { r with lexeme := .word (c :: rest).reverse } := by
    rw [run_cons, step_word hr (hchars c List.mem_cons_self),
      run_word_more hr.broken [c] fun d hd => hchars d (List.mem_cons_of_mem c hd), List.reverse_cons]
  have hput : { r with lexeme := .between }.putWord (c :: rest) = r.put d := by
    simp only [putWord, h, ← hr.lexeme]
  have hbetween := put_between hr d
  rw [hrun]
  constructor
  · have hclose : { r with lexeme := .word (c :: rest).reverse }.close =
        { r with lexeme := .between }.putWord (c :: rest) := by
      simp [close, hr.broken]
    rw [hclose, hput, close_of_between hbetween]
  · intro ch hch
    rw [step_word_end hr.broken hput hbetween.broken hch, step_of_between hbetween]

theorem run_runs? {r : Reader} (hr : r.broken = false) {q q' : Quoted} {cs : List Char} (h : q.runs? cs = some q') :
    { r with lexeme := .quoted q }.run cs = { r with lexeme := .quoted q' } := by
  induction cs generalizing q with
  | nil =>
    cases h
    rfl
  | cons c cs ih =>
    rw [Quoted.runs?, List.foldlM_cons] at h
    obtain ⟨next, hnext, hrest⟩ := Option.bind_eq_some_iff.1 h
    split_ifs at hnext with hclose
    have hstep : { r with lexeme := .quoted q }.step c = { r with lexeme := .quoted next } := by
      simp [step, hr, hclose, hnext]
    rw [run_cons, hstep, ih hrest]

/-- **A quoted text is read as the text.** -/
theorem run_quoted {r : Reader} (hr : r.Between)
    (hplace : (r.wantsValue || r.expect == .name || r.expect == .firstName) = true) (s : String) :
    r.run (quoted s) = r.putQuoted (.holding s.toList.reverse) := by
  have hopen : r.step '"' = { r with lexeme := .quoted (.holding []) } := by
    rw [step_of_between hr]
    simp [between, hplace, Quoted.holding]
  have hbody := run_runs? hr.broken (Quoted.runs?_flatMap_escaped [] s.toList)
  rw [List.append_nil] at hbody
  have hclose : { r with lexeme := .quoted (.holding s.toList.reverse) }.step '"' =
      r.putQuoted (.holding s.toList.reverse) := by
    have hend : { r with lexeme := .quoted (.holding s.toList.reverse) }.step '"' =
        { r with lexeme := .between }.putQuoted (.holding s.toList.reverse) := by
      simp [step, hr.broken, Quoted.mayClose, Quoted.holding]
    rw [hend, ← hr.lexeme]
  rw [quoted, run_cons, hopen, run_append, hbody, run_cons, hclose, run_nil]

/-! ## Containers -/

/-- behind an item of a list that stands where `r` wants a value -/
def inList (r : Reader) (done : List Document) : Reader := { r with frames := .list done :: r.frames, expect := .more }

/-- behind a field of a record that stands where `r` wants a value -/
def inRecord (r : Reader) (done : List (String × Document)) : Reader :=
  { r with frames := .record done :: r.frames, expect := .more }

theorem EndsAs.run_cons {r s : Reader} (h : r.EndsAs s) {c : Char} (hc : isWordChar c = false) (cs : List Char) :
    r.run (c :: cs) = s.run (c :: cs) := by
  simp only [Reader.run_cons, h.2 c hc]

section Containers

variable {r : Reader} (hr : r.Ready)
include hr

theorem ready_item (done : List Document) (e : Expect) (he : e = .value ∨ e = .firstItem) :
    { r with frames := .list done :: r.frames, expect := e }.Ready where
  broken := hr.broken
  lexeme := hr.lexeme
  wants := by rcases he with rfl | rfl <;> rfl
  frames := by simp

theorem ready_field (done : List (String × Document)) (q : Quoted) :
    { r with frames := .field done q :: r.frames, expect := .value }.Ready where
  broken := hr.broken
  lexeme := hr.lexeme
  wants := rfl
  frames := by simp

theorem between_container (frame : Frame) (e : Expect) :
    { r with frames := frame :: r.frames, expect := e }.Between where
  broken := hr.broken
  lexeme := hr.lexeme

theorem step_openList : r.step '[' = { r with frames := .list [] :: r.frames, expect := .firstItem } := by
  rw [step_of_between hr.toBetween]
  simp [between, hr.wants]

theorem step_openRecord : r.step '\x7b' = { r with frames := .record [] :: r.frames, expect := .firstName } := by
  rw [step_of_between hr.toBetween]
  simp [between, hr.wants]

/-- a list closes where it opened or behind an item -/
theorem step_closeList (done : List Document) (e : Expect) (he : e = .firstItem ∨ e = .more) :
    { r with frames := .list done :: r.frames, expect := e }.step ']' = r.put (.list done.reverse) := by
  rw [step_of_between (between_container hr _ _), ← put_with_expect hr e]
  rcases he with rfl | rfl
  · rfl
  · rfl

/-- a record closes where it opened or behind a field -/
theorem step_closeRecord (done : List (String × Document)) (e : Expect) (he : e = .firstName ∨ e = .more) :
    { r with frames := .record done :: r.frames, expect := e }.step '\x7d' = r.put (.record done.reverse) := by
  rw [step_of_between (between_container hr _ _), ← put_with_expect hr e]
  rcases he with rfl | rfl
  · rfl
  · rfl

theorem step_commaList (done : List Document) :
    (r.inList done).step ',' = { r with frames := .list done :: r.frames, expect := .value } :=
  step_of_between (between_container hr _ _) ','

theorem step_commaRecord (done : List (String × Document)) :
    (r.inRecord done).step ',' = { r with frames := .record done :: r.frames, expect := .name } :=
  step_of_between (between_container hr _ _) ','

/-- a name and a colon lead to the place of a value -/
theorem run_name (done : List (String × Document)) (e : Expect) (he : e = .firstName ∨ e = .name) (name : String)
    (cs : List Char) :
    { r with frames := .record done :: r.frames, expect := e }.run (quoted name ++ ':' :: cs) =
      { r with frames := .field done (.holding name.toList.reverse) :: r.frames, expect := .value }.run cs := by
  have hplace := between_container hr (.record done) e
  have hname : { r with frames := .record done :: r.frames, expect := e }.putQuoted (.holding name.toList.reverse) =
      { r with frames := .field done (.holding name.toList.reverse) :: r.frames, expect := .colon } := by
    rcases he with rfl | rfl
    · rfl
    · rfl
  have hcolon : { r with frames := .field done (.holding name.toList.reverse) :: r.frames, expect := .colon }.step ':' =
      { r with frames := .field done (.holding name.toList.reverse) :: r.frames, expect := .value } := by
    rw [step_of_between (between_container hr _ _)]
    rfl
  rw [run_append, run_quoted hplace (by rcases he with rfl | rfl <;> rfl), hname, run_cons, hcolon]

/-- a value behind a name makes a field, if it is read as a value -/
theorem run_field {d : Document} {text : List Char}
    (hd : ∀ s : Reader, s.Ready → s.rounding = r.rounding → (s.run text).EndsAs (s.put d))
    (done : List (String × Document)) (e : Expect) (he : e = .firstName ∨ e = .name) (name : String) :
    ({ r with frames := .record done :: r.frames, expect := e }.run (quoted name ++ ':' :: text)).EndsAs
      (r.inRecord ((name, d) :: done)) := by
  have hput : { r with frames := .field done (.holding name.toList.reverse) :: r.frames, expect := .value }.put d =
      r.inRecord ((name, d) :: done) := by
    have hfield : field (.holding name.toList.reverse) d = (name, d) := by
      simp [field, Quoted.text, Quoted.isFit, Quoted.holding]
    rw [← hfield]
    rfl
  rw [run_name hr done e he, ← hput]
  exact hd _ (ready_field hr done _) rfl

end Containers

/-! ## Documents -/

open Document (leaves)

variable {rounding : Decimal → Magnitude} {numeral : Binary64 → List Char}

mutual

/-- **What is written for a document takes a reader where the document would take it.** -/
theorem run_write (d : Document) (hd : d.leaves (isKept rounding numeral) = true) {r : Reader} (hr : r.Ready)
    (hround : r.rounding = rounding) : (r.run (write numeral d)).EndsAs (r.put d) := by
  cases d with
  | null => exact run_word hr rfl
  | flag b =>
    cases b with
    | true => exact run_word hr rfl
    | false => exact run_word hr rfl
  | integer i =>
    have hi : -0x8000000000000000 ≤ i ∧ i ≤ 0xFFFFFFFFFFFFFFFF := of_decide_eq_true hd
    exact run_word hr (word?_of_number? (number?_integerText hi))
  | real x =>
    have hx : number? rounding (numeral x) = some (.real x) := readsBack_iff.1 hd
    exact run_word hr (word?_of_number? (hround ▸ hx))
  | text s =>
    have hput : r.putQuoted (.holding s.toList.reverse) = r.put (.text s) := by
      simp [putQuoted, hr.wants, Quoted.isFit, Quoted.holding, Quoted.text]
    rw [write, run_quoted hr.toBetween (by simp [hr.wants]), hput]
    exact .refl _
  | list items =>
    cases items with
    | nil =>
      rw [write, run_cons, step_openList hr, run_cons, step_closeList hr _ _ (.inl rfl)]
      exact .refl _
    | cons d rest =>
      obtain ⟨hfirst, hrest⟩ : d.leaves (isKept rounding numeral) = true ∧
          rest.all (leaves (isKept rounding numeral)) = true := by
        simpa using hd
      have hitem := run_write d hfirst (ready_item hr [] .firstItem (.inr rfl)) hround
      rw [write, run_cons, step_openList hr, List.append_assoc, run_append, run_writeItems rest hrest hr hround hitem]
      exact .refl _
  | record fields =>
    cases fields with
    | nil =>
      rw [write, run_cons, step_openRecord hr, run_cons, step_closeRecord hr _ _ (.inl rfl)]
      exact .refl _
    | cons first rest =>
      obtain ⟨name, d⟩ := first
      obtain ⟨hfirst, hrest⟩ : d.leaves (isKept rounding numeral) = true ∧
          (rest.all fun field => field.2.leaves (isKept rounding numeral)) = true := by
        simpa using hd
      have hfield := run_field hr (fun s hs h => run_write d hfirst hs (h.trans hround)) [] .firstName (.inl rfl) name
      rw [write, run_cons, step_openRecord hr, List.append_assoc, run_append,
        run_writeFields rest hrest hr hround hfield]
      exact .refl _
  | unfit => cases hd
  | misnamed d => cases hd
  | fault => cases hd

/-- the items after the first, for a reader that ended behind an item -/
theorem run_writeItems (rest : List Document) (h : rest.all (leaves (isKept rounding numeral)) = true) {r : Reader}
    (hr : r.Ready) (hround : r.rounding = rounding) {a : Reader} {done : List Document} (ha : a.EndsAs (r.inList done)) :
    a.run (writeItems numeral rest ++ [']']) = r.put (.list (done.reverse ++ rest)) := by
  cases rest with
  | nil =>
    have hclose := step_closeList hr done .more (.inr rfl)
    rw [writeItems, List.nil_append, ha.run_cons rfl, List.append_nil]
    exact hclose
  | cons d rest =>
    obtain ⟨hfirst, hrest⟩ : d.leaves (isKept rounding numeral) = true ∧
        rest.all (leaves (isKept rounding numeral)) = true := by
      simpa using h
    have hitem := run_write d hfirst (ready_item hr done .value (.inl rfl)) hround
    rw [writeItems, List.cons_append, ha.run_cons rfl, run_cons, step_commaList hr, List.append_assoc, run_append,
      run_writeItems rest hrest hr hround hitem, List.reverse_cons, List.append_assoc]
    rfl

/-- the fields after the first, for a reader that ended behind a field -/
theorem run_writeFields (rest : List (String × Document))
    (h : (rest.all fun field => field.2.leaves (isKept rounding numeral)) = true)
    {r : Reader} (hr : r.Ready) (hround : r.rounding = rounding) {a : Reader} {done : List (String × Document)}
    (ha : a.EndsAs (r.inRecord done)) :
    a.run (writeFields numeral rest ++ ['\x7d']) = r.put (.record (done.reverse ++ rest)) := by
  cases rest with
  | nil =>
    have hclose := step_closeRecord hr done .more (.inr rfl)
    rw [writeFields, List.nil_append, ha.run_cons rfl, List.append_nil]
    exact hclose
  | cons first rest =>
    obtain ⟨name, d⟩ := first
    obtain ⟨hfirst, hrest⟩ : d.leaves (isKept rounding numeral) = true ∧
        (rest.all fun field => field.2.leaves (isKept rounding numeral)) = true := by
      simpa using h
    have hfield := run_field hr (fun s hs h => run_write d hfirst hs (h.trans hround)) done .name (.inr rfl) name
    rw [writeFields, List.cons_append, ha.run_cons rfl, run_cons, step_commaRecord hr, List.append_assoc, run_append,
      run_writeFields rest hrest hr hround hfield, List.reverse_cons, List.append_assoc]
    rfl

end

end Reader

/-- **A document is read back from its text**, and the text ends with it, whatever the rounding and the way to write
reals that leave its numbers as they are. -/
theorem read_render {rounding : Decimal → Magnitude} {numeral : Binary64 → List Char} {d : Document}
    (hd : d.leaves (isKept rounding numeral) = true) : read (render d numeral) rounding = ⟨d, true⟩ := by
  have hstart : Reader.Ready { rounding := rounding } := ⟨⟨rfl, rfl⟩, rfl, by simp⟩
  have hclose := (Reader.run_write d hd hstart rfl).1
  have hdone : (((write numeral d).foldl Reader.step { rounding := rounding }).close : Reader) =
      { rounding := rounding, expect := .more, result := some d } := hclose
  simp only [read, render, String.toList_ofList, hdone, Bool.not_false]

end Json

end AccessibleWalk
