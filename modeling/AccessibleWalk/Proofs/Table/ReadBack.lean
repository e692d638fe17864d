/-
Written tables read back. Quoting keeps the fields apart whatever they hold: a quoted field ends at a quote that is
not doubled, and a field is left bare only if it holds nothing that could end it. So a text of records is read as
these records, field by field and in their order. Two things are set apart: a record with one empty field is a blank
line, and blank lines are no records; and a text that starts with the mark loses it.

- `foldl_step_quotedField`, `foldl_step_bareField`: what the reader makes of the two ways to write a field.
- `step_foldl_step_field`, `foldl_step_record`, `foldl_step_table`: a field with what ends it, a field after the
  other, and a record after the other.
- `records_written`, `rows_written`: what is written is read.
-/
import Mathlib.Data.List.Basic
import AccessibleWalk.Table.CsvReader
import AccessibleWalk.Table.CsvWriter

namespace AccessibleWalk.Csv

open Reader (comma quote isLineEnd)

/-! ## Bytes of characters -/

/-- the bytes of a text -/
def encode (cs : List Char) : List UInt8 := cs.flatMap String.utf8EncodeChar

theorem encode_append (cs ds : List Char) : encode (cs ++ ds) = encode cs ++ encode ds := List.flatMap_append

theorem toUTF8_ofList (cs : List Char) : (String.ofList cs).toUTF8.data.toList = encode cs :=
  List.toList_data_toByteArray

theorem fromUTF8?_encode (cs : List Char) : String.fromUTF8? ⟨(encode cs).toArray⟩ = some (String.ofList cs) := by
  have hbytes : (⟨(encode cs).toArray⟩ : ByteArray) = cs.utf8Encode := ByteArray.ext List.data_toByteArray.symm
  rw [hbytes, String.fromUTF8?, dif_pos ByteArray.isValidUTF8_utf8Encode]
  rfl

theorem encode_ne_nil (c : Char) (cs : List Char) : encode (c :: cs) ≠ [] :=
  List.append_ne_nil_of_left_ne_nil String.utf8EncodeChar_ne_nil (encode cs)

/-- a byte of seven bits stands for itself -/
theorem toNat_of_mem_utf8EncodeChar {c : Char} {b : UInt8} (hb : b ∈ String.utf8EncodeChar c) (hseven : b.toNat < 128) :
    c.toNat = b.toNat := by
  unfold String.utf8EncodeChar at hb
  dsimp only at hb
  split_ifs at hb with hone htwo hthree
  · rw [List.mem_singleton.1 hb, UInt8.toNat_ofNat']
    show c.val.toNat = _
    omega
  all_goals
    -- the bytes of longer characters have all eight bits
    simp only [List.mem_cons, List.not_mem_nil, or_false] at hb
    rcases hb with rfl | rfl | rfl | rfl <;> rw [UInt8.toNat_ofNat'] at hseven <;> omega

/-- such a byte is in the text only if its character is -/
theorem mem_of_mem_encode {cs : List Char} {b : UInt8} (hb : b ∈ encode cs) (hseven : b.toNat < 128) :
    Char.ofNat b.toNat ∈ cs := by
  obtain ⟨c, hc, hbc⟩ := List.mem_flatMap.1 hb
  rwa [← toNat_of_mem_utf8EncodeChar hbc hseven, Char.ofNat_toNat]

/-! ## What is written -/

/-- a character between quotes -/
def doubled (c : Char) : List Char := if c = '"' then ['"', '"'] else [c]

theorem encode_writeField_quoted {f : List Char} (h : needsQuotes f = true) :
    encode (writeField f) = quote :: (encode (f.flatMap doubled) ++ [quote]) := by
  rw [writeField, if_pos h, ← List.singleton_append, encode_append, encode_append]
  rfl

theorem writeRecord_singleton (f : List Char) : writeRecord [f] = writeField f ++ ['\n'] := by
  simp [writeRecord]

theorem writeRecord_cons_cons (f g : List Char) (fields : List (List Char)) :
    writeRecord (f :: g :: fields) = writeField f ++ ',' :: writeRecord (g :: fields) := by
  simp [writeRecord]

/-- a line that is a record: it is not a blank one -/
def IsLine (fields : List (List Char)) : Prop := fields ≠ [] ∧ fields ≠ [[]]

theorem isLine_cons_cons (f g : List Char) (fields : List (List Char)) : IsLine (f :: g :: fields) := by
  simp [IsLine]

/-! ## Fields -/

/-- ends a field, and maybe its record with it -/
def IsSeparator (b : UInt8) : Prop := b = comma ∨ isLineEnd b = true

instance (b : UInt8) : Decidable (IsSeparator b) := inferInstanceAs (Decidable (_ ∨ _))

/-- a field that is left bare has no byte that ends it, and no quote -/
theorem bare_of_not_needsQuotes {f : List Char} (hf : needsQuotes f = false) {b : UInt8} (hb : b ∈ encode f) :
    b ≠ quote ∧ ¬ IsSeparator b := by
  simp only [needsQuotes, List.any_eq_false, Bool.or_eq_true, beq_iff_eq, not_or] at hf
  refine ⟨?_, ?_⟩
  · rintro rfl
    exact (hf '"' (mem_of_mem_encode hb (by decide))).1.1.2 rfl
  · rintro (rfl | hend)
    · exact (hf ',' (mem_of_mem_encode hb (by decide))).1.1.1 rfl
    · rw [isLineEnd, Bool.or_eq_true, beq_iff_eq, beq_iff_eq] at hend
      rcases hend with rfl | rfl
      · exact (hf (Char.ofNat 0x0A) (mem_of_mem_encode hb (by decide))).1.2 rfl
      · exact (hf (Char.ofNat 0x0D) (mem_of_mem_encode hb (by decide))).2 rfl

namespace Reader

/-- more bytes of the field begun -/
def extend (r : Reader) (bytes : List UInt8) : Reader := { r with bytes := bytes.reverse ++ r.bytes }

theorem extend_append (r : Reader) (bytes more : List UInt8) :
    r.extend (bytes ++ more) = (r.extend bytes).extend more := by
  simp [extend]

/-- bytes that are pushed where the reader stands are more bytes of the field -/
theorem foldl_step_extend {place : Place} {bytes : List UInt8}
    (hpush : ∀ b ∈ bytes, ∀ r : Reader, r.place = place → r.step b = r.push place b) (r : Reader)
    (hplace : r.place = place) : bytes.foldl step r = r.extend bytes := by
  induction bytes generalizing r with
  | nil => rfl
  | cons b bytes ih =>
    obtain ⟨hb, hrest⟩ := List.forall_mem_cons.1 hpush
    rw [List.foldl_cons, hb r hplace, ih hrest (r.push place b) rfl]
    simp [extend, push, hplace]

theorem foldl_step_bare {bytes : List UInt8} (hbytes : ∀ b ∈ bytes, ¬ IsSeparator b) (r : Reader)
    (hplace : r.place = .bare) : bytes.foldl step r = r.extend bytes := by
  refine foldl_step_extend (fun b hb r hr => ?_) r hplace
  obtain ⟨hcomma, hend⟩ := not_or.1 (hbytes b hb)
  rw [step, hr]
  simp only [outside, if_neg hcomma, if_neg hend]

theorem foldl_step_doubled (c : Char) (r : Reader) (hplace : r.place = .quoted) :
    (encode (doubled c)).foldl step r = r.extend (encode [c]) := by
  unfold doubled
  split_ifs with hc
  · subst hc
    have hextend : r.extend (encode ['"']) = r.push .quoted quote := by rw [push, ← hplace]; rfl
    show (r.step quote).step quote = _
    rw [hextend]
    simp [step, hplace, push]
  · refine foldl_step_extend (fun b hb r hr => ?_) r hplace
    have hquote : b ≠ quote := by
      rintro rfl
      exact hc (List.mem_singleton.1 (mem_of_mem_encode hb (by decide))).symm
    rw [step, hr]
    simp only [if_neg hquote]

/-- **Between quotes everything is part of the field**, a doubled quote being one. -/
theorem foldl_step_quoted (cs : List Char) (r : Reader) (hplace : r.place = .quoted) :
    (encode (cs.flatMap doubled)).foldl step r = r.extend (encode cs) := by
  induction cs generalizing r with
  | nil => rfl
  | cons c cs ih =>
    rw [List.flatMap_cons, encode_append, List.foldl_append, foldl_step_doubled c r hplace,
      ih (r.extend (encode [c])) hplace, ← extend_append, ← encode_append]
    rfl

/-- where a field may begin -/
def AtField (r : Reader) : Prop := r.place = .fieldStart ∨ r.place = .recordStart

theorem foldl_step_quotedField {f : List Char} (hf : needsQuotes f = true) {r : Reader} (hr : r.AtField) :
    (encode (writeField f)).foldl step r = { r.extend (encode f) with place := .quoteInQuotes } := by
  have hnotEnd : isLineEnd quote = false := by decide
  have hopen : r.step quote = { r with place := .quoted } := by
    rcases hr with hplace | hplace <;> simp [step, hplace, hnotEnd]
  rw [encode_writeField_quoted hf, List.foldl_cons, hopen, List.foldl_append, foldl_step_quoted f _ rfl]
  simp [step, extend]

theorem foldl_step_bareField {c : Char} {cs : List Char} (hf : needsQuotes (c :: cs) = false) {r : Reader}
    (hr : r.AtField) :
    (encode (writeField (c :: cs))).foldl step r = { r.extend (encode (c :: cs)) with place := .bare } := by
  obtain ⟨b, bytes, hbytes⟩ := List.exists_cons_of_ne_nil (encode_ne_nil c cs)
  have hbare : ∀ b' ∈ b :: bytes, b' ≠ quote ∧ ¬ IsSeparator b' := fun b' hb' =>
    bare_of_not_needsQuotes hf (hbytes ▸ hb')
  obtain ⟨⟨hquote, hb⟩, hrest⟩ := List.forall_mem_cons.1 hbare
  obtain ⟨hcomma, hend⟩ := not_or.1 hb
  have hfirst : r.step b = r.push .bare b := by
    rcases hr with hplace | hplace <;> simp [step, hplace, outside, hquote, hcomma, hend]
  rw [writeField, if_neg (Bool.eq_false_iff.1 hf), hbytes, List.foldl_cons, hfirst,
    foldl_step_bare (fun b' hb' => (hrest b' hb').2) _ rfl]
  simp [extend, push]

/-- **A field is read as it was written**, and then the reader stands behind it. -/
theorem foldl_step_field (f : List Char) (r : Reader) (hr : r.AtField) :
    ∃ place, (encode (writeField f)).foldl step r = { r.extend (encode f) with place := place } ∧
      (place = .bare ∨ place = .quoteInQuotes ∨ place = r.place ∧ f = []) := by
  cases f with
  | nil => exact ⟨r.place, rfl, .inr (.inr ⟨rfl, rfl⟩)⟩
  | cons c cs =>
    cases hquotes : needsQuotes (c :: cs) with
    | true => exact ⟨.quoteInQuotes, foldl_step_quotedField hquotes hr, .inr (.inl rfl)⟩
    | false => exact ⟨.bare, foldl_step_bareField hquotes hr, .inl rfl⟩

/-- a separator ends the field before it; only a line end is no end of a record where none has begun -/
theorem step_separator {b : UInt8} (hb : IsSeparator b) (r : Reader) (hplace : r.place ≠ .quoted)
    (hblank : r.place = .recordStart → b = comma) : r.step b = r.outside b := by
  have hquote : b ≠ quote := by rintro rfl; revert hb; decide
  rw [step]
  cases hr : r.place with
  | recordStart =>
    have hnotEnd : isLineEnd b = false := by rw [hblank hr]; decide
    simp [hnotEnd, hquote]
  | quoted => exact absurd hr hplace
  | _ => simp [hquote]

/-- wherever it ended -/
theorem outside_of_isSeparator {b : UInt8} (hb : IsSeparator b) (r : Reader) (place : Place) :
    ({ r with place := place } : Reader).outside b = r.outside b := by
  unfold outside
  split_ifs with hcomma hend
  · rfl
  · rfl
  · exact absurd hb (not_or.2 ⟨hcomma, hend⟩)

/-- **A field ends with what separates it from the next one**, unless it is empty and the line ends before a record
begins. -/
theorem step_foldl_step_field (f : List Char) (r : Reader) (hr : r.AtField) {b : UInt8} (hb : IsSeparator b)
    (hblank : r.place = .recordStart → f = [] → b = comma) :
    ((encode (writeField f)).foldl step r).step b = (r.extend (encode f)).outside b := by
  obtain ⟨place, hfield, hplace⟩ := foldl_step_field f r hr
  rw [hfield, step_separator hb, outside_of_isSeparator hb]
  · rcases hplace with rfl | rfl | ⟨rfl, -⟩
    · exact nofun
    · exact nofun
    · rcases hr with hplace | hplace <;> simp [hplace]
  · rintro hstart
    rcases hplace with rfl | rfl | ⟨rfl, hempty⟩
    · cases hstart
    · cases hstart
    · exact hblank hstart hempty

/-! ## Records -/

/-- **A record is read as it was written**, field by field. -/
theorem foldl_step_record (fields : List (List Char)) (hne : fields ≠ []) (r : Reader) (hr : r.AtField)
    (hbytes : r.bytes = []) (hblank : r.place = .recordStart → fields ≠ [[]]) :
    (encode (writeRecord fields)).foldl step r =
      { records := (r.fields.reverse ++ fields.map encode) :: r.records } := by
  induction fields generalizing r with
  | nil => exact absurd rfl hne
  | cons f fields ih =>
    cases fields with
    | nil =>
      have hwritten : encode (writeRecord [f]) = encode (writeField f) ++ [0x0A] := by
        rw [writeRecord_singleton, encode_append]
        rfl
      rw [hwritten, List.foldl_append, List.foldl_cons, List.foldl_nil,
        step_foldl_step_field f r hr (.inr rfl) fun hstart hempty => absurd (by rw [hempty]) (hblank hstart)]
      simp [outside, comma, isLineEnd, endRecord, endField, extend, hbytes]
    | cons g fields =>
      have hwritten : encode (writeRecord (f :: g :: fields)) =
          encode (writeField f) ++ comma :: encode (writeRecord (g :: fields)) := by
        rw [writeRecord_cons_cons, encode_append]
        rfl
      have hfield := step_foldl_step_field f r hr (.inl rfl : IsSeparator comma) fun _ _ => rfl
      rw [hwritten, List.foldl_append, List.foldl_cons, hfield, outside, if_pos rfl,
        ih (List.cons_ne_nil g fields) (r.extend (encode f)).endField (.inl rfl) rfl nofun]
      simp [endField, extend, hbytes]

theorem foldl_step_table (table : List (List (List Char))) (h : ∀ fields ∈ table, IsLine fields) (done : List Record) :
    (encode (table.flatMap writeRecord)).foldl step { records := done } =
      { records := (table.map (List.map encode)).reverse ++ done } := by
  induction table generalizing done with
  | nil => rfl
  | cons fields table ih =>
    obtain ⟨hline, hrest⟩ := List.forall_mem_cons.1 h
    rw [List.flatMap_cons, encode_append, List.foldl_append,
      foldl_step_record fields hline.1 _ (.inr rfl) rfl fun _ => hline.2, ih hrest]
    simp

end Reader

/-! ## Tables -/

/-- **Records are read as they were written**, one after the other. -/
theorem records_written (table : List (List (List Char))) (hlines : ∀ fields ∈ table, IsLine fields)
    (hmark : withoutMark (encode (table.flatMap writeRecord)) = encode (table.flatMap writeRecord)) :
    records (encode (table.flatMap writeRecord)) = table.map (List.map encode) := by
  rw [records, hmark, Reader.foldl_step_table table hlines]
  simp [Reader.close]

theorem texts?_encode (fields : List (List Char)) : texts? (fields.map encode) = some (fields.map String.ofList) := by
  induction fields with
  | nil => rfl
  | cons f fields ih =>
    rw [texts?] at ih
    rw [texts?, List.map_cons, List.mapM_cons, fromUTF8?_encode, ih]
    rfl

/-- **Rows are read as they were written**, each value under the name of its column. -/
theorem rows_written (names : List (List Char)) (table : List (List (List Char)))
    (hlines : ∀ fields ∈ names :: table, IsLine fields) (hwidth : ∀ fields ∈ table, fields.length = names.length)
    (hmark : withoutMark (encode ((names :: table).flatMap writeRecord)) =
      encode ((names :: table).flatMap writeRecord)) :
    rows (encode ((names :: table).flatMap writeRecord)) =
      table.map fun fields => .ok (Row.ofPairs ((names.map String.ofList).zip (fields.map String.ofList))) := by
  rw [rows, records_written _ hlines hmark, List.map_cons]
  dsimp only
  rw [List.map_map]
  refine List.map_congr_left fun fields hfields => ?_
  have hlength : (fields.map encode).length = (names.map encode).length := by
    rw [List.length_map, List.length_map, hwidth fields hfields]
  rw [Function.comp, row, if_neg (not_not.2 hlength), texts?_encode, texts?_encode]

end AccessibleWalk.Csv
