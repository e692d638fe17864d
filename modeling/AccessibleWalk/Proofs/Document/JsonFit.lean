/-
What comes out of JSON text is fit: integers have 64 bits and reals are finite, however the text goes wrong. The reader
keeps this of everything it holds, in its open containers and as its result.

- `leaves_isFit_of_word?`: a word gives a fit value.
- `Reader.step_fit`, `Reader.foldl_step_fit`: a character keeps the reader fit, and so does a text.
- `read_fit`: a text gives a fit document.
-/
import Mathlib.Tactic.SplitIfs
import AccessibleWalk.Document.JsonReader
import AccessibleWalk.Proofs.Document.Leaves

namespace AccessibleWalk.Json

open Document (leaves isFit)

/-! ## Words -/

variable {rounding : Decimal → Magnitude}

theorem leaves_isFit_of_number? {word : List Char} {d : Document} (h : number? rounding word = some d) :
    d.leaves isFit = true := by
  have hreal (x : Binary64) : (fitReal (.real x)).leaves isFit = true := by
    by_cases hx : x.isFinite = true
    · simp [fitReal, hx, leaves, isFit]
    · simp [fitReal, hx, leaves, isFit]
  have hwhole (negative : Bool) (n : Nat) : (fitReal (wholeNumber rounding negative n)).leaves isFit = true := by
    unfold wholeNumber
    split_ifs with hsign hn hn
    · have : -0x8000000000000000 ≤ -(n : Int) ∧ -(n : Int) ≤ 0xFFFFFFFFFFFFFFFF := by omega
      simpa [fitReal, leaves, isFit] using this
    · exact hreal _
    · have : -0x8000000000000000 ≤ (n : Int) ∧ (n : Int) ≤ 0xFFFFFFFFFFFFFFFF := by omega
      simpa [fitReal, leaves, isFit] using this
    · exact hreal _
  simp only [number?] at h
  generalize (if word.head? == some '-' then word.tail else word) = unsigned at h
  split_ifs at h with hdigits htail hpoint
  · cases h
    exact hwhole _ _
  · obtain ⟨e, -, rfl⟩ := Option.map_eq_some_iff.1 h
    exact hreal _

/-- **A word gives a fit value.** -/
theorem leaves_isFit_of_word? {word : List Char} {d : Document} (h : word? rounding word = some d) :
    d.leaves isFit = true := by
  unfold word? at h
  split_ifs at h
  · cases h; rfl
  · cases h; rfl
  · cases h; rfl
  · exact leaves_isFit_of_number? h

/-! ## The reader -/

/-- everything in an open container is fit -/
def Frame.IsFit : Frame → Prop
  | .list done => ∀ d ∈ done, d.leaves isFit = true
  | .record done | .field done _ => ∀ field ∈ done, field.2.leaves isFit = true

theorem leaves_isFit_field (name : Quoted) {d : Document} (h : d.leaves isFit = true) :
    (field name d).2.leaves isFit = true := by
  unfold field
  split_ifs
  · exact h
  · rfl

namespace Reader

/-- everything the reader holds is fit -/
structure Fit (r : Reader) : Prop where
  frames : ∀ frame ∈ r.frames, frame.IsFit
  result : ∀ d ∈ r.result, d.leaves isFit = true

theorem Fit.ite {p : Prop} [Decidable p] {r s : Reader} (hr : r.Fit) (hs : s.Fit) : (if p then r else s).Fit := by
  split
  · exact hr
  · exact hs

variable {r : Reader} (hr : r.Fit)
include hr

theorem Fit.frames_cons {frame : Frame} {outer : List Frame} (h : r.frames = frame :: outer) :
    frame.IsFit ∧ ∀ f ∈ outer, f.IsFit :=
  List.forall_mem_cons.1 (h ▸ hr.frames)

theorem put_fit {d : Document} (hd : d.leaves isFit = true) : (r.put d).Fit := by
  unfold put
  split
  · exact ⟨hr.frames, by simpa using hd⟩
  · next done outer hframes =>
    obtain ⟨hdone, houter⟩ := hr.frames_cons hframes
    exact ⟨List.forall_mem_cons.2 ⟨List.forall_mem_cons.2 ⟨hd, hdone⟩, houter⟩, hr.result⟩
  · next done name outer hframes =>
    obtain ⟨hdone, houter⟩ := hr.frames_cons hframes
    have hfield := leaves_isFit_field name hd
    exact ⟨List.forall_mem_cons.2 ⟨List.forall_mem_cons.2 ⟨hfield, hdone⟩, houter⟩, hr.result⟩
  · exact ⟨hr.frames, hr.result⟩

theorem putQuoted_fit (q : Quoted) : (r.putQuoted q).Fit := by
  unfold putQuoted
  split_ifs with hvalue hfit
  · exact put_fit hr rfl
  · exact put_fit hr rfl
  · split
    · next done outer hframes =>
      obtain ⟨hdone, houter⟩ := hr.frames_cons hframes
      exact ⟨List.forall_mem_cons.2 ⟨hdone, houter⟩, hr.result⟩
    · exact ⟨hr.frames, hr.result⟩

theorem putWord_fit (word : List Char) : (r.putWord word).Fit := by
  unfold putWord
  split
  · next hword => exact put_fit hr (leaves_isFit_of_word? hword)
  · exact ⟨hr.frames, hr.result⟩

/-- **A character outside words and quoted texts keeps the reader fit**: a container that closes is a fit value. -/
theorem between_fit (c : Char) : (r.between c).Fit := by
  have hstop : r.stop.Fit := ⟨hr.frames, hr.result⟩
  have hopen (frame : Frame) (hframe : frame.IsFit) (e : Expect) :
      { r with frames := frame :: r.frames, expect := e }.Fit :=
    ⟨List.forall_mem_cons.2 ⟨hframe, hr.frames⟩, hr.result⟩
  have hsame : ∀ e l, { r with expect := e, lexeme := l }.Fit := fun _ _ => ⟨hr.frames, hr.result⟩
  unfold between
  refine .ite hr ?_
  refine .ite (.ite (hsame _ _) hstop) ?_
  refine .ite (.ite (hopen (.list []) (by simp [Frame.IsFit]) .firstItem) hstop) ?_
  refine .ite (.ite (hopen (.record []) (by simp [Frame.IsFit]) .firstName) hstop) ?_
  refine .ite ?listEnd (.ite ?recordEnd (.ite ?comma (.ite (.ite (hsame _ _) hstop) (.ite (hsame _ _) hstop))))
  case listEnd =>
    split
    · next done outer hframes =>
      obtain ⟨hdone, houter⟩ := hr.frames_cons hframes
      have hlist : (Document.list done.reverse).leaves isFit = true := by simpa [Frame.IsFit] using hdone
      exact .ite (put_fit (r := { r with frames := outer }) ⟨houter, hr.result⟩ hlist) hstop
    · exact hstop
  case recordEnd =>
    split
    · next done outer hframes =>
      obtain ⟨hdone, houter⟩ := hr.frames_cons hframes
      have hrecord : (Document.record done.reverse).leaves isFit = true := by simpa [Frame.IsFit] using hdone
      exact .ite (put_fit (r := { r with frames := outer }) ⟨houter, hr.result⟩ hrecord) hstop
    · exact hstop
  case comma =>
    split
    · exact hsame _ _
    · exact hsame _ _
    · exact hstop

/-- **A character keeps the reader fit.** -/
theorem step_fit (c : Char) : (r.step c).Fit := by
  have hbetween : { r with lexeme := .between }.Fit := ⟨hr.frames, hr.result⟩
  unfold step
  split
  · exact hr
  split
  · exact between_fit hr c
  · next seen _ =>
    have hword := putWord_fit hbetween seen.reverse
    split
    · exact ⟨hr.frames, hr.result⟩
    · simp only
      split
      · exact hword
      · exact between_fit hword c
  · next q _ =>
    split
    · exact putQuoted_fit hbetween q
    · split
      · exact ⟨hr.frames, hr.result⟩
      · exact ⟨hr.frames, hr.result⟩

theorem foldl_step_fit (cs : List Char) : (cs.foldl step r).Fit := by
  induction cs generalizing r with
  | nil => exact hr
  | cons c cs ih => exact ih (step_fit hr c)

theorem close_fit : r.close.Fit := by
  have hbetween : { r with lexeme := .between }.Fit := ⟨hr.frames, hr.result⟩
  unfold close
  split
  · exact hr
  split
  · exact hr
  · exact putWord_fit hbetween _
  · exact ⟨hr.frames, hr.result⟩

omit hr in
/-- a fault is fit, and so are containers around it -/
theorem leaves_isFit_faulted {frames : List Frame} (hframes : ∀ frame ∈ frames, frame.IsFit) {d : Document}
    (hd : d.leaves isFit = true) : (faulted frames d).leaves isFit = true := by
  induction frames generalizing d with
  | nil => exact hd
  | cons frame outer ih =>
    obtain ⟨hdone, houter⟩ := List.forall_mem_cons.1 hframes
    cases frame with
    | list done =>
      have hitems : (Document.list (d :: done).reverse).leaves isFit = true := by
        simpa [Frame.IsFit, hd] using hdone
      exact ih houter hitems
    | record done =>
      have hfields : (Document.record (("", d) :: done).reverse).leaves isFit = true := by
        simpa [Frame.IsFit, hd] using hdone
      exact ih houter hfields
    | field done name =>
      have hfields : (Document.record (field name d :: done).reverse).leaves isFit = true := by
        simpa [Frame.IsFit, leaves_isFit_field name hd] using hdone
      exact ih houter hfields

end Reader

/-- **A text gives a fit document**, be it complete or not, and however decimals are rounded. -/
theorem read_fit (text : String) (rounding : Decimal → Magnitude) :
    (read text rounding).document.leaves isFit = true := by
  have hstart : Reader.Fit { rounding := rounding } := ⟨by simp, by simp⟩
  have hend := Reader.close_fit (Reader.foldl_step_fit hstart text.toList)
  simp only [read]
  split
  · next d _ hresult => exact hend.result d hresult
  · exact Reader.leaves_isFit_faulted hend.frames rfl

end AccessibleWalk.Json
