/-
Decoding records. Two laws hold of every record, whatever its fields are.

- `record_written`: if all fields are written in their order, each under its name, then reading makes the updates of
  the fields one after the other.
- `record_keeps`: what every field keeps, and the starting value has, the record has that is read.

The second law is the same for records and for lists that stand for them, and says nothing of documents that are
refused.
-/
import Mathlib.Data.List.Nodup
import AccessibleWalk.Document.Decode
import AccessibleWalk.Document.Encode
import AccessibleWalk.Proofs.Document.Leaves

namespace AccessibleWalk.Decode

variable {σ α : Type} {dialect : Dialect}

@[simp] theorem flag_flag (b : Bool) : flag dialect (.flag b) = .ok b := rfl

@[simp] theorem number_real (x : Binary64) : number dialect (.real x) = .ok x := rfl

@[simp] theorem text_text (s : String) : text dialect (.text s) = .ok s := rfl

/-- whatever is not null is a value -/
theorem optional_of_ne_null (decode : Decoder α) {d : Document} (h : d ≠ .null) :
    optional decode dialect d = (decode dialect d).map some := by
  cases d with
  | null => exact absurd rfl h
  | _ => rfl

/-- **What is there is read back, and null stands for what is not.** -/
theorem optional_encode {decode : Decoder α} {encode : α → Document} {v : Option α}
    (hread : ∀ w ∈ v, decode dialect (encode w) = .ok w) (hvalue : ∀ w ∈ v, encode w ≠ .null) :
    optional decode dialect (Encode.optional encode v) = .ok v := by
  cases v with
  | none => rfl
  | some w =>
    rw [Encode.optional, optional_of_ne_null _ (hvalue w rfl), hread w rfl]
    rfl

/-! ## Reading what was written -/

/-- a field, the document that is written for it, and the update that is read from the document -/
structure Written (σ : Type) (dialect : Dialect) where
  field : Field σ
  document : Document
  update : σ → σ
  reads : field.decode dialect document = .ok update
  isValue : ∀ d, document ≠ .misnamed d

/-- a field that sets a value which its document holds -/
def Written.of (name : String) (decode : Decoder α) (update : α → σ → σ) (d : Document) (v : α)
    (h : decode dialect d = .ok v) (hd : ∀ inside, d ≠ .misnamed inside) : Written σ dialect where
  field := .of name decode update
  document := d
  update := update v
  reads := by simp [Field.of, h, Except.map]
  isValue := hd

/-- makes the updates of fields in their order -/
def Written.apply (ws : List (Written σ dialect)) (r : σ) : σ := ws.foldl (fun r w => w.update r) r

theorem find?_name {fields : List (Field σ)} (hnames : (fields.map (·.name)).Nodup) {f : Field σ} (hf : f ∈ fields) :
    (fields.find? fun g => g.name == f.name) = some f := by
  cases hfind : fields.find? fun g => g.name == f.name with
  | none => exact absurd hf (fun hf => by simpa using List.find?_eq_none.1 hfind f hf)
  | some g =>
    have hname : g.name = f.name := by simpa using List.find?_some hfind
    rw [List.inj_on_of_nodup_map hnames (List.mem_of_find?_eq_some hfind) hf hname]

theorem named_cons {fields : List (Field σ)} {name : String} {d : Document} {f : Field σ}
    (hd : ∀ inside, d ≠ .misnamed inside) (hf : (fields.find? fun g => g.name == name) = some f)
    {rest : List (String × Document)} {seen : List String} {r : σ} :
    named fields dialect ((name, d) :: rest) seen r =
      if seen.contains name then .error .misfit
      else f.decode dialect d >>= fun update => named fields dialect rest (name :: seen) (update r) := by
  cases d with
  | misnamed inside => exact absurd rfl (hd inside)
  | _ => simp only [named, hf]

/-- fields written under names that did not come before are read one after the other -/
theorem named_written {fields : List (Field σ)} (hnames : (fields.map (·.name)).Nodup) (ws : List (Written σ dialect))
    (hfields : ∀ w ∈ ws, w.field ∈ fields) (hnodup : (ws.map (·.field.name)).Nodup) (seen : List String)
    (hseen : ∀ w ∈ ws, w.field.name ∉ seen) (r : σ) :
    named fields dialect (ws.map fun w => (w.field.name, w.document)) seen r = .ok (Written.apply ws r) := by
  induction ws generalizing seen r with
  | nil => rfl
  | cons w ws ih =>
    obtain ⟨hw, hws⟩ := List.forall_mem_cons.1 hfields
    obtain ⟨hhead, htail⟩ := List.nodup_cons.1 hnodup
    obtain ⟨hnew, hrest⟩ := List.forall_mem_cons.1 hseen
    have hlater : ∀ v ∈ ws, v.field.name ∉ w.field.name :: seen := by
      intro v hv hmem
      rcases List.mem_cons.1 hmem with hsame | hmem
      · exact hhead (List.mem_map.2 ⟨v, hv, hsame⟩)
      · exact hrest v hv hmem
    have hread := ih hws htail (w.field.name :: seen) hlater (w.update r)
    rw [List.map_cons, named_cons w.isValue (find?_name hnames hw), if_neg (by simpa using hnew), w.reads]
    exact hread

/-- **A record that is written field by field is read field by field.** -/
theorem record_written (fields : List (Field σ)) (ws : List (Written σ dialect)) (hws : ws.map (·.field) = fields)
    (hnames : (fields.map (·.name)).Nodup) (mayEndEarly : Bool) (start : σ) :
    record fields mayEndEarly start dialect (.record (ws.map fun w => (w.field.name, w.document))) =
      .ok (Written.apply ws start) := by
  have hnodup : (ws.map (·.field.name)).Nodup := by rwa [← hws, List.map_map] at hnames
  refine named_written hnames ws (fun w hw => ?_) hnodup [] (by simp) start
  rw [← hws]
  exact List.mem_map_of_mem hw

/-! ## What reading keeps -/

theorem map_eq_ok {β : Type} {f : α → β} {x : Except DecodeError α} {y : β} (h : x.map f = .ok y) :
    ∃ v, x = .ok v ∧ f v = y := by
  cases x with
  | error e => cases h
  | ok v => exact ⟨v, rfl, Except.ok.inj h⟩

theorem bind_eq_ok {β : Type} {f : α → Except DecodeError β} {x : Except DecodeError α} {y : β} (h : x >>= f = .ok y) :
    ∃ v, x = .ok v ∧ f v = .ok y := by
  cases x with
  | error e => cases h
  | ok v => exact ⟨v, rfl, h⟩

/-- everything decoded from a fit document satisfies this -/
def Gives (decode : Decoder α) (good : α → Prop) : Prop :=
  ∀ ⦃dialect : Dialect⦄ ⦃d : Document⦄ ⦃v : α⦄, d.leaves Document.isFit = true → decode dialect d = .ok v → good v

/-- a field read from a fit document keeps this -/
def Field.Keeps (f : Field σ) (good : σ → Prop) : Prop := Gives f.decode fun update => ∀ r, good r → good (update r)

variable {good : σ → Prop}

theorem Field.of_keeps {name : String} {decode : Decoder α} {update : α → σ → σ} {fine : α → Prop}
    (hdecode : Gives decode fine) (hupdate : ∀ v r, fine v → good r → good (update v r)) :
    (Field.of name decode update).Keeps good := by
  intro dialect d u hd hu r hr
  obtain ⟨v, hv, rfl⟩ := map_eq_ok hu
  exact hupdate v r (hdecode hd hv) hr

/-- a field that is read keeps what it keeps, and one that is unknown changes nothing -/
theorem named_keeps {fields : List (Field σ)} (hfields : ∀ f ∈ fields, f.Keeps good) {given : List (String × Document)}
    (hgiven : ∀ field ∈ given, field.2.leaves Document.isFit = true) {seen : List String} {start r : σ}
    (hstart : good start) (h : named fields dialect given seen start = .ok r) : good r := by
  fun_induction named fields dialect given seen start with
  | case1 seen r' =>
    cases h
    exact hstart
  | case2 => cases h
  | case3 name d rest seen r' _ hsound _ ih =>
    rw [if_pos hsound] at h
    exact ih (List.forall_mem_cons.1 hgiven).2 hstart h
  | case4 name d rest seen r' _ hsound _ =>
    rw [if_neg hsound] at h
    cases h
  | case5 => cases h
  | case6 name d rest seen r' f hfind _ _ ih =>
    obtain ⟨hd, hrest⟩ := List.forall_mem_cons.1 hgiven
    obtain ⟨update, hupdate, hread⟩ := bind_eq_ok h
    have hkeeps : f.Keeps good := hfields f (List.mem_of_find?_eq_some hfind)
    exact ih update hrest (hkeeps hd hupdate r' hstart) hread

theorem positional_keeps {mayEndEarly : Bool} {fields : List (Field σ)} (hfields : ∀ f ∈ fields, f.Keeps good)
    {items : List Document} (hitems : ∀ d ∈ items, d.leaves Document.isFit = true) {start r : σ} (hstart : good start)
    (h : positional mayEndEarly dialect fields items start = .ok r) : good r := by
  fun_induction positional mayEndEarly dialect fields items start with
  | case1 r' | case2 _ _ r' _ | case4 _ _ r' _ =>
    cases h
    exact hstart
  | case6 f fields d rest r' ih =>
    obtain ⟨hf, hfields⟩ := List.forall_mem_cons.1 hfields
    obtain ⟨hd, hrest⟩ := List.forall_mem_cons.1 hitems
    obtain ⟨update, hupdate, hread⟩ := bind_eq_ok h
    exact ih update hfields hrest (hf hd hupdate r' hstart) hread
  | _ => cases h

/-- **What every field keeps, a record has**, be it read by names or by places. -/
theorem record_keeps {fields : List (Field σ)} (hfields : ∀ f ∈ fields, f.Keeps good) {mayEndEarly : Bool} {start : σ}
    (hstart : good start) : Gives (record fields mayEndEarly start) good := by
  intro dialect d r hd h
  cases d with
  | record given => exact named_keeps hfields (by simpa using hd) hstart h
  | list items => exact positional_keeps hfields (by simpa using hd) hstart h
  | _ => cases h

end AccessibleWalk.Decode
