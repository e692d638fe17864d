/-
Configurations survive being written and read. A configuration is written as a record with a field for everything, null
where nothing is set, and every value is read back from what is written for it: numbers from their shortest digits,
categories from their labels, profiles from their first spelling, lists of surfaces item by item.

- `Setting.decode_encode`: a value is read back from its document.
- `WalkConfig.decode_toDocument`, `RoutingConfig.decode_toDocument`: so is a configuration, in every notation.
- `Decoder.ofJson_render`: reading JSON text decodes the document that was written.
- `RoutingConfig.ofJson_json`: the round trip through JSON text, and what it holds of.
- `ScoringConfig.ofJson_render`: the same of the file that a run is configured by.
-/
import AccessibleWalk.Proofs.Document.JsonFit
import AccessibleWalk.Proofs.Document.JsonText
import AccessibleWalk.Proofs.Routing.Finite
import AccessibleWalk.Scoring.Config

namespace AccessibleWalk

/-! ## Single values -/

/-- a category whose labels are read as their values -/
class ReadableCategory (α : Type) [Category α] : Prop where
  ofText_label : ∀ c : α, Category.ofText (Category.label c) = .ok c

instance : ReadableCategory Surface := ⟨fun c => by cases c <;> rfl⟩

instance : ReadableCategory Smoothness := ⟨fun c => by cases c <;> rfl⟩

instance : ReadableCategory BevEtat := ⟨fun c => by cases c <;> rfl⟩

variable {dialect : Dialect}

namespace Decode

theorem category_label {α : Type} [Category α] [ReadableCategory α] (dialect : Dialect) (c : α) :
    category dialect (Encode.category c) = .ok c := by
  simp [category, Encode.category, ReadableCategory.ofText_label, Except.mapError]

/-- a list is read back item by item -/
theorem list_map {α : Type} {decode : Decoder α} {encode : α → Document} (h : ∀ v, decode dialect (encode v) = .ok v)
    (vs : List α) : list decode dialect (.list (vs.map encode)) = .ok vs := by
  show (vs.map encode).mapM (decode dialect) = .ok vs
  induction vs with
  | nil => rfl
  | cons v vs ih =>
    rw [List.map_cons, List.mapM_cons, h, ih]
    rfl

end Decode

namespace Setting

/-- **A value is read back from its document.** -/
theorem decode_encode (k : Setting) {v : k.Value} (hv : k.isSized v = true) : k.decode dialect (k.encode v) = .ok v := by
  cases k with
  | number => rfl
  | cost => exact if_pos (of_decide_eq_true hv)
  | flag => rfl
  | surfaces => exact Decode.list_map (Decode.category_label dialect) v
  | smoothness => exact Decode.category_label dialect v
  | bevEtat => exact Decode.category_label dialect v
  | profile =>
    cases v with
    | none => rfl
    | pam => rfl
    | ufr => rfl

/-- a value is written as something, and not under a name that is no text -/
theorem encode_ne (k : Setting) (v : k.Value) : k.encode v ≠ .null ∧ ∀ d, k.encode v ≠ .misnamed d := by
  cases k with
  | _ => exact ⟨Document.noConfusion, fun _ => Document.noConfusion⟩

/-- what is set is read back, and null stands for what is not -/
theorem decode_encode_optional (k : Setting) {v : Option k.Value} (hv : ∀ w ∈ v, k.isSized w = true) :
    Decode.optional k.decode dialect (Encode.optional k.encode v) = .ok v :=
  Decode.optional_encode (fun w hw => k.decode_encode (hv w hw)) fun w _ => (k.encode_ne w).1

/-- documents of values are plain -/
theorem isPlain_encode (k : Setting) {v : k.Value} (hfinite : k.isFinite v = true) (hsized : k.isSized v = true) :
    (k.encode v).leaves Document.isPlain = true := by
  cases k with
  | number => exact hfinite
  | cost =>
    have hv : -0x8000000000000000 ≤ (v : Int) ∧ (v : Int) ≤ 0x7FFFFFFFFFFFFFFF := of_decide_eq_true hsized
    exact decide_eq_true ⟨hv.1, hv.2.trans (by decide)⟩
  | surfaces => simp [encode, Encode.category, Document.leaves, Document.isPlain, Document.isFit]
  | _ => rfl

end Setting

/-! ## Sections -/

open Decode (Written record_written)

namespace WalkConfig

/-- every field of a configuration with what is written for it -/
def written (c : WalkConfig) (hc : c.Sized) : List (Written WalkConfig dialect) :=
  WalkField.all.map fun f =>
    .of f.name (Decode.optional f.setting.decode) (fun v c => c.put f v) (Encode.optional f.setting.encode (c.get f))
      (c.get f) (f.setting.decode_encode_optional (hc f)) (by
        cases h : c.get f with
        | none => exact fun _ => Document.noConfusion
        | some v => exact (f.setting.encode_ne v).2)

/-- a field has its value once it has been put, or if it had it before -/
theorem get_foldl_put (c : WalkConfig) (fs : List WalkField) {start : WalkConfig} {f : WalkField}
    (hf : start.get f = c.get f ∨ f ∈ fs) : (fs.foldl (fun r k => r.put k (c.get k)) start).get f = c.get f := by
  induction fs generalizing start with
  | nil => simpa using hf
  | cons k fs ih =>
    refine ih ?_
    by_cases hk : k = f
    · subst hk
      exact .inl (get_put_self start k (c.get k))
    · rw [get_put_of_ne hk]
      exact hf.imp_right fun hmem => (List.mem_cons.1 hmem).resolve_left (Ne.symm hk)

/-- **Walking preferences are read back**, the fields that are not set included. -/
theorem decode_toDocument {c : WalkConfig} (hc : c.Sized) : decode dialect c.toDocument = .ok c := by
  let ws : List (Written WalkConfig dialect) := c.written hc
  have happly : Written.apply ws empty = c := by
    ext1
    funext f
    have hfold : Written.apply ws empty = WalkField.all.foldl (fun r k => r.put k (c.get k)) empty := rfl
    rw [hfold, get_foldl_put c WalkField.all (.inr (WalkField.mem_all f))]
  have hread := record_written (WalkField.all.map field) ws rfl (by decide) false empty
  rw [happly] at hread
  exact hread

theorem isPlain_toDocument {c : WalkConfig}
    (hfinite : ∀ (f : WalkField) (v : f.Value), c.get f = some v → f.setting.isFinite v = true) (hc : c.Sized) :
    c.toDocument.leaves Document.isPlain = true := by
  simp only [toDocument, Document.leaves_record, List.all_map, List.all_eq_true, Function.comp_apply]
  intro f _
  cases h : c.get f with
  | none => rfl
  | some v => exact f.setting.isPlain_encode (hfinite f v h) (hc f v h)

end WalkConfig

/-- a number that is written as a field of a section -/
def Decode.Written.number {σ : Type} (name : String) (update : Binary64 → σ → σ) (x : Binary64) : Written σ dialect :=
  .of name Decode.number update (.real x) x rfl fun _ => Document.noConfusion

namespace BikePreferences

def written (p : BikePreferences) : List (Written BikePreferences dialect) :=
  [
    .number "reluctance" (fun x p => { p with reluctance := x }) p.reluctance,
    .number "walking_reluctance" (fun x p => { p with walkingReluctance := x }) p.walkingReluctance]

theorem decode_toDocument (p : BikePreferences) : decode dialect p.toDocument = .ok p :=
  record_written fields p.written rfl (by decide) true {}

end BikePreferences

namespace CarPreferences

def written (p : CarPreferences) : List (Written CarPreferences dialect) :=
  [.number "reluctance" (fun x p => { p with reluctance := x }) p.reluctance]

theorem decode_toDocument (p : CarPreferences) : decode dialect p.toDocument = .ok p :=
  record_written fields p.written rfl (by decide) true {}

end CarPreferences

namespace WheelchairPreferences

def written (p : WheelchairPreferences) : List (Written WheelchairPreferences dialect) :=
  [
    .number "inaccessible_street_reluctance" (fun x p => { p with inaccessibleStreetReluctance := x })
      p.inaccessibleStreetReluctance,
    .number "stairs_reluctance" (fun x p => { p with stairsReluctance := x }) p.stairsReluctance,
    .number "max_slope" (fun x p => { p with maxSlope := x }) p.maxSlope,
    .number "slope_exceeded_reluctance" (fun x p => { p with slopeExceededReluctance := x }) p.slopeExceededReluctance]

theorem decode_toDocument (p : WheelchairPreferences) : decode dialect p.toDocument = .ok p :=
  record_written fields p.written rfl (by decide) true {}

end WheelchairPreferences

/-! ## Configurations -/

namespace RoutingConfig

variable {c : RoutingConfig}

def written (c : RoutingConfig) (hc : c.walk.Sized) : List (Written RoutingConfig dialect) :=
  [
    .of "walk" WalkConfig.decode (fun v c => { c with walk := v }) c.walk.toDocument c.walk
      (WalkConfig.decode_toDocument hc) fun _ => Document.noConfusion,
    .of "bike" BikePreferences.decode (fun v c => { c with bike := v }) c.bike.toDocument c.bike c.bike.decode_toDocument
      fun _ => Document.noConfusion,
    .of "car" CarPreferences.decode (fun v c => { c with car := v }) c.car.toDocument c.car c.car.decode_toDocument
      fun _ => Document.noConfusion,
    .of "wheelchair" WheelchairPreferences.decode (fun v c => { c with wheelchair := v }) c.wheelchair.toDocument
      c.wheelchair c.wheelchair.decode_toDocument fun _ => Document.noConfusion]

/-- **A configuration is read back from its document**, in every notation. -/
theorem decode_toDocument (hc : c.walk.Sized) : decode dialect c.toDocument = .ok c :=
  record_written fields (c.written hc) rfl (by decide) true {}

theorem isPlain_toDocument (hc : c.Storable) : c.toDocument.leaves Document.isPlain = true := by
  have hwalk := WalkConfig.isPlain_toDocument hc.walk hc.sized
  simp [toDocument, hwalk, BikePreferences.toDocument, CarPreferences.toDocument, WheelchairPreferences.toDocument,
    hc.bike, hc.car, hc.wheelchair]

end RoutingConfig

/-! ## JSON text -/

variable {rounding : Decimal → Magnitude} {numeral : Binary64 → List Char}

/-- reads a value from JSON text; mistakes of form and of content count in the order of the text -/
def Decoder.ofJson {α : Type} (decode : Decoder α) (text : String)
    (rounding : Decimal → Magnitude := Decimal.magnitude) : Except DecodeError α := do
  let reading := Json.read text rounding
  let value ← decode .json reading.document
  if reading.complete then .ok value else .error .misfit

/-- what is written is decoded, if its numbers are read back -/
theorem Decoder.ofJson_render {α : Type} (decode : Decoder α) {d : Document}
    (hd : d.leaves (Json.isKept rounding numeral) = true) :
    decode.ofJson (Json.render d numeral) rounding = decode .json d := by
  simp only [ofJson, Json.read_render hd, if_true]
  cases decode .json d with
  | error e => rfl
  | ok v => rfl

/-- what is decoded from a text is decoded from a fit document -/
theorem Decoder.ofJson_gives {α : Type} {decode : Decoder α} {good : α → Prop} (hdecode : Decode.Gives decode good)
    {text : String} {v : α} (h : decode.ofJson text rounding = .ok v) : good v := by
  obtain ⟨w, hw, hcomplete⟩ := Decode.bind_eq_ok h
  split at hcomplete
  · cases hcomplete
    exact hdecode (Json.read_fit text rounding) hw
  · cases hcomplete

namespace RoutingConfig

/-- a configuration in JSON -/
def ofJson (text : String) (rounding : Decimal → Magnitude := Decimal.magnitude) : Except DecodeError RoutingConfig :=
  decode.ofJson text rounding

/-- the JSON text of a configuration -/
def json (c : RoutingConfig) (numeral : Binary64 → List Char := Json.realText) : String :=
  Json.render c.toDocument numeral

/-- a configuration is read back from its text, if its numbers are -/
theorem read_json {c : RoutingConfig} (hc : c.Storable)
    (hkept : c.toDocument.leaves (Json.isKept rounding numeral) = true) : ofJson (c.json numeral) rounding = .ok c := by
  rw [ofJson, json, Decoder.ofJson_render decode hkept, decode_toDocument hc.sized]

/-- **Configurations survive being written and read.** What is read from the JSON text of a configuration is the
configuration, in every field of every section, and so it builds the same preferences. This holds of every
configuration that can be stored, and whatever JSON text gives can be stored. How reals are written and decimals are
rounded matters for the numbers only: whatever the writer and the reader, a configuration is read back if each of its
numbers is read back from its text, and if all finite numbers are, that is every configuration that can be stored. -/
theorem ofJson_json :
    (∀ c : RoutingConfig, c.Storable →
      ofJson c.json = .ok c ∧ (ofJson c.json).map preferences = .ok c.preferences) ∧
    (∀ (text : String) (c : RoutingConfig), ofJson text = .ok c → c.Storable ∧ ofJson c.json = .ok c) ∧
    ∀ (rounding : Decimal → Magnitude) (numeral : Binary64 → List Char),
      (∀ c : RoutingConfig, c.Storable → c.toDocument.leaves (Json.isKept rounding numeral) = true →
        ofJson (c.json numeral) rounding = .ok c ∧
          (ofJson (c.json numeral) rounding).map preferences = .ok c.preferences) ∧
      ∀ (text : String) (c : RoutingConfig), ofJson text rounding = .ok c → c.Storable := by
  have hread (c : RoutingConfig) (hc : c.Storable) : ofJson c.json = .ok c :=
    read_json hc (Json.leaves_isKept_realText (isPlain_toDocument hc))
  have hstorable (rounding : Decimal → Magnitude) (text : String) (c : RoutingConfig)
      (h : ofJson text rounding = .ok c) : c.Storable := Decoder.ofJson_gives decode_gives h
  refine ⟨?_, ?_, fun rounding numeral => ⟨?_, hstorable rounding⟩⟩
  · intro c hc
    rw [hread c hc]
    exact ⟨rfl, rfl⟩
  · intro text c h
    have hc := hstorable _ text c h
    exact ⟨hc, hread c hc⟩
  · intro c hc hkept
    rw [read_json hc hkept]
    exact ⟨rfl, rfl⟩

/-- a configuration of values that are easily lost: a negative zero, the least cost, surfaces that come twice and out of
order, numbers with long exponents, an empty list beside fields that are not set -/
def unusual : RoutingConfig where
  walk := ⟨fun
    | .speed => some (-0 : Binary64)
    | .reluctance => some (1.7976931348623157e308 : Binary64)
    | .boardCost => some (-0x8000000000000000 : Int)
    | .lightRequired => some false
    | .reluctedSurfaces => some [Surface.sand, .concreteLanes, .asphalt, .sand]
    | .reluctedSmoothness => some Smoothness.veryBad
    | .bevEtat => some BevEtat.no
    | .accessibilityProfile => some Profile.none
    | _ => none⟩
  bike := { reluctance := 5e-324, walkingReluctance := 1e21 }
  wheelchair := { stairsReluctance := -123456.789, maxSlope := -0 }

/-- a configuration in list form, with a cost, spellings and numbers that are written otherwise -/
def listForm : String :=
  "[[1e0,null,-7,2,3,0.5,0.0,true,[],false,\"bad\",null,1E-7,-0.0,null,\"no\",null,\"ufr\"],[3.50],[]]"

/-- the same text is read with a rounding in steps, and the configuration above survives it in another notation -/
theorem ofJson_json_unusual :
    (unusual.Storable ∧ ofJson unusual.json = .ok unusual ∧
      (ofJson unusual.json).map preferences = .ok unusual.preferences) ∧
    (∃ c : RoutingConfig, ofJson listForm = .ok c ∧ c.Storable ∧ ofJson c.json = .ok c) ∧
    (unusual.toDocument.leaves (Json.isKept Json.stepwise WalkPreferences.layout.write) = true ∧
      ofJson (unusual.json WalkPreferences.layout.write) Json.stepwise = .ok unusual) ∧
    ∃ c : RoutingConfig, ofJson listForm Json.stepwise = .ok c ∧ c.Storable := by
  have hunusual : unusual.Storable := by
    refine ⟨⟨fun f v hv => ?_, by decide +kernel, by decide +kernel, by decide +kernel⟩, fun f v hv => ?_⟩
    · cases f <;> cases hv <;> decide +kernel
    · cases f <;> cases hv <;> decide +kernel
  have hkept : unusual.toDocument.leaves (Json.isKept Json.stepwise WalkPreferences.layout.write) = true := by
    decide +kernel
  have hlist (rounding : Decimal → Magnitude) (h : (ofJson listForm rounding).isOk = true) :
      ∃ c, ofJson listForm rounding = .ok c := by
    cases hc : ofJson listForm rounding with
    | error e =>
      rw [hc] at h
      cases h
    | ok c => exact ⟨c, rfl⟩
  obtain ⟨c, hc⟩ := hlist Decimal.magnitude (by decide +kernel)
  obtain ⟨d, hd⟩ := hlist Json.stepwise (by decide +kernel)
  obtain ⟨hgeneral, hstorable⟩ := ofJson_json.2.2 Json.stepwise WalkPreferences.layout.write
  exact ⟨⟨hunusual, ofJson_json.1 unusual hunusual⟩, ⟨c, hc, ofJson_json.2.1 listForm c hc⟩,
    ⟨hkept, (hgeneral unusual hunusual hkept).1⟩, d, hd, hstorable listForm d hd⟩

end RoutingConfig

namespace ScoringConfig

variable {c : ScoringConfig}

def written (hc : c.routing.Storable) : List (Written ScoringConfig dialect) :=
  [
    .of "routing" RoutingConfig.decode (fun v c => { c with routing := v }) c.routing.toDocument c.routing
      (RoutingConfig.decode_toDocument hc.sized) fun _ => Document.noConfusion,
    .of "ignore_osm_parsing_errors" Decode.flag (fun v c => { c with ignoreTagErrors := v }) (.flag c.ignoreTagErrors)
      c.ignoreTagErrors rfl fun _ => Document.noConfusion,
    .of "walking_bike" Decode.flag (fun v c => { c with walkingBike := v }) (.flag c.walkingBike) c.walkingBike rfl
      fun _ => Document.noConfusion]

/-- **The configuration of a run survives as well**: the file that is written for it is read as it. -/
theorem ofJson_render (hc : c.routing.Storable) : ofJson (Json.render c.toDocument) = .ok c := by
  have hdecode : decode .json c.toDocument = .ok c := record_written fields (written hc) rfl (by decide) true {}
  have hplain : c.toDocument.leaves Document.isPlain = true := by
    simp [toDocument, RoutingConfig.isPlain_toDocument hc, Document.leaves, Document.isPlain, Document.isFit]
  exact (Decoder.ofJson_render decode (Json.leaves_isKept_realText hplain)).trans hdecode

end ScoringConfig

end AccessibleWalk
