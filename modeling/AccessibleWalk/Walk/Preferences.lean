/-
Walking preferences: a value for every field. Preferences agree when all their fields do; a cache key is the list of
what its fields contribute. The text of preferences lists the fields that differ from the defaults, and nothing else.
-/
import AccessibleWalk.Number.Layout
import AccessibleWalk.Walk.Field

namespace AccessibleWalk

/-- a walker's wishes -/
@[ext] structure WalkPreferences where
  get : (f : WalkField) → f.Value

namespace WalkPreferences

/-- the wishes of a walker who asks for nothing -/
def default : WalkPreferences := ⟨WalkField.default⟩

instance : Inhabited WalkPreferences := ⟨default⟩

/-- gives a field another value -/
def put (p : WalkPreferences) (f : WalkField) (v : f.Value) : WalkPreferences :=
  ⟨fun k => if h : f = k then h ▸ v else p.get k⟩

@[simp] theorem get_put_self (p : WalkPreferences) (f : WalkField) (v : f.Value) : (p.put f v).get f = v := by
  simp [put]

@[simp] theorem get_put_of_ne {f k : WalkField} (h : f ≠ k) (p : WalkPreferences) (v : f.Value) :
    (p.put f v).get k = p.get k := by
  simp [put, h]

/-- brings every field into normal form -/
def normalized (p : WalkPreferences) : WalkPreferences := ⟨fun f => f.normalize (p.get f)⟩

@[simp] theorem get_normalized (p : WalkPreferences) (f : WalkField) : p.normalized.get f = f.normalize (p.get f) := rfl

/-- agreement in every field -/
def same (p q : WalkPreferences) : Bool := WalkField.all.all fun f => f.same (p.get f) (q.get f)

theorem same_iff {p q : WalkPreferences} : p.same q = true ↔ ∀ f : WalkField, f.same (p.get f) (q.get f) = true := by
  simp [same, WalkField.mem_all]

/-- what a cache key is fed with: the numbers, announced by how many they are, and then the other fields -/
def hashed (p : WalkPreferences) : List Setting.Hashed :=
  .length WalkField.numbers.length ::
    (WalkField.numbers ++ WalkField.others).flatMap fun f => f.setting.hashed (p.get f)

/-! ## Text -/

/-- the fields in the order of the text -/
def textOrder : List WalkField :=
  [.speed, .reluctance, .boardCost, .stairsReluctance, .stairsTimeFactor, .safetyFactor, .minimalWidth,
    .lightRequired, .reluctedSurfaces, .tactilePavingRequired, .reluctedSmoothness, .maximalIncline,
    .ressautMax, .ressautMin, .bevEtat, .bevCtrastRequired, .reluctanceOnHighway, .accessibilityProfile]

/-- numbers in the text: a point is kept, numbers from 10^16 on and below 10^-4 have exponents -/
def layout : Layout :=
  { positional := fun e => decide (-4 ≤ e ∧ e < 16), keepsPoint := true, plusExponent := false, tie := .upper }

/-- the text of a value; a flag has none, as mentioning it says everything -/
def valueText : (k : Setting) → k.Value → Option String
  | .number, x => some (String.ofList (layout.write x))
  | .cost, i => some (toString i)
  | .flag, _ => none
  | .surfaces, l => some ("[" ++ ", ".intercalate (l.map Surface.label) ++ "]")
  | .smoothness, s => some ("'" ++ s.name ++ "'")
  | .bevEtat, b => some b.name
  | .profile, p => some p.name

/-- a field as it is mentioned in the text -/
def mention (f : WalkField) (v : f.Value) : String :=
  match valueText f.setting v with
  | some text => f.name ++ ": " ++ text
  | none => f.name

/-- the fields that differ from the defaults, as they are mentioned -/
def mentions (p : WalkPreferences) : List String :=
  (textOrder.filter fun f => !f.same (p.get f) f.default).map fun f => mention f (p.get f)

def text (p : WalkPreferences) : String :=
  "WalkPreferences\x7b" ++ ", ".intercalate p.mentions ++ "\x7d"

end WalkPreferences

end AccessibleWalk
