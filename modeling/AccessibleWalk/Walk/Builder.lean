/-
Building preferences by overriding others. A builder has a basis; requests give fields raw values, and the build
brings every field into normal form. If the outcome agrees with the basis, the basis itself is handed back, so that
callers who share preferences keep sharing them.

There are two ways to hand a request over. `take` brings costs, shares and surfaces into their range at once, as
callers see it; `handle` leaves this to the build as well, which comes to the same.

Being the same is modelled by serial numbers: shared preferences carry one, and a build takes the number to use should
it have to make new ones. Configurations are partial: they override the fields they set.
-/
import AccessibleWalk.Walk.Preferences

namespace AccessibleWalk

/-- preferences that several holders may share; holders of one serial number hold the same thing -/
structure SharedPreferences where
  serial : Nat
  value : WalkPreferences

/-- the defaults that everybody shares -/
def SharedPreferences.default : SharedPreferences := ⟨0, WalkPreferences.default⟩

/-- some fields with values; the others are left as they are -/
@[ext] structure WalkConfig where
  get : (f : WalkField) → Option f.Value

namespace WalkConfig

def empty : WalkConfig := ⟨fun _ => none⟩

instance : Inhabited WalkConfig := ⟨empty⟩

@[simp] theorem get_empty (f : WalkField) : empty.get f = none := rfl

def put (c : WalkConfig) (f : WalkField) (v : Option f.Value) : WalkConfig :=
  ⟨fun k => if h : f = k then h ▸ v else c.get k⟩

@[simp] theorem get_put_self (c : WalkConfig) (f : WalkField) (v : Option f.Value) : (c.put f v).get f = v := by
  simp [put]

@[simp] theorem get_put_of_ne {f k : WalkField} (h : f ≠ k) (c : WalkConfig) (v : Option f.Value) :
    (c.put f v).get k = c.get k := by
  simp [put, h]

/-- equality of what is set: the same fields, with equal values -/
def equals (c d : WalkConfig) : Bool :=
  WalkField.all.all fun f =>
    match c.get f, d.get f with
    | some v, some w => f.setting.equals v w
    | none, none => true
    | _, _ => false

/-- the fields that either one sets, the second one winning -/
def override (c d : WalkConfig) : WalkConfig := ⟨fun f => (d.get f).or (c.get f)⟩

end WalkConfig

/-- one thing asked of a builder -/
inductive Request where
  | field (f : WalkField) (v : f.Value)
  | config (c : WalkConfig)

/-- what is kept of a value as soon as it is asked for: costs and shares are brought into their range, surfaces are
collected into a set. All other values are kept as they come. -/
def WalkField.kept : (f : WalkField) → f.Value → f.Value
  | .boardCost, i => Units.cost i
  | .safetyFactor, x => x.clamp 0 1
  | .reluctedSurfaces, l => Surface.all.filter l.contains
  | _, v => v

/-- a request with what is kept of its values -/
def Request.kept : Request → Request
  | .field f v => .field f (f.kept v)
  | .config c => .config ⟨fun f => (c.get f).map f.kept⟩

/-- a basis and the values that override it -/
structure WalkBuilder where
  basis : SharedPreferences
  values : WalkPreferences

namespace WalkBuilder

/-- a builder that changes nothing yet -/
def copyOf (basis : SharedPreferences) : WalkBuilder := ⟨basis, basis.value⟩

def start : WalkBuilder := copyOf SharedPreferences.default

/-- gives one field a value -/
def put (b : WalkBuilder) (f : WalkField) (v : f.Value) : WalkBuilder := { b with values := b.values.put f v }

/-- gives every field a value that the configuration sets -/
def apply (b : WalkBuilder) (c : WalkConfig) : WalkBuilder :=
  { b with values := ⟨fun f => (c.get f).getD (b.values.get f)⟩ }

@[simp] theorem get_apply (b : WalkBuilder) (c : WalkConfig) (f : WalkField) :
    (b.apply c).values.get f = (c.get f).getD (b.values.get f) := rfl

def handle (b : WalkBuilder) : Request → WalkBuilder
  | .field f v => b.put f v
  | .config c => b.apply c

/-- handles what is kept of a request -/
def take (b : WalkBuilder) (r : Request) : WalkBuilder := b.handle r.kept

/-- has a body do something with the builder, so that a chain of requests need not be broken -/
def run (b : WalkBuilder) (body : WalkBuilder → WalkBuilder) : WalkBuilder := body b

/-- the finished preferences: the basis if nothing changed, else new ones with this serial number -/
def build (b : WalkBuilder) (serial : Nat) : SharedPreferences :=
  let candidate := b.values.normalized
  if candidate.same b.basis.value then b.basis else ⟨serial, candidate⟩

end WalkBuilder

namespace WalkConfig

/-- the defaults overridden by a configuration -/
def build (c : WalkConfig) (serial : Nat) : SharedPreferences := (WalkBuilder.start.apply c).build serial

end WalkConfig

end AccessibleWalk
