/-
The thirteen accessibility slots of a pedestrian edge. A slot has a name, a map key and a kind of content; everything
that depends on the payload alone is said once per kind.
-/
import AccessibleWalk.Category.Ground
import AccessibleWalk.Tag.Value

namespace AccessibleWalk

/-- the kinds of payload a slot can hold -/
inductive Content where
  | number | flag | surface | smoothness | highway | footway | bevEtat | incline
  deriving DecidableEq

/-- the payload type of a kind -/
abbrev Content.Value : Content → Type
  | .number => Binary64
  | .flag => Bool
  | .surface => Surface
  | .smoothness => Smoothness
  | .highway => Highway
  | .footway => Footway
  | .bevEtat => BevEtat
  | .incline => Incline

instance (c : Content) : TagValue c.Value :=
  match c with
  | .number => inferInstanceAs (TagValue Binary64)
  | .flag => inferInstanceAs (TagValue Bool)
  | .surface => inferInstanceAs (TagValue Surface)
  | .smoothness => inferInstanceAs (TagValue Smoothness)
  | .highway => inferInstanceAs (TagValue Highway)
  | .footway => inferInstanceAs (TagValue Footway)
  | .bevEtat => inferInstanceAs (TagValue BevEtat)
  | .incline => inferInstanceAs (TagValue Incline)

/-- the slots, in their fixed order -/
inductive Slot where
  | width | lit | surface | tactilePaving | smoothness | highway | footway | incline
  | ressautMax | ressautMin | bevEtat | bevCtrast | travHTrt
  deriving DecidableEq

namespace Slot

def all : List Slot :=
  [.width, .lit, .surface, .tactilePaving, .smoothness, .highway, .footway, .incline,
    .ressautMax, .ressautMin, .bevEtat, .bevCtrast, .travHTrt]

theorem mem_all (s : Slot) : s ∈ all := by cases s <;> decide

theorem all_nodup : all.Nodup := by decide

def name : Slot → String
  | .width => "width"
  | .lit => "lit"
  | .surface => "surface"
  | .tactilePaving => "tactile_paving"
  | .smoothness => "smoothness"
  | .highway => "highway"
  | .footway => "footway"
  | .incline => "incline"
  | .ressautMax => "ressaut_max"
  | .ressautMin => "ressaut_min"
  | .bevEtat => "bev_etat"
  | .bevCtrast => "bev_ctrast"
  | .travHTrt => "trav_h_trt"

/-- the slots of the survey namespace, whose map key carries its name in front -/
def isSurveyed : Slot → Bool
  | .ressautMax | .ressautMin | .bevEtat | .bevCtrast | .travHTrt => true
  | _ => false

/-- the key under which a slot is found in map data -/
def key (s : Slot) : String := if s.isSurveyed then "wgt:" ++ s.name else s.name

/-- the slot with exactly this name or key -/
def ofText (text : String) : Except TagError Slot :=
  match all.find? fun s => s.name == text || s.key == text with
  | some s => .ok s
  | none => .error (.unknownProperty text)

@[reducible] def content : Slot → Content
  | .width | .ressautMax | .ressautMin | .travHTrt => .number
  | .lit | .tactilePaving | .bevCtrast => .flag
  | .surface => .surface
  | .smoothness => .smoothness
  | .highway => .highway
  | .footway => .footway
  | .bevEtat => .bevEtat
  | .incline => .incline

/-- what a slot holds -/
abbrev Payload (s : Slot) : Type := s.content.Value

def shape (s : Slot) : Shape := TagValue.shape s.Payload

end Slot

/-- a payload together with its slot -/
structure Property where
  slot : Slot
  payload : slot.Payload

namespace Property

/-- reads a raw tag for a slot; nothing usable is no property -/
def parse (s : Slot) (raw : String) : Except TagError (Option Property) :=
  (Tag.parse raw : Except TagError (Option s.Payload)).map (·.map (Property.mk s))

/-- the tag text of the payload -/
def text (p : Property) : String := TagValue.text p.payload

end Property

end AccessibleWalk
