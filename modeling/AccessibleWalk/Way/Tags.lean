/-
The tags of a way. Keys are found whatever their case, blanks around keys and values do not count, and a blank value
is no tag. The tag that was put in last is the one that is found.
-/
import AccessibleWalk.Tag.Value
import AccessibleWalk.Text.Case
import AccessibleWalk.Text.Dictionary

namespace AccessibleWalk

/-- tags by key, keys being in small letters -/
structure WayTags where
  byKey : Dictionary

namespace WayTags

def empty : WayTags := ⟨.empty⟩

/-- puts a tag in, in place of one with the same key -/
def insert (tags : WayTags) (key value : String) : WayTags :=
  let value := Text.trim value
  if value.isEmpty then tags else ⟨tags.byKey.put (Text.lower (Text.trim key)) value⟩

theorem insert_of_blank {value : String} (h : (Text.trim value).isEmpty = true) (tags : WayTags) (key : String) :
    tags.insert key value = tags := by
  simp [insert, h]

/-- puts tags in, one after the other -/
def ofList (pairs : List (String × String)) : WayTags := pairs.foldl (fun tags p => tags.insert p.1 p.2) empty

/-- the value under a key in any case -/
def get? (tags : WayTags) (key : String) : Option String := tags.byKey.find? (Text.lower key)

def has (tags : WayTags) (key : String) : Bool := (tags.get? key).isSome

def size (tags : WayTags) : Nat := tags.byKey.size

def isEmpty (tags : WayTags) : Bool := tags.byKey.isEmpty

/-- does the tag say yes? -/
def isTrue (tags : WayTags) (key : String) : Bool := (tags.get? key).bind flagOf? == some true

/-- does the tag say no? -/
def isFalse (tags : WayTags) (key : String) : Bool := (tags.get? key).bind flagOf? == some false

/-- the same keys with the same values -/
def same (a b : WayTags) : Bool := a.byKey.same b.byKey

end WayTags

end AccessibleWalk
