/-
Documents: the trees that configurations and records are read from, whatever notation they were written in.

Three nodes are not values. `unfit` stands for something well formed that no field can use, such as a number beyond
binary64. `misnamed` holds what stands under a name that is no text, so that a record cannot be read past it. `fault`
stands where a text breaks off: a reader that meets an error keeps what it has read so far and ends it with `fault`, so
that whoever walks through the document meets the first mistake first, be it one of form or content.
-/
import AccessibleWalk.Number.Binary64

namespace AccessibleWalk

/-- a tree of values -/
inductive Document where
  | null
  | flag (b : Bool)
  | integer (i : Int)
  | real (x : Binary64)
  | text (s : String)
  | list (items : List Document)
  | record (fields : List (String × Document))
  | unfit
  | misnamed (value : Document)
  | fault

namespace Document

/-! ## Soundness -/

mutual

/-- no fault anywhere inside -/
def isSound : Document → Bool
  | .list items => areSound items
  | .record fields => haveSoundValues fields
  | .misnamed d => isSound d
  | .fault => false
  | _ => true

def areSound : List Document → Bool
  | [] => true
  | d :: rest => isSound d && areSound rest

def haveSoundValues : List (String × Document) → Bool
  | [] => true
  | (_, d) :: rest => isSound d && haveSoundValues rest

end

/-! ## Canonical field order -/

/-- puts a field into fields sorted by name, in place of one of the same name -/
def insertField (name : String) (value : Document) : List (String × Document) → List (String × Document)
  | [] => [(name, value)]
  | (other, old) :: rest =>
    if name = other then (name, value) :: rest
    else if name < other then (name, value) :: (other, old) :: rest
    else (other, old) :: insertField name value rest

mutual

/-- the document with the fields of every record sorted by name; of fields with one name the last stays -/
def sorted : Document → Document
  | .list items => .list (sortedItems items)
  | .record fields => .record ((sortedFields fields).foldl (fun done (name, d) => insertField name d done) [])
  | other => other

def sortedItems : List Document → List Document
  | [] => []
  | d :: rest => sorted d :: sortedItems rest

def sortedFields : List (String × Document) → List (String × Document)
  | [] => []
  | (name, d) :: rest => (name, sorted d) :: sortedFields rest

end

end Document

end AccessibleWalk
