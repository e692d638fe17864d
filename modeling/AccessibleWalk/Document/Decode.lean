/-
Taking values out of documents. A decoder walks through a document in its own order and stops at the first thing it
cannot use. Records are read field by field: unknown fields need only be well formed, a field that comes twice is an
error, and a list may stand for a record, its items taken in the order in which the fields are declared.

Notations differ in two small points, which a dialect settles: whether such a list may be longer than the record, and
what stands behind a word that is written as the one name of a record.
-/
import AccessibleWalk.Category.Basic
import AccessibleWalk.Document.Basic

namespace AccessibleWalk

/-- why a document does not hold a value: an unknown word for a category, or any other misfit -/
inductive DecodeError where
  | category (error : TagError)
  | misfit
  deriving DecidableEq

/-- the text of the error, if it has one -/
def DecodeError.message? : DecodeError → Option String
  | .category error => some error.message
  | .misfit => none

/-- what notations settle differently -/
structure Dialect where
  /-- may a list that stands for a record have items left over? -/
  takesSurplus : Bool
  /-- may this stand behind a word that is written as a name? -/
  isBody : Document → Bool

namespace Dialect

/-- nothing may be left over, and nothing stands behind a word -/
def json : Dialect where
  takesSurplus := false
  isBody
    | .null => true
    | _ => false

/-- items left over do not count, and an empty container stands behind a word -/
def toml : Dialect where
  takesSurplus := true
  isBody
    | .list [] | .record [] => true
    | _ => false

end Dialect

abbrev Decoder (α : Type) : Type := Dialect → Document → Except DecodeError α

namespace Decode

/-! ## Single values -/

def flag : Decoder Bool
  | _, .flag b => .ok b
  | _, _ => .error .misfit

/-- a number, written as an integer or not -/
def number : Decoder Binary64
  | _, .integer i => .ok (Binary64.ofInt i)
  | _, .real x => .ok x
  | _, _ => .error .misfit

/-- an integer of 64 bits with a sign -/
def integer : Decoder Int
  | _, .integer i => if -0x8000000000000000 ≤ i ∧ i ≤ 0x7FFFFFFFFFFFFFFF then .ok i else .error .misfit
  | _, _ => .error .misfit

def text : Decoder String
  | _, .text s => .ok s
  | _, _ => .error .misfit

/-- a value of a category, by label or name -/
def category {α : Type} [Category α] : Decoder α
  | _, .text s => (Category.ofText s).mapError .category
  | _, _ => .error .misfit

/-- what a word of a list stands for -/
def meaning {α : Type} (words : List (String × α)) (word : String) : Except DecodeError α :=
  match words.find? fun w => w.1 == word with
  | some w => .ok w.2
  | none => .error .misfit

/-- one of a few words, which may also be written as the one name of a record -/
def oneOf {α : Type} (words : List (String × α)) : Decoder α
  | _, .text word => meaning words word
  | dialect, .record [(word, body)] => if dialect.isBody body then meaning words word else .error .misfit
  | _, _ => .error .misfit

/-- a value or null -/
def optional {α : Type} (decode : Decoder α) : Decoder (Option α)
  | _, .null => .ok none
  | dialect, d => (decode dialect d).map some

def list {α : Type} (decode : Decoder α) : Decoder (List α)
  | dialect, .list items => items.mapM (decode dialect)
  | _, _ => .error .misfit

/-! ## Records -/

/-- how one field of a record changes the record -/
structure Field (σ : Type) where
  name : String
  decode : Decoder (σ → σ)

/-- a field from a decoder and an update -/
def Field.of {σ α : Type} (name : String) (decode : Decoder α) (update : α → σ → σ) : Field σ :=
  { name := name, decode := fun dialect d => (decode dialect d).map update }

variable {σ : Type}

/-- reads the named fields in the order of the document; `seen` are the names that came before -/
def named (fields : List (Field σ)) (dialect : Dialect) :
    List (String × Document) → List String → σ → Except DecodeError σ
  | [], _, r => .ok r
  | (name, d) :: rest, seen, r =>
    match d, fields.find? fun f => f.name == name with
    | .misnamed _, _ => .error .misfit
    | _, none => if d.isSound then named fields dialect rest seen r else .error .misfit
    | _, some f =>
      if seen.contains name then .error .misfit
      else do
        let update ← f.decode dialect d
        named fields dialect rest (name :: seen) (update r)

/-- reads items as fields in their declared order; whether a list may end early is up to the record -/
def positional (mayEndEarly : Bool) (dialect : Dialect) :
    List (Field σ) → List Document → σ → Except DecodeError σ
  | [], [], r => .ok r
  | [], _ :: _, r => if dialect.takesSurplus then .ok r else .error .misfit
  | _ :: _, [], r => if mayEndEarly then .ok r else .error .misfit
  | f :: fields, d :: rest, r => do
    let update ← f.decode dialect d
    positional mayEndEarly dialect fields rest (update r)

/-- reads a record over a starting value -/
def record (fields : List (Field σ)) (mayEndEarly : Bool) (start : σ) : Decoder σ
  | dialect, .record given => named fields dialect given [] start
  | dialect, .list items => positional mayEndEarly dialect fields items start
  | _, _ => .error .misfit

end Decode

end AccessibleWalk
