/-
Reading comma-separated records, byte by byte. A record ends at a line feed or a carriage return, so that the two
together end one record and leave a blank line, and blank lines are no records. Quotes count only where a field
begins; inside them a doubled quote is a quote, and what follows the closing quote continues the field as it stands.

The first record names the columns. Every other record must have as many fields, and all fields must be UTF-8.
-/
import AccessibleWalk.Table.Row

namespace AccessibleWalk.Csv

abbrev Field : Type := List UInt8

abbrev Record : Type := List Field

/-! ## Records -/

/-- where the reader stands in a record -/
inductive Place where
  | recordStart
  | fieldStart
  | bare
  | quoted
  | quoteInQuotes
  deriving DecidableEq

/-- records, fields of the record begun and bytes of the field begun, all in reverse -/
structure Reader where
  place : Place := .recordStart
  records : List Record := []
  fields : List Field := []
  bytes : Field := []

namespace Reader

def comma : UInt8 := 0x2C

def quote : UInt8 := 0x22

def isLineEnd (b : UInt8) : Bool := b == 0x0A || b == 0x0D

def endField (r : Reader) : Reader :=
  { r with place := .fieldStart, fields := r.bytes.reverse :: r.fields, bytes := [] }

def endRecord (r : Reader) : Reader :=
  let r := r.endField
  { r with place := .recordStart, records := r.fields.reverse :: r.records, fields := [] }

def push (r : Reader) (place : Place) (b : UInt8) : Reader := { r with place := place, bytes := b :: r.bytes }

/-- a byte outside quotes -/
def outside (r : Reader) (b : UInt8) : Reader :=
  if b = comma then r.endField else if isLineEnd b then r.endRecord else r.push .bare b

def step (r : Reader) (b : UInt8) : Reader :=
  match r.place with
  | .recordStart =>
    if isLineEnd b then r else if b = quote then { r with place := .quoted } else r.outside b
  | .fieldStart => if b = quote then { r with place := .quoted } else r.outside b
  | .bare => r.outside b
  | .quoted => if b = quote then { r with place := .quoteInQuotes } else r.push .quoted b
  | .quoteInQuotes => if b = quote then r.push .quoted b else r.outside b

/-- ends the text, and the record begun with it -/
def close (r : Reader) : List Record :=
  match r.place with
  | .recordStart => r.records.reverse
  | _ => r.endRecord.records.reverse

end Reader

/-- bytes without the mark that may stand in front of them -/
def withoutMark : List UInt8 → List UInt8
  | 0xEF :: 0xBB :: 0xBF :: rest => rest
  | bytes => bytes

/-- the records of a text -/
def records (bytes : List UInt8) : List Record := ((withoutMark bytes).foldl Reader.step {}).close

/-! ## Rows -/

/-- the texts of a record, if all its fields are UTF-8 -/
def texts? (record : Record) : Option (List String) :=
  record.mapM fun field => String.fromUTF8? ⟨field.toArray⟩

/-- a record under column names -/
def row (header : Record) (record : Record) : Except RecordError Row :=
  if record.length ≠ header.length then .error .unequalLengths
  else
    match texts? record with
    | none => .error .notUtf8
    | some values =>
      match texts? header with
      | none => .error .unnamed
      | some names => .ok (Row.ofPairs (names.zip values))

/-- the rows of a text, each one read or unreadable -/
def rows (bytes : List UInt8) : List (Except RecordError Row) :=
  match records bytes with
  | [] => []
  | header :: rest => rest.map (row header)

end AccessibleWalk.Csv
