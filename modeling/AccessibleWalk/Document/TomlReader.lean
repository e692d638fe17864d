/-
Reading TOML text: lines with a header, with a key and its value, or with a comment alone. Containers within values nest
eighty deep at most. The fields of every record of the resulting document are sorted by name.
-/
import AccessibleWalk.Document.Toml.Scalar
import AccessibleWalk.Document.Toml.Table

namespace AccessibleWalk.Toml

/-! ## Blanks -/

def skipSpaces (cs : List Char) : List Char := cs.dropWhile isSpace

/-- the rest behind a comment, which ends where its line does -/
def skipComment? (cs : List Char) : Option (List Char) :=
  match cs with
  | '#' :: inside =>
    let rest := inside.dropWhile fun c => !isControl c
    match rest with
    | [] | '\n' :: _ | '\r' :: '\n' :: _ => some rest
    | _ => none
  | _ => some cs

/-- the rest behind the end of a line, with spaces and a comment before it; the end of the text will do -/
def endLine? (cs : List Char) : Option (List Char) :=
  match skipComment? (skipSpaces cs) with
  | some [] => some []
  | some ('\n' :: rest) => some rest
  | some ('\r' :: '\n' :: rest) => some rest
  | _ => none

/-- the rest behind spaces, newlines and comments, taking at most so many lines -/
def skipLines? : Nat → List Char → Option (List Char)
  | 0, _ => none
  | lines + 1, cs =>
    match skipSpaces cs with
    | '#' :: _ | '\n' :: _ | '\r' :: _ =>
      match endLine? cs with
      | some rest => skipLines? lines rest
      | none => none
    | rest => some rest

def skipBlankLines? (cs : List Char) : Option (List Char) := skipLines? (cs.length + 1) cs

/-! ## Keys -/

def isBareKeyChar (c : Char) : Bool := c.isAlphanum || c == '_' || c == '-'

/-- one part of a key -/
def keyPart (cs : List Char) : Option (String × List Char) :=
  match cs with
  | '"' :: '"' :: '"' :: _ | '\'' :: '\'' :: '\'' :: _ => none
  | '"' :: _ | '\'' :: _ => quotedText cs
  | _ =>
    let part := cs.takeWhile isBareKeyChar
    if part.isEmpty then none else some (String.ofList part, cs.dropWhile isBareKeyChar)

/-- the parts of a key between points, at most so many -/
def keyParts : Nat → List Char → Option (List String × List Char)
  | 0, _ => none
  | parts + 1, cs => do
    let (part, rest) ← keyPart cs
    match skipSpaces rest with
    | '.' :: more =>
      let (others, rest) ← keyParts parts (skipSpaces more)
      some (part :: others, rest)
    | _ => some ([part], rest)

/-- a key as a path and its last part -/
def key (cs : List Char) : Option ((List String × String) × List Char) := do
  let (parts, rest) ← keyParts (cs.length + 1) cs
  let last ← parts.getLast?
  some ((parts.dropLast, last), rest)

/-! ## Values -/

/-- the items of a list up to its closing bracket, at most so many -/
def listItems (value : Scanner Document) : Nat → List Document → List Char → Option (List Document × List Char)
  | 0, _, _ => none
  | items + 1, done, cs => do
    match ← skipBlankLines? cs with
    | ']' :: rest => some (done.reverse, rest)
    | start =>
      let (d, rest) ← value start
      match ← skipBlankLines? rest with
      | ',' :: rest => listItems value items (d :: done) rest
      | ']' :: rest => some ((d :: done).reverse, rest)
      | _ => none

/-- a key with its value -/
def keyValue (value : Scanner Document) (entries : Entries) (cs : List Char) : Option (Entries × List Char) := do
  let ((path, last), rest) ← key cs
  match skipSpaces rest with
  | '=' :: rest =>
    let (d, rest) ← value (skipSpaces rest)
    let entries ← entries.define path last d
    some (entries, rest)
  | _ => none

/-- the keys of an inline table up to its closing bracket, at most so many -/
def inlineKeys (value : Scanner Document) : Nat → Entries → List Char → Option (Entries × List Char)
  | 0, _, _ => none
  | keys + 1, entries, cs => do
    let (entries, rest) ← keyValue value entries (skipSpaces cs)
    match skipSpaces rest with
    | ',' :: rest => inlineKeys value keys entries rest
    | '\x7d' :: rest => some (entries, rest)
    | _ => none

/-- a value with so many containers inside each other at most -/
def value : Nat → Scanner Document
  | 0, cs => scalar cs
  | depth + 1, cs =>
    match cs with
    | '[' :: rest => (listItems (value depth) (rest.length + 1) [] rest).map fun (items, rest) => (.list items, rest)
    | '\x7b' :: rest =>
      match skipSpaces rest with
      | '\x7d' :: rest => some (.record [], rest)
      | rest => (inlineKeys (value depth) (rest.length + 1) [] rest).map fun (entries, rest) => (entries.document, rest)
    | _ => scalar cs

/-- how deep containers may nest -/
def maximalDepth : Nat := 80

/-! ## Lines -/

/-- a text being read: its tables so far, and the path of the header above -/
structure Page where
  root : Entries := []
  current : List String := []

/-- a header in single or double brackets -/
def header (page : Page) (cs : List Char) : Option (Page × List Char) :=
  match cs with
  | '[' :: '[' :: rest => do
    let ((path, last), rest) ← key (skipSpaces rest)
    match skipSpaces rest with
    | ']' :: ']' :: rest => some (⟨← page.root.openListed path last, path ++ [last]⟩, rest)
    | _ => none
  | '[' :: rest => do
    let ((path, last), rest) ← key (skipSpaces rest)
    match skipSpaces rest with
    | ']' :: rest => some (⟨← page.root.openTable path last, path ++ [last]⟩, rest)
    | _ => none
  | _ => none

/-- a key with its value, in the table of the header above -/
def definition (page : Page) (cs : List Char) : Option (Page × List Char) := do
  let ((path, last), rest) ← key cs
  match skipSpaces rest with
  | '=' :: rest =>
    let (d, rest) ← value maximalDepth (skipSpaces rest)
    let root ← page.root.along (·.define path last d) page.current
    some ({ page with root := root }, rest)
  | _ => none

/-- the lines of a text, at most so many -/
def lines : Nat → Page → List Char → Option Page
  | 0, _, _ => none
  | count + 1, page, cs => do
    match ← skipBlankLines? cs with
    | [] => some page
    | start =>
      let (page, rest) ← if start.head? == some '[' then header page start else definition page start
      lines count page (← endLine? rest)

/-- a text without the mark that may stand in front of it -/
def withoutMark : List Char → List Char
  | '\ufeff' :: rest => rest
  | cs => cs

/-- the document of a text that is TOML from end to end -/
def document? (text : String) : Option Document :=
  let cs := withoutMark text.toList
  (lines (cs.length + 1) {} cs).map fun page => page.root.document.sorted

end AccessibleWalk.Toml
