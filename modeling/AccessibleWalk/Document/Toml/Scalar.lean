/-
The single values of TOML: quoted texts, numbers, flags and dates.

A scanner takes characters from the front of a text and gives what it found with the rest, or nothing where the text
does not have the form. A date or a time of day is a record with one field. An integer beyond 64 bits is well formed
but unfit for any field; one beyond 128 bits, like a real beyond binary64, is a fault wherever it stands.
-/
import AccessibleWalk.Document.Basic
import AccessibleWalk.Number.Literal
import AccessibleWalk.Text.Blank

namespace AccessibleWalk.Toml

/-- takes something from the front of a text -/
abbrev Scanner (α : Type) : Type := List Char → Option (α × List Char)

/-! ## Characters -/

def isSpace (c : Char) : Bool := c == ' ' || c == '\t'

/-- control characters other than the tab may stand nowhere -/
def isControl (c : Char) : Bool := (c.toNat < 0x20 && c != '\t') || c.toNat == 0x7F

def isHexDigit (c : Char) : Bool := c.isDigit || ('a' ≤ c && c ≤ 'f') || ('A' ≤ c && c ≤ 'F')

def digitValue (c : Char) : Nat :=
  if c.isDigit then c.toNat - '0'.toNat
  else if 'a' ≤ c then c.toNat - 'a'.toNat + 10
  else c.toNat - 'A'.toNat + 10

/-- the number that digits stand for -/
def ofDigits (base : Nat) (digits : List Char) : Nat := digits.foldl (fun n c => base * n + digitValue c) 0

/-! ## Quoted texts -/

/-- the character with a code given in hexadecimal digits -/
def unicode? (digits : List Char) : Option Char :=
  let n := ofDigits 16 digits
  if digits.all isHexDigit && decide n.isValidChar then some (Char.ofNat n) else none

/-- the character that an escape letter stands for -/
def escaped? : Char → Option Char
  | 'b' => some '\x08'
  | 't' => some '\t'
  | 'n' => some '\n'
  | 'f' => some '\x0c'
  | 'r' => some '\r'
  | '"' => some '"'
  | '\\' => some '\\'
  | _ => none

/-- replaces escapes by what they stand for -/
def unescape : List Char → Option (List Char)
  | [] => some []
  | '\\' :: 'u' :: a :: b :: c :: d :: rest => do
    let u ← unicode? [a, b, c, d]
    let more ← unescape rest
    some (u :: more)
  | '\\' :: 'U' :: a :: b :: c :: d :: e :: f :: g :: h :: rest => do
    let u ← unicode? [a, b, c, d, e, f, g, h]
    let more ← unescape rest
    some (u :: more)
  | '\\' :: c :: rest => do
    let u ← escaped? c
    let more ← unescape rest
    some (u :: more)
  | c :: rest => if c = '\\' then none else (unescape rest).map (c :: ·)

/-- does a line end here, spaces left aside? -/
def endsLine (cs : List Char) : Bool :=
  match cs.dropWhile isSpace with
  | '\n' :: _ | '\r' :: '\n' :: _ => true
  | _ => false

/-- takes away each backslash at the end of a line with all blanks and newlines behind it -/
def joinLines (skipping : Bool) : List Char → List Char
  | [] => []
  | c :: rest =>
    if skipping && (isSpace c || c == '\n' || c == '\r') then joinLines true rest
    else if c = '\\' then
      if endsLine rest then joinLines true rest
      else match rest with
        | [] => ['\\']
        | d :: rest => '\\' :: d :: joinLines false rest
    else c :: joinLines false rest

/-- the inside of a text in double quotes on one line -/
def insideBasic (seen : List Char) : Scanner (List Char)
  | '"' :: rest => some (seen.reverse, rest)
  | '\\' :: c :: rest => insideBasic (c :: '\\' :: seen) rest
  | c :: rest => insideBasic (c :: seen) rest
  | [] => none

/-- the inside of a text in single quotes on one line -/
def insideLiteral (seen : List Char) : Scanner (List Char)
  | '\'' :: rest => some (seen.reverse, rest)
  | c :: rest => insideLiteral (c :: seen) rest
  | [] => none

/-- the inside of a text in three double quotes; up to two quotes before the closing ones belong to the text -/
def insideMultiBasic (seen : List Char) : Scanner (List Char)
  | '"' :: '"' :: '"' :: '"' :: '"' :: rest => some (('"' :: '"' :: seen).reverse, rest)
  | '"' :: '"' :: '"' :: '"' :: rest => some (('"' :: seen).reverse, rest)
  | '"' :: '"' :: '"' :: rest => some (seen.reverse, rest)
  | '\\' :: c :: rest => insideMultiBasic (c :: '\\' :: seen) rest
  | c :: rest => insideMultiBasic (c :: seen) rest
  | [] => none

/-- the inside of a text in three single quotes -/
def insideMultiLiteral (seen : List Char) : Scanner (List Char)
  | '\'' :: '\'' :: '\'' :: '\'' :: '\'' :: rest => some (('\'' :: '\'' :: seen).reverse, rest)
  | '\'' :: '\'' :: '\'' :: '\'' :: rest => some (('\'' :: seen).reverse, rest)
  | '\'' :: '\'' :: '\'' :: rest => some (seen.reverse, rest)
  | c :: rest => insideMultiLiteral (c :: seen) rest
  | [] => none

/-- the newline right behind opening quotes is not part of the text -/
def dropFirstNewline : List Char → List Char
  | '\n' :: rest => rest
  | '\r' :: '\n' :: rest => rest
  | cs => cs

/-- no control characters but newlines -/
def areLines : List Char → Bool
  | [] => true
  | '\r' :: '\n' :: rest => areLines rest
  | c :: rest => (c == '\n' || !isControl c) && areLines rest

/-- a text between quotes of any kind -/
def quotedText : Scanner String
  | '"' :: '"' :: '"' :: rest => do
    let (inside, rest) ← insideMultiBasic [] (dropFirstNewline rest)
    let text ← unescape (joinLines false inside)
    if areLines inside then some (String.ofList text, rest) else none
  | '\'' :: '\'' :: '\'' :: rest => do
    let (inside, rest) ← insideMultiLiteral [] (dropFirstNewline rest)
    if areLines inside then some (String.ofList inside, rest) else none
  | '"' :: rest => do
    let (inside, rest) ← insideBasic [] rest
    let text ← unescape inside
    if inside.any isControl then none else some (String.ofList text, rest)
  | '\'' :: rest => do
    let (inside, rest) ← insideLiteral [] rest
    if inside.any isControl then none else some (String.ofList inside, rest)
  | _ => none

/-! ## Numbers -/

/-- digits without the underscores between them; an underscore needs a digit on both sides -/
def plainDigits? (isDigit : Char → Bool) (cs : List Char) : Option (List Char) :=
  let groups := Text.pieces '_' cs
  if groups.all fun g => !g.isEmpty && g.all isDigit then some groups.flatten else none

/-- an integer of 64 bits, with or without a sign; one of 128 bits fits no field, and larger ones cannot be read -/
def ofInteger (i : Int) : Document :=
  if -0x8000000000000000 ≤ i ∧ i ≤ 0xFFFFFFFFFFFFFFFF then .integer i
  else if -0x80000000000000000000000000000000 ≤ i ∧ i ≤ 0xFFFFFFFFFFFFFFFFFFFFFFFFFFFFFFFF then .unfit
  else .fault

/-- a whole number in base 16, 8 or 2 -/
def inBase? (base : Nat) (isDigit : Char → Bool) (cs : List Char) : Option Document :=
  (plainDigits? isDigit cs).map fun digits => ofInteger (ofDigits base digits)

/-- digits of a whole part, which has no needless zero in front -/
def wholePart? (cs : List Char) : Option (List Char) :=
  (plainDigits? Char.isDigit cs).filter fun digits => digits.head? != some '0' || digits.length == 1

/-- the exponent behind its mark -/
def power? (cs : List Char) : Option Int :=
  let (negative, digits) := Decimal.splitSign cs
  (plainDigits? Char.isDigit digits).map fun digits =>
    if negative then -(ofDigits 10 digits : Int) else (ofDigits 10 digits : Int)

/-- a number with a point or an exponent -/
def real (negative : Bool) (digits : List Char) (exponent : Int) : Document :=
  let x := Binary64.signed negative (Decimal.magnitude ⟨ofDigits 10 digits, exponent⟩)
  if x.isFinite then .real x else .fault

/-- a decimal number without its sign -/
def unsigned? (negative : Bool) (cs : List Char) : Option Document := do
  let isPart := fun c : Char => c.isDigit || c == '_'
  let isMark := fun c : Char => c == 'e' || c == 'E'
  let whole ← wholePart? (cs.takeWhile isPart)
  match cs.dropWhile isPart with
  | [] => some (ofInteger (if negative then -(ofDigits 10 whole : Int) else ofDigits 10 whole))
  | '.' :: tail =>
    let fraction ← plainDigits? Char.isDigit (tail.takeWhile isPart)
    let exponent ←
      match tail.dropWhile isPart with
      | [] => some 0
      | mark :: power => if isMark mark then power? power else none
    some (real negative (whole ++ fraction) (exponent - fraction.length))
  | mark :: power =>
    if isMark mark then (power? power).map (real negative whole) else none

/-- a number; only decimal ones have signs -/
def number? (cs : List Char) : Option Document :=
  match cs with
  | '0' :: 'x' :: digits => inBase? 16 isHexDigit digits
  | '0' :: 'o' :: digits => inBase? 8 (fun c => '0' ≤ c && c ≤ '7') digits
  | '0' :: 'b' :: digits => inBase? 2 (fun c => c == '0' || c == '1') digits
  | _ =>
    let (negative, rest) := Decimal.splitSign cs
    if rest = ['i', 'n', 'f'] then some (.real (.signed negative Magnitude.infinity))
    else if rest = ['n', 'a', 'n'] then some (.real .nan)
    else unsigned? negative rest

/-! ## Dates -/

/-- a number of exactly so many digits, within bounds -/
def digitsWithin? (count low high : Nat) (cs : List Char) : Option Nat :=
  let n := ofDigits 10 cs
  if cs.length == count && cs.all Char.isDigit && low ≤ n && n ≤ high then some n else none

def daysInMonth (year month : Nat) : Nat :=
  if month = 2 then
    if year % 4 = 0 ∧ (year % 100 ≠ 0 ∨ year % 400 = 0) then 29 else 28
  else if month = 4 ∨ month = 6 ∨ month = 9 ∨ month = 11 then 30
  else 31

def isDate (cs : List Char) : Bool :=
  match Text.pieces '-' cs with
  | [y, m, d] =>
    match digitsWithin? 4 0 9999 y, digitsWithin? 2 1 12 m with
    | some year, some month => (digitsWithin? 2 1 (daysInMonth year month) d).isSome
    | _, _ => false
  | _ => false

/-- hours, minutes, seconds and a fraction of a second -/
def isTime (cs : List Char) : Bool :=
  match Text.pieces ':' cs with
  | [h, m, s] =>
    let fraction := s.dropWhile Char.isDigit
    (digitsWithin? 2 0 23 h).isSome && (digitsWithin? 2 0 59 m).isSome &&
      (digitsWithin? 2 0 60 (s.takeWhile Char.isDigit)).isSome &&
      (fraction.isEmpty || (fraction.head? == some '.' && fraction.length != 1 && fraction.tail.all Char.isDigit))
  | _ => false

/-- the distance to universal time, without its sign -/
def isOffset (cs : List Char) : Bool :=
  match Text.pieces ':' cs with
  | [h, m] => (digitsWithin? 2 0 23 h).isSome && (digitsWithin? 2 0 59 m).isSome
  | _ => false

/-- a time of day with an offset or without -/
def isOffsetTime (cs : List Char) : Bool :=
  let isZone := fun c : Char => c == 'Z' || c == 'z' || c == '+' || c == '-'
  let time := cs.takeWhile fun c => !isZone c
  isTime time &&
    match cs.dropWhile fun c => !isZone c with
    | [] => true
    | sign :: offset => if sign == '+' || sign == '-' then isOffset offset else offset.isEmpty

/-- what stands for a date or a time: a record that no field of a configuration is in -/
def moment : Document := .record [("moment", .unfit)]

/-- a date, a time of day, or a date and a time -/
def isMoment (cs : List Char) : Bool :=
  let date := cs.take 10
  isTime cs || isDate cs ||
    (isDate date &&
      match cs.drop 10 with
      | separator :: time =>
        (separator == 'T' || separator == 't' || separator == ' ') && isOffsetTime time
      | [] => false)

/-! ## Words -/

def isWordChar (c : Char) : Bool :=
  c.isAlphanum || c == '_' || c == '+' || c == '-' || c == '.' || c == ':'

/-- a value written as a bare word -/
def word? (word : List Char) : Option Document :=
  if word = ['t', 'r', 'u', 'e'] then some (.flag true)
  else if word = ['f', 'a', 'l', 's', 'e'] then some (.flag false)
  else if isMoment word then some moment
  else number? word

/-- a bare word; a time may follow its date behind one space -/
def bareValue (cs : List Char) : Option (Document × List Char) :=
  let word := cs.takeWhile isWordChar
  let rest := cs.dropWhile isWordChar
  match rest with
  | ' ' :: d :: more =>
    if isDate word && d.isDigit then
      let time := (d :: more).takeWhile isWordChar
      if isMoment (word ++ ' ' :: time) then some (moment, (d :: more).dropWhile isWordChar) else none
    else (word? word).map (·, rest)
  | _ => (word? word).map (·, rest)

/-- a value that holds no other values -/
def scalar (cs : List Char) : Option (Document × List Char) :=
  match cs with
  | '"' :: _ | '\'' :: _ => (quotedText cs).map fun (text, rest) => (.text text, rest)
  | _ => bareValue cs

end AccessibleWalk.Toml
