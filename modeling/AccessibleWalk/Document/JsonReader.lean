/-
Reading JSON text, one character at a time. The reader keeps the containers that are still open, what may come next,
and the word or quoted text it is in the middle of; each character moves it on. A mistake stops it for good, and the
document is then what was read so far with a fault at its end.

Numbers without point and exponent that fit 64 bits are integers, all others are reals; -0 is a real, because an
integer has no negative zero. A real beyond binary64 and a text with half a surrogate pair are well formed but unfit.

A real is a decimal, rounded. This reader takes the closest double. A reader that computes with doubles on the way,
digits first and then their power of ten, rounds twice and may end one place beside it: 51.248178375505404 is the
double with these digits, and such a reader takes it for the double 51.24817837550541. So the rounding is left open.
It is a function of the digits and of their power of ten, and nothing else about a text depends on it.
-/
import AccessibleWalk.Document.Basic
import AccessibleWalk.Number.Literal

namespace AccessibleWalk.Json

/-! ## Words -/

/-- a whole number: an integer if 64 bits hold it, else a real -/
def wholeNumber (rounding : Decimal → Magnitude) (negative : Bool) (n : Nat) : Document :=
  if negative then
    if 0 < n ∧ n ≤ 0x8000000000000000 then .integer (-n) else .real (.signed true (rounding ⟨n, 0⟩))
  else
    if n ≤ 0xFFFFFFFFFFFFFFFF then .integer n else .real (.signed false (rounding ⟨n, 0⟩))

/-- keeps a real that is finite -/
def fitReal : Document → Document
  | .real x => if x.isFinite then .real x else .unfit
  | other => other

/-- a number: no plus in front, no needless zero in front, digits on both sides of a point -/
def number? (rounding : Decimal → Magnitude) (word : List Char) : Option Document :=
  let negative := word.head? == some '-'
  let unsigned := if negative then word.tail else word
  let whole := unsigned.takeWhile Char.isDigit
  let tail := unsigned.dropWhile Char.isDigit
  let (fraction, power) := Decimal.splitFraction tail
  if whole.isEmpty || (whole.head? == some '0' && whole.length != 1) then none
  else if tail.isEmpty then some (fitReal (wholeNumber rounding negative (Nat.ofDigitChars 10 whole 0)))
  else if tail.head? == some '.' && fraction.isEmpty then none
  else
    (Decimal.exponent? power).map fun e =>
      let d : Decimal := ⟨Nat.ofDigitChars 10 (whole ++ fraction) 0, e - fraction.length⟩
      fitReal (.real (.signed negative (rounding d)))

/-- a value written as a bare word -/
def word? (rounding : Decimal → Magnitude) (word : List Char) : Option Document :=
  if word = ['t', 'r', 'u', 'e'] then some (.flag true)
  else if word = ['f', 'a', 'l', 's', 'e'] then some (.flag false)
  else if word = ['n', 'u', 'l', 'l'] then some .null
  else number? rounding word

def isWordChar (c : Char) : Bool := c.isAlphanum || c == '+' || c == '-' || c == '.'

/-! ## Quoted text -/

/-- where a quoted text stands: outside an escape, behind a backslash, or among the digits of a code -/
inductive Escape where
  | plain
  | backslash
  | code (digits value : Nat)

/-- a quoted text being read; the characters are in reverse, `high` is a first half that waits for its second -/
structure Quoted where
  seen : List Char := []
  fit : Bool := true
  high : Option Nat := none
  escape : Escape := .plain

namespace Quoted

/-- adds a character; a first half that was waiting stays alone -/
def push (q : Quoted) (c : Char) : Quoted :=
  { seen := c :: q.seen, fit := q.fit && q.high.isNone, high := none, escape := .plain }

/-- adds a UTF-16 unit -/
def pushUnit (q : Quoted) (n : Nat) : Quoted :=
  if 0xD800 ≤ n ∧ n < 0xDC00 then { q with fit := q.fit && q.high.isNone, high := some n, escape := .plain }
  else if 0xDC00 ≤ n ∧ n < 0xE000 then
    match q.high with
    | some h =>
      { q with seen := Char.ofNat (0x10000 + (h - 0xD800) * 0x400 + (n - 0xDC00)) :: q.seen,
               high := none, escape := .plain }
    | none => { q with fit := false, escape := .plain }
  else q.push (Char.ofNat n)

/-- the character that an escape letter stands for -/
def escaped? : Char → Option Char
  | '"' => some '"'
  | '\\' => some '\\'
  | '/' => some '/'
  | 'b' => some '\x08'
  | 'f' => some '\x0c'
  | 'n' => some '\n'
  | 'r' => some '\r'
  | 't' => some '\t'
  | _ => none

def hexValue? (c : Char) : Option Nat :=
  if c.isDigit then some (c.toNat - '0'.toNat)
  else if 'a' ≤ c ∧ c ≤ 'f' then some (c.toNat - 'a'.toNat + 10)
  else if 'A' ≤ c ∧ c ≤ 'F' then some (c.toNat - 'A'.toNat + 10)
  else none

/-- moves on by a character that does not close the text -/
def step? (q : Quoted) (c : Char) : Option Quoted :=
  match q.escape with
  | .plain =>
    if c = '\\' then some { q with escape := .backslash }
    else if c.toNat < 0x20 then none
    else some (q.push c)
  | .backslash =>
    if c = 'u' then some { q with escape := .code 0 0 }
    else (escaped? c).map q.push
  | .code digits value =>
    (hexValue? c).map fun h =>
      if digits < 3 then { q with escape := .code (digits + 1) (16 * value + h) }
      else q.pushUnit (16 * value + h)

/-- does a quotation mark close the text here? -/
def mayClose (q : Quoted) : Bool :=
  match q.escape with
  | .plain => true
  | _ => false

def isFit (q : Quoted) : Bool := q.fit && q.high.isNone

def text (q : Quoted) : String := String.ofList q.seen.reverse

end Quoted

/-! ## The reader -/

/-- an open container; what it holds so far is in reverse -/
inductive Frame where
  | list (done : List Document)
  | record (done : List (String × Document))
  | field (done : List (String × Document)) (name : Quoted)

/-- what may come next; after a container opens it may also close -/
inductive Expect where
  | value
  | firstItem
  | firstName
  | name
  | colon
  | more
  deriving DecidableEq

inductive Lexeme where
  | between
  | word (seen : List Char)
  | quoted (q : Quoted)

/-- a field; a value keeps in mind that its name is no text -/
def field (name : Quoted) (d : Document) : String × Document := (name.text, if name.isFit then d else .misnamed d)

structure Reader where
  rounding : Decimal → Magnitude
  frames : List Frame := []
  expect : Expect := .value
  lexeme : Lexeme := .between
  result : Option Document := none
  broken : Bool := false

namespace Reader

def stop (r : Reader) : Reader := { r with broken := true }

def wantsValue (r : Reader) : Bool := r.expect == .value || r.expect == .firstItem

/-- takes a complete value -/
def put (r : Reader) (d : Document) : Reader :=
  match r.frames with
  | [] => { r with result := some d, expect := .more }
  | .list done :: outer => { r with frames := .list (d :: done) :: outer, expect := .more }
  | .field done name :: outer => { r with frames := .record (field name d :: done) :: outer, expect := .more }
  | .record _ :: _ => r.stop

/-- takes a complete quoted text, as a name or as a value -/
def putQuoted (r : Reader) (q : Quoted) : Reader :=
  if r.wantsValue then r.put (if q.isFit then .text q.text else .unfit)
  else match r.frames with
    | .record done :: outer => { r with frames := .field done q :: outer, expect := .colon }
    | _ => r.stop

/-- takes a complete word -/
def putWord (r : Reader) (word : List Char) : Reader :=
  match word? r.rounding word with
  | some d => r.put d
  | none => r.stop

/-- moves on by a character outside words and quoted texts -/
def between (r : Reader) (c : Char) : Reader :=
  if c = ' ' ∨ c = '\n' ∨ c = '\t' ∨ c = '\r' then r
  else if c = '"' then
    if r.wantsValue || r.expect == .name || r.expect == .firstName then { r with lexeme := .quoted {} } else r.stop
  else if c = '[' then
    if r.wantsValue then { r with frames := .list [] :: r.frames, expect := .firstItem } else r.stop
  else if c = '\x7b' then
    if r.wantsValue then { r with frames := .record [] :: r.frames, expect := .firstName } else r.stop
  else if c = ']' then
    match r.frames with
    | .list done :: outer =>
      if r.expect == .firstItem || r.expect == .more then { r with frames := outer }.put (.list done.reverse)
      else r.stop
    | _ => r.stop
  else if c = '\x7d' then
    match r.frames with
    | .record done :: outer =>
      if r.expect == .firstName || r.expect == .more then { r with frames := outer }.put (.record done.reverse)
      else r.stop
    | _ => r.stop
  else if c = ',' then
    match r.frames, r.expect with
    | .list _ :: _, .more => { r with expect := .value }
    | .record _ :: _, .more => { r with expect := .name }
    | _, _ => r.stop
  else if c = ':' then
    if r.expect == .colon then { r with expect := .value } else r.stop
  else if isWordChar c && r.wantsValue then { r with lexeme := .word [c] }
  else r.stop

/-- moves on by one character -/
def step (r : Reader) (c : Char) : Reader :=
  if r.broken then r
  else match r.lexeme with
    | .between => r.between c
    | .word seen =>
      if isWordChar c then { r with lexeme := .word (c :: seen) }
      else
        let closed := { r with lexeme := .between }.putWord seen.reverse
        if closed.broken then closed else closed.between c
    | .quoted q =>
      if c = '"' && q.mayClose then { r with lexeme := .between }.putQuoted q
      else match q.step? c with
        | some q => { r with lexeme := .quoted q }
        | none => r.stop

/-- ends the text; an unfinished quoted text is a mistake -/
def close (r : Reader) : Reader :=
  if r.broken then r
  else match r.lexeme with
    | .between => r
    | .word seen => { r with lexeme := .between }.putWord seen.reverse
    | .quoted _ => r.stop

/-- a fault in the innermost open container, and that container in the next one -/
def faulted : List Frame → Document → Document
  | [], d => d
  | .list done :: outer, d => faulted outer (.list (d :: done).reverse)
  | .record done :: outer, d => faulted outer (.record (("", d) :: done).reverse)
  | .field done name :: outer, d => faulted outer (.record (field name d :: done).reverse)

end Reader

/-- what a text gave: a document, and whether the text ended with it -/
structure Reading where
  document : Document
  complete : Bool

/-- reads a text -/
def read (text : String) (rounding : Decimal → Magnitude := Decimal.magnitude) : Reading :=
  let r := (text.toList.foldl Reader.step { rounding := rounding }).close
  match r.frames, r.result with
  | [], some d => ⟨d, !r.broken⟩
  | frames, _ => ⟨Reader.faulted frames .fault, false⟩

/-- the document of a text that is JSON from end to end -/
def document? (text : String) : Option Document :=
  let reading := read text
  if reading.complete then some reading.document else none

end AccessibleWalk.Json
