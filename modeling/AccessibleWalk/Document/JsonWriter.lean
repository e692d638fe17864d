/-
Writing documents as JSON text, without blanks. How a real is written is left open: there are many texts that read
back as one number, and this writer takes the shortest digits.
-/
import AccessibleWalk.Document.Basic
import AccessibleWalk.Number.Layout

namespace AccessibleWalk

/-- numbers in JSON text: a point is kept, and leading exponents from -5 to 15 are positional -/
def Layout.json : Layout :=
  { positional := fun e => decide (-5 ≤ e ∧ e ≤ 15), keepsPoint := true, plusExponent := true, tie := .even }

namespace Json

/-- a character inside quotes -/
def escaped (c : Char) : List Char :=
  if c = '"' then ['\\', '"']
  else if c = '\\' then ['\\', '\\']
  else if c = '\n' then ['\\', 'n']
  else if c = '\r' then ['\\', 'r']
  else if c = '\t' then ['\\', 't']
  else if c = '\x08' then ['\\', 'b']
  else if c = '\x0c' then ['\\', 'f']
  else if c.toNat < 0x20 then
    ['\\', 'u', '0', '0', Nat.digitChar (c.toNat / 16), Nat.digitChar (c.toNat % 16)]
  else [c]

def quoted (s : String) : List Char := '"' :: (s.toList.flatMap escaped ++ ['"'])

def integerText : Int → List Char
  | .ofNat n => Nat.toDigits 10 n
  | .negSucc n => '-' :: Nat.toDigits 10 (n + 1)

/-- a number; JSON has no text for those that are not finite -/
def realText (x : Binary64) : List Char :=
  if x.isFinite then Layout.json.write x else ['n', 'u', 'l', 'l']

mutual

/-- the characters of a document, given those of a real -/
def write (numeral : Binary64 → List Char) : Document → List Char
  | .null | .unfit | .misnamed _ | .fault => ['n', 'u', 'l', 'l']
  | .flag true => ['t', 'r', 'u', 'e']
  | .flag false => ['f', 'a', 'l', 's', 'e']
  | .integer i => integerText i
  | .real x => numeral x
  | .text s => quoted s
  | .list [] => ['[', ']']
  | .list (d :: rest) => '[' :: (write numeral d ++ writeItems numeral rest ++ [']'])
  | .record [] => ['\x7b', '\x7d']
  | .record ((name, d) :: rest) =>
    '\x7b' :: (quoted name ++ ':' :: write numeral d ++ writeFields numeral rest ++ ['\x7d'])

/-- the items after the first -/
def writeItems (numeral : Binary64 → List Char) : List Document → List Char
  | [] => []
  | d :: rest => ',' :: (write numeral d ++ writeItems numeral rest)

/-- the fields after the first -/
def writeFields (numeral : Binary64 → List Char) : List (String × Document) → List Char
  | [] => []
  | (name, d) :: rest => ',' :: (quoted name ++ ':' :: write numeral d ++ writeFields numeral rest)

end

/-- the JSON text of a document -/
def render (d : Document) (numeral : Binary64 → List Char := realText) : String := String.ofList (write numeral d)

end Json

end AccessibleWalk
