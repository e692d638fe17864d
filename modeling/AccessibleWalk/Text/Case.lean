/-
Small letters by the rules of Unicode. Every character has its own small letter, or two characters for the capital I
with a dot, except the capital sigma, which depends on its place: at the end of a word it is written as a final sigma.
The end of a word is where a cased character comes before and none comes after, characters that case ignores left
aside.
-/
import AccessibleWalk.Text.CaseTable

namespace AccessibleWalk.Text

def inRanges (ranges : List (Nat × Nat)) (c : Char) : Bool :=
  ranges.any fun (first, last) => first ≤ c.toNat && c.toNat ≤ last

/-- the small letter of a character, wherever it stands -/
def smallLetter (c : Char) : List Char :=
  if c = 'İ' then ['i', '\u0307']
  else
    match smallLetterRuns.find? fun (first, last, step, _) =>
        first ≤ c.toNat && c.toNat ≤ last && (c.toNat - first) % step == 0 with
    | some (_, _, _, distance) => [Char.ofNat (c.toNat + distance).toNat]
    | none => [c]

/-- is the first character that case does not ignore a cased one? -/
def meetsCased (cs : List Char) : Bool :=
  match cs.find? fun c => !inRanges caseIgnorableRanges c with
  | some c => inRanges casedRanges c
  | none => false

/-- small letters of a text; `before` is what came before it, in reverse -/
def lowerAfter (before : List Char) : List Char → List Char
  | [] => []
  | c :: rest =>
    let small :=
      if c = 'Σ' then (if meetsCased before && !meetsCased rest then ['ς'] else ['σ'])
      else smallLetter c
    small ++ lowerAfter (c :: before) rest

/-- a text in small letters -/
def lower (s : String) : String := String.ofList (lowerAfter [] s.toList)

end AccessibleWalk.Text
