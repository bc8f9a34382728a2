import PictureIndex.Text.CaseTable
/-!
# Lower case

Full lower-casing of a text.  Each character has a lower-case form of its own, which is one
character except for the capital I with a dot above; only the capital sigma looks at its
neighbours.  It becomes a final sigma at the end of a word, that is, after a letter with case
and not before one, where ignorable characters (marks, apostrophes, full stops, ...) in between
do not count.
-/

namespace PictureIndex.Text

/-- The small form of a code point of the run. -/
def LowerRun.lower? (r : LowerRun) (n : Nat) : Option Nat :=
  if r.first ≤ n && n ≤ r.last && (n - r.first) % r.stride = 0 then
    some ((n : Int) + r.distance).toNat
  else none

/-- The lower-case form of a character that does not depend on its neighbours. -/
def lowerChar (c : Char) : List Char :=
  if c = '\u0130' then ['i', '\u0307']
  else match lowerRuns.findSome? (·.lower? c.toNat) with
    | some n => [Char.ofNat n]
    | none => [c]

/-- A letter with case, not ignorable. -/
def isCased (c : Char) : Bool := casedRanges.any (·.holds c.toNat)

/-- A character that the search for a neighbouring letter passes over. -/
def isIgnorable (c : Char) : Bool := ignorableRanges.any (·.holds c.toNat)

/-- Whether the first character that counts is a letter with case. -/
def startsCased (cs : List Char) : Bool :=
  match cs.dropWhile isIgnorable with
  | [] => false
  | c :: _ => isCased c

/-- The lower-case form of a text that follows the reversed text `before`. -/
def lowerAfter (before : List Char) : List Char → List Char
  | [] => []
  | c :: cs =>
    (if c = 'Σ' then [if startsCased before && !startsCased cs then 'ς' else 'σ']
      else lowerChar c) ++ lowerAfter (c :: before) cs

/-- The lower-case form of a text. -/
def lower (s : String) : String := String.ofList (lowerAfter [] s.toList)

/-- Lower case for the letters `A`–`Z` only. -/
def lowerAscii (s : String) : String := String.ofList (s.toList.map Char.toLower)

end PictureIndex.Text
