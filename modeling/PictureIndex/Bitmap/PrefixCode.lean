/-!
# Prefix codes

Codes in which no word starts another one, as pixel data uses them.  The codes are canonical:
shorter words come first, words of one length follow each other in the order of their symbols, and
so a code is given by the lengths of its words, or by how many words have each length.
-/

namespace PictureIndex

/-- A canonical prefix code. -/
structure PrefixCode where
  /-- How many words have each length, from length one. -/
  counts : List Nat
  /-- The symbols in the order of their words. -/
  symbols : Array Nat
deriving Repr, Inhabited

namespace PrefixCode

/-- Length of the longest word that any code has. -/
def longestWord : Nat := 16

/-- The code whose words have the given lengths; length zero is no word. -/
def ofLengths (lengths : List Nat) : PrefixCode where
  counts := (List.range longestWord).map fun n => lengths.count (n + 1)
  symbols :=
    (List.range longestWord).foldl
      (fun symbols n =>
        lengths.zipIdx.foldl (fun symbols (m, i) => if m = n + 1 then symbols.push i else symbols)
          symbols)
      #[]

/-- How many words of the greatest length start with a word of the given lengths. -/
def share (lengths : List Nat) : Nat :=
  lengths.foldl (fun words n => words + if n = 0 then 0 else 1 <<< (longestWord - n)) 0

/-- Whether words of the given lengths can be told apart and leave none over. -/
def isComplete (lengths : List Nat) : Bool := share lengths = 1 <<< longestWord

variable {m : Type → Type} [Monad m]

/-- Reads a word bit by bit: `code` is what was read, `first` the first word of the present
length, and `index` the number of shorter words. -/
def readFrom (bit : m Nat) (symbols : Array Nat) (code first index : Nat) :
    List Nat → m (Option Nat)
  | [] => return none
  | count :: counts => do
    let code := code + (← bit)
    if code < first + count then return symbols[index + (code - first)]?
    else readFrom bit symbols (2 * code) (2 * (first + count)) (index + count) counts

/-- The symbol of the next word, if there is such a word; `bit` reads a bit. -/
def read? (bit : m Nat) (c : PrefixCode) : m (Option Nat) := readFrom bit c.symbols 0 0 0 c.counts

end PrefixCode

end PictureIndex
