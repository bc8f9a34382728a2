/-!
# Rounding to binary formats

A non-negative number of a binary format is a whole number of units, where a unit is the
format's least positive number; of the numbers above `2 ^ precision` units only those with
`precision` leading bits exist.  Rounding an exact quotient therefore means: drop as many low
bits as the size of the quotient demands and take the nearest multiple of what is left, a half
going to the even neighbour.
-/

namespace PictureIndex.Rounding

/-- The whole number nearest to `num / den`, a half going to the even neighbour. -/
def nearest (num den : Nat) : Nat :=
  let q := num / den
  let twice := 2 * (num % den)
  if twice < den ∨ twice = den ∧ q % 2 = 0 then q else q + 1

/-- The number of units nearest to `num / den` that has at most `precision` leading bits. -/
def units (precision num den : Nat) : Nat :=
  let dropped := (num / den).log2 + 1 - precision
  nearest num (den <<< dropped) <<< dropped

end PictureIndex.Rounding
