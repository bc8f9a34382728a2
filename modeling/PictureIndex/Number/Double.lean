import PictureIndex.Number.Single
/-!
# Numbers of double precision

Decimal numbers in JSON texts pass through double precision before they become single.  Only
finite numbers that are not negative are needed here: such a number is its count of units of
`2 ^ (-1074)`, and a sign is carried beside it.
-/

namespace PictureIndex

/-- A finite double-precision number that is not negative. -/
structure Double where
  /-- The value in units of `2 ^ (-1074)`. -/
  units : Nat
deriving DecidableEq, Repr, Inhabited

namespace Double

/-- The exponent of the least positive number, negated. -/
def unitExponent : Nat := 1074

/-- The units of the first power of two that is not finite. -/
def infiniteUnits : Nat := 1 <<< (1024 + 1074)

/-- The number nearest to `num / den` units, unless that is beyond the largest. -/
def ofUnits? (num den : Nat) : Option Double :=
  let u := Rounding.units 53 num den
  if u < infiniteUnits then some ⟨u⟩ else none

/-- The number nearest to a whole number. -/
def ofNat? (n : Nat) : Option Double := ofUnits? (n <<< unitExponent) 1

/-- The number nearest to `digits · 10 ^ exponent`. -/
def ofDecimal? (digits : Nat) (exponent : Int) : Option Double :=
  if digits = 0 then some ⟨0⟩
  -- beyond these exponents the digits no longer matter
  else if 400 < exponent then none
  else if exponent + (digits.log2 : Int) < -1200 then some ⟨0⟩
  else if 0 ≤ exponent then ofNat? (digits * Nat.pow 10 exponent.toNat)
  else ofUnits? (digits <<< unitExponent) (Nat.pow 10 (-exponent).toNat)

/-- The rounded product. -/
def mul? (x y : Double) : Option Double := ofUnits? (x.units * y.units) (1 <<< unitExponent)

/-- The rounded quotient. -/
def div? (x y : Double) : Option Double := ofUnits? (x.units <<< unitExponent) y.units

/-- The power of ten `10 ^ n`, rounded. -/
def pow10? (n : Nat) : Option Double := ofDecimal? 1 n

/-- The nearest number of single precision, with a sign. -/
def toSingle (negative : Bool) (x : Double) : Single :=
  Single.ofRatio negative x.units (1 <<< unitExponent)

end Double

end PictureIndex
