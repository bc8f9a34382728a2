import PictureIndex.Number.Rounding
/-!
# Numbers of single precision

Confidences and their threshold are single-precision binary numbers, kept as their 32 bits:
sign, eight bits of exponent, 23 bits of fraction.  The bits below the sign order the numbers of
one sign, so that comparison needs no arithmetic on values: `order` is that order with the sign
applied, and a number that is not a number compares with nothing.
-/

namespace PictureIndex

/-- A single-precision number. -/
structure Single where
  /-- Sign, exponent and fraction. -/
  bits : UInt32
deriving DecidableEq, Repr, Inhabited

namespace Single

/-- The bits below the sign. -/
def magnitude (x : Single) : Nat := x.bits.toNat % 0x80000000

/-- Whether the sign bit is set. -/
def isNegative (x : Single) : Bool := 0x80000000 ≤ x.bits.toNat

/-- The bits of infinity. -/
def infiniteBits : Nat := 0xFF <<< 23

/-- Neither finite nor infinite. -/
def isNaN (x : Single) : Bool := infiniteBits < x.magnitude

/-- Plus or minus infinity. -/
def isInfinite (x : Single) : Bool := x.magnitude = infiniteBits

/-- The number with the given sign and bits below it. -/
def ofMagnitude (negative : Bool) (magnitude : Nat) : Single :=
  ⟨UInt32.ofNat (magnitude + if negative then 0x80000000 else 0)⟩

/-- The quiet number that is not a number. -/
def nan : Single := ofMagnitude false (0x1FF <<< 22)

/-- Plus or minus infinity. -/
def infinity (negative : Bool) : Single := ofMagnitude negative infiniteBits

/-- Zero and one. -/
def zero : Single := ofMagnitude false 0

/-- The number one. -/
def one : Single := ofMagnitude false (0x7F <<< 23)

/-! ## Order -/

/-- The place of a number among all numbers, both zeros sharing one. -/
def order (x : Single) : Int := if x.isNegative then -(x.magnitude : Int) else x.magnitude

/-- Less than; false if either side is not a number. -/
def lt (x y : Single) : Bool := !x.isNaN && !y.isNaN && decide (x.order < y.order)

/-- At most; false if either side is not a number. -/
def le (x y : Single) : Bool := !x.isNaN && !y.isNaN && decide (x.order ≤ y.order)

/-! ## Values -/

/-- The least positive number is `2 ^ (-149)`; values are counted in it. -/
def unitExponent : Nat := 149

/-- The absolute value of a finite number in units. -/
def units (x : Single) : Nat :=
  let e := x.magnitude / 0x800000
  let f := x.magnitude % 0x800000
  if e = 0 then f else (0x800000 + f) <<< (e - 1)

/-- The number of the given sign and units, infinity beyond the largest finite one. -/
def ofUnits (negative : Bool) (units : Nat) : Single :=
  let e := units.log2 - 23
  let m := e <<< 23 + units >>> e
  ofMagnitude negative (min m infiniteBits)

/-- The number nearest to `± num / den`. -/
def ofRatio (negative : Bool) (num den : Nat) : Single :=
  ofUnits negative (Rounding.units 24 (num <<< unitExponent) den)

/-- The number nearest to `± digits · 10 ^ exponent`. -/
def ofDecimal (negative : Bool) (digits : Nat) (exponent : Int) : Single :=
  if digits = 0 then ofMagnitude negative 0
  -- beyond these exponents the digits no longer matter
  else if 40 < exponent then infinity negative
  else if exponent + (digits.log2 : Int) < -200 then ofMagnitude negative 0
  else if 0 ≤ exponent then ofRatio negative (digits * Nat.pow 10 exponent.toNat) 1
  else ofRatio negative digits (Nat.pow 10 (-exponent).toNat)

end Single

end PictureIndex
