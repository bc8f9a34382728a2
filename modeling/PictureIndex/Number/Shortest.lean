import PictureIndex.Number.Single
/-!
# Shortest decimal text of a number

The decimal text of a finite number has the fewest digits that read back as that number.  The
real numbers that round to it form an interval around it, whose ends belong to it when its last
bit is even.  On the grid of the multiples of `10 ^ k` only the two neighbours of the number can
be nearest to it, so the coarsest grid with a neighbour inside the interval gives the digits; of
two such neighbours the nearer is taken.

What the digits look like on paper is decided by the writer: `plain` writes them out in full,
`Json.Printer` has its own layout.
-/

namespace PictureIndex

/-- Which neighbour is taken when both are equally near. -/
inductive Tie
  /-- The larger one. -/
  | up
  /-- The one whose last digit is even. -/
  | even
deriving DecidableEq, Repr

/-- The positive decimal number `digits · 10 ^ exponent`. -/
structure Decimal where
  /-- All digits, read as one number. -/
  digits : Nat
  /-- The place of the last digit. -/
  exponent : Int
deriving DecidableEq, Repr

namespace Single

/-- The real numbers that round to a finite number, in quarters of a unit. -/
structure RoundingInterval where
  /-- Lower end. -/
  low : Nat
  /-- The number itself. -/
  value : Nat
  /-- Upper end. -/
  high : Nat
  /-- Whether the ends belong to the interval. -/
  closed : Bool

/-- The interval of a positive finite number.  Below a power of two numbers lie twice as close,
so the interval reaches half as far down. -/
def interval (x : Single) : RoundingInterval :=
  let e := x.magnitude / 0x800000
  let f := x.magnitude % 0x800000
  let gap := 1 <<< (e - 1)
  let value := 4 * x.units
  { low := value - (if f = 0 ∧ 1 < e then gap else 2 * gap)
    value := value
    high := value + 2 * gap
    closed := x.magnitude % 2 = 0 }

/-- The multiple of `a` nearest to `v` among the two neighbours of `v` that lie in the interval
from `lo` to `hi`, as its factor. -/
def neighbour? (tie : Tie) (closed : Bool) (lo v hi a : Nat) : Option Nat :=
  let d := v / a
  let inside (m : Nat) : Bool :=
    0 < m && if closed then lo ≤ m * a && m * a ≤ hi else lo < m * a && m * a < hi
  let below := v - d * a
  let above := (d + 1) * a - v
  match inside d, inside (d + 1) with
  | false, false => none
  | true, false => some d
  | false, true => some (d + 1)
  -- both lie in the interval: the nearer one, or what the tie says
  | true, true =>
    if below < above then some d
    else if above < below then some (d + 1)
    else match tie with
      | .up => some (d + 1)
      | .even => some (if d % 2 = 0 then d else d + 1)

/-- The digits on the grid of `10 ^ k`. -/
def onGrid? (tie : Tie) (i : RoundingInterval) (k : Int) : Option Decimal :=
  let a := Nat.pow 10 k.toNat <<< (unitExponent + 2)
  let b := Nat.pow 10 (-k).toNat
  (neighbour? tie i.closed (i.low * b) (i.value * b) (i.high * b) a).map (⟨·, k⟩)

/-- The grids that are tried, from coarse to fine. -/
def grids : List Int := (List.range 100).map fun (n : Nat) => 40 - (n : Int)

/-- The shortest digits of a positive finite number. -/
def shortest (tie : Tie) (x : Single) : Decimal :=
  (grids.findSome? (onGrid? tie x.interval)).getD ⟨0, 0⟩

/-- The decimal text without exponent: shortest digits, equally near ones rounded up. -/
def plain (x : Single) : String :=
  if x.isNaN then "NaN"
  else
    let sign := if x.isNegative then "-" else ""
    if x.isInfinite then sign ++ "inf"
    else if x.magnitude = 0 then sign ++ "0"
    else
      let d := x.shortest .up
      let ds := (toString d.digits).toList
      let body : List Char :=
        if 0 ≤ d.exponent then ds ++ List.replicate d.exponent.toNat '0'
        else
          let places := (-d.exponent).toNat
          if places < ds.length then
            ds.take (ds.length - places) ++ '.' :: ds.drop (ds.length - places)
          else '0' :: '.' :: (List.replicate (places - ds.length) '0' ++ ds)
      sign ++ String.ofList body

end Single

end PictureIndex
