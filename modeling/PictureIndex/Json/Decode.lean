import PictureIndex.Json.Syntax
import PictureIndex.Number.Written
import PictureIndex.Number.Double
/-!
# Values of JSON texts

What a JSON text means where a value of a known type is expected.  Reading is strict: a number
where a string is expected, a fraction where a whole number is expected or an unknown name where
one of a list is expected is no value at all.

A decimal number becomes a double as follows.  Its leading digits are collected into a whole
number below `2 ^ 64`, further digits counting as powers of ten only; this number is then
multiplied or divided by a power of ten in double arithmetic.  The result can be one unit away
from the nearest double.
-/

namespace PictureIndex.Json

/-! ## Strings -/

/-- A string. -/
def asString? : Json → Option String
  | .string s => (text? s).map String.ofList
  | _ => none

/-! ## Numbers -/

/-- A whole number without point and exponent; `-0` does not count as one. -/
def asInteger? : Json → Option Int
  | .number ⟨negative, whole, [], none⟩ =>
    let n := digitsValue whole
    if negative then (if n = 0 then none else some (-(n : Int))) else some n
  | _ => none

/-- A whole number in the given closed range. -/
def asBounded? (low high : Int) (v : Json) : Option Int :=
  (asInteger? v).filter fun n => low ≤ n && n ≤ high

/-- A whole number below `2 ^ 32`. -/
def asUInt32? (v : Json) : Option UInt32 :=
  (asBounded? 0 (UInt32.size - 1) v).map fun n => UInt32.ofNat n.toNat

/-- A whole number below `2 ^ 64`. -/
def asUInt64? (v : Json) : Option UInt64 :=
  (asBounded? 0 (UInt64.size - 1) v).map fun n => UInt64.ofNat n.toNat

/-- Digits collected below `2 ^ 64`, and the number of digits left over. -/
def collect (start : Nat) : List Char → Nat × Nat
  | [] => (start, 0)
  | d :: ds =>
    let n := 10 * start + (d.toNat - '0'.toNat)
    if n < UInt64.size then collect n ds else (start, ds.length + 1)

/-- `digits · 10 ^ exponent` in double arithmetic; `none` if a step overflows.  An exponent below
the table of powers is worked off in steps of `10 ^ 308`, of which a few reach zero. -/
def scale? : Nat → Double → Int → Option Double
  | 0, _, _ => some ⟨0⟩
  | steps + 1, x, e =>
    if e.natAbs ≤ 308 then do
      let p ← Double.pow10? e.natAbs
      if 0 ≤ e then x.mul? p else x.div? p
    else if x.units = 0 then some x
    else if 0 ≤ e then none
    else do
      let p ← Double.pow10? 308
      scale? steps (← x.div? p) (e + 308)

/-- The double of a number that is not read as a whole number, without its sign. -/
def Number.double? (n : Number) : Option Double :=
  let (m, dropped) := collect 0 n.whole
  let (m, left) := collect m n.fraction
  let shift : Int := dropped - (n.fraction.length - left : Nat)
  let parts (e : Int) : Option Double := do
    scale? 4 (← Double.ofNat? m) e
  match n.exponent with
  | none => parts shift
  | some (negative, ds) =>
    let e := digitsValue ds
    if e < 0x80000000 then
      let sum := if negative then shift - e else shift + e
      parts (max (-0x80000000) (min sum 0x7FFFFFFF))
    -- the exponent is out of reach of any digits
    else if m ≠ 0 && !negative then none
    else some ⟨0⟩

/-- A single-precision number.  Whole numbers that fit 64 bits are rounded once, all others by
way of a double. -/
def asSingle? : Json → Option Single
  | .number n =>
    let m := digitsValue n.whole
    let direct := n.fraction.isEmpty && n.exponent.isNone
      && (if n.negative then m ≠ 0 && m ≤ 0x8000000000000000 else m < UInt64.size)
    if direct then some (Single.ofRatio n.negative m 1)
    else n.double?.map (Double.toSingle n.negative)
  | _ => none

/-! ## Compound values -/

/-- A truth value. -/
def asBool? : Json → Option Bool
  | .bool b => some b
  | _ => none

/-- A value or `null`. -/
def asOption? {α : Type} (f : Json → Option α) : Json → Option (Option α)
  | .null => some none
  | v => (f v).map some

/-- The items of an array. -/
def asList? {α : Type} (f : Json → Option α) : Json → Option (List α)
  | .array vs => vs.mapM f
  | _ => none

/-- One of the given names, as a string or as the only key of an object with value `null`. -/
def asName? {α : Type} (names : List (String × α)) : Json → Option α
  | .string s => do names.lookup (String.ofList (← text? s))
  | .object [(s, .null)] => do names.lookup (String.ofList (← text? s))
  | _ => none

/-- The only value under a key; `some none` if the key does not occur, `none` if it occurs more
than once. -/
def unique? (key : String) (members : List (String × Json)) : Option (Option Json) :=
  match members.filter (·.1 == key) with
  | [] => some none
  | [(_, v)] => some (some v)
  | _ => none

/-- The values of the given fields, each of which may be missing.  A record is an object, where
other keys are passed over and no field occurs twice, or an array of its fields in order. -/
def asFields? (names : List String) : Json → Option (List (Option Json))
  | .object ms => do
    let ms ← ms.mapM fun (k, v) => (text? k).map fun k => (String.ofList k, v)
    names.mapM (unique? · ms)
  | .array vs =>
    if names.length < vs.length then none
    else some (vs.map some ++ List.replicate (names.length - vs.length) none)
  | _ => none

end PictureIndex.Json
