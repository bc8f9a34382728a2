import PictureIndex.Number.Single
/-!
# Numbers written as plain text

The notations accepted for the values of settings: a count, which is decimal digits after an
optional plus sign, and a single-precision number.
-/

namespace PictureIndex

/-- Decimal digits read as one number. -/
def digitsValue (ds : List Char) : Nat := ds.foldl (fun n d => 10 * n + (d.toNat - '0'.toNat)) 0

/-- A text cut after its leading decimal digits. -/
def spanDigits (cs : List Char) : List Char × List Char :=
  (cs.takeWhile Char.isDigit, cs.dropWhile Char.isDigit)

/-- A count below `2 ^ 32`: decimal digits, at least one, after an optional plus sign. -/
def readCount? (s : String) : Option UInt32 :=
  let ds := match s.toList with
    | '+' :: cs => cs
    | cs => cs
  if ds.isEmpty || !ds.all Char.isDigit then none
  else
    let n := digitsValue ds
    if n < UInt32.size then some (UInt32.ofNat n) else none

/-- The exponent at the end of a number: nothing, or `e` with an optional sign and digits. -/
def readExponent? : List Char → Option Int
  | [] => some 0
  | e :: cs =>
    if e = 'e' ∨ e = 'E' then
      let (negative, ds) := match cs with
        | '-' :: ds => (true, ds)
        | '+' :: ds => (false, ds)
        | ds => (false, ds)
      if ds.isEmpty || !ds.all Char.isDigit then none
      else
        let n : Int := digitsValue ds
        some (if negative then -n else n)
    else none

/-- A number without its sign: a word for infinity or for no number, in any letter case, or
decimal digits with an optional point among or beside them and an optional exponent. -/
def Single.readUnsigned? (negative : Bool) (cs : List Char) : Option Single :=
  let word := cs.map Char.toLower
  if word = "inf".toList ∨ word = "infinity".toList then some (Single.infinity negative)
  else if word = "nan".toList then some Single.nan
  else
    let (whole, rest) := spanDigits cs
    let (fraction, rest) := match rest with
      | '.' :: cs => spanDigits cs
      | cs => ([], cs)
    if whole.isEmpty && fraction.isEmpty then none
    else (readExponent? rest).map fun e =>
      Single.ofDecimal negative (digitsValue (whole ++ fraction)) (e - fraction.length)

/-- A single-precision number: an optional sign and a number, rounded to nearest. -/
def Single.read? (s : String) : Option Single :=
  match s.toList with
  | '-' :: cs => readUnsigned? true cs
  | '+' :: cs => readUnsigned? false cs
  | cs => readUnsigned? false cs

end PictureIndex
