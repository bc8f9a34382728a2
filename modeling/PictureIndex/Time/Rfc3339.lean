import PictureIndex.Text.Blank
import PictureIndex.Time.Calendar
import PictureIndex.Time.Instant
import PictureIndex.Number.Written
/-!
# Instants as text

Times are written as in RFC 3339: date, `T`, time of day, and `Z` for universal time.  The
fraction of a second has 0, 3, 6 or 9 digits, whichever suffices; a year of more or fewer than
four digits has a sign.

Reading is more generous.  Blanks may stand before the numbers and between them, a lower-case
`t` or a space may stand for `T`, one digit may stand for two, and the offset from universal time
is `Z`, `UTC`, or a sign with hours and minutes, where colons and blanks may stand between the
two.
-/

namespace PictureIndex.Instant

/-! ## Writing -/

/-- A number with leading zeros up to the given width. -/
def padded (width n : Nat) : List Char :=
  let ds := (toString n).toList
  List.replicate (width - ds.length) '0' ++ ds

/-- A year: four digits, or a sign and at least four digits. -/
def writeYear (y : Int) : List Char :=
  if 0 ≤ y ∧ y ≤ 9999 then padded 4 y.toNat
  else (if y < 0 then '-' else '+') :: padded 4 y.natAbs

/-- The fraction of a second. -/
def writeFraction (nanos : Nat) : List Char :=
  if nanos = 0 then []
  else if nanos % 1000000 = 0 then '.' :: padded 3 (nanos / 1000000)
  else if nanos % 1000 = 0 then '.' :: padded 6 (nanos / 1000)
  else '.' :: padded 9 nanos

/-- The written form of an instant. -/
def write (t : Instant) : String :=
  let date := Date.ofDays (t.secs / 86400)
  let time := (t.secs % 86400).toNat
  let leap := t.nanos / 1000000000
  String.ofList <|
    writeYear date.year ++ '-' :: padded 2 date.month ++ '-' :: padded 2 date.day
      ++ 'T' :: padded 2 (time / 3600) ++ ':' :: padded 2 (time / 60 % 60)
      ++ ':' :: padded 2 (time % 60 + leap) ++ writeFraction (t.nanos % 1000000000) ++ ['Z']

/-! ## Reading -/

/-- A text without leading blanks. -/
def skipBlank (cs : List Char) : List Char := cs.dropWhile Text.isBlank

/-- One to `most` digits after blanks. -/
def readDigits? (most : Nat) (cs : List Char) : Option (Nat × List Char) :=
  let cs := skipBlank cs
  let ds := (cs.take most).takeWhile Char.isDigit
  if ds.isEmpty then none else some (digitsValue ds, cs.drop ds.length)

/-- A year after blanks: up to four digits, or a sign and any number of them. -/
def readYear? (cs : List Char) : Option (Int × List Char) :=
  match skipBlank cs with
  | '-' :: cs => signed true cs
  | '+' :: cs => signed false cs
  | cs => (readDigits? 4 cs).map fun (n, rest) => ((n : Int), rest)
where
  signed (negative : Bool) (cs : List Char) : Option (Int × List Char) :=
    let ds := cs.takeWhile Char.isDigit
    if ds.isEmpty then none
    else
      let n : Int := digitsValue ds
      some (if negative then -n else n, cs.drop ds.length)

/-- The text after a given character, with blanks before it if `blank` says so. -/
def expect? (blank : Bool) (c : Char) (cs : List Char) : Option (List Char) :=
  match if blank then skipBlank cs else cs with
  | d :: rest => if d = c then some rest else none
  | [] => none

/-- The fraction of a second in nanoseconds, if one follows; digits after the ninth do not
count. -/
def readFraction? (cs : List Char) : Option (Nat × List Char) :=
  match cs with
  | '.' :: cs =>
    let ds := cs.takeWhile Char.isDigit
    if ds.isEmpty then none
    else
      let kept := ds.take 9
      some (digitsValue kept * Nat.pow 10 (9 - kept.length), cs.drop ds.length)
  | cs => some (0, cs)

/-- Two digits without blanks before them. -/
def readPair? : List Char → Option (Nat × List Char)
  | a :: b :: rest => if a.isDigit && b.isDigit then some (digitsValue [a, b], rest) else none
  | _ => none

/-- The hours and minutes of an offset, in seconds. -/
def readOffset? (cs : List Char) : Option (Int × List Char) := do
  let (hours, cs) ← readPair? cs
  let cs := cs.dropWhile fun c => c = ':' || Text.isBlank c
  let (minutes, cs) ← readPair? cs
  if 60 ≤ minutes then failure
  return ((hours * 3600 + minutes * 60 : Nat), cs)

/-- The offset from universal time, in seconds. -/
def readZone? (cs : List Char) : Option (Int × List Char) :=
  match cs with
  | '+' :: cs => readOffset? cs
  | '-' :: cs => (readOffset? cs).map fun (n, rest) => (-n, rest)
  | '\u2212' :: cs => (readOffset? cs).map fun (n, rest) => (-n, rest)
  | u :: t :: c :: rest =>
    if [u, t, c].map Char.toLower = ['u', 't', 'c'] then some (0, rest) else zulu cs
  | cs => zulu cs
where
  zulu : List Char → Option (Int × List Char)
    | c :: rest => if c = 'Z' ∨ c = 'z' then some (0, rest) else none
    | [] => none

/-- The instant written by a text. -/
def read? (s : String) : Option Instant := do
  let (year, cs) ← readYear? s.toList
  let cs ← expect? true '-' cs
  let (month, cs) ← readDigits? 2 cs
  let cs ← expect? true '-' cs
  let (day, cs) ← readDigits? 2 cs
  let cs ← match cs with
    | c :: rest => if c = 'T' ∨ c = 't' ∨ c = ' ' then some rest else none
    | [] => none
  let (hour, cs) ← readDigits? 2 cs
  let cs ← expect? true ':' cs
  let (minute, cs) ← readDigits? 2 cs
  let cs ← expect? true ':' cs
  let (second, cs) ← readDigits? 2 cs
  let (nanos, cs) ← readFraction? cs
  let (offset, cs) ← readZone? (skipBlank cs)
  if !(skipBlank cs).isEmpty then failure
  let date : Date := ⟨year, month, day⟩
  if !date.isValid || 24 ≤ hour || 60 ≤ minute || 61 ≤ second || 86400 ≤ offset.natAbs then failure
  -- a leap second is the second before it, running on
  let (second, nanos) := if second = 60 then (59, nanos + 1000000000) else (second, nanos)
  let onSite : Int := date.toDays * 86400 + ((hour * 60 + minute) * 60 + second : Nat)
  let inRange (secs : Int) : Bool := firstSecond ≤ secs && secs ≤ lastSecond
  if inRange onSite && inRange (onSite - offset) then some ⟨onSite - offset, nanos⟩ else none

end PictureIndex.Instant
