import PictureIndex.Number.Shortest
/-!
# Writing JSON texts

The compact written form of strings, numbers and records.  A string escapes quotes, backslashes
and control characters, and nothing else.  A single-precision number has its shortest digits and
at least one place after the point; where more than thirteen places stand before the point or
more than five zeros after it, an exponent is written instead.
-/

namespace PictureIndex.Json

/-- A hexadecimal digit. -/
def hexDigit (n : Nat) : Char := if n < 10 then Char.ofNat (0x30 + n) else Char.ofNat (0x57 + n)

/-- A character as it stands inside a string. -/
def escapeChar (c : Char) : List Char :=
  if c = '"' then ['\\', '"']
  else if c = '\\' then ['\\', '\\']
  else if c = '\n' then ['\\', 'n']
  else if c = '\t' then ['\\', 't']
  else if c = '\r' then ['\\', 'r']
  else if c = '\x08' then ['\\', 'b']
  else if c = '\x0c' then ['\\', 'f']
  else if c.toNat < 0x20 then
    ['\\', 'u', '0', '0', hexDigit (c.toNat / 16), hexDigit (c.toNat % 16)]
  else [c]

/-- A string between quotes. -/
def quote (s : String) : String :=
  String.ofList ('"' :: (s.toList.flatMap escapeChar ++ ['"']))

/-- Items between brackets. -/
def bracket (items : List String) : String := "[" ++ String.intercalate "," items ++ "]"

/-- Named values between braces. -/
def brace (members : List (String × String)) : String :=
  "\x7b" ++ String.intercalate "," (members.map fun (k, v) => quote k ++ ":" ++ v) ++ "\x7d"

/-- An array of strings. -/
def writeStrings (ss : List String) : String := bracket (ss.map quote)

/-- A truth value. -/
def writeBool (b : Bool) : String := if b then "true" else "false"

/-- A value or `null`. -/
def writeOption {α : Type} (f : α → String) : Option α → String
  | none => "null"
  | some a => f a

/-- A positive decimal number.  The point stands after `p` places, counted from the first digit;
it is written out for `p` from -5 to 13, and else there is an exponent with its sign. -/
def writeDecimal (d : Decimal) : String :=
  let ds := (toString d.digits).toList
  let p : Int := ds.length + d.exponent
  if 0 ≤ d.exponent ∧ p ≤ 13 then
    String.ofList (ds ++ List.replicate d.exponent.toNat '0' ++ ['.', '0'])
  else if 0 < p ∧ p ≤ 13 then
    String.ofList (ds.take p.toNat ++ '.' :: ds.drop p.toNat)
  else if -6 < p ∧ p ≤ 0 then
    String.ofList ('0' :: '.' :: (List.replicate (-p).toNat '0' ++ ds))
  else
    let mantissa := match ds with
      | [] => []
      | [c] => [c]
      | c :: cs => c :: '.' :: cs
    String.ofList mantissa ++ (if 0 < p then "e+" else "e") ++ toString (p - 1)

/-- A single-precision number; one that is not finite is `null`. -/
def writeSingle (x : Single) : String :=
  if x.isNaN || x.isInfinite then "null"
  else (if x.isNegative then "-" else "")
    ++ (if x.magnitude = 0 then "0.0" else writeDecimal (x.shortest .even))

end PictureIndex.Json
