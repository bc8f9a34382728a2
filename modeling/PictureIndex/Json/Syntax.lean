/-!
# JSON texts

The grammar of JSON, read into a tree that keeps strings and numbers as they are written.  What
a string or a number means is decided where it is used: the escapes of a string that nobody asks
for are checked for their form only, and the size of a number that nobody asks for does not
matter.
-/

namespace PictureIndex

/-- One element of a string as written. -/
inductive Json.Unit
  /-- A character, written as itself or as a short escape. -/
  | char (c : Char)
  /-- A four-digit escape, a unit of UTF-16. -/
  | escape (n : Nat)
deriving DecidableEq, Repr

/-- A number as written. -/
structure Json.Number where
  /-- Whether it starts with a minus sign. -/
  negative : Bool
  /-- The digits before the point. -/
  whole : List Char
  /-- The digits after the point, empty if there is no point. -/
  fraction : List Char
  /-- The exponent's minus sign and digits, if there is an exponent. -/
  exponent : Option (Bool × List Char)
deriving DecidableEq, Repr

/-- A JSON text. -/
inductive Json
  | null
  | bool (b : Bool)
  | number (n : Json.Number)
  | string (s : List Json.Unit)
  | array (items : List Json)
  | object (members : List (List Json.Unit × Json))
deriving Repr

namespace Json

/-! ## Tokens -/

/-- The four characters allowed between tokens. -/
def isSpace (c : Char) : Bool := c = ' ' || c = '\t' || c = '\n' || c = '\r'

/-- A text without leading space. -/
def skipSpace (cs : List Char) : List Char := cs.dropWhile isSpace

/-- The value of a hexadecimal digit. -/
def hexValue? (c : Char) : Option Nat :=
  if '0' ≤ c && c ≤ '9' then some (c.toNat - 0x30)
  else if 'a' ≤ c && c ≤ 'f' then some (c.toNat - 0x57)
  else if 'A' ≤ c && c ≤ 'F' then some (c.toNat - 0x37)
  else none

/-- The value of four hexadecimal digits. -/
def hex4? (a b c d : Char) : Option Nat := do
  let a ← hexValue? a
  let b ← hexValue? b
  let c ← hexValue? c
  let d ← hexValue? d
  return ((a * 16 + b) * 16 + c) * 16 + d

/-- The character that a backslash and `c` stand for. -/
def shortEscape? (c : Char) : Option Char :=
  match c with
  | '"' => some '"'
  | '\\' => some '\\'
  | '/' => some '/'
  | 'b' => some '\x08'
  | 'f' => some '\x0c'
  | 'n' => some '\n'
  | 'r' => some '\r'
  | 't' => some '\t'
  | _ => none

/-- The rest of a string after its opening quote, and what follows its closing quote. -/
def readString : List Char → Option (List Unit × List Char)
  | [] => none
  | '"' :: rest => some ([], rest)
  | '\\' :: 'u' :: a :: b :: c :: d :: rest =>
    match hex4? a b c d, readString rest with
    | some n, some (us, rest) => some (.escape n :: us, rest)
    | _, _ => none
  | '\\' :: e :: rest =>
    match shortEscape? e, readString rest with
    | some c, some (us, rest) => some (.char c :: us, rest)
    | _, _ => none
  | c :: rest =>
    if c.toNat < 0x20 then none
    else match readString rest with
      | some (us, rest) => some (.char c :: us, rest)
      | none => none

/-- The text of a string; its escapes have to pair up as UTF-16. -/
def text? : List Unit → Option (List Char)
  | [] => some []
  | .char c :: us => (text? us).map (c :: ·)
  | .escape n :: us =>
    -- the first half of a pair needs the second one right behind it
    if 0xD800 ≤ n && n ≤ 0xDBFF then
      match us with
      | .escape m :: us =>
        if 0xDC00 ≤ m && m ≤ 0xDFFF then
          (text? us).map (Char.ofNat (0x10000 + (n - 0xD800) * 0x400 + (m - 0xDC00)) :: ·)
        else none
      | _ => none
    else if 0xDC00 ≤ n && n ≤ 0xDFFF then none
    else (text? us).map (Char.ofNat n :: ·)

/-- A number's exponent, if one follows. -/
def readExponent : List Char → Option (Option (Bool × List Char) × List Char)
  | [] => some (none, [])
  | e :: cs =>
    if e = 'e' ∨ e = 'E' then
      let (negative, cs) := match cs with
        | '-' :: cs => (true, cs)
        | '+' :: cs => (false, cs)
        | cs => (false, cs)
      let ds := cs.takeWhile Char.isDigit
      if ds.isEmpty then none else some (some (negative, ds), cs.dropWhile Char.isDigit)
    else some (none, e :: cs)

/-- A number without its sign.  A leading zero stands alone, and a point has digits on both
sides. -/
def readUnsigned (negative : Bool) (cs : List Char) : Option (Number × List Char) := do
  let whole := cs.takeWhile Char.isDigit
  let rest := cs.dropWhile Char.isDigit
  if whole.isEmpty || (whole.head? = some '0' && 1 < whole.length) then failure
  let (fraction, rest) ← match rest with
    | '.' :: cs =>
      let ds := cs.takeWhile Char.isDigit
      if ds.isEmpty then none else some (ds, cs.dropWhile Char.isDigit)
    | cs => some ([], cs)
  let (exponent, rest) ← readExponent rest
  return (⟨negative, whole, fraction, exponent⟩, rest)

/-- A number. -/
def readNumber : List Char → Option (Number × List Char)
  | '-' :: cs => readUnsigned true cs
  | cs => readUnsigned false cs

/-! ## Values

The three functions read a value, the items of an array after the first and the members of an
object after the first; each returns what follows.  The first argument bounds the number of
tokens and is taken from the length of the text. -/

mutual

/-- A value at the start of a text. -/
def readValue : Nat → List Char → Option (Json × List Char)
  | 0, _ => none
  | fuel + 1, cs =>
    match skipSpace cs with
    | 'n' :: 'u' :: 'l' :: 'l' :: rest => some (.null, rest)
    | 't' :: 'r' :: 'u' :: 'e' :: rest => some (.bool true, rest)
    | 'f' :: 'a' :: 'l' :: 's' :: 'e' :: rest => some (.bool false, rest)
    | '"' :: rest => (readString rest).map fun (s, rest) => (.string s, rest)
    | '[' :: rest =>
      match skipSpace rest with
      | ']' :: rest => some (.array [], rest)
      | _ =>
        match readValue fuel rest with
        | some (v, rest) => (readItems fuel rest).map fun (vs, rest) => (.array (v :: vs), rest)
        | none => none
    | '\x7b' :: rest =>
      match skipSpace rest with
      | '\x7d' :: rest => some (.object [], rest)
      | _ => (readMember fuel rest).map fun (ms, rest) => (.object ms, rest)
    | cs => (readNumber cs).map fun (n, rest) => (.number n, rest)

/-- The items after the first one, and the closing bracket. -/
def readItems : Nat → List Char → Option (List Json × List Char)
  | 0, _ => none
  | fuel + 1, cs =>
    match skipSpace cs with
    | ']' :: rest => some ([], rest)
    | ',' :: rest =>
      match readValue fuel rest with
      | some (v, rest) => (readItems fuel rest).map fun (vs, rest) => (v :: vs, rest)
      | none => none
    | _ => none

/-- A member, the members after it, and the closing brace. -/
def readMember : Nat → List Char → Option (List (List Unit × Json) × List Char)
  | 0, _ => none
  | fuel + 1, cs =>
    match skipSpace cs with
    | '"' :: rest =>
      match readString rest with
      | none => none
      | some (key, rest) =>
        match skipSpace rest with
        | ':' :: rest =>
          match readValue fuel rest with
          | none => none
          | some (v, rest) =>
            match skipSpace rest with
            | '\x7d' :: rest => some ([(key, v)], rest)
            | ',' :: rest =>
              (readMember fuel rest).map fun (ms, rest) => ((key, v) :: ms, rest)
            | _ => none
        | _ => none
    | _ => none

end

/-- The JSON text that fills `s`, space around it apart. -/
def parse? (s : String) : Option Json :=
  match readValue (s.length + 1) s.toList with
  | some (v, rest) => if (skipSpace rest).isEmpty then some v else none
  | none => none

end Json

end PictureIndex
