import PictureIndex.Json.Printer
import PictureIndex.Json.Syntax
import PictureIndex.Text.Blank
/-!
# Relaxed JSON texts

The notation in which a search looks at stored words.  Besides JSON it admits comments, further
blanks, strings in single quotes and with further escapes, keys without quotes, a comma after the
last item, signs and hexadecimal digits in numbers, and words for infinity and for no number.  A
text ends at its first zero character.

Reading keeps of every value how it is written in plain JSON without blanks (`compact`), and of a
string also the text it stands for (`text?`).  Numbers keep their digits: only what plain JSON does
not know is written anew.
-/

namespace PictureIndex

/-- One element of a relaxed string. -/
inductive Relaxed.Piece
  /-- A character written as itself. -/
  | raw (c : Char)
  /-- An escape: how it is written in plain JSON, and the unit of UTF-16 it stands for. -/
  | escape (plain : List Char) (unit : Nat)
  /-- A backslash before the end of a line, which joins the lines. -/
  | join
deriving DecidableEq, Repr

/-- A relaxed JSON text. -/
inductive Relaxed
  /-- A string. -/
  | string (pieces : List Relaxed.Piece)
  /-- A number, a truth value or nothing, as written in plain JSON. -/
  | scalar (plain : List Char)
  /-- A number in hexadecimal digits that needs more than 64 bits. -/
  | oversize (negative : Bool)
  /-- The items of an array. -/
  | array (items : List Relaxed)
  /-- The members of an object. -/
  | object (members : List (List Relaxed.Piece × Relaxed))
deriving Repr

namespace Relaxed

/-! ## Space -/

/-- The text after a comment's end. -/
def afterComment : List Char → Option (List Char)
  | [] => none
  | '*' :: '/' :: rest => some rest
  | _ :: rest => afterComment rest

/-- A character that ends a line. -/
def endsLine (c : Char) : Bool := c = '\n' || c = '\r' || c = '\u2028' || c = '\u2029'

/-- A blank of the relaxed notation. -/
def isSpace (c : Char) : Bool :=
  c = '\uFEFF' || (Text.isBlank c && c != '\u0085')

/-- A text without leading blanks and comments. -/
def skipSpace (cs : List Char) : List Char :=
  go (cs.length + 1) cs
where
  go : Nat → List Char → List Char
    | 0, cs => cs
    | fuel + 1, cs =>
      match cs with
      | '/' :: '*' :: rest =>
        match afterComment rest with
        | some rest => go fuel rest
        | none => cs
      | '/' :: '/' :: rest => go fuel (rest.dropWhile (!endsLine ·))
      | c :: rest => if isSpace c then go fuel rest else cs
      | [] => []

/-! ## Strings -/

/-- The piece that a backslash and `c` make, where no digits follow. -/
def shortEscape? (c : Char) : Option Piece :=
  if c = '\'' then some (.escape ['\''] 0x27)
  else if c = '0' then some (.escape ['\\', 'u', '0', '0', '0', '0'] 0)
  else if c = 'v' then some (.escape ['\\', 'u', '0', '0', '0', '9'] 0x0B)
  else (Json.shortEscape? c).map fun d => .escape ['\\', c] d.toNat

/-- The escape of four hexadecimal digits. -/
def unitEscape? (a b c d : Char) : Option Piece :=
  (Json.hex4? a b c d).map (.escape ['\\', 'u', a, b, c, d])

/-- The rest of a string up to the quote `q`, with what follows. -/
def readString (q : Char) : List Char → Option (List Piece × List Char)
  | [] => none
  | '\\' :: 'u' :: a :: b :: c :: d :: rest =>
    match unitEscape? a b c d, readString q rest with
    | some p, some (ps, rest) => some (p :: ps, rest)
    | _, _ => none
  | '\\' :: 'x' :: a :: b :: rest =>
    match unitEscape? '0' '0' a b, readString q rest with
    | some p, some (ps, rest) => some (p :: ps, rest)
    | _, _ => none
  | '\\' :: '\r' :: '\n' :: rest =>
    (readString q rest).map fun (ps, rest) => (.join :: ps, rest)
  | '\\' :: e :: rest =>
    match if endsLine e then some .join else shortEscape? e, readString q rest with
    | some p, some (ps, rest) => some (p :: ps, rest)
    | _, _ => none
  | c :: rest =>
    if c = q then some ([], rest)
    else if c = '\x00' || c = '\\' then none
    else (readString q rest).map fun (ps, rest) => (.raw c :: ps, rest)

/-- The character that is taken for a mistake where it is not written plainly. -/
def mistaken : Char := Char.ofNat 0x99999

/-- The text of a string, if its escapes make one.  Lines are joined by dropping what is between
them, but a join at the end of the string leaves a zero character.  A character that is no unit of
UTF-16 is lost where it is `mistaken`. -/
def text? : List Piece → Option (List Char)
  | [] => some []
  | [.join] => some ['\x00']
  | .join :: .raw c :: rest =>
    if c = mistaken then text? rest else (text? rest).map (c :: ·)
  | .join :: rest => text? rest
  | .raw c :: rest => (text? rest).map (c :: ·)
  | .escape _ n :: rest =>
    -- the first half of a pair needs the second one right behind it
    if 0xD800 ≤ n && n ≤ 0xDBFF then
      match rest with
      | .escape _ m :: rest =>
        if 0xDC00 ≤ m && m ≤ 0xDFFF then
          let c := Char.ofNat (0x10000 + (n - 0xD800) * 0x400 + (m - 0xDC00))
          if c = mistaken then text? rest else (text? rest).map (c :: ·)
        else none
      | _ => none
    else if 0xDC00 ≤ n && n ≤ 0xDFFF then none
    else (text? rest).map (Char.ofNat n :: ·)

/-- A piece as written in plain JSON. -/
def Piece.plain : Piece → List Char
  | raw c => Json.escapeChar c
  | escape plain _ => plain
  | join => []

/-- A string as written in plain JSON. -/
def quote (ps : List Piece) : List Char := '"' :: (ps.flatMap Piece.plain ++ ['"'])

/-! ## Words and numbers -/

/-- The text after a word, whatever the letter case of ASCII letters. -/
def afterWord? (word : String) (cs : List Char) : Option (List Char) :=
  let n := word.length
  if (cs.take n).map Char.toLower = word.toList then some (cs.drop n) else none

/-- Whether a text goes on with an ASCII letter or digit. -/
def goesOn (cs : List Char) : Bool := cs.head?.any Char.isAlphanum

/-- The text after one of the words that stand for a value by themselves. -/
def afterConstant? (cs : List Char) : Option (List Char) :=
  let exact (word : String) : Option (List Char) :=
    if word.toList.isPrefixOf cs && !goesOn (cs.drop word.length) then some (cs.drop word.length)
    else none
  let loose (word : String) : Option (List Char) := (afterWord? word cs).filter (!goesOn ·)
  exact "true" <|> exact "false" <|> exact "null" <|> loose "inf" <|> loose "infinity"
    <|> loose "nan" <|> loose "qnan" <|> loose "snan"

/-- The text after an exponent, if there is one. -/
def afterExponent? (cs : List Char) : Option (List Char) :=
  match cs with
  | e :: rest =>
    if e = 'e' ∨ e = 'E' then
      let ds := match rest with
        | '+' :: ds => ds
        | '-' :: ds => ds
        | ds => ds
      let rest := ds.dropWhile Char.isDigit
      if rest.length = ds.length || rest.head? = some '.' || rest.head? = some 'e'
          || rest.head? = some 'E' then none
      else some rest
    else some cs
  | [] => some []

/-- The text after a number without its sign. -/
def afterUnsigned? (cs : List Char) : Option (List Char) :=
  match cs with
  | '0' :: x :: d :: rest =>
    if (x = 'x' ∨ x = 'X') ∧ (Json.hexValue? d).isSome then
      some (rest.dropWhile fun c => (Json.hexValue? c).isSome)
    else decimal cs
  | cs => decimal cs
where
  decimal (cs : List Char) : Option (List Char) :=
    let whole := cs.takeWhile Char.isDigit
    let rest := cs.dropWhile Char.isDigit
    if whole.head? = some '0' && 1 < whole.length then none
    else match rest with
      | '.' :: rest =>
        let fraction := rest.takeWhile Char.isDigit
        if whole.isEmpty && fraction.isEmpty then none
        else if (rest.drop fraction.length).head? = some '.' then none
        else afterExponent? (rest.drop fraction.length)
      | rest => if whole.isEmpty then none else afterExponent? rest

/-- The text after a number. -/
def afterNumber? (cs : List Char) : Option (List Char) :=
  let signed (cs : List Char) : Option (List Char) :=
    afterUnsigned? cs <|> afterWord? "infinity" cs <|> afterWord? "inf" cs
  match cs with
  | '-' :: cs => signed cs
  | '+' :: cs => signed cs
  | cs => afterUnsigned? cs

/-! ## Their plain form -/

/-- The plain form of a word that stands for a value: infinity is a number beyond all others, and
what is no number is nothing. -/
def plainWord (cs : List Char) : List Char :=
  let lower := cs.map Char.toLower
  if lower = "inf".toList || lower = "infinity".toList then "9e999".toList
  else if lower = "nan".toList || lower = "qnan".toList || lower = "snan".toList then "null".toList
  else cs

/-- The value of hexadecimal digits. -/
def hexNumber (ds : List Char) : Nat :=
  ds.foldl (fun n d => n * 16 + (Json.hexValue? d).getD 0) 0

/-- Decimal digits with a zero after a point that no digit follows. -/
def completePoint : List Char → List Char
  | '.' :: rest =>
    if rest.head?.any Char.isDigit then '.' :: completePoint rest
    else '.' :: '0' :: completePoint rest
  | c :: rest => c :: completePoint rest
  | [] => []

/-- A number without its sign: hexadecimal digits become decimal ones, and a point has digits on
both sides. -/
def ofUnsigned (negative : Bool) (cs : List Char) : Relaxed :=
  let signed (plain : List Char) : Relaxed := .scalar (if negative then '-' :: plain else plain)
  match cs with
  | '0' :: x :: ds =>
    if x = 'x' ∨ x = 'X' then
      if hexNumber ds < UInt64.size then signed (toString (hexNumber ds)).toList else .oversize negative
    else signed (completePoint cs)
  | '.' :: _ => signed ('0' :: completePoint cs)
  | c :: _ => signed (if c.isDigit then completePoint cs else plainWord cs)
  | [] => signed []

/-- The number that is written so. -/
def ofNumber : List Char → Relaxed
  | '-' :: cs => ofUnsigned true cs
  | '+' :: cs => ofUnsigned false cs
  | cs => ofUnsigned false cs

/-- What was read where a text went on with `rest`. -/
def taken (cs rest : List Char) : List Char := cs.take (cs.length - rest.length)

/-- A value that is one word or number. -/
def readScalar (cs : List Char) : Option (Relaxed × List Char) :=
  match afterConstant? cs with
  | some rest => some (.scalar (plainWord (taken cs rest)), rest)
  | none => (afterNumber? cs).map fun rest => (ofNumber (taken cs rest), rest)

/-! ## Keys -/

/-- A character that may start a key without quotes. -/
def startsKey (c : Char) : Bool := c.isAlpha || c = '_' || c = '$' || 0x7F < c.toNat

/-- A character that may stand in a key without quotes. -/
def continuesKey (c : Char) : Bool := (startsKey c || c.isDigit) && !isSpace c

/-- The rest of a key without quotes, and what follows. -/
def readKeyRest : List Char → List Piece × List Char
  | '\\' :: 'u' :: a :: b :: c :: d :: rest =>
    match unitEscape? a b c d with
    | some p =>
      let (ps, rest) := readKeyRest rest
      (p :: ps, rest)
    | none => ([], '\\' :: 'u' :: a :: b :: c :: d :: rest)
  | c :: rest =>
    if continuesKey c then
      let (ps, rest) := readKeyRest rest
      (.raw c :: ps, rest)
    else ([], c :: rest)
  | [] => ([], [])

/-- A key, and what follows. -/
def readKey (cs : List Char) : Option (List Piece × List Char) :=
  match cs with
  | '"' :: rest => readString '"' rest
  | '\'' :: rest => readString '\'' rest
  | '\\' :: 'u' :: a :: b :: c :: d :: _ =>
    if (unitEscape? a b c d).isSome then some (readKeyRest cs) else none
  | c :: _ => if startsKey c && (afterConstant? cs).isNone then some (readKeyRest cs) else none
  | [] => none

/-! ## Values

The functions read a value, the items of an array up to its bracket and the members of an object
up to its brace.  The first argument bounds the number of tokens; the second one is the number of
groups that may still be opened inside each other. -/

mutual

/-- A value at the start of a text. -/
def readValue : Nat → Nat → List Char → Option (Relaxed × List Char)
  | 0, _, _ => none
  | fuel + 1, depth, cs =>
    match skipSpace cs with
    | '"' :: rest => (readString '"' rest).map fun (ps, rest) => (.string ps, rest)
    | '\'' :: rest => (readString '\'' rest).map fun (ps, rest) => (.string ps, rest)
    | '[' :: rest =>
      match depth with
      | 0 => none
      | depth + 1 => (readItems fuel depth rest).map fun (vs, rest) => (.array vs, rest)
    | '\x7b' :: rest =>
      match depth with
      | 0 => none
      | depth + 1 => (readMembers fuel depth rest).map fun (ms, rest) => (.object ms, rest)
    | cs => readScalar cs

/-- The items of an array and its bracket. -/
def readItems : Nat → Nat → List Char → Option (List Relaxed × List Char)
  | 0, _, _ => none
  | fuel + 1, depth, cs =>
    match skipSpace cs with
    | ']' :: rest => some ([], rest)
    | cs =>
      match readValue fuel depth cs with
      | none => none
      | some (v, rest) =>
        match skipSpace rest with
        | ']' :: rest => some ([v], rest)
        | ',' :: rest => (readItems fuel depth rest).map fun (vs, rest) => (v :: vs, rest)
        | _ => none

/-- The members of an object and its brace. -/
def readMembers : Nat → Nat → List Char → Option (List (List Piece × Relaxed) × List Char)
  | 0, _, _ => none
  | fuel + 1, depth, cs =>
    match skipSpace cs with
    | '\x7d' :: rest => some ([], rest)
    | cs =>
      match (readKey cs).map fun (key, rest) => (key, skipSpace rest) with
      | some (key, ':' :: rest) =>
        match readValue fuel depth rest with
        | none => none
        | some (v, rest) =>
          match skipSpace rest with
          | '\x7d' :: rest => some ([(key, v)], rest)
          | ',' :: rest =>
            (readMembers fuel depth rest).map fun (ms, rest) => ((key, v) :: ms, rest)
          | _ => none
      | _ => none

end

/-- Number of groups that may stand inside each other. -/
def mostDepth : Nat := 1000

/-- The value that fills a text up to its first zero character. -/
def parse? (s : String) : Option Relaxed :=
  let cs := s.toList.takeWhile (· ≠ '\x00')
  match readValue (cs.length + 1) mostDepth cs with
  | some (v, rest) => if (skipSpace rest).isEmpty then some v else none
  | none => none

/-! ## Texts of values -/

mutual

/-- A value as written in plain JSON without blanks. -/
def compact : Relaxed → List Char
  | string ps => quote ps
  | scalar plain => plain
  | oversize negative => (if negative then "-9.0e999" else "9.0e999").toList
  | array items => '[' :: (List.intercalate [','] (compactItems items) ++ [']'])
  | object members => '\x7b' :: (List.intercalate [','] (compactMembers members) ++ ['\x7d'])

/-- Items as written in plain JSON. -/
def compactItems : List Relaxed → List (List Char)
  | [] => []
  | v :: vs => compact v :: compactItems vs

/-- Members as written in plain JSON. -/
def compactMembers : List (List Piece × Relaxed) → List (List Char)
  | [] => []
  | (key, v) :: ms => (quote key ++ ':' :: compact v) :: compactMembers ms

end

/-- The text as which a search sees a value.  Numbers and the like are no texts. -/
def shown? : Relaxed → Option (List Char)
  | string ps => text? ps
  | scalar _ | oversize _ => none
  | v => some v.compact

/-- The values that a search looks at: the items of an array, the values of an object, or the
value itself. -/
def elements : Relaxed → List Relaxed
  | array items => items
  | object members => members.map (·.2)
  | v => [v]

/-- Whether a word is among some values, if the search for it does not come upon an oversized
number first. -/
def among? (word : List Char) : List Relaxed → Option Bool
  | [] => some false
  | oversize _ :: _ => none
  | v :: vs => if v.shown? = some word then some true else among? word vs

/-- Whether a search of a value finds a word, if it can be carried out. -/
def find? (v : Relaxed) (word : String) : Option Bool := among? word.toList v.elements

end Relaxed

end PictureIndex
