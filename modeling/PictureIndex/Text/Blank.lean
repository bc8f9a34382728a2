/-!
# Blanks

The characters with the property White_Space, and the two things done with them: cutting a text
into its words and trimming it.  A word is a longest run of characters that are not blank, so
`words` of two texts with a blank between them is the words of the first and then those of the
second.
-/

namespace PictureIndex.Text

/-- The twenty-five blanks. -/
def isBlank (c : Char) : Bool :=
  let n := c.toNat
  (0x09 ≤ n && n ≤ 0x0D) || n == 0x20 || n == 0x85 || n == 0xA0 || n == 0x1680
    || (0x2000 ≤ n && n ≤ 0x200A) || n == 0x2028 || n == 0x2029 || n == 0x202F || n == 0x205F
    || n == 0x3000

/-- The pieces of a text between one blank and the next; there is one more piece than blanks. -/
def pieces : List Char → List (List Char)
  | [] => [[]]
  | c :: cs =>
    if isBlank c then [] :: pieces cs
    else match pieces cs with
      | [] => [[c]]
      | w :: ws => (c :: w) :: ws

/-- The words of a text, in order. -/
def words (s : String) : List String :=
  ((pieces s.toList).filter (!·.isEmpty)).map String.ofList

/-- A text without the blanks at its ends. -/
def trim (s : String) : String :=
  String.ofList (((s.toList.dropWhile isBlank).reverse.dropWhile isBlank).reverse)

end PictureIndex.Text
