import PictureIndex.Table
import PictureIndex.Text.Blank
import PictureIndex.Text.LowerCase
/-!
# Words worth indexing

A filter holds stop words in lower case.  It accepts a word of at least three characters whose
first is an ASCII letter and whose lower-case form is no stop word.  The words extracted from a
text are the lower-case forms of its accepted words.
-/

namespace PictureIndex

/-- A filter for words, given by the lower-case forms of its stop words. -/
structure WordFilter where
  /-- Lower-case forms of the stop words. -/
  stops : List String
deriving Repr, Inhabited

namespace WordFilter

/-- The filter with the given stop words, which count in any letter case. -/
def ofStopWords (ws : List String) : WordFilter := ⟨ws.map Text.lower⟩

/-- Least number of characters of a word. -/
def leastLength : Nat := 3

/-- Whether the filter lets a word pass. -/
def accepts (f : WordFilter) (w : String) : Bool :=
  match w.toList with
  | [] => false
  | c :: cs =>
    leastLength ≤ (c :: cs).length && c.isAlpha && !f.stops.contains (Text.lower w)

/-- The accepted words of a text in lower case, in the order of the text. -/
def extract (f : WordFilter) (text : String) : List String :=
  ((Text.words text).filter f.accepts).map Text.lower

/-- A set of words with the words extracted from a text added. -/
def extend (f : WordFilter) (ws : WordSet) (text : String) : WordSet := ws.addAll (f.extract text)

end WordFilter

end PictureIndex
