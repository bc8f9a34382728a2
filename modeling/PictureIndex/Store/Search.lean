import PictureIndex.Json.Relaxed
import PictureIndex.Store.Basic
/-!
# Search

A word is looked for in lower case among the elements of every row's words, in the order of
paths.  The search ends without notice at the first row whose words cannot be searched; what was
found before it is the answer.
-/

namespace PictureIndex.Store

/-- The keys of the rows that contain a word, up to the first row that cannot be searched. -/
def matching (word : String) : List (String × Row) → List String
  | [] => []
  | (key, row) :: rest =>
    match (Relaxed.parse? row.annotations).bind (·.find? word) with
    | none => []
    | some true => key :: matching word rest
    | some false => matching word rest

/-- The recorded paths whose words contain the lower-case form of `word`, in ascending order. -/
def find (s : Store) (word : String) : Except Error (List String) := do
  let t ← s.pictureTable
  return matching (Text.lower word) t.entries

end PictureIndex.Store
