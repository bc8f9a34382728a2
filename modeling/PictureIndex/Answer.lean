import PictureIndex.WordFilter
import PictureIndex.Json.Decode
import PictureIndex.Json.Printer
/-!
# Answers of the annotation backends

Text recognition answers with lines of text, content classification with labels and how sure it
is of each.  Both are turned into words by the same filter: every line counts, and every label
with a name whose confidence is not below the threshold.  A classifier that reports an error
contributes nothing.
-/

namespace PictureIndex

/-! ## Text recognition -/

/-- The text found in a picture. -/
structure TextAnswer where
  /-- Its lines. -/
  lines : List String
deriving Repr, Inhabited

namespace TextAnswer

/-- The words of an answer added to a set. -/
def addWords (a : TextAnswer) (f : WordFilter) (ws : WordSet) : WordSet :=
  a.lines.foldl f.extend ws

/-- The JSON form of an answer. -/
def toJson (a : TextAnswer) : String :=
  Json.brace [("lines", Json.bracket (a.lines.map fun l => Json.brace [("text", Json.quote l)]))]

/-- The answer of a JSON value. -/
def ofJson? (v : Json) : Option TextAnswer := do
  let [some lines] ← Json.asFields? ["lines"] v | none
  let line? (v : Json) : Option String := do
    let [some text] ← Json.asFields? ["text"] v | none
    text.asString?
  return ⟨← lines.asList? line?⟩

end TextAnswer

/-! ## Content classification -/

/-- Whether the classifier succeeded. -/
inductive ClassifierStatus
  | ok
  | error
deriving DecidableEq, Repr, Inhabited

namespace ClassifierStatus

/-- The statuses with their written names. -/
def names : List (String × ClassifierStatus) := [("Ok", ok), ("Error", error)]

/-- The written name of a status. -/
def name : ClassifierStatus → String
  | ok => "Ok"
  | error => "Error"

end ClassifierStatus

/-- A label that the classifier puts on a picture. -/
structure Label where
  /-- The words of the label. -/
  name : String
  /-- How sure the classifier is. -/
  confidence : Single
  /-- Number of the label in the classifier's vocabulary. -/
  id : Int
  /-- Identifier of the label's meaning. -/
  mid : String
deriving Repr, Inhabited

namespace Label

/-- Whether the label contributes words. -/
def counts (threshold : Single) (l : Label) : Bool :=
  !l.name.isEmpty && !l.confidence.lt threshold

/-- The JSON form of a label. -/
def toJson (l : Label) : String :=
  Json.brace [("name", Json.quote l.name), ("confidence", Json.writeSingle l.confidence),
    ("id", toString l.id), ("mid", Json.quote l.mid)]

/-- The label of a JSON value. -/
def ofJson? (v : Json) : Option Label := do
  let [some name, some confidence, some id, some mid] ←
    Json.asFields? ["name", "confidence", "id", "mid"] v | none
  return { name := ← name.asString?
           confidence := ← confidence.asSingle?
           id := ← id.asBounded? (-0x80000000) 0x7FFFFFFF
           mid := ← mid.asString? }

end Label

/-- What the classifier sees in a picture. -/
structure LabelAnswer where
  /-- Whether it succeeded. -/
  status : ClassifierStatus
  /-- Its labels. -/
  labels : List Label
deriving Repr, Inhabited

namespace LabelAnswer

/-- The words of an answer's confident labels added to a set. -/
def addWords (a : LabelAnswer) (threshold : Single) (f : WordFilter) (ws : WordSet) : WordSet :=
  match a.status with
  | .error => ws
  | .ok => ((a.labels.filter (·.counts threshold)).map (·.name)).foldl f.extend ws

/-- The JSON form of an answer. -/
def toJson (a : LabelAnswer) : String :=
  Json.brace [("status", Json.quote a.status.name),
    ("annotations", Json.bracket (a.labels.map Label.toJson))]

/-- The answer of a JSON value. -/
def ofJson? (v : Json) : Option LabelAnswer := do
  let [some status, some labels] ← Json.asFields? ["status", "annotations"] v | none
  return ⟨← status.asName? ClassifierStatus.names, ← labels.asList? Label.ofJson?⟩

end LabelAnswer

end PictureIndex
