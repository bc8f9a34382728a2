import PictureIndex.Json.Decode
import PictureIndex.Json.Printer
import PictureIndex.Path
import PictureIndex.Table
import PictureIndex.Time.Rfc3339
/-!
# Records

What the index knows of one picture: its path, the time of its last change, its size and the
words found in it.
-/

namespace PictureIndex

/-- The entry of one picture. -/
structure Record where
  /-- Where the picture is. -/
  path : Path
  /-- Its modification time. -/
  lastModified : Instant
  /-- Its size. -/
  sizeBytes : UInt64
  /-- The words found in it. -/
  annotations : WordSet

namespace Record

/-- The JSON form of a record. -/
def toJson (r : Record) : String :=
  Json.brace [("path", Json.quote r.path.text), ("last_modified", Json.quote r.lastModified.write),
    ("size_bytes", toString r.sizeBytes.toNat), ("annotations", Json.writeStrings r.annotations.keys)]

/-- The record of a JSON value. -/
def ofJson? (v : Json) : Option Record := do
  let [some path, some time, some size, some words] ←
    Json.asFields? ["path", "last_modified", "size_bytes", "annotations"] v | none
  return { path := Path.ofText (← path.asString?)
           lastModified := ← time.asString?.bind Instant.read?
           sizeBytes := ← size.asUInt64?
           annotations := WordSet.ofList (← words.asList? Json.asString?) }

end Record

end PictureIndex
