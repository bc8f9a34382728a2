import PictureIndex.Json.Printer
/-!
# Errors

Everything that can go wrong, by cause.  `kind` names the part of the program that failed,
`message` is the text shown to a user, and the JSON form of an error is that text as a string.
-/

namespace PictureIndex

/-- Why the store's database refused a request. -/
inductive DatabaseFault
  /-- A query named a parameter that its statement does not have. -/
  | invalidParameterName (name : String)
  /-- A query for one row found none. -/
  | noRows
  /-- A table does not exist. -/
  | noSuchTable (table : String)
  /-- A row with the same key exists already. -/
  | notUnique (column : String)
  /-- The database file cannot be opened. -/
  | cannotOpen
deriving DecidableEq, Repr

/-- The text of a database fault. -/
def DatabaseFault.message : DatabaseFault → String
  | invalidParameterName name => "Invalid parameter name: " ++ name
  | noRows => "Query returned no rows"
  | noSuchTable table => "no such table: " ++ table
  | notUnique column => "UNIQUE constraint failed: " ++ column
  | cannotOpen => "unable to open database file"

/-- An error of the indexer. -/
inductive Error
  /-- The store's database. -/
  | database (fault : DatabaseFault)
  /-- The file system. -/
  | io (text : String)
  /-- Reading or writing JSON. -/
  | serialization (text : String)
  /-- Anything without a class of its own. -/
  | general (text : String)
  /-- The configuration. -/
  | config (text : String)
  /-- Text recognition. -/
  | ocr (text : String)
  /-- Content classification. -/
  | classifier (text : String)
  /-- Watching the file system. -/
  | watcher (text : String)
deriving DecidableEq, Repr

namespace Error

/-- The text shown to a user. -/
def message : Error → String
  | database fault => "Database error: " ++ fault.message
  | io text => "IO error: " ++ text
  | serialization text => "Serialization error: " ++ text
  | general text => text
  | config text => "Config error: " ++ text
  | ocr text => "OCR error: " ++ text
  | classifier text => "Classifier error: " ++ text
  | watcher text => "Watcher error: " ++ text

/-- The JSON form of an error. -/
def toJson (e : Error) : String := Json.quote e.message

end Error

end PictureIndex
