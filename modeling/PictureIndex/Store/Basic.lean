import PictureIndex.Error
import PictureIndex.Record
/-!
# The store

The index on disk: a table of pictures with their path's text as key, and a table of settings.
Either table may be missing, and then every request that needs it fails.

A row keeps the time in whole microseconds, the size as a signed 64-bit number and the words as a
JSON array of strings.  Reading a row can therefore fail where its time is no instant or its words
are no such array; rows that were written by `insert` can always be read.
-/

namespace PictureIndex

/-- The row of a picture. -/
structure Row where
  /-- Modification time in microseconds since 1970. -/
  micros : Int
  /-- Size in bytes, as a signed 64-bit number. -/
  size : Int
  /-- The words as JSON text. -/
  annotations : String
deriving DecidableEq, Repr, Inhabited

/-- The tables of a database. -/
structure Store where
  /-- The pictures. -/
  pictures : Option (Table Row)
  /-- The settings. -/
  settings : Option (Table String)

namespace Store

/-- A database without tables. -/
def blank : Store := ⟨none, none⟩

/-- Creates the tables that are missing. -/
def migrate (s : Store) : Store where
  pictures := some (s.pictures.getD Table.empty)
  settings := some (s.settings.getD Table.empty)

/-- A database with empty tables. -/
def new : Store := blank.migrate

instance : Inhabited Store := ⟨new⟩

/-- The table of pictures. -/
def pictureTable (s : Store) : Except Error (Table Row) :=
  match s.pictures with
  | some t => .ok t
  | none => .error (.database (.noSuchTable "image_annotations"))

/-- The table of settings. -/
def settingTable (s : Store) : Except Error (Table String) :=
  match s.settings with
  | some t => .ok t
  | none => .error (.database (.noSuchTable "settings"))

/-! ## Pictures -/

/-- A size as a signed 64-bit number. -/
def signedSize (n : UInt64) : Int :=
  if n.toNat < 0x8000000000000000 then n.toNat else (n.toNat : Int) - UInt64.size

/-- The row of a record. -/
def rowOf (r : Record) : Row where
  micros := r.lastModified.micros
  size := signedSize r.sizeBytes
  annotations := Json.writeStrings r.annotations.keys

/-- The words of a row, if they are a JSON array of strings. -/
def readWords? (annotations : String) : Option WordSet :=
  ((Json.parse? annotations).bind (Json.asList? Json.asString?)).map WordSet.ofList

/-- Sets a row. -/
def putRow (s : Store) (path : String) (row : Row) : Except Error Store := do
  let t ← s.pictureTable
  return { s with pictures := some (t.insert path row) }

/-- Sets the record of a path, replacing any earlier one. -/
def insert (s : Store) (r : Record) : Except Error Store := s.putRow r.path.text (rowOf r)

/-- Removes the record of a path, if there is one; also tells how many were removed. -/
def delete (s : Store) (path : String) : Except Error (Store × Nat) := do
  let t ← s.pictureTable
  return ({ s with pictures := some (t.erase path) }, if t.contains path then 1 else 0)

/-- Removes the record of a path, if there is one. -/
def remove (s : Store) (p : Path) : Except Error Store := (s.delete p.text).map (·.1)

/-- The recorded time of a path; a time that is no instant is as good as none. -/
def lastModified? (s : Store) (p : Path) : Except Error (Option Instant) := do
  let t ← s.pictureTable
  return (t.find? p.text).bind fun row => Instant.ofMicros? row.micros

/-- The record in a row. -/
def readRow (path : String) (row : Row) : Except Error Record :=
  match Instant.ofMicros? row.micros with
  | none => .error (.general ("invalid timestamp for " ++ path ++ ": " ++ toString row.micros))
  | some time =>
    match readWords? row.annotations with
    | none => .error (.serialization "the words are not an array of strings")
    | some words =>
      .ok { path := Path.ofText path
            lastModified := time
            sizeBytes := UInt64.ofNat row.size.toNat
            annotations := words }

/-- The record of a path. -/
def get (s : Store) (p : Path) : Except Error (Option Record) := do
  let t ← s.pictureTable
  match t.find? p.text with
  | none => return none
  | some row => return some (← readRow p.text row)

/-- All recorded paths, in ascending order. -/
def all (s : Store) : Except Error (List String) := do
  let t ← s.pictureTable
  return t.keys

/-- What the paths below a directory start with: its text, with one slash at the end. -/
def directoryStart (directory : String) : List Char :=
  (directory.toList.reverse.dropWhile (· = '/')).reverse ++ ['/']

/-- The recorded paths below a directory, in ascending order.  Texts end at their first zero
character when their starts are compared, so nothing is below a directory with one. -/
def under (s : Store) (p : Path) : Except Error (List String) := do
  let t ← s.pictureTable
  let start := directoryStart p.text
  return if start.contains '\x00' then [] else t.keys.filter fun k => start.isPrefixOf k.toList

/-! ## Settings -/

/-- The value of a setting. -/
def setting? (s : Store) (key : String) : Except Error (Option String) := do
  let t ← s.settingTable
  return t.find? key

/-- Sets a setting. -/
def setSetting (s : Store) (key value : String) : Except Error Store := do
  let t ← s.settingTable
  return { s with settings := some (t.insert key value) }

end Store

end PictureIndex
