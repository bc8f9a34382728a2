import PictureIndex.FileTree
import PictureIndex.Picture
/-!
# What the file system says of a path

The questions that indexing asks about a path: what stands there (links not followed), what the
regular file it leads to looks like, and what type of picture its first bytes show.
-/

namespace PictureIndex

/-- What stands at a path, links not followed. -/
inductive EntryKind
  | link
  | directory
  | file
  | other
deriving DecidableEq, Repr

/-- Size and modification time of a regular file. -/
structure FileInfo where
  /-- Size in bytes. -/
  sizeBytes : Nat
  /-- Modification time, rounded down to a microsecond; `none` if it is outside the range of an
  `Instant`. -/
  modified : Option Instant
deriving DecidableEq, Repr

/-- The kind of an entry. -/
def Entry.kind : Entry → EntryKind
  | .link _ => .link
  | .directory _ => .directory
  | .file _ _ => .file
  | .socket => .other

namespace FileTree

/-- The kind of what stands at a path. -/
def kind? (t : FileTree) (p : Path) : Option EntryKind := (t.entry? p).map Entry.kind

/-- A modification time as the index keeps it; `none` outside the range of an `Instant`, where
whoever reads the time breaks down.  File systems here tell a time of everything. -/
def keptTime? (modified : Int) : Option Instant :=
  (Instant.ofNanos? modified).map Instant.truncate

/-- Size and time of the regular file a path leads to. -/
def info? (t : FileTree) (p : Path) : Option FileInfo :=
  match t.target? p with
  | some (.file content modified) => some ⟨content.size, keptTime? modified⟩
  | _ => none

/-- The modification time of what a path leads to, if something is there with a time in range. -/
def modifiedAt? (t : FileTree) (p : Path) : Option Instant :=
  match t.target? p with
  | some (.file _ modified) | some (.directory modified) => keptTime? modified
  | _ => none

/-- The type of picture at a path.  Only paths with the extension of a picture are opened, and
what cannot be read is no picture. -/
def pictureType (t : FileTree) (p : Path) : PictureType :=
  if !p.isCandidate then .notImage
  else match t.read? p with
    | none => .notImage
    | some content => .ofHeader (content.take PictureType.headerLength)

end FileTree

end PictureIndex
