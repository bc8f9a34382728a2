import PictureIndex.Path
import PictureIndex.Time.Instant
/-!
# The file system

A tree of directories, regular files, symbolic links and sockets.  It is kept as a list of
entries, each under its location: the names that lead to it from the root, none of which is a
link.  The root itself is always there and is a directory.

A path is resolved by walking its names one by one (`walk`).  A link on the way is replaced by
its target; a path may pass forty of them.  What becomes of the last name is up to the caller
(`Ending`): `entry?` looks at a link itself, `target?` at what it stands for, and `write` also
takes the place of what is not there yet.

A tree has no working directory, so that a path which does not begin at the root leads nowhere; it
has no permissions, so that everything in it can be read; and only names are limited in length,
paths are not.
-/

namespace PictureIndex

/-- The names that lead from the root to an entry. -/
abbrev Location := List (List UInt8)

/-- The content of a file: some bytes and then zeros up to its size. -/
structure FileContent where
  /-- The first bytes. -/
  head : List UInt8
  /-- Number of bytes of the file. -/
  size : Nat
deriving DecidableEq, Repr, Inhabited

/-- The first `n` bytes of a file. -/
def FileContent.take (c : FileContent) (n : Nat) : List UInt8 :=
  let n := min n c.size
  let front := c.head.take n
  front ++ List.replicate (n - front.length) 0

/-- All bytes of a file. -/
def FileContent.toList (c : FileContent) : List UInt8 := c.take c.size

/-- What stands at a location. -/
inductive Entry
  /-- A directory. -/
  | directory (modified : Int)
  /-- A regular file; times are nanoseconds since 1970. -/
  | file (content : FileContent) (modified : Int)
  /-- A symbolic link. -/
  | link (target : Path)
  /-- Something that is neither. -/
  | socket
deriving DecidableEq, Repr, Inhabited

namespace Entry

/-- Whether the entry is a directory. -/
def isDirectory : Entry → Bool
  | directory _ => true
  | _ => false

end Entry

/-- A file system. -/
structure FileTree where
  /-- All entries but the root, in the order in which directories list them. -/
  entries : List (Location × Entry)
deriving Repr, Inhabited

namespace FileTree

/-- The file system with nothing but the root. -/
def empty : FileTree := ⟨[]⟩

/-- Number of bytes of the longest name that an entry can have. -/
def longestName : Nat := 255

/-- Whether an entry can have that name. -/
def isPossibleName (name : List UInt8) : Bool := name.length ≤ longestName && !name.contains 0

/-- Modification time of what is created without one. -/
def defaultModified : Int := 1600000000000000000

/-- The entry at a location. -/
def at? (t : FileTree) : Location → Option Entry
  | [] => some (.directory defaultModified)
  | l => t.entries.lookup l

/-- Whether a location holds a directory. -/
def isDirectoryAt (t : FileTree) (l : Location) : Bool := (t.at? l).any Entry.isDirectory

/-! ## Resolving paths -/

/-- The names a path consists of.  A slash at its end asks for a directory, as `.` does. -/
def namesOf (p : Path) : List (List UInt8) :=
  let names := (Path.splitSlash p.bytes).filter (!·.isEmpty)
  if names.isEmpty then []
  else if p.bytes.getLast? = some Path.slash then names ++ [[Path.dot]] else names

/-- What the last name of a path means. -/
inductive Ending
  /-- The entry of that name, be it a link. -/
  | itself
  /-- What the name stands for. -/
  | target
  /-- What the name stands for or would stand for if it were created. -/
  | vacancy
deriving DecidableEq, Repr

/-- Where a walk that has come to `here` ends after the given names, when `follow` tells where it
ends if it goes on behind a link, at a location and with names. -/
def stretch (t : FileTree) (ending : Ending)
    (follow : Location → List (List UInt8) → Option Location) (here : Location) :
    List (List UInt8) → Option Location
  | [] => some here
  | name :: rest =>
    if !t.isDirectoryAt here then none
    else if name = [Path.dot] then stretch t ending follow here rest
    else if name = [Path.dot, Path.dot] then stretch t ending follow here.dropLast rest
    else
      match t.at? (here ++ [name]) with
      | none =>
        if rest.isEmpty && ending == .vacancy && isPossibleName name then
          some (here ++ [name])
        else none
      | some (.link target) =>
        if rest.isEmpty && ending == .itself then some (here ++ [name])
        else if target.bytes.isEmpty then none
        -- the walk goes on with the names of the target
        else follow (if target.isAbsolute then [] else here) (namesOf target ++ rest)
      | some _ => stretch t ending follow (here ++ [name]) rest

/-- Where a walk ends that may pass so many links. -/
def walk (t : FileTree) (ending : Ending) :
    Nat → Location → List (List UInt8) → Option Location
  | 0 => stretch t ending fun _ _ => none
  | links + 1 => stretch t ending (walk t ending links)

/-- Number of links that one path may pass. -/
def mostLinks : Nat := 40

/-- Where a path leads.  Only absolute paths without zero bytes lead anywhere. -/
def locate? (t : FileTree) (ending : Ending) (p : Path) : Option Location :=
  if p.isAbsolute && !p.bytes.contains 0 then walk t ending mostLinks [] (namesOf p) else none

/-- The entry of a path, which may be a link. -/
def entry? (t : FileTree) (p : Path) : Option Entry := (t.locate? .itself p).bind t.at?

/-- The entry of a path, links followed. -/
def target? (t : FileTree) (p : Path) : Option Entry := (t.locate? .target p).bind t.at?

/-- Whether something stands at a path, links followed. -/
def isPresent (t : FileTree) (p : Path) : Bool := (t.target? p).isSome

/-- Whether a path leads to a directory, links followed. -/
def isDirectory (t : FileTree) (p : Path) : Bool := (t.target? p).any Entry.isDirectory

/-- The names in a directory. -/
def names (t : FileTree) (l : Location) : List (List UInt8) :=
  t.entries.filterMap fun (m, _) =>
    if m.dropLast = l then m.getLast? else none

/-- The paths of a directory's entries; nothing for what is not a directory. -/
def list (t : FileTree) (p : Path) : List Path :=
  match t.locate? .target p with
  | none => []
  | some l => if t.isDirectoryAt l then (t.names l).map p.entry else []

/-- The path that names a location. -/
def pathOf (l : Location) : Path :=
  if l.isEmpty then ⟨[Path.slash]⟩ else ⟨l.flatMap (Path.slash :: ·)⟩

/-- The path without links that leads to the same place. -/
def canonical? (t : FileTree) (p : Path) : Option Path := (t.locate? .target p).map pathOf

/-- The content of a readable file, links followed. -/
def read? (t : FileTree) (p : Path) : Option FileContent :=
  match t.target? p with
  | some (.file content _) => some content
  | _ => none

/-! ## Changes -/

/-- The tree with an entry put at a location, in the place of an earlier one. -/
def put (t : FileTree) (l : Location) (e : Entry) : FileTree :=
  if (t.entries.lookup l).isSome then
    ⟨t.entries.map fun (m, old) => (m, if m = l then e else old)⟩
  else ⟨t.entries ++ [(l, e)]⟩

/-- The tree without a location and everything below it. -/
def prune (t : FileTree) (l : Location) : FileTree :=
  ⟨t.entries.filter fun (m, _) => !l.isPrefixOf m⟩

/-- The tree with all directories on the way of the given names, and where the way ends; `none`
if something else stands in the way. -/
def makeWay (t : FileTree) (here : Location) : List (List UInt8) → Option (FileTree × Location)
  | [] => if t.isDirectoryAt here then some (t, here) else none
  | name :: rest =>
    match t.walk .target mostLinks here [name] with
    | some there => if t.isDirectoryAt there then makeWay t there rest else none
    | none =>
      match t.at? (here ++ [name]) with
      | some _ => none
      | none =>
        if isPossibleName name then
          makeWay (t.put (here ++ [name]) (.directory defaultModified)) (here ++ [name]) rest
        else none

/-- A directory created together with the directories above it. -/
def makeDirectory? (t : FileTree) (p : Path) : Option FileTree :=
  (t.makeWay [] (namesOf p)).map (·.1)

/-- The names of a path without the last one, and the last one. -/
def splitLast (p : Path) : List (List UInt8) × List UInt8 :=
  let names := (Path.splitSlash p.bytes).filter (!·.isEmpty)
  (names.dropLast, names.getLast?.getD [])

/-- The tree with the directory above a path, and the path's own location. -/
def makePlace? (t : FileTree) (p : Path) : Option (FileTree × Location) :=
  let (above, name) := splitLast p
  if isPossibleName name then (t.makeWay [] above).map fun (t, here) => (t, here ++ [name])
  else none

/-- An entry put at a path itself, in the place of whatever stands there. -/
def place (t : FileTree) (p : Path) (e : Entry) : FileTree :=
  match t.makePlace? p with
  | none => t
  | some (t, l) => t.put l e

/-- A file written at a path, created where it is missing.  A link there is followed, and what it
stands for is created in its place; only a regular file is overwritten. -/
def write (t : FileTree) (p : Path) (content : FileContent) (modified : Int) : FileTree :=
  match t.makePlace? p with
  | none => t
  | some (t, _) =>
    match t.locate? .vacancy p with
    | none => t
    | some l =>
      match t.at? l with
      | none | some (.file _ _) => t.put l (.file content modified)
      | some _ => t

/-- The modification time of what a path leads to. -/
def touch (t : FileTree) (p : Path) (modified : Int) : FileTree :=
  match t.locate? .target p with
  | none => t
  | some l =>
    match t.at? l with
    | some (.file content _) => t.put l (.file content modified)
    | some (.directory _) => t.put l (.directory modified)
    | _ => t

/-- What stands at a path, links not followed, removed with everything below it. -/
def remove (t : FileTree) (p : Path) : FileTree :=
  match t.locate? .itself p with
  | some l => if l.isEmpty then t else t.prune l
  | none => t

/-- What stands at a path moved to another one with everything below it. -/
def rename (t : FileTree) (p q : Path) : FileTree :=
  match t.locate? .itself p, t.makePlace? q with
  | some l, some (t, m) =>
    if l = m then t
    else
      let moved := t.entries.filterMap fun (k, e) =>
        if l.isPrefixOf k then some (m ++ k.drop l.length, e) else none
      ⟨((t.prune l).prune m).entries ++ moved⟩
  | _, _ => t

end FileTree

end PictureIndex
