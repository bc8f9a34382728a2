import PictureIndex.FileTree
import PictureIndex.Store.Basic
/-!
# Opening a store

A store lives in a file.  The directories above the file are created as needed; a file that does
not exist yet, or is shorter than two bytes, becomes a store with empty tables, and no other file
is taken for a store.

The file is found by reading its path name by name (`place?`): a `..` takes back the name before
it, be there such an entry or not, and a link is replaced by its target.  The database keeps
files of its own beside the store, and what already stands at their places must not be in the
way (`isUnobstructed`).

A path without a file stands for a store in memory, which begins anew whenever it is opened.
-/

namespace PictureIndex.Store

/-- The paths of stores in memory. -/
def volatilePaths : List Path := ["", ":memory:", "file::memory:"].map Path.ofText

/-- Whether a path stands for a store in memory. -/
def isVolatile (p : Path) : Bool := volatilePaths.contains p

/-! ## The directories above the file -/

/-- The path of the directory that holds a path; nothing holds the root. -/
def holder? (p : Path) : Option Path :=
  match (FileTree.namesOf p).filter (· ≠ [Path.dot]) with
  | [] => none
  | names => some (FileTree.pathOf names.dropLast)

/-- The file system with the directories above a path. -/
def withHolder (t : FileTree) (p : Path) : Except Error FileTree :=
  match holder? p with
  | none => .ok t
  | some q =>
    match t.makeDirectory? q with
    | none => .error (.io "the directory cannot be created")
    | some t => .ok t

/-! ## The place of the file -/

/-- Length of the path of a location, in bytes. -/
def pathLength (l : Location) : Nat := l.foldl (fun n name => n + (name.length + 1)) 0

/-- The longest path on the way to a store's file. -/
def longestWay : Nat := 511

/-- The longest path of a store's file: with the longest ending it makes 512 bytes. -/
def longestPath : Nat := 504

/-- The longest ending of the files beside the store. -/
def longestEnding : Nat := 8

/-- Number of links that one path may pass. -/
def mostLinks : Nat := 201

/-- Where the given names lead from `here`, when `links` links may still be passed. -/
def placeFrom? (t : FileTree) (links : Nat) (here : Location) : List (List UInt8) → Option Location
  | [] => some here
  | name :: rest =>
    if name = [Path.dot] then placeFrom? t links here rest
    else if name = [Path.dot, Path.dot] then placeFrom? t links here.dropLast rest
    else if FileTree.longestName < name.length || longestWay < pathLength (here ++ [name])
        || (t.at? here).any (!·.isDirectory) then none
    else
      match t.at? (here ++ [name]) with
      | some (.link target) =>
        match links with
        | 0 => none
        | links + 1 =>
          placeFrom? t links (if target.isAbsolute then [] else here)
            (FileTree.namesOf target ++ rest)
      | _ => placeFrom? t links (here ++ [name]) rest
termination_by names => (links, names.length)

/-- The place of a store's file, if a file can be there. -/
def place? (t : FileTree) (p : Path) : Option Location :=
  (placeFrom? t mostLinks [] (FileTree.namesOf p)).filter fun l =>
    !l.isEmpty && !p.bytes.contains 0 && pathLength l ≤ longestPath
      && (l.getLast?.all fun name => name.length + longestEnding ≤ FileTree.longestName)

/-! ## The files beside it -/

/-- The location of the file beside a store with the given ending. -/
def beside (l : Location) (ending : String) : Location :=
  l.dropLast ++ [l.getLast?.getD [] ++ Text.bytes ending]

/-- Whether what stands at a location can serve as a journal.  A directory cannot, nor can a link
to nothing or to an empty file; anything else is read or removed. -/
def canBeJournal (t : FileTree) (l : Location) : Bool :=
  match t.at? l with
  | some (.directory _) => false
  | some (.link _) =>
    match t.target? (FileTree.pathOf l) with
    | none => false
    | some (.file content _) => content.size ≠ 0
    | some _ => true
  | _ => true

/-- Whether what stands at a location can serve as shared memory: a file can, and nothing. -/
def canBeShared (t : FileTree) (l : Location) : Bool :=
  match t.at? l with
  | none | some (.file _ _) => true
  | some _ => false

/-- Whether nothing beside a store's file is in the way. -/
def isUnobstructed (t : FileTree) (l : Location) : Bool :=
  canBeJournal t (beside l "-journal") && canBeJournal t (beside l "-wal")
    && canBeShared t (beside l "-shm")

/-- Whether a store can be created at a location: a short file is overwritten. -/
def isVacant (t : FileTree) (l : Location) : Bool :=
  match t.at? l with
  | none => t.isDirectoryAt l.dropLast
  | some (.file content _) => content.size ≤ 1
  | some _ => false

/-! ## Opening -/

/-- The new store at a path. -/
def openFile (t : FileTree) (p : Path) : Except Error Store :=
  if isVolatile p then .ok new
  else do
    let t ← withHolder t p
    match place? t p with
    | none => throw (.database .cannotOpen)
    | some l =>
      if isVacant t l && isUnobstructed t l then return new
      else throw (.database .cannotOpen)

/-- The store at a path closed and opened again: a store in memory is lost. -/
def reopen (p : Path) (s : Store) : Store := if isVolatile p then new else s.migrate

end PictureIndex.Store
