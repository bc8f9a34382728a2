import PictureIndex.FileTree
/-!
# Changes of the file system

What other programs do to the files while the indexer runs.  Directories above a new entry are
created as needed.
-/

namespace PictureIndex

/-- A change of the file system. -/
inductive Edit
  /-- A new directory. -/
  | directory (p : Path)
  /-- A file written in place, through a link if there is one. -/
  | file (p : Path) (content : FileContent) (modified : Int)
  /-- A finished file that appears at once. -/
  | moveIn (p : Path) (content : FileContent) (modified : Int)
  /-- A new symbolic link. -/
  | link (p target : Path)
  /-- A new socket. -/
  | socket (p : Path)
  /-- A new modification time. -/
  | touch (p : Path) (modified : Int)
  /-- An entry that moves, with everything below it. -/
  | rename (p q : Path)
  /-- An entry that goes, with everything below it. -/
  | remove (p : Path)
deriving Repr, Inhabited

namespace FileTree

/-- The file system after a change. -/
def edit (t : FileTree) : Edit → FileTree
  | .directory p => (t.makeDirectory? p).getD t
  | .file p content modified => t.write p content modified
  | .moveIn p content modified => t.place p (.file content modified)
  | .link p target => t.place p (.link target)
  | .socket p => t.place p .socket
  | .touch p modified => t.touch p modified
  | .rename p q => t.rename p q
  | .remove p => t.remove p

/-- The file system after several changes. -/
def editAll (t : FileTree) (es : List Edit) : FileTree := es.foldl edit t

/-- The location at which a watcher notices that something came or went. -/
def noticed? (before after : FileTree) : Edit → Option Location
  | .moveIn p _ _ => after.locate? .itself p
  | .remove p => before.locate? .itself p
  | _ => none

end FileTree

end PictureIndex
