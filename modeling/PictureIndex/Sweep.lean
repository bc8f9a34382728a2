import PictureIndex.FileTree
import PictureIndex.Scheduler
/-!
# Reconciliation

What brings the index in line with the file system outside the queue: the sweep at the start,
which finds the recorded paths at which nothing stands any more, and the changes that a watcher
reports, which submit the paths they name.
-/

namespace PictureIndex

/-! ## The sweep -/

/-- The recorded paths at which nothing stands, links followed. -/
def FileTree.missing (t : FileTree) (recorded : List String) : List Path :=
  (recorded.map Path.ofText).filter (!t.isPresent ·)

/-- The messages that a sweep sends: each missing path is to be removed if it is still gone when
its turn comes. -/
def FileTree.sweep (t : FileTree) (recorded : List String) : List Message :=
  (t.missing recorded).map .removeStale

/-! ## The watcher -/

/-- A change that a watcher reports. -/
structure Change where
  /-- Whether something was only read. -/
  isAccess : Bool
  /-- The paths concerned. -/
  paths : List Path
deriving Repr, Inhabited

/-- The paths that a change submits.  Reading a file submits nothing, or looking at a file would
lead to looking at it again. -/
def Change.submitted (c : Change) : List Path := if c.isAccess then [] else c.paths

/-- What starting a watcher on a directory tree tells. -/
def FileTree.startWatching (t : FileTree) (root : Path) : Except Error Unit :=
  if t.isDirectory root then .ok ()
  else .error (.watcher ("not a directory: " ++ root.text))

end PictureIndex
