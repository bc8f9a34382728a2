import PictureIndex.Gate
import PictureIndex.Sweep
/-!
# Starting a worker

A worker is started with a configuration and the backends provided for it.  A configuration that
is not valid, a root that is no directory and a backend that is enabled but not provided are
refused, in this order.  The scheduler does not follow links, so a root that is a link is
resolved once at the start.

When the gate arms, the scheduler is told so, the tree is watched if that is asked for, the root
is admitted, and then the records swept out are queued.
-/

namespace PictureIndex

/-- A worker that has been started. -/
structure Worker where
  /-- Its configuration, with the root resolved. -/
  config : Config
  /-- The backends in use. -/
  backends : Backends
deriving Inhabited

namespace Worker

/-- The root of a configuration, resolved if it is a link. -/
def resolveRoot (t : FileTree) (root : Path) : Except Error Path :=
  match t.kind? root with
  | none => .error (.io "no such file")
  | some .link =>
    match t.canonical? root with
    | none => .error (.io "no such file")
    | some p => .ok p
  | some _ => .ok root

/-- Starts a worker. -/
def start (t : FileTree) (c : Config) (ocrProvided classifierProvided : Bool) :
    Except Error Worker := do
  c.validate
  t.startWatching c.root
  let root ← resolveRoot t c.root
  let config := { c with root := root }
  return ⟨config, ← Backends.ofConfig config ocrProvided classifierProvided⟩

/-- The gate of a worker. -/
def gate (w : Worker) : Gate := Gate.new w.backends w.config.readinessRetryCeiling

/-- What the scheduler is told when the gate arms, given the recorded paths, if the store tells
them. -/
def armed (w : Worker) (t : FileTree) (recorded : Option (List String)) : List Message :=
  .gate .armed :: .submit w.config.root :: t.sweep (recorded.getD [])

/-- What the scheduler is told when the gate gives up. -/
def givenUp : List Message := [.gate .permanentlyFailed]

end Worker

end PictureIndex
