import PictureIndex.Json.Printer
import PictureIndex.Time.Instant
/-!
# The published status

What a worker tells about itself: the state of the readiness gate, the length of the queue,
whether an item is being processed, and how often each outcome occurred since the start.
-/

namespace PictureIndex

/-- How far the readiness gate has come. -/
inductive GateState
  /-- Backends are not ready yet. -/
  | waiting
  /-- Indexing has begun. -/
  | armed
  /-- Some backend never became ready. -/
  | permanentlyFailed
deriving DecidableEq, Repr, Inhabited

namespace GateState

/-- The states with their written names. -/
def names : List (String × GateState) :=
  [("waiting", waiting), ("armed", armed), ("permanently_failed", permanentlyFailed)]

/-- The written name of a state. -/
def name : GateState → String
  | waiting => "waiting"
  | armed => "armed"
  | permanentlyFailed => "permanently_failed"

end GateState

/-- Counts of what happened to items. -/
structure Tally where
  /-- Items that have left the queue. -/
  processed : Nat
  /-- Pictures annotated. -/
  annotated : Nat
  /-- Records removed. -/
  removed : Nat
  /-- Items passed over. -/
  skipped : Nat
  /-- Items that failed. -/
  failed : Nat
  /-- Items whose time ran out. -/
  timedOut : Nat
  /-- Times the queue ran empty. -/
  drains : Nat
  /-- How long the queue took to run empty the last time. -/
  lastDrain : Option Duration
deriving DecidableEq, Repr, Inhabited

/-- The tally before anything happened. -/
def Tally.zero : Tally := ⟨0, 0, 0, 0, 0, 0, 0, none⟩

/-- What a worker publishes. -/
structure Status where
  /-- State of the readiness gate. -/
  gate : GateState
  /-- Length of the queue, with the item being processed. -/
  queued : Nat
  /-- Whether an item is being processed. -/
  inFlight : Bool
  /-- Counts since the start. -/
  tally : Tally
  /-- Pictures annotated, as the budget counts them. -/
  budgetUsed : UInt32
deriving DecidableEq, Repr, Inhabited

namespace Status

/-- The status of a worker that has done nothing. -/
def initial : Status := ⟨.waiting, 0, false, Tally.zero, 0⟩

/-- Whether nothing is queued and nothing is being processed. -/
def isIdle (s : Status) : Bool := s.queued = 0 && !s.inFlight

/-- The JSON form of a duration. -/
def durationToJson (d : Duration) : String :=
  Json.brace [("secs", toString d.secs), ("nanos", toString d.subsecNanos)]

/-- The JSON form of a status. -/
def toJson (s : Status) : String :=
  Json.brace [
    ("gate", Json.quote s.gate.name),
    ("queued", toString s.queued),
    ("in_flight", Json.writeBool s.inFlight),
    ("processed", toString s.tally.processed),
    ("annotated", toString s.tally.annotated),
    ("removed", toString s.tally.removed),
    ("skipped", toString s.tally.skipped),
    ("failed", toString s.tally.failed),
    ("timed_out", toString s.tally.timedOut),
    ("budget_used", toString s.budgetUsed.toNat),
    ("drains", toString s.tally.drains),
    ("last_drain", Json.writeOption durationToJson s.tally.lastDrain)]

end Status

end PictureIndex
