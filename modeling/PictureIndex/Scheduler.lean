import PictureIndex.Annotation
import PictureIndex.Budget
import PictureIndex.Status
/-!
# The scheduler

Items are processed one at a time in the order in which they were queued.  The front of the queue
is the item being processed (*in flight*); nothing else is started until it has completed or its
time has run out.  Every start has a generation, counted from one, and a completion or a timeout
counts only if it names the path and the generation in flight; anything else comes too late and
changes nothing.

The scheduler handles one message after another.  It does nothing to its surroundings itself: it
keeps a log of events, of which some are requests (start this item, run a timer, abort a task,
release the backends) and the others are news (an item queued or finished, a status published).
-/

namespace PictureIndex

/-- What is to be done about a path. -/
inductive Work
  /-- Look at the path. -/
  | examine
  /-- Remove the record of the path if nothing stands there. -/
  | removeStale
deriving DecidableEq, Repr, Inhabited

/-- An item of the queue. -/
structure Item where
  /-- The path concerned. -/
  path : Path
  /-- What is to be done about it. -/
  work : Work
deriving DecidableEq, Repr, Inhabited

/-- What the scheduler is told. -/
inductive Message
  /-- A path is to be looked at, unless it is excluded. -/
  | submit (p : Path)
  /-- A record is to be removed if its path is gone, excluded or not. -/
  | removeStale (p : Path)
  /-- The readiness gate changed its state. -/
  | gate (s : GateState)
  /-- An item's picture is decoded: its time starts to run. -/
  | armTimeout (p : Path) (generation : Nat)
  /-- An item finished. -/
  | completed (p : Path) (generation : Nat) (outcome : Outcome)
  /-- An item's time ran out. -/
  | timedOut (p : Path) (generation : Nat)
  /-- The worker is to stop. -/
  | shutdown
deriving DecidableEq, Repr, Inhabited

/-- What the scheduler asks for or reports. -/
inductive Event
  /-- An item joined the queue. -/
  | queued (item : Item)
  /-- An item is to be processed; the budget may be spent. -/
  | started (item : Item) (generation : Nat) (exhausted : Bool)
  /-- A timer with this number is to run for an item. -/
  | timerSet (p : Path) (generation number : Nat)
  /-- The timer with this number is to stop. -/
  | timerStopped (number : Nat)
  /-- The task of an item is to be aborted. -/
  | aborted (generation : Nat)
  /-- An item left the queue with an outcome, or without one because its time ran out. -/
  | finished (item : Item) (generation : Nat) (outcome : Option Outcome)
  /-- The backends are to be disconnected. -/
  | released
  /-- A status was published. -/
  | published (s : Status)
deriving DecidableEq, Repr, Inhabited

/-- The item being processed. -/
structure InFlight where
  /-- Its path. -/
  path : Path
  /-- Its generation. -/
  generation : Nat
  /-- The number of the timer set for it, if there is one. -/
  timer : Option Nat
deriving DecidableEq, Repr, Inhabited

/-- The scheduler between two messages. -/
structure Scheduler where
  /-- Paths with these prefixes are not admitted. -/
  excludedPrefixes : List String
  /-- The items that have not finished, the one in flight first. -/
  queue : List Item
  /-- The item being processed. -/
  inFlight : Option InFlight
  /-- Number of items started. -/
  generation : Nat
  /-- Number of timers set. -/
  timers : Nat
  /-- The budget of the session. -/
  budget : Budget
  /-- State of the readiness gate. -/
  gate : GateState
  /-- Counts of what happened. -/
  tally : Tally
  /-- When the queue last became non-empty, in milliseconds. -/
  drainStart : Option Nat
  /-- Whether the scheduler has been told to stop. -/
  stopped : Bool
  /-- What has been asked for and reported so far, in order. -/
  events : List Event
deriving Repr, Inhabited

namespace Scheduler

/-- The scheduler of a configuration before its first message. -/
def new (excludedPrefixes : List String) (limit : Option UInt32) : Scheduler where
  excludedPrefixes := excludedPrefixes
  queue := []
  inFlight := none
  generation := 0
  timers := 0
  budget := Budget.ofLimit limit
  gate := .waiting
  tally := Tally.zero
  drainStart := none
  stopped := false
  events := []

/-- The log with one more event. -/
def emit (s : Scheduler) (e : Event) : Scheduler := { s with events := s.events ++ [e] }

/-- The status to be published. -/
def status (s : Scheduler) : Status where
  gate := s.gate
  queued := s.queue.length
  inFlight := s.inFlight.isSome
  tally := s.tally
  budgetUsed := s.budget.used

/-- Publishes the status. -/
def publish (s : Scheduler) : Scheduler := s.emit (.published s.status)

/-- Whether an item with this path and generation is in flight. -/
def isCurrent (s : Scheduler) (p : Path) (generation : Nat) : Bool :=
  s.queue.head?.any (·.path.sameAs p) && s.inFlight.any (·.generation == generation)

/-! ## Starting items -/

/-- The queue has run empty: the backends are released. -/
def drain (now : Nat) (s : Scheduler) : Scheduler :=
  match s.drainStart with
  | none => s
  | some start =>
    let tally := { s.tally with
      drains := s.tally.drains + 1
      lastDrain := some (Duration.ofMillis (now - start)) }
    { s.emit .released with tally := tally, drainStart := none }

/-- Starts an item. -/
def start (now : Nat) (s : Scheduler) (item : Item) : Scheduler :=
  let generation := s.generation + 1
  { s.emit (.started item generation s.budget.isExhausted) with
    drainStart := some (s.drainStart.getD now)
    generation := generation
    inFlight := some ⟨item.path, generation, none⟩ }

/-- Starts the item at the front of the queue, unless one is in flight. -/
def pump (now : Nat) (s : Scheduler) : Scheduler :=
  match s.inFlight, s.queue with
  | some _, _ => s
  | none, [] => s.drain now
  | none, item :: _ => s.start now item

/-- Appends an item to the queue; an empty queue is set going. -/
def push (now : Nat) (s : Scheduler) (item : Item) : Scheduler :=
  let s' := { s.emit (.queued item) with queue := s.queue ++ [item] }
  (if s.queue.isEmpty then s'.pump now else s').publish

/-- Appends a path to be looked at, unless it is excluded. -/
def submit (now : Nat) (s : Scheduler) (p : Path) : Scheduler :=
  if p.isExcluded s.excludedPrefixes then s else s.push now ⟨p, .examine⟩

/-! ## Finishing items -/

/-- The item in flight leaves the queue, and the next one is started. -/
def leave (now : Nat) (s : Scheduler) (outcome : Option Outcome) : Scheduler :=
  match s.inFlight, s.queue with
  | some current, item :: rest =>
    -- the timer of an item never outlives it
    let s := match current.timer with
      | some number => s.emit (.timerStopped number)
      | none => s
    let s := if outcome.isNone then s.emit (.aborted current.generation) else s
    let s := s.emit (.finished item current.generation outcome)
    let s := { s with
      inFlight := none
      queue := rest
      tally := { s.tally with processed := s.tally.processed + 1 } }
    (s.pump now).publish
  | _, _ => s

/-- Lets the item in flight leave the queue if it is the one meant; no outcome means that its
time ran out. -/
def advance (now : Nat) (s : Scheduler) (p : Path) (generation : Nat)
    (outcome : Option Outcome) : Scheduler :=
  if s.isCurrent p generation then s.leave now outcome else s

/-- Counts how an item ended; no outcome means that its time ran out.  An item that only led to
other items is not counted. -/
def count (s : Scheduler) : Option Outcome → Scheduler
  | none => { s with tally := { s.tally with timedOut := s.tally.timedOut + 1 } }
  | some (.expanded _) | some (.staleDescendants _) => s
  | some .removed => { s with tally := { s.tally with removed := s.tally.removed + 1 } }
  | some .rejected | some (.skipped _) =>
    { s with tally := { s.tally with skipped := s.tally.skipped + 1 } }
  | some (.annotated _) =>
    { s with
      tally := { s.tally with annotated := s.tally.annotated + 1 }
      budget := s.budget.spend }
  | some (.failed _) => { s with tally := { s.tally with failed := s.tally.failed + 1 } }

/-- What an outcome changes before its item leaves the queue. -/
def apply (now : Nat) (s : Scheduler) : Outcome → Scheduler
  | .expanded paths | .staleDescendants paths => paths.foldl (submit now) s
  | outcome => s.count (some outcome)

/-- An item completed. -/
def complete (now : Nat) (s : Scheduler) (p : Path) (generation : Nat) (outcome : Outcome) :
    Scheduler :=
  if s.isCurrent p generation then
    (s.apply now outcome).advance now p generation (some outcome)
  else s

/-- An item's time ran out. -/
def timeOut (now : Nat) (s : Scheduler) (p : Path) (generation : Nat) : Scheduler :=
  if s.isCurrent p generation then (s.count none).advance now p generation none else s

/-- Sets a timer for the item in flight, in the place of an earlier one. -/
def setTimer (s : Scheduler) (p : Path) (generation : Nat) : Scheduler :=
  let number := s.timers + 1
  let s' := s.emit (.timerSet p generation number)
  let s' := match s.inFlight.bind (·.timer) with
    | some previous => s'.emit (.timerStopped previous)
    | none => s'
  { s' with timers := number, inFlight := s.inFlight.map ({ · with timer := some number }) }

/-- The time of the item in flight starts to run. -/
def armTimeout (s : Scheduler) (p : Path) (generation : Nat) : Scheduler :=
  if s.isCurrent p generation then s.setTimer p generation else s

/-! ## Messages -/

/-- Everything is dropped and the backends are released. -/
def stop (s : Scheduler) : Scheduler :=
  let s := match s.inFlight with
    | none => s
    | some current =>
      let s := s.emit (.aborted current.generation)
      match current.timer with
      | some number => s.emit (.timerStopped number)
      | none => s
  { s with inFlight := none, queue := [], stopped := true }.emit .released |>.publish

/-- Handles one message at the time `now`, in milliseconds.  A stopped scheduler handles none. -/
def handle (now : Nat) (s : Scheduler) (m : Message) : Scheduler :=
  if s.stopped then s
  else match m with
    | .submit p => s.submit now p
    | .removeStale p => s.push now ⟨p, .removeStale⟩
    | .gate state => { s with gate := state }.publish
    | .armTimeout p generation => s.armTimeout p generation
    | .completed p generation outcome => s.complete now p generation outcome
    | .timedOut p generation => s.timeOut now p generation
    | .shutdown => s.stop

end Scheduler

end PictureIndex
