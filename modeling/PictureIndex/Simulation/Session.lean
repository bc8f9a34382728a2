import PictureIndex.FileTree.Edit
import PictureIndex.Simulation.World
import PictureIndex.Worker
/-!
# A simulated worker

The parties of a running worker side by side: the scheduler with its mailbox, the tasks of items,
the timers, the readiness gate and the watcher.  Each of the small steps below lets one of them
do one thing.  Time stands still while anything can be done and then jumps to the next moment at
which something is due (`run`).  All that is due at one moment is roused before the scheduler
looks into its mailbox again, in the order in which it fell asleep.
-/

namespace PictureIndex.Simulation

/-- What a task is doing. -/
inductive TaskState
  /-- It can go on. -/
  | ready (plan : Plan Outcome)
  /-- It has slept since a time and goes on at another. -/
  | waiting (since wake : Nat) (plan : Plan Outcome)
  /-- It waits for an answer that stays away. -/
  | stuck

/-- The task of an item. -/
structure Task where
  /-- Path of the item. -/
  path : Path
  /-- Generation of the item. -/
  generation : Nat
  /-- What the task is doing. -/
  state : TaskState

/-- A timer of an item. -/
structure Timer where
  /-- Path of the item. -/
  path : Path
  /-- Generation of the item. -/
  generation : Nat
  /-- Number of the timer. -/
  number : Nat
  /-- When the item's time began to run. -/
  since : Nat
  /-- When the item's time runs out. -/
  deadline : Nat
deriving DecidableEq, Repr

/-- A worker and its surroundings. -/
structure Session where
  /-- Clock, files, store and backends. -/
  world : World
  /-- What the tasks know of the configuration. -/
  pipeline : Pipeline
  /-- Time that an item has once its picture is decoded, in milliseconds. -/
  timeout : Nat
  /-- The scheduler. -/
  scheduler : Scheduler
  /-- Messages that the scheduler has not handled yet. -/
  mailbox : List Message
  /-- The status published last. -/
  status : Status
  /-- The tasks that live. -/
  tasks : List Task
  /-- The timers that run. -/
  timers : List Timer
  /-- The worker and its gate with the time of the next poll, until the gate arms or gives up. -/
  gate : Option (Worker × Gate × Nat)
  /-- The location of the watched tree, if there is a watcher. -/
  watching : Option Location
  /-- Paths of which the watcher is about to tell. -/
  changes : List Path

namespace Session

/-! ## Messages -/

/-- Whether the mailbox takes messages. -/
def isOpen (s : Session) : Bool := !s.scheduler.stopped

/-- Puts a message into the mailbox, if it is open. -/
def send (s : Session) (m : Message) : Session :=
  if s.isOpen then { s with mailbox := s.mailbox ++ [m] } else s

/-- Puts messages into the mailbox. -/
def sendAll (s : Session) (ms : List Message) : Session := ms.foldl send s

/-- Sends a message by a handle, which tells whether the mailbox took it. -/
def offer (s : Session) (m : Message) : Bool × Session := (s.isOpen, s.send m)

/-- Hands a path to the scheduler. -/
def enqueue (s : Session) (p : Path) : Bool × Session := s.offer (.submit p)

/-- Asks for the removal of a recorded path at which there is nothing any more. -/
def removeStale (s : Session) (p : Path) : Bool × Session := s.offer (.removeStale p)

/-- Disconnects the backends in use. -/
def release (s : Session) : Session :=
  { s with world := s.world.release s.pipeline.backends }

/-- The plan of an item. -/
def planOf (s : Session) (item : Item) (exhausted : Bool) : Plan Outcome :=
  match item.work with
  | .examine => s.pipeline.examine exhausted item.path
  | .removeStale => Pipeline.removeStale item.path

/-- Does what the scheduler asks for. -/
def act (s : Session) : Event → Session
  | .started item generation exhausted =>
    { s with tasks := s.tasks ++ [⟨item.path, generation, .ready (s.planOf item exhausted)⟩] }
  | .timerSet p generation number =>
    { s with timers := s.timers
        ++ [⟨p, generation, number, s.world.now, s.world.now + Wait.ofMillis s.timeout⟩] }
  | .timerStopped number => { s with timers := s.timers.filter (·.number != number) }
  | .aborted generation => { s with tasks := s.tasks.filter (·.generation != generation) }
  | .released => s.release
  | .published status => { s with status := status }
  | .queued _ | .finished _ _ _ => s

/-- Lets the scheduler handle a message. -/
def deliver (s : Session) (m : Message) : Session :=
  let after := { s.scheduler with events := [] }.handle s.world.now m
  after.events.foldl act { s with scheduler := { after with events := [] } }

/-- Lets the scheduler handle the oldest message in its mailbox. -/
def deliverOldest (s : Session) : Session :=
  match s.mailbox with
  | [] => s
  | m :: rest => { s with mailbox := if s.isOpen then rest else [] }.deliver m

/-! ## Tasks -/

/-- Lets a task that is ready do its next step: put one request, or report its outcome.  Tells
what becomes of the task. -/
def stepPlan (s : Session) (p : Path) (generation : Nat) : Plan Outcome → Session × Option TaskState
  | .done outcome => (s.send (.completed p generation outcome), none)
  | .ask r next =>
    let s := match r with
      | .arm => s.send (.armTimeout p generation)
      | _ => s
    match s.world.reply r with
    | (.answer a delay, world) =>
      ({ s with world := world },
        some (if delay = 0 then .ready (next a)
          else .waiting world.now (world.now + delay) (next a)))
    | (.never, world) => ({ s with world := world }, some .stuck)
    | (.lost, world) => ({ s with world := world }, none)

/-- The plan of a task that can do something now. -/
def Task.runnable? (now : Nat) (t : Task) : Option (Plan Outcome) :=
  match t.state with
  | .ready plan => some plan
  | .waiting _ wake plan => if wake ≤ now then some plan else none
  | .stuck => none

/-- Lets the task at a place of the list do its next step, if it can do something. -/
def stepTaskAt? (s : Session) (i : Nat) : Option Session := do
  let task ← s.tasks[i]?
  let plan ← Task.runnable? s.world.now task
  let (s, state?) := s.stepPlan task.path task.generation plan
  match state? with
  | some state => some { s with tasks := s.tasks.set i { task with state := state } }
  | none => some { s with tasks := s.tasks.eraseIdx i }

/-- Lets the first task that is awake do its next step. -/
def stepTask? (s : Session) : Option Session :=
  (s.tasks.findIdx? fun t => match t.state with | .ready _ => true | _ => false).bind s.stepTaskAt?

/-! ## Timers and the gate -/

/-- Lets the timer at a place of the list tell the scheduler, if it is due. -/
def fireTimerAt? (s : Session) (i : Nat) : Option Session := do
  let timer ← s.timers[i]?
  if s.world.now < timer.deadline then none
  else some ({ s with timers := s.timers.eraseIdx i }.send
    (.timedOut timer.path timer.generation))

/-- What happens when the gate arms. -/
def arm (s : Session) (w : Worker) : Session :=
  let watching :=
    if w.config.enableWatchers && s.world.files.isDirectory w.config.root then
      s.world.files.locate? .target w.config.root
    else none
  { s with gate := none, watching := watching }.sendAll
    (w.armed s.world.files s.world.recorded.toOption)

/-- Lets the gate poll, if its time has come. -/
def stepGate? (s : Session) : Option Session :=
  match s.gate with
  | none => none
  | some (w, g, wake) =>
    if s.world.now < wake then none
    else if g.backends.isEmpty then some (s.arm w)
    else
      let (g, poll) := g.poll s.world.isReady
      match poll with
      | .ready => some (s.arm w)
      | .failed _ => some ({ s with gate := none }.sendAll Worker.givenUp)
      | .retryAfter secs =>
        some { s with
          world := s.world.notifyRetry g.backends g.attempts
          gate := some (w, g, wake + Wait.ofMillis (secs * 1000)) }

/-! ## Running -/

/-- Number of steps after which a run is broken off. -/
def patience : Nat := 10000000

/-- Who sleeps until a moment. -/
inductive Sleeper
  /-- The task of a generation. -/
  | task (generation : Nat)
  /-- The timer of a number. -/
  | timer (number : Nat)
  /-- The gate. -/
  | gate
deriving DecidableEq, Repr

/-- Those who sleep, with the time since when and the time until when they do. -/
def sleepers (s : Session) : List (Nat × Nat × Sleeper) :=
  s.tasks.filterMap (fun t => match t.state with
      | .waiting since wake _ => some (since, wake, .task t.generation)
      | _ => none)
    ++ s.timers.map (fun t => (t.since, t.deadline, .timer t.number))
    -- nobody depends on when the gate fell asleep, so it comes last
    ++ (s.gate.map fun (_, _, wake) => (wake, wake, Sleeper.gate)).toList

/-- Those whose moment has come, in the order in which they fell asleep. -/
def due (s : Session) : List Sleeper :=
  ((s.sleepers.filter (·.2.1 ≤ s.world.now)).mergeSort (·.1 ≤ ·.1)).map (·.2.2)

/-- Lets the task of a generation go on until it has to wait. -/
def runTask (generation : Nat) : Nat → Session → Session
  | 0, s => s
  | fuel + 1, s =>
    match (s.tasks.findIdx? (·.generation == generation)).bind s.stepTaskAt? with
    | some s => runTask generation fuel s
    | none => s

/-- Rouses one whose moment has come. -/
def rouse (s : Session) : Sleeper → Session
  | .task generation => s.runTask generation patience
  | .timer number =>
    ((s.timers.findIdx? (·.number == number)).bind s.fireTimerAt?).getD s
  | .gate => s.stepGate?.getD s

/-- What happens next, if anything can happen now: first the scheduler looks into its mailbox,
then tasks that are awake go on, and then all whose moment has come are roused. -/
def step? (s : Session) : Option Session :=
  if !s.mailbox.isEmpty then some s.deliverOldest
  else s.stepTask? <|> if s.due.isEmpty then none else some (s.due.foldl rouse s)

/-- The moments at which something is due. -/
def moments (s : Session) : List Nat := s.sleepers.map (·.2.1)

/-- The session at a later time. -/
def atTime (s : Session) (now : Nat) : Session := { s with world := { s.world with now := now } }

/-- Why a run ended. -/
inductive End
  /-- The condition held. -/
  | found
  /-- The time was over. -/
  | limit
  /-- The scheduler had stopped. -/
  | stopped
deriving DecidableEq, Repr

/-- Runs until `goal` holds with an empty mailbox, or up to the time `limit`: what is due at that
very moment is left for the next run.  If `watchful`, the run also ends when the scheduler has
stopped. -/
def run (goal : Session → Bool) (watchful : Bool) (limit : Nat) : Nat → Session → Session × End
  | 0, s => (s, .limit)
  | fuel + 1, s =>
    if limit ≤ s.world.now then (s, .limit)
    else if s.mailbox.isEmpty && goal s then (s, .found)
    else if s.mailbox.isEmpty && watchful && !s.isOpen then (s, .stopped)
    else match s.step? with
      | some s => run goal watchful limit fuel s
      | none =>
        -- nobody can do anything now
        match s.moments.min? with
        | some next =>
          if next < limit then run goal watchful limit fuel (s.atTime (max next s.world.now))
          else (s.atTime limit, .limit)
        | none => (s.atTime limit, .limit)

/-- Lets everything run for some milliseconds. -/
def elapse (s : Session) (ms : Nat) : Session :=
  (run (fun _ => false) false (s.world.now + Wait.ofMillis ms) patience s).1

/-- Whether the published status is idle and tells of enough items. -/
def hasSettled (processed : Nat) (s : Session) : Bool :=
  s.status.isIdle && processed ≤ s.status.tally.processed

/-- Lets everything run until the status is idle with enough items processed. -/
def waitSettled (s : Session) (processed limit : Nat) : Session × End :=
  if s.hasSettled processed then (s, .found)
  else if !s.isOpen then (s, .stopped)
  else run (hasSettled processed) true (s.world.now + Wait.ofMillis limit) patience s

/-! ## The host -/

/-- A session whose scheduler runs alone, without gate. -/
def ofScheduler (world : World) (c : Config) (backends : Backends) : Session where
  world := world
  pipeline := Pipeline.ofConfig c backends
  timeout := c.annotationTimeoutSecs.toNat * 1000
  scheduler := Scheduler.new c.excludedPrefixes c.indexingLimit
  mailbox := []
  status := Status.initial
  tasks := []
  timers := []
  gate := none
  watching := none
  changes := []

/-- A session with a started worker. -/
def ofWorker (world : World) (w : Worker) : Session :=
  let first := if w.backends.isEmpty then 0 else w.gate.nextDelay * 1000
  { ofScheduler world w.config w.backends with gate := some (w, w.gate, world.now + first) }

/-- The host asks to stop: the gate and the watcher end at once, the scheduler when its turn
comes. -/
def shutdown (s : Session) : Session :=
  { s with gate := none, watching := none, changes := [] }.send .shutdown

/-- The watcher notes that something changed at a location. -/
def note (s : Session) (l : Option Location) : Session :=
  match s.watching, l with
  | some root, some l =>
    if root.isPrefixOf l && root ≠ l then { s with changes := s.changes ++ [FileTree.pathOf l] }
    else s
  | _, _ => s

/-- Another program changes the file system. -/
def edit (s : Session) (e : Edit) : Session :=
  let files := s.world.files.edit e
  { s with world := { s.world with files := files } }.note (s.world.files.noticed? files e)

/-- Lets the watcher tell of what it noted, and everything run until enough items have been
processed. -/
def watch (s : Session) (processed : Nat) : Session :=
  let change : Change := ⟨false, s.changes⟩
  let s := { s with changes := [] }.sendAll (change.submitted.map .submit)
  (run (fun s => processed ≤ s.status.tally.processed && s.status.isIdle) true
    (s.world.now + 60000) patience s).1

end Session

end PictureIndex.Simulation
