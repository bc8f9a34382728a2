import PictureIndex.Proofs.SchedulerOrder
import PictureIndex.Simulation.Session
/-!
# Everything that may happen side by side

In a session the scheduler, the tasks, the timers, the gate and the host act side by side.
`Session.run` lets them act in one order, which is that of a single processor that wakes sleepers
one after the other.  A promise to users must hold in any order.  So here a session takes *moves*:
at every point any party may do its next step, the host may send anything that hosts may send, and
the surroundings may become others, which includes that time passes.

The scheduler of a session forgets its log after each message.  What happened is kept beside the
session as a list of *deeds* (`Session.history`): the events of the scheduler, and the records that
tasks wrote.

The lemmas of this file turn a delivery into turns of the scheduler, each followed by what it asks
for (`deliver_eq_turns`, `turn_eq`), and a step of a task into one of four things (`Advance`).  The
last of them, `leadsTo_run`, says that `Session.run` takes moves, too.
-/

namespace PictureIndex

open Log

namespace Scheduler

variable {s : Scheduler} {now : Nat}

/-! ## The log plays no part -/

/-- The scheduler with an empty log. -/
def quiet (s : Scheduler) : Scheduler := { s with events := [] }

lemma leave_quiet (outcome : Option Outcome) :
    s.leave now outcome = { s.quiet.leave now outcome with
      events := s.events ++ (s.quiet.leave now outcome).events } := by
  obtain ⟨_, queue, flight, _, _, _, _, _, start, _, _⟩ := s
  rcases flight with _ | ⟨path, current, _ | timer⟩ <;>
    rcases queue with _ | ⟨item, _ | ⟨front, rest⟩⟩ <;> rcases start with _ | start <;>
    cases outcome <;> simp [quiet, leave, pump, Scheduler.start, drain, publish, emit, status]

/-- A turn adds to the log what it would write into an empty one. -/
lemma turn_quiet (now : Nat) (s : Scheduler) (t : Turn) :
    s.turn now t =
      { s.quiet.turn now t with events := s.events ++ (s.quiet.turn now t).events } := by
  cases t with
  | join item =>
    obtain ⟨_, queue, flight, _, _, _, _, _, start, _, _⟩ := s
    rcases queue with _ | ⟨front, rest⟩ <;> rcases flight with _ | ⟨path, current, timer⟩ <;>
      rcases start with _ | start <;>
      simp [turn, quiet, push, pump, Scheduler.start, publish, emit, status]
  | arm p generation =>
    obtain ⟨_, _, flight, _, _, _, _, _, _, _, _⟩ := s
    rcases flight with _ | ⟨path, current, _ | timer⟩ <;> simp [turn, quiet, setTimer, emit]
  | tell state => simp [turn, quiet, publish, emit, status]
  | leave outcome =>
    have hcount : s.quiet.count outcome = (s.count outcome).quiet := by
      rcases outcome with _ | (_ | _ | _ | _ | _ | _ | _) <;> rfl
    have hevents : (s.count outcome).events = s.events := by rw [count_eq]
    rw [turn, turn, hcount, leave_quiet, hevents]

lemma turnAll_quiet (now : Nat) (s : Scheduler) (ts : List Turn) :
    s.turnAll now ts =
      { s.quiet.turnAll now ts with events := s.events ++ (s.quiet.turnAll now ts).events } := by
  induction ts generalizing s with
  | nil => simp [quiet]
  | cons t ts ih =>
    have hquiet : (s.turn now t).quiet = (s.quiet.turn now t).quiet := by rw [turn_quiet]; rfl
    have hevents : (s.turn now t).events = s.events ++ (s.quiet.turn now t).events := by
      rw [turn_quiet]
    rw [turnAll_cons, ih, hquiet, hevents, turnAll_cons, ih (s.quiet.turn now t),
      List.append_assoc]

lemma fitAll_quiet {ts : List Turn} : FitAll now s.quiet ts ↔ FitAll now s ts := by
  induction ts generalizing s with
  | nil => rfl
  | cons t ts ih =>
    have hquiet : (s.turn now t).quiet = (s.quiet.turn now t).quiet := by rw [turn_quiet]; rfl
    have hfits : t.Fits s.quiet ↔ t.Fits s := by cases t <;> rfl
    rw [FitAll, FitAll, hfits, ← ih (s := s.turn now t), hquiet, ih]

lemma handle_of_stopped (hs : s.stopped = true) (now : Nat) (m : Message) :
    s.handle now m = s := by
  simp [handle, hs]

end Scheduler

/-- The path and the generation of the item that a message is about.  Only tasks and timers send
such messages, not hosts, sweeps and the gate. -/
def Message.about? : Message → Option (Path × Nat)
  | .armTimeout p generation | .completed p generation _ | .timedOut p generation =>
    some (p, generation)
  | .submit _ | .removeStale _ | .gate _ | .shutdown => none

/-- Whether a message ends an item of a generation with an outcome, or because its time ran out. -/
def Message.Ends (generation : Nat) : Message → Option Outcome → Prop
  | .completed _ generation' outcome', outcome => generation' = generation ∧ outcome = some outcome'
  | .timedOut _ generation', outcome => generation' = generation ∧ outcome = none
  | _, _ => False

namespace Simulation

/-! ## Moves and deeds -/

/-- What may happen next in a session. -/
inductive Move
  /-- The scheduler handles the oldest message in its mailbox. -/
  | deliver
  /-- The task at a place of the list does its next step, if it can do something. -/
  | task (i : Nat)
  /-- The timer at a place of the list tells the scheduler, if it is due. -/
  | timer (i : Nat)
  /-- The gate polls, if its time has come. -/
  | gate
  /-- A message is sent from outside. -/
  | send (m : Message)
  /-- Clock, files, store, backends and decoder become others. -/
  | become (w : World)

/-- Whether a move is one that can happen: nobody outside speaks for a task or a timer. -/
def Move.Legal : Move → Prop
  | .send m => m.about? = none
  | _ => True

instance (v : Move) : Decidable v.Legal :=
  match v with
  | .send m => inferInstanceAs (Decidable (m.about? = none))
  | .deliver | .task _ | .timer _ | .gate | .become _ => .isTrue trivial

/-- What happened. -/
inductive Deed
  /-- An event of the scheduler. -/
  | event (e : Event)
  /-- The task of a generation wrote a record into the store. -/
  | wrote (generation : Nat) (r : Record)

namespace Deed

/-- The scheduler's log. -/
def log (deeds : List Deed) : List Event :=
  deeds.filterMap fun | .event e => some e | _ => none

/-- The records written, each with the generation of the item. -/
def writes (deeds : List Deed) : List (Nat × Record) :=
  deeds.filterMap fun | .wrote generation r => some (generation, r) | _ => none

variable (deeds deeds' : List Deed) (events : List Event)

@[simp] lemma log_nil : log [] = [] := rfl

@[simp] lemma writes_nil : writes [] = [] := rfl

@[simp] lemma log_append : log (deeds ++ deeds') = log deeds ++ log deeds' :=
  List.filterMap_append

@[simp] lemma writes_append : writes (deeds ++ deeds') = writes deeds ++ writes deeds' :=
  List.filterMap_append

@[simp] lemma log_events : log (events.map .event) = events := by
  induction events with
  | nil => rfl
  | cons e events ih => exact congrArg (e :: ·) ih

@[simp] lemma writes_events : writes (events.map .event) = [] := by
  induction events with
  | nil => rfl
  | cons e events ih => exact ih

end Deed

/-- Disconnecting backends is a call of each. -/
lemma World.release_eq (w : World) (b : Backends) :
    w.release b = { w with calls := w.calls ++ b.kinds.map .release } := by
  have hfold (kinds : List BackendKind) (w : World) :
      kinds.foldl (fun w k => w.log (.release k)) w =
        { w with calls := w.calls ++ kinds.map .release } := by
    induction kinds generalizing w with
    | nil => rw [List.foldl_nil, List.map_nil, List.append_nil]
    | cons k kinds ih =>
      rw [List.foldl_cons, ih, List.map_cons, List.append_cons]
      rfl
  exact hfold b.kinds w

/-- A notice of a retry is a call of the classifier, if that is in use. -/
lemma World.notifyRetry_eq (w : World) (b : Backends) (attempt : Nat) :
    w.notifyRetry b attempt =
      { w with calls := w.calls ++ if b.contentClassifier then [.retry attempt] else [] } := by
  rw [notifyRetry]
  split
  · rfl
  · rw [List.append_nil]

namespace Session

open Scheduler (Turn Shift FitAll farewell fitAll_quiet)

variable {s : Session}

/-- The session after a move. -/
def move (s : Session) : Move → Session
  | .deliver => s.deliverOldest
  | .task i => (s.stepTaskAt? i).getD s
  | .timer i => (s.fireTimerAt? i).getD s
  | .gate => s.stepGate?.getD s
  | .send m => s.send m
  | .become w => { s with world := w }

/-- The record that a task writes next, if its next step is to write one and the store takes it. -/
def written? (s : Session) (task : Task) : Option Record :=
  match Task.runnable? s.world.now task with
  | some (.ask (.insert r) _) => (s.world.update .insert (·.insert r)).1.toOption.map fun _ => r
  | _ => none

/-- What happens in a move. -/
def deeds (s : Session) : Move → List Deed
  | .deliver =>
    match s.mailbox with
    | [] => []
    | m :: _ => (s.scheduler.quiet.handle s.world.now m).events.map .event
  | .task i =>
    match s.tasks[i]? with
    | some task => (s.written? task).toList.map (.wrote task.generation)
    | none => []
  | _ => []

/-- The session after some moves. -/
def moveAll (s : Session) (vs : List Move) : Session := vs.foldl move s

/-- What happened in some moves. -/
def history : Session → List Move → List Deed
  | _, [] => []
  | s, v :: vs => s.deeds v ++ history (s.move v) vs

@[simp] lemma moveAll_nil : s.moveAll [] = s := rfl

@[simp] lemma moveAll_cons (v : Move) (vs : List Move) :
    s.moveAll (v :: vs) = (s.move v).moveAll vs := rfl

lemma history_append (vs vs' : List Move) :
    s.history (vs ++ vs') = s.history vs ++ (s.moveAll vs).history vs' := by
  induction vs generalizing s with
  | nil => rfl
  | cons v vs ih =>
    rw [List.cons_append, history, history, ih, List.append_assoc]
    rfl

/-- What every move of some kind keeps, such moves in a row keep. -/
lemma moveAll_induction {P : Session → List Deed → Prop} {Q : Move → Prop}
    (hstep : ∀ s deeds v, Q v → P s deeds → P (s.move v) (deeds ++ s.deeds v))
    {vs : List Move} (hvs : ∀ v ∈ vs, Q v) (deeds : List Deed) (h : P s deeds) :
    P (s.moveAll vs) (deeds ++ s.history vs) := by
  induction vs generalizing s deeds with
  | nil => simpa [history] using h
  | cons v vs ih =>
    obtain ⟨hv, hvs⟩ := List.forall_mem_cons.mp hvs
    rw [moveAll_cons, history, ← List.append_assoc]
    exact ih hvs _ (hstep s deeds v hv h)

/-! ## Moves in a row -/

section

variable {Q R : Session → Move → Prop} {vs vs' : List Move} {deeds : List Deed}

/-- Whether each of some moves is of a kind when its turn comes. -/
def Along (Q : Session → Move → Prop) : Session → List Move → Prop
  | _, [] => True
  | s, v :: vs => Q s v ∧ Along Q (s.move v) vs

instance [∀ s v, Decidable (Q s v)] : (s : Session) → (vs : List Move) → Decidable (Along Q s vs)
  | _, [] => .isTrue trivial
  | s, v :: vs =>
    have := instDecidableAlong (s.move v) vs
    inferInstanceAs (Decidable (Q s v ∧ Along Q (s.move v) vs))

lemma along_append :
    Along Q s (vs ++ vs') ↔ Along Q s vs ∧ Along Q (s.moveAll vs) vs' := by
  induction vs generalizing s with
  | nil => simp [Along]
  | cons v vs ih => simp [Along, ih, and_assoc]

lemma Along.mono (himp : ∀ s v, Q s v → R s v) (h : Along Q s vs) : Along R s vs := by
  induction vs generalizing s with
  | nil => trivial
  | cons v vs ih => exact ⟨himp s v h.1, ih h.2⟩

/-- Each move can be looked at on its own, with those before it. -/
lemma along_iff :
    Along Q s vs ↔ ∀ us v ws, vs = us ++ v :: ws → Q (s.moveAll us) v := by
  induction vs generalizing s with
  | nil => simp [Along]
  | cons v vs ih =>
    rw [Along, ih]
    constructor
    · rintro ⟨hfirst, hrest⟩ us v' ws hvs
      cases us with
      | nil =>
        obtain ⟨rfl, -⟩ := List.cons.inj hvs
        exact hfirst
      | cons u us =>
        obtain ⟨rfl, rfl⟩ := List.cons.inj hvs
        exact hrest us v' ws rfl
    · intro hall
      refine ⟨hall [] v vs rfl, fun us v' ws hvs => ?_⟩
      exact hall (v :: us) v' ws (by rw [hvs, List.cons_append])

/-- It can be told of each move which one it is. -/
lemma Along.located (h : Along Q s vs) :
    Along (fun s' v => Q s' v ∧ ∃ us ws, vs = us ++ v :: ws ∧ s' = s.moveAll us) s vs :=
  along_iff.mpr fun us v ws hvs => ⟨along_iff.mp h us v ws hvs, us, ws, hvs, rfl⟩

/-- What moves of some kind keep is kept by such moves in a row, and whatever it says of the next
move holds of each of them. -/
lemma Along.induction {P : Session → List Deed → Prop} (h : Along Q s vs)
    (hstep : ∀ s deeds v, Q s v → P s deeds → P (s.move v) (deeds ++ s.deeds v) ∧ R s v)
    (hP : P s deeds) : P (s.moveAll vs) (deeds ++ s.history vs) ∧ Along R s vs := by
  induction vs generalizing s deeds with
  | nil => simpa [history, Along] using hP
  | cons v vs ih =>
    obtain ⟨hnext, hnow⟩ := hstep s deeds v h.1 hP
    obtain ⟨hend, hlater⟩ := ih h.2 hnext
    rw [moveAll_cons, history, ← List.append_assoc]
    exact ⟨hend, hnow, hlater⟩

end

/-! ## What the scheduler asks for -/

section

variable (log : List Event)

lemma foldl_act_scheduler (next : Scheduler) :
    log.foldl act { s with scheduler := next } = { log.foldl act s with scheduler := next } := by
  induction log generalizing s with
  | nil => rfl
  | cons e log ih =>
    rw [List.foldl_cons, List.foldl_cons, ← ih]
    cases e <;> rfl

/-- Doing what the scheduler asks for changes neither the scheduler nor its mailbox. -/
lemma foldl_act_frame :
    (log.foldl act s).scheduler = s.scheduler ∧ (log.foldl act s).mailbox = s.mailbox ∧
      (log.foldl act s).pipeline = s.pipeline ∧ (log.foldl act s).timeout = s.timeout := by
  induction log generalizing s with
  | nil => exact ⟨rfl, rfl, rfl, rfl⟩
  | cons e log ih =>
    rw [List.foldl_cons]
    refine ⟨ih.1.trans ?_, ih.2.1.trans ?_, ih.2.2.1.trans ?_, ih.2.2.2.trans ?_⟩ <;>
      cases e <;> rfl

lemma release_world : ∃ calls, s.release.world = { s.world with calls := calls } :=
  ⟨_, s.world.release_eq s.pipeline.backends⟩

/-- Doing what the scheduler asks for changes the world only in the log of its calls. -/
lemma foldl_act_world : ∃ calls, (log.foldl act s).world = { s.world with calls := calls } := by
  induction log generalizing s with
  | nil => exact ⟨_, rfl⟩
  | cons e log ih =>
    rw [List.foldl_cons]
    obtain ⟨calls, hcalls⟩ := ih (s := s.act e)
    rw [hcalls]
    cases e with
    | released =>
      obtain ⟨calls', hcalls'⟩ := release_world (s := s)
      exact ⟨calls, by rw [act, hcalls']⟩
    | _ => exact ⟨calls, rfl⟩

lemma foldl_act_now : (log.foldl act s).world.now = s.world.now := by
  obtain ⟨calls, hcalls⟩ := foldl_act_world (s := s) log
  rw [hcalls]

end

/-- The session after a turn of its scheduler, which does not look at the mailbox. -/
def turn (s : Session) (t : Turn) : Session :=
  let after := s.scheduler.quiet.turn s.world.now t
  after.events.foldl act { s with scheduler := after.quiet }

lemma turn_scheduler (t : Turn) :
    (s.turn t).scheduler = (s.scheduler.quiet.turn s.world.now t).quiet :=
  (foldl_act_frame _).1

lemma turn_now (t : Turn) : (s.turn t).world.now = s.world.now :=
  foldl_act_now _

/-- Letting the scheduler take turns and then doing what it asked for is doing what it asks for
after each turn. -/
lemma foldl_act_turnAll (ts : List Turn) (hlog : s.scheduler.quiet = s.scheduler) :
    (s.scheduler.turnAll s.world.now ts).events.foldl act
        { s with scheduler := (s.scheduler.turnAll s.world.now ts).quiet } =
      ts.foldl turn s := by
  induction ts generalizing s with
  | nil =>
    have hevents : s.scheduler.events = [] := congrArg Scheduler.events hlog.symm
    simp [hlog, hevents]
  | cons t ts ih =>
    have hnext : (s.turn t).scheduler = (s.scheduler.turn s.world.now t).quiet := by
      rw [turn_scheduler, hlog]
    have hrest := ih (s := s.turn t) (by rw [hnext]; rfl)
    rw [turn_now, hnext] at hrest
    rw [List.foldl_cons, ← hrest, Scheduler.turnAll_cons, Scheduler.turnAll_quiet,
      List.foldl_append, turn, hlog]
    -- what was asked for first does not depend on what the scheduler does afterwards
    rw [← foldl_act_scheduler]
    rfl

lemma foldl_turn_frame (ts : List Turn) (hlog : s.scheduler.quiet = s.scheduler) :
    (ts.foldl turn s).scheduler = (s.scheduler.turnAll s.world.now ts).quiet ∧
      (ts.foldl turn s).mailbox = s.mailbox ∧ (ts.foldl turn s).world.now = s.world.now := by
  rw [← foldl_act_turnAll ts hlog]
  exact ⟨(foldl_act_frame _).1, (foldl_act_frame _).2.1, foldl_act_now _⟩

lemma deliver_eq_turns (hs : s.scheduler.stopped = false)
    (hlog : s.scheduler.quiet = s.scheduler) {m : Message} (hm : m ≠ .shutdown) :
    s.deliver m = (s.scheduler.turns m).foldl turn s := by
  rw [← foldl_act_turnAll _ hlog, ← Scheduler.handle_eq_turns hs hm]
  conv_rhs => rw [← hlog]
  rfl

/-- What taking leave of an item does: its timer is stopped, and its task is aborted if its time
ran out. -/
lemma foldl_act_farewell (c : InFlight) (outcome : Option Outcome) :
    (farewell c outcome).foldl act s = { s with
      timers := s.timers.filter fun t => c.timer.all (t.number != ·)
      tasks := if outcome.isNone then s.tasks.filter (·.generation != c.generation)
        else s.tasks } := by
  obtain ⟨path, generation, timer⟩ := c
  cases timer <;> cases outcome <;> simp [farewell, act]

/-- What a turn of the scheduler adds to the deeds. -/
def said (s : Session) (t : Turn) : List Deed :=
  (s.scheduler.quiet.turn s.world.now t).events.map .event

/-- A fitting turn of a session is a turn of its scheduler, and what this asks for is done. -/
lemma turn_eq (h : s.scheduler.Coherent) (hlog : s.scheduler.quiet = s.scheduler) {t : Turn}
    (ht : t.Fits s.scheduler) :
    ∃ log next, Shift s.world.now s.scheduler t log next ∧ next.quiet = next ∧
      s.said t = log.map .event ∧ s.turn t = log.foldl act { s with scheduler := next } := by
  obtain ⟨log, next, hshift, hturn⟩ := h.shift s.world.now ht
  have hevents : s.scheduler.events = [] := congrArg Scheduler.events hlog.symm
  have hnext : next.quiet = next := by
    cases hshift <;> rename_i hs <;> rw [hs] <;> simp [Scheduler.quiet, hevents]
  rw [hevents, List.nil_append] at hturn
  refine ⟨log, next, hshift, hnext, by rw [said, hlog, hturn], ?_⟩
  rw [turn, hlog, hturn]
  exact congrArg (fun x => log.foldl act { s with scheduler := x }) hnext

/-! ## The steps of the parties -/

/-- Those of some messages that get into the mailbox: all, until it is closed. -/
def entering (s : Session) (ms : List Message) : List Message := if s.isOpen then ms else []

lemma send_eq (m : Message) : s.send m = { s with mailbox := s.mailbox ++ s.entering [m] } := by
  rw [send, entering]
  split <;> simp

lemma sendAll_eq (ms : List Message) :
    s.sendAll ms = { s with mailbox := s.mailbox ++ s.entering ms } := by
  induction ms generalizing s with
  | nil => simp [sendAll, entering]
  | cons m ms ih =>
    have hcons : s.sendAll (m :: ms) = (s.send m).sendAll ms := rfl
    have hopen : (s.send m).entering ms = s.entering ms := by rw [send_eq]; rfl
    rw [hcons, ih, hopen, send_eq]
    cases hs : s.isOpen <;> simp [entering, hs]

end Session

/-- How a task goes on, unless it is stuck. -/
def TaskState.plan? : TaskState → Option (Plan Outcome)
  | .ready plan | .waiting _ _ plan => some plan
  | .stuck => none

/-- What a task sends along with a request. -/
def Task.tells (task : Task) : Request → List Message
  | .arm => [.armTimeout task.path task.generation]
  | _ => []

namespace Session

open Scheduler (Turn Shift FitAll farewell fitAll_quiet)

variable {s : Session}

/-- What the step of a task that can do something makes of its session. -/
inductive Advance (s : Session) (i : Nat) (task : Task) : Session → Prop
  /-- It reports its outcome and is gone. -/
  | report (outcome : Outcome) (hplan : task.state.plan? = some (.done outcome)) :
      Advance s i task { s with
        mailbox := s.mailbox ++ s.entering [.completed task.path task.generation outcome]
        tasks := s.tasks.eraseIdx i }
  /-- It gets an answer, for which it may have to wait. -/
  | answered (r : Request) (next : r.Answer → Plan Outcome) (a : r.Answer) (delay : Nat)
      (w : World) (state : TaskState) (hplan : task.state.plan? = some (.ask r next))
      (hreply : s.world.reply r = (.answer a delay, w)) (hstate : state.plan? = some (next a)) :
      Advance s i task { s with
        mailbox := s.mailbox ++ s.entering (task.tells r)
        world := w
        tasks := s.tasks.set i { task with state := state } }
  /-- It gets stuck. -/
  | hang (r : Request) (next : r.Answer → Plan Outcome) (w : World)
      (hplan : task.state.plan? = some (.ask r next)) (hreply : s.world.reply r = (.never, w)) :
      Advance s i task { s with
        mailbox := s.mailbox ++ s.entering (task.tells r)
        world := w
        tasks := s.tasks.set i { task with state := .stuck } }
  /-- It is lost. -/
  | die (r : Request) (next : r.Answer → Plan Outcome) (w : World)
      (hplan : task.state.plan? = some (.ask r next)) (hreply : s.world.reply r = (.lost, w)) :
      Advance s i task { s with
        mailbox := s.mailbox ++ s.entering (task.tells r)
        world := w
        tasks := s.tasks.eraseIdx i }

lemma runnable_plan {now : Nat} {task : Task} {plan : Plan Outcome}
    (h : Task.runnable? now task = some plan) : task.state.plan? = some plan := by
  obtain ⟨path, generation, _ | _ | _⟩ := task <;> simp_all [Task.runnable?, TaskState.plan?]

/-- The request that a move puts, with the task that puts it. -/
def put? (s : Session) : Move → Option (Task × Request)
  | .task i =>
    (s.tasks[i]?).bind fun task =>
      match Task.runnable? s.world.now task with
      | some (.ask r _) => some (task, r)
      | _ => none
  | _ => none

lemma put?_task {i : Nat} {task : Task} {r : Request} {next : r.Answer → Plan Outcome}
    (htask : s.tasks[i]? = some task)
    (hrun : Task.runnable? s.world.now task = some (.ask r next)) :
    s.put? (.task i) = some (task, r) := by
  simp [put?, htask, hrun]

/-- The task that puts a request has it before it. -/
lemma plan_of_put? {v : Move} {task : Task} {r : Request} (h : s.put? v = some (task, r)) :
    ∃ i next, v = .task i ∧ s.tasks[i]? = some task ∧
      Task.runnable? s.world.now task = some (.ask r next) := by
  cases v with
  | task i =>
    obtain ⟨task', htask, hput⟩ := Option.bind_eq_some_iff.mp h
    split at hput
    · rename_i r' next hrun
      obtain ⟨rfl, rfl⟩ := Prod.mk.inj (Option.some.inj hput)
      exact ⟨i, next, rfl, htask, hrun⟩
    · exact nomatch hput
  | _ => exact nomatch h

lemma stepPlan_ask (task : Task) (r : Request) (next : r.Answer → Plan Outcome) :
    s.stepPlan task.path task.generation (.ask r next) =
      let told := { s with mailbox := s.mailbox ++ s.entering (task.tells r) }
      match s.world.reply r with
      | (.answer a delay, w) => ({ told with world := w },
          some (if delay = 0 then .ready (next a) else .waiting w.now (w.now + delay) (next a)))
      | (.never, w) => ({ told with world := w }, some .stuck)
      | (.lost, w) => ({ told with world := w }, none) := by
  have htold (hr : task.tells r = []) :
      { s with mailbox := s.mailbox ++ s.entering (task.tells r) } = s := by
    simp [hr, entering]
  cases r with
  | arm =>
    rw [stepPlan, send_eq]
    rfl
  | _ => rw [htold rfl]; rfl

lemma advance_of_runnable {i : Nat} {task : Task} {plan : Plan Outcome}
    (htask : s.tasks[i]? = some task) (hrun : Task.runnable? s.world.now task = some plan) :
    Advance s i task (s.move (.task i)) := by
  have hplan := runnable_plan hrun
  simp only [move, stepTaskAt?, htask, hrun, Option.bind_eq_bind, Option.bind_some]
  cases plan with
  | done outcome =>
    rw [stepPlan, send_eq]
    exact Advance.report outcome hplan
  | ask r next =>
    rw [stepPlan_ask]
    rcases hreply : s.world.reply r with ⟨⟨a, delay⟩ | _ | _, w⟩
    · have hstate : (if delay = 0 then TaskState.ready (next a)
          else .waiting w.now (w.now + delay) (next a)).plan? = some (next a) := by
        split <;> rfl
      exact Advance.answered r next a delay w _ hplan hreply hstate
    · exact Advance.hang r next w hplan hreply
    · exact Advance.die r next w hplan hreply

/-- The move of a task does nothing at all, or is a step of the task, which may write a record. -/
lemma move_task (s : Session) (i : Nat) :
    (s.move (.task i) = s ∧ s.deeds (.task i) = []) ∨
      ∃ task plan, s.tasks[i]? = some task ∧ Task.runnable? s.world.now task = some plan ∧
        Advance s i task (s.move (.task i)) ∧
        s.deeds (.task i) = (s.written? task).toList.map (.wrote task.generation) := by
  cases htask : s.tasks[i]? with
  | none => exact .inl ⟨by simp [move, stepTaskAt?, htask], by simp [deeds, htask]⟩
  | some task =>
    cases hrun : Task.runnable? s.world.now task with
    | none =>
      exact .inl ⟨by simp [move, stepTaskAt?, htask, hrun], by simp [deeds, htask, written?, hrun]⟩
    | some plan =>
      exact .inr ⟨task, plan, rfl, hrun, advance_of_runnable htask hrun, by simp [deeds, htask]⟩

/-- The move of a timer does nothing at all, or lets the timer tell the scheduler and be gone. -/
lemma move_timer (s : Session) (i : Nat) :
    s.move (.timer i) = s ∨ ∃ timer, s.timers[i]? = some timer ∧
      s.move (.timer i) =
        { s with timers := s.timers.eraseIdx i }.send (.timedOut timer.path timer.generation) := by
  cases htimer : s.timers[i]? with
  | none => exact .inl (by simp [move, fireTimerAt?, htimer])
  | some timer =>
    by_cases hdue : s.world.now < timer.deadline
    · exact .inl (by simp [move, fireTimerAt?, htimer, hdue])
    · exact .inr ⟨timer, rfl, by simp [move, fireTimerAt?, htimer, hdue]⟩

lemma armed_about (w : Worker) (t : FileTree) (recorded : Option (List String)) :
    ∀ m ∈ w.armed t recorded, m.about? = none := by
  intro m hm
  rcases List.mem_cons.mp hm with rfl | hm
  · rfl
  rcases List.mem_cons.mp hm with rfl | hm
  · rfl
  · obtain ⟨p, -, rfl⟩ := List.mem_map.mp hm
    rfl

/-- The gate sends messages from outside; apart from that it is busy with itself. -/
lemma move_gate (s : Session) :
    ∃ gate watching calls ms, (∀ m ∈ ms, Message.about? m = none) ∧
      s.move .gate = { s with
          gate := gate
          watching := watching
          world := { s.world with calls := calls } }.sendAll ms := by
  have hidle : ∃ gate watching calls ms, (∀ m ∈ ms, Message.about? m = none) ∧
      s = { s with
        gate := gate, watching := watching, world := { s.world with calls := calls } }.sendAll ms :=
    ⟨s.gate, s.watching, s.world.calls, [], by simp, rfl⟩
  rw [move, stepGate?]
  rcases s.gate with _ | ⟨w, g, wake⟩
  · exact hidle
  · simp only
    split
    · exact hidle
    · split
      · exact ⟨_, _, s.world.calls, _, armed_about _ _ _, rfl⟩
      · rcases g.poll s.world.isReady with ⟨g', poll⟩
        cases poll with
        | ready => exact ⟨_, _, s.world.calls, _, armed_about _ _ _, rfl⟩
        | failed =>
          exact ⟨_, _, s.world.calls, Worker.givenUp, by simp [Worker.givenUp, Message.about?], rfl⟩
        | retryAfter secs =>
          -- only of this poll may the classifier be told
          let later := some (w, g', wake + Wait.ofMillis (secs * 1000))
          rw [World.notifyRetry_eq]
          exact ⟨later, s.watching, _, [], by simp, rfl⟩

/-- What comes from outside are messages that are about no item. -/
lemma move_outside (s : Session) {v : Move} (hlegal : v.Legal)
    (hv : v = .gate ∨ ∃ m, v = .send m) :
    ∃ gate watching calls ms, (∀ m ∈ ms, Message.about? m = none) ∧
      s.move v = { s with
          gate := gate
          watching := watching
          world := { s.world with calls := calls } }.sendAll ms := by
  rcases hv with rfl | ⟨m, rfl⟩
  · exact move_gate s
  · have hm : ∀ m' ∈ [m], m'.about? = none := List.forall_mem_singleton.mpr hlegal
    exact ⟨s.gate, s.watching, s.world.calls, [m], hm, rfl⟩

/-- Apart from deliveries, no move concerns the scheduler, the published status or what tasks know
of the configuration.  Mail only grows; tasks and timers change by their own moves, and so does the
gate. -/
lemma move_eq {v : Move} (hv : v ≠ .deliver) :
    ∃ world more tasks timers gate watching,
      s.move v = { s with
        world := world, mailbox := s.mailbox ++ more, tasks := tasks, timers := timers
        gate := gate, watching := watching } ∧
      ((∀ i, v ≠ .task i) → tasks = s.tasks) ∧ ((∀ i, v ≠ .timer i) → timers = s.timers) ∧
      (v ≠ .gate → gate = s.gate) := by
  have hself : s = { s with mailbox := s.mailbox ++ [] } := by rw [List.append_nil]
  cases v with
  | deliver => exact absurd rfl hv
  | task i =>
    rcases move_task s i with ⟨hmove, -⟩ | ⟨task, plan, -, -, hadvance, -⟩
    · exact ⟨_, _, _, _, _, _, hmove.trans hself, fun _ => rfl, fun _ => rfl, fun _ => rfl⟩
    · generalize s.move (.task i) = s' at hadvance
      cases hadvance <;>
        exact ⟨_, _, _, _, _, _, rfl, fun h => absurd rfl (h i), fun _ => rfl, fun _ => rfl⟩
  | timer i =>
    rcases move_timer s i with hmove | ⟨timer, -, hmove⟩
    · exact ⟨_, _, _, _, _, _, hmove.trans hself, fun _ => rfl, fun _ => rfl, fun _ => rfl⟩
    · rw [hmove, send_eq]
      exact ⟨_, _, _, _, _, _, rfl, fun _ => rfl, fun h => absurd rfl (h i), fun _ => rfl⟩
  | gate =>
    obtain ⟨gate, watching, calls, ms, -, hmove⟩ := move_gate s
    rw [hmove, sendAll_eq]
    exact ⟨_, _, _, _, _, _, rfl, fun _ => rfl, fun _ => rfl, fun h => absurd rfl h⟩
  | send m =>
    rw [move, send_eq]
    exact ⟨_, _, _, _, _, _, rfl, fun _ => rfl, fun _ => rfl, fun _ => rfl⟩
  | become w =>
    exact ⟨w, [], _, _, _, _, congrArg (fun s => { s with world := w }) hself, fun _ => rfl,
      fun _ => rfl, fun _ => rfl⟩

/-! ## The run of a session -/

/-- One session leads to another by legal moves. -/
def LeadsTo (s s' : Session) : Prop := ∃ vs : List Move, (∀ v ∈ vs, v.Legal) ∧ s.moveAll vs = s'

lemma LeadsTo.refl (s : Session) : s.LeadsTo s := ⟨[], by simp, rfl⟩

lemma LeadsTo.trans {s' s'' : Session} (h : s.LeadsTo s') (h' : s'.LeadsTo s'') :
    s.LeadsTo s'' := by
  obtain ⟨vs, hvs, rfl⟩ := h
  obtain ⟨vs', hvs', rfl⟩ := h'
  refine ⟨vs ++ vs', fun v hv => ?_, List.foldl_append⟩
  rcases List.mem_append.mp hv with hv | hv
  · exact hvs v hv
  · exact hvs' v hv

lemma leadsTo_move {v : Move} (hv : v.Legal) : s.LeadsTo (s.move v) :=
  ⟨[v], by simpa using hv, rfl⟩

lemma leadsTo_of_task {s' : Session} {i : Nat} (h : s.stepTaskAt? i = some s') : s.LeadsTo s' := by
  have hmove : s.move (.task i) = s' := by rw [move, h]; rfl
  exact hmove ▸ leadsTo_move trivial

lemma leadsTo_runTask (generation fuel : Nat) : s.LeadsTo (s.runTask generation fuel) := by
  induction fuel generalizing s with
  | zero => exact .refl s
  | succ fuel ih =>
    rw [runTask]
    split
    · rename_i s' hstep
      obtain ⟨i, -, htask⟩ := Option.bind_eq_some_iff.mp hstep
      exact (leadsTo_of_task htask).trans ih
    · exact .refl s

lemma leadsTo_rouse (sleeper : Sleeper) : s.LeadsTo (s.rouse sleeper) := by
  cases sleeper with
  | task generation => exact leadsTo_runTask generation patience
  | timer number =>
    rw [rouse]
    cases s.timers.findIdx? (·.number == number) with
    | none => exact .refl s
    | some i => exact leadsTo_move (v := .timer i) trivial
  | gate => exact leadsTo_move (v := .gate) trivial

lemma leadsTo_foldl_rouse (sleepers : List Sleeper) : s.LeadsTo (sleepers.foldl rouse s) := by
  induction sleepers generalizing s with
  | nil => exact .refl s
  | cons sleeper sleepers ih => exact (leadsTo_rouse sleeper).trans ih

lemma leadsTo_step {s' : Session} (h : s.step? = some s') : s.LeadsTo s' := by
  rw [step?] at h
  split at h
  · obtain rfl := Option.some.inj h
    exact leadsTo_move (v := .deliver) trivial
  · cases htask : s.stepTask? with
    | some s'' =>
      rw [htask] at h
      obtain rfl := Option.some.inj h
      obtain ⟨i, -, hi⟩ := Option.bind_eq_some_iff.mp htask
      exact leadsTo_of_task hi
    | none =>
      rw [htask] at h
      split at h
      · exact nomatch h
      · obtain rfl := Option.some.inj h
        exact leadsTo_foldl_rouse _

/-- **The run of a session takes legal moves only**, so that what holds after all legal moves holds
of it at every point. -/
theorem leadsTo_run (goal : Session → Bool) (watchful : Bool) (limit fuel : Nat) :
    s.LeadsTo (run goal watchful limit fuel s).1 := by
  induction fuel generalizing s with
  | zero => exact .refl s
  | succ fuel ih =>
    have hwait (now : Nat) : s.LeadsTo (s.atTime now) :=
      leadsTo_move (v := .become { s.world with now := now }) trivial
    rw [run]
    split
    · exact .refl s
    split
    · exact .refl s
    split
    · exact .refl s
    split
    · rename_i s' hstep
      exact (leadsTo_step hstep).trans ih
    · split
      · split
        · exact (hwait _).trans ih
        · exact hwait limit
      · exact hwait limit

end Session

end Simulation

end PictureIndex
