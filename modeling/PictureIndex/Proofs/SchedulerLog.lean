import Mathlib
import PictureIndex.Scheduler
/-!
# What the log of the scheduler tells

The log of events is the only trace that the scheduler leaves of items that are gone.  Four
questions are put to it:

* `Log.joined`: which items were ever appended to the queue;
* `Log.starts`: which items were started, with their generations;
* `Log.departures`: which items left the queue, and how they ended;
* `Log.running`: which timers were set and not stopped since.

Each of them reads the log from left to right, so what it tells of a longer log is told by the
lemmas on `++` below.  `Log.Always` says that every event of a log comes at a moment at which it
may, given the events before it.
-/

namespace PictureIndex

/-- An item that left the queue. -/
structure Departure where
  /-- The item. -/
  item : Item
  /-- Its generation. -/
  generation : Nat
  /-- How it ended; nothing if its time ran out. -/
  outcome : Option Outcome
deriving DecidableEq, Repr

/-- A timer that the scheduler asked for. -/
structure LiveTimer where
  /-- Its number. -/
  number : Nat
  /-- The generation of the item it was set for. -/
  generation : Nat
deriving DecidableEq, Repr

namespace Log

/-- The items appended to the queue, in order. -/
def joined (log : List Event) : List Item :=
  log.filterMap fun | .queued item => some item | _ => none

/-- The items started, in order, each with its generation. -/
def starts (log : List Event) : List (Item × Nat) :=
  log.filterMap fun | .started item generation _ => some (item, generation) | _ => none

/-- The items that left the queue, in order. -/
def departures (log : List Event) : List Departure :=
  log.filterMap fun
    | .finished item generation outcome => some ⟨item, generation, outcome⟩
    | _ => none

/-- The statuses published, in order. -/
def snapshots (log : List Event) : List Status :=
  log.filterMap fun | .published s => some s | _ => none

/-- What an event changes about the timers that run. -/
def onTimers (timers : List LiveTimer) : Event → List LiveTimer
  | .timerSet _ generation number => timers ++ [⟨number, generation⟩]
  | .timerStopped number => timers.filter (·.number != number)
  | _ => timers

/-- The timers set and not stopped since. -/
def running (log : List Event) : List LiveTimer := log.foldl onTimers []

variable (log log' : List Event)

@[simp] lemma joined_append : joined (log ++ log') = joined log ++ joined log' :=
  List.filterMap_append

@[simp] lemma starts_append : starts (log ++ log') = starts log ++ starts log' :=
  List.filterMap_append

@[simp] lemma departures_append :
    departures (log ++ log') = departures log ++ departures log' :=
  List.filterMap_append

@[simp] lemma snapshots_append : snapshots (log ++ log') = snapshots log ++ snapshots log' :=
  List.filterMap_append

@[simp] lemma running_append :
    running (log ++ log') = log'.foldl onTimers (running log) :=
  List.foldl_append

variable (e : Event)

@[simp] lemma joined_cons :
    joined (e :: log) = (match e with
      | .queued item => [item]
      | _ => []) ++ joined log := by
  cases e <;> rfl

@[simp] lemma starts_cons :
    starts (e :: log) = (match e with
      | .started item generation _ => [(item, generation)]
      | _ => []) ++ starts log := by
  cases e <;> rfl

@[simp] lemma departures_cons :
    departures (e :: log) = (match e with
      | .finished item generation outcome => [⟨item, generation, outcome⟩]
      | _ => []) ++ departures log := by
  cases e <;> rfl

@[simp] lemma snapshots_cons :
    snapshots (e :: log) = (match e with
      | .published s => [s]
      | _ => []) ++ snapshots log := by
  cases e <;> rfl

@[simp] lemma joined_nil : joined [] = [] := rfl

@[simp] lemma starts_nil : starts [] = [] := rfl

@[simp] lemma departures_nil : departures [] = [] := rfl

@[simp] lemma snapshots_nil : snapshots [] = [] := rfl

/-- A timer that was set runs, or it has been stopped. -/
lemma timerSet_runs_or_stopped {p : Path} {generation number : Nat}
    (h : .timerSet p generation number ∈ log) :
    ⟨number, generation⟩ ∈ running log ∨ .timerStopped number ∈ log := by
  induction log using List.reverseRecOn with
  | nil => simp at h
  | append_singleton log e ih =>
    rw [running_append, List.foldl_cons, List.foldl_nil]
    rcases List.mem_append.mp h with hmem | hlast
    · rcases ih hmem with hruns | hstopped
      · by_cases hstop : e = .timerStopped number
        · exact .inr (by simp [hstop])
        · -- no other event takes this timer away
          refine .inl ?_
          cases e with
          | timerSet => exact List.mem_append_left _ hruns
          | timerStopped other =>
            have hne : number ≠ other := fun h => hstop (congrArg _ h.symm)
            exact List.mem_filter.mpr ⟨hruns, by simpa using hne⟩
          | _ => exact hruns
      · exact .inr (List.mem_append_left _ hstopped)
    · obtain rfl := List.mem_singleton.mp hlast
      exact .inl (List.mem_append_right _ (List.mem_singleton_self _))

/-! ## Events and the events before them -/

section

variable {α : Type} {Q : List α → α → Prop} {before log log' : List α}

/-- Whether everything in a log may come when it comes: `Q before e` says that `e` may follow what
is in `before`, to which belongs what was there before the log. -/
def Always (Q : List α → α → Prop) : List α → List α → Prop
  | _, [] => True
  | before, e :: log => Q before e ∧ Always Q (before ++ [e]) log

lemma always_append :
    Always Q before (log ++ log') ↔ Always Q before log ∧ Always Q (before ++ log) log' := by
  induction log generalizing before with
  | nil => simp [Always]
  | cons e log ih => simp [Always, ih, and_assoc]

/-- What is within a log may follow what comes before it. -/
lemma Always.at_event {e : α} (h : Always Q [] (log ++ e :: log')) : Q log e :=
  (always_append.mp h).2.1

/-- A log is all right of which everything may come at any time. -/
lemma always_of_forall (h : ∀ e ∈ log, ∀ before, Q before e) : Always Q before log := by
  induction log generalizing before with
  | nil => trivial
  | cons e log ih =>
    exact ⟨h e (List.mem_cons_self ..) before, ih fun e he => h e (List.mem_cons_of_mem _ he)⟩

end

end Log

end PictureIndex
