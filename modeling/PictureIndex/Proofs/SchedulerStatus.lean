import PictureIndex.Proofs.SchedulerOrder
/-!
# What the scheduler holds and reports

The queue, the item in flight, its timer, the clock of the drain and the published status are
changed in different places; nothing works if they disagree.  `Coherent` says that the first ones
agree.  Here this is completed by what the log tells:

* `Consistent.running_eq`: the timers that run are the timer of the item in flight and no other;
* `Consistent.published_eq`: the status published last is the present one;
* `Consistent.honest`: every status that was ever published told the length of the queue at that
  time, and an item in flight exactly if there was a queue.

The last one is about every status, since a listener may see any of them: also those published
while a directory's entries join the queue and its own item is still there.
-/

namespace PictureIndex

open Log

namespace Log

/-- A status may be published when it is true. -/
def Honest (before : List Event) : Event → Prop
  | .published st => st.queued + (departures before).length = (joined before).length ∧
    (st.inFlight = true ↔ 0 < st.queued)
  | _ => True

end Log

/-- What is published at last if a log is read from a worker's first status on. -/
def lastStatus (log : List Event) : Status := (snapshots log).getLast?.getD Status.initial

lemma Status.isIdle_iff {st : Status} (h : st.inFlight = true ↔ 0 < st.queued) :
    st.isIdle = true ↔ st.queued = 0 := by
  cases hf : st.inFlight with
  | false => simp [isIdle, hf]
  | true => simpa [isIdle, hf] using Nat.pos_iff_ne_zero.mp (h.mp hf)

namespace Scheduler

variable {s : Scheduler} {now : Nat}

/-- The timer of the item in flight. -/
def ownTimer (s : Scheduler) : Option LiveTimer :=
  s.inFlight.bind fun c => c.timer.map (⟨·, c.generation⟩)

/-- The log tells of the timers, and its statuses tell of the queue, as they are. -/
structure Consistent (s : Scheduler) : Prop where
  /-- Only the timer of the item in flight runs. -/
  running_eq : running s.events = s.ownTimer.toList
  /-- The status published last is the present one. -/
  published_eq : lastStatus s.events = s.status
  /-- All statuses published were true. -/
  honest : Always Honest [] s.events

lemma consistent_new (excluded : List String) (limit : Option UInt32) :
    (new excluded limit).Consistent :=
  ⟨rfl, rfl, trivial⟩

/-- Stopping the only timer of a number takes this one away. -/
lemma running_stops (timer : Option Nat) (others : List LiveTimer) (generation : Nat)
    (h : ∀ n ∈ timer, ∀ t ∈ others, t.number ≠ n) :
    (timer.toList.map .timerStopped).foldl onTimers
      ((timer.map (LiveTimer.mk · generation)).toList ++ others) = others := by
  cases timer with
  | none => rfl
  | some n => simpa [onTimers] using h n rfl

lemma running_farewell (c : InFlight) (outcome : Option Outcome) :
    (farewell c outcome).foldl onTimers (c.timer.map (LiveTimer.mk · c.generation)).toList =
      [] := by
  have hstops := running_stops c.timer [] c.generation (by simp)
  rw [List.append_nil] at hstops
  rw [farewell, List.foldl_append, hstops]
  cases outcome <;> rfl

lemma honest_stops (before : List Event) (timer : Option Nat) :
    Always Honest before (timer.toList.map .timerStopped) := by
  cases timer <;> simp [Always, Honest]

lemma honest_farewell (before : List Event) (c : InFlight) (outcome : Option Outcome) :
    Always Honest before (farewell c outcome) := by
  refine always_append.mpr ⟨honest_stops before c.timer, ?_⟩
  cases outcome <;> simp [Always, Honest]

/-- The status of a queue that the log tells of is true. -/
lemma honest_published {before : List Event}
    (hlength : (joined before).length = (departures before).length + s.queue.length)
    (hflight : s.inFlight.isSome = !s.queue.isEmpty) : Honest before (.published s.status) := by
  refine ⟨by simp [status, hlength, Nat.add_comm], ?_⟩
  rw [status, hflight]
  cases s.queue <;> simp

lemma Consistent.turn (hc : s.Consistent) (ho : s.Ordered) (h : s.Coherent) {t : Turn}
    (ht : t.Fits s) : (s.turn now t).Consistent := by
  obtain ⟨log, s', hs, he⟩ := h.shift now ht
  obtain ⟨hrunning, hpublished, hhonest⟩ := hc
  have hlength := congrArg List.length ho.joined_eq
  rw [List.length_append, List.length_map] at hlength
  have hflight := h.inFlight_isSome
  rw [he]
  cases hs with
  | wait item hq hs =>
    subst hs
    refine ⟨by simpa [onTimers, ownTimer] using hrunning, by simp [lastStatus, status], ?_⟩
    refine always_append.mpr ⟨hhonest, trivial, honest_published ?_ ?_, trivial⟩
    · simp [hlength, hq]; omega
    · simpa [hq] using hflight
  | begin item hq hs =>
    subst hs
    refine ⟨?_, by simp [lastStatus, status], ?_⟩
    · simpa [onTimers, ownTimer, h.inFlight_of_nil hq] using hrunning
    · refine always_append.mpr ⟨hhonest, trivial, trivial, honest_published ?_ rfl, trivial⟩
      simp [hlength, hq]
  | @arm p item rest timer _ hq hf hs =>
    subst hs
    have hfresh (n : Nat) (hn : n ∈ timer) (t : LiveTimer)
        (ht : t ∈ [LiveTimer.mk (s.timers + 1) s.generation]) : t.number ≠ n := by
      rw [List.mem_singleton.mp ht]
      have hle := h.timer _ hf n hn
      simp only; omega
    refine ⟨?_, ?_, always_append.mpr ⟨hhonest, trivial, honest_stops _ _⟩⟩
    · simp only [ownTimer, hf, Option.bind_some] at hrunning
      rw [running_append, List.foldl_cons, hrunning]
      exact running_stops timer _ s.generation hfresh
    · rw [lastStatus, snapshots_append, snapshots_cons, snapshots_stops]
      simpa [lastStatus, status, hf] using hpublished
  | tell state hs =>
    subst hs
    refine ⟨by simpa [onTimers, ownTimer] using hrunning, by simp [lastStatus, status], ?_⟩
    exact always_append.mpr ⟨hhonest, honest_published hlength hflight, trivial⟩
  | @next outcome item front rest timer _ hq hf hs =>
    subst hs
    simp only [ownTimer, hf, Option.bind_some] at hrunning
    refine ⟨?_, by simp [lastStatus, status], ?_⟩
    · rw [running_append, List.foldl_append, hrunning,
        running_farewell ⟨item.path, s.generation, timer⟩]
      rfl
    · refine always_append.mpr ⟨hhonest, always_append.mpr ⟨honest_farewell _ _ _, ?_⟩⟩
      refine ⟨trivial, trivial, honest_published ?_ rfl, trivial⟩
      simp [hlength, hq]; omega
  | @last outcome item timer start _ hq hf hd hs =>
    subst hs
    simp only [ownTimer, hf, Option.bind_some] at hrunning
    refine ⟨?_, by simp [lastStatus, status], ?_⟩
    · rw [running_append, List.foldl_append, hrunning,
        running_farewell ⟨item.path, s.generation, timer⟩]
      rfl
    · refine always_append.mpr ⟨hhonest, always_append.mpr ⟨honest_farewell _ _ _, ?_⟩⟩
      refine ⟨trivial, trivial, honest_published ?_ rfl, trivial⟩
      simp [hlength, hq]

/-- **What the scheduler holds and reports agrees.**  Take any messages but `shutdown`, handled at
any times from a fresh scheduler on.  Then

* an item is in flight exactly if the queue is not empty; its path is that of the front, and its
  generation is the latest one; and the drain is timed exactly if the queue is not empty;
* the timers that run are the timer of the item in flight, so there is at most one and it has the
  latest generation; any other timer that was ever set has been stopped;
* the status published last tells the length of the queue, whether there is one, and how much of
  the budget is used;
* every status published was true of the queue at that time: its length was that of the items
  that had joined less those that had left, an item was in flight exactly if there was a queue,
  and the scheduler was idle exactly if all that had joined had left. -/
theorem queue_flight_timer_status_agree (excluded : List String) (limit : Option UInt32)
    (ms : List (Nat × Message)) (hms : ∀ m ∈ ms, m.2 ≠ .shutdown) :
    let s := (new excluded limit).handleAll ms
    let reported := lastStatus s.events
    ((s.inFlight.isSome = true ↔ s.queue ≠ []) ∧
      (∀ c ∈ s.inFlight, s.queue.head?.map (·.path) = some c.path ∧
        c.generation = s.generation) ∧
      (s.drainStart.isSome = true ↔ s.queue ≠ [])) ∧
    (running s.events = s.ownTimer.toList ∧
      (running s.events).length ≤ 1 ∧
      (∀ t ∈ running s.events, s.inFlight.isSome = true ∧ t.generation = s.generation) ∧
      ∀ p generation number, .timerSet p generation number ∈ s.events →
        s.ownTimer = some ⟨number, generation⟩ ∨ .timerStopped number ∈ s.events) ∧
    (reported.queued = s.queue.length ∧
      (reported.inFlight = true ↔ 0 < reported.queued) ∧
      reported.budgetUsed = s.budget.used) ∧
    ∀ before st after, s.events = before ++ .published st :: after →
      st.queued + (departures before).length = (joined before).length ∧
      (st.inFlight = true ↔ 0 < st.queued) ∧
      (st.isIdle = true ↔ (departures before).length = (joined before).length) := by
  intro s reported
  obtain ⟨hcoherent, -, hordered, hconsistent⟩ :=
    (coherent_new excluded limit).handleAll_induction
      (P := fun s => s.Ordered ∧ s.Consistent) rfl hms
      (fun _ _ _ h ht hP => ⟨hP.1.turn h ht, hP.2.turn hP.1 h ht⟩)
      ⟨ordered_new excluded limit, consistent_new excluded limit⟩
  have hflight : s.inFlight.isSome = true ↔ s.queue ≠ [] := by
    rw [hcoherent.inFlight_isSome]
    simp [s]
  have hfront (c : InFlight) (hc : c ∈ s.inFlight) :
      s.queue.head?.map (·.path) = some c.path ∧ c.generation = s.generation := by
    have hne := hflight.mp (Option.isSome_of_mem hc)
    obtain ⟨item, rest, hq⟩ := List.exists_cons_of_ne_nil hne
    obtain ⟨timer, hf⟩ := hcoherent.inFlight_of_cons hq
    obtain rfl := Option.mem_unique hc hf
    exact ⟨by rw [hq]; rfl, rfl⟩
  have hdrain : s.drainStart.isSome = true ↔ s.queue ≠ [] := by
    rw [hcoherent.drain]
    simp [s]
  have hrunning : running s.events = s.ownTimer.toList := hconsistent.running_eq
  have hreported : reported = s.status := hconsistent.published_eq
  refine ⟨⟨hflight, hfront, hdrain⟩, ⟨hrunning, ?_, ?_, ?_⟩, ⟨?_, ?_, ?_⟩, ?_⟩
  · rw [hrunning]
    cases s.ownTimer <;> simp
  · intro t ht
    rw [hrunning, Option.mem_toList, ownTimer, Option.bind_eq_some_iff] at ht
    obtain ⟨c, hc, ht⟩ := ht
    obtain ⟨number, -, rfl⟩ := Option.map_eq_some_iff.mp ht
    exact ⟨Option.isSome_of_mem hc, (hfront c hc).2⟩
  · intro p generation number hset
    have hstate := timerSet_runs_or_stopped s.events hset
    rwa [hrunning, Option.mem_toList] at hstate
  · rw [hreported]; rfl
  · rw [hreported]
    exact hflight.trans List.length_pos_iff.symm
  · rw [hreported]; rfl
  · intro before st after hlog
    have htrue : Honest before (.published st) := Always.at_event (hlog ▸ hconsistent.honest)
    obtain ⟨hlength, hbusy⟩ := htrue
    refine ⟨hlength, hbusy, (Status.isIdle_iff hbusy).trans ?_⟩
    omega

/-- The agreement, where a directory's entries join the queue while it is still there itself, and
the first of them gets a second timer. -/
theorem queue_flight_timer_status_agree_directory :
    let d : Path := ⟨[0x64]⟩
    let a : Path := ⟨[0x64, 0x2F, 0x61]⟩
    let b : Path := ⟨[0x64, 0x2F, 0x62]⟩
    let ms : List (Nat × Message) := [(0, .submit d), (1, .completed d 1 (.expanded [a, b])),
      (2, .armTimeout a 2), (3, .armTimeout a 2)]
    let s := (new [] none).handleAll ms
    (snapshots s.events).map (·.queued) = [1, 2, 3, 2] ∧ s.ownTimer = some ⟨2, 2⟩ ∧
      running s.events = s.ownTimer.toList := by
  refine ⟨by decide +kernel, by decide +kernel, ?_⟩
  exact (queue_flight_timer_status_agree [] none _ (by decide)).2.1.1

end Scheduler

end PictureIndex
