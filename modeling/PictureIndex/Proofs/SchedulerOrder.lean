import Mathlib.Data.List.Basic
import PictureIndex.Proofs.SchedulerTally
/-!
# Items run in order, each exactly once

The scheduler promises that items are started one after the other in the order in which they
joined the queue, and that each of them is finished once, by a message of its own generation.
What makes this more than a look at the queue is that anybody may send anything at any time: a
completion and a timeout of one item in either order, messages of items long gone, and messages of
items that never were.  Only the log knows which items there were, so the promise is about the log:

* `Ordered` relates the log to the queue: the items that joined are those that left, in the order
  in which they left, followed by the queue; the `k`-th of them was started under generation `k`
  when exactly `k - 1` had left;
* `Tallied` relates the log to the counts;
* `additions` and `accepted` say which items a message appends and which item it finishes.

`items_run_in_order_exactly_once` puts these together for any run.
-/

namespace PictureIndex

open Log

namespace Log

/-- A start may come when exactly the items before its own have left. -/
def Timely (before : List Event) : Event → Prop
  | .started _ generation _ => generation = (departures before).length + 1
  | _ => True

end Log

namespace Scheduler

variable {s : Scheduler} {now : Nat}

lemma timely_stops (before : List Event) (timer : Option Nat) :
    Always Timely before (timer.toList.map .timerStopped) := by
  cases timer <;> simp [Always, Timely]

lemma timely_farewell (before : List Event) (c : InFlight) (outcome : Option Outcome) :
    Always Timely before (farewell c outcome) := by
  refine always_append.mpr ⟨timely_stops before c.timer, ?_⟩
  cases outcome <;> simp [Always, Timely]

/-! ## The log and the queue -/

/-- What the log tells of a scheduler's queue. -/
structure Ordered (s : Scheduler) : Prop where
  /-- What joined has left, in this order, or waits. -/
  joined_eq : joined s.events = (departures s.events).map (·.item) ++ s.queue
  /-- Exactly those that left and the front were started, under successive generations. -/
  starts_eq : starts s.events =
    ((departures s.events).map (·.item) ++ s.queue.head?.toList).zipIdx 1
  /-- The latest generation is that of the front, or of the last item to leave. -/
  generation_eq : s.generation = (departures s.events).length + s.queue.head?.toList.length
  /-- Those that left did so under successive generations. -/
  generations_eq : (departures s.events).map (·.generation) =
    List.range' 1 (departures s.events).length
  /-- Every start came when all items before had left. -/
  timely : Always Timely [] s.events

lemma ordered_new (excluded : List String) (limit : Option UInt32) :
    (new excluded limit).Ordered :=
  ⟨rfl, rfl, rfl, rfl, trivial⟩

lemma generations_snoc {F : List Departure} {d : Departure}
    (hF : F.map (·.generation) = List.range' 1 F.length) (hd : d.generation = F.length + 1) :
    (F ++ [d]).map (·.generation) = List.range' 1 (F ++ [d]).length := by
  rw [List.map_append, hF, List.length_append, List.length_singleton, List.range'_1_concat,
    List.map_singleton, hd, Nat.add_comm]

lemma Ordered.turn (ho : s.Ordered) (h : s.Coherent) {t : Turn} (ht : t.Fits s) :
    (s.turn now t).Ordered := by
  obtain ⟨log, s', hs, he⟩ := h.shift now ht
  rw [he]
  obtain ⟨hjoined, hstarts, hgen, hgens, htimely⟩ := ho
  cases hs with
  | wait item hq hs =>
    subst hs
    rw [hq] at hjoined hstarts hgen
    constructor
    · simp [hjoined]
    · simpa using hstarts
    · simpa using hgen
    · simpa using hgens
    · exact always_append.mpr ⟨htimely, by simp [Always, Timely]⟩
  | begin item hq hs =>
    subst hs
    rw [hq] at hjoined hstarts hgen
    simp only [List.head?_nil, Option.toList_none, List.length_nil, Nat.add_zero,
      List.append_nil] at hjoined hstarts hgen
    constructor
    · simp [hjoined]
    · simp [hstarts, hgen, List.zipIdx_append, Nat.add_comm]
    · simp [hgen]
    · simpa using hgens
    · exact always_append.mpr ⟨htimely, by simp [Always, Timely, hgen]⟩
  | arm p hq hf hs =>
    subst hs
    constructor
    · simpa using hjoined
    · simpa using hstarts
    · simpa using hgen
    · simpa using hgens
    · exact always_append.mpr ⟨htimely, trivial, timely_stops _ _⟩
  | tell state hs =>
    subst hs
    constructor
    · simpa using hjoined
    · simpa using hstarts
    · simpa using hgen
    · simpa using hgens
    · exact always_append.mpr ⟨htimely, by simp [Always, Timely]⟩
  | next outcome item front hq hf hs =>
    subst hs
    rw [hq] at hjoined hstarts hgen
    simp only [List.head?_cons, Option.toList_some, List.length_singleton] at hstarts hgen
    constructor
    · simp [hjoined]
    · simp [hstarts, hgen, List.zipIdx_append, Nat.add_comm]
    · simp [hgen]
    · simpa using generations_snoc hgens (d := ⟨item, s.generation, outcome⟩) hgen
    · refine always_append.mpr ⟨htimely, always_append.mpr ⟨timely_farewell _ _ _, ?_⟩⟩
      simp [Always, Timely, hgen]
  | last outcome item hq hf hd hs =>
    subst hs
    rw [hq] at hjoined hstarts hgen
    simp only [List.head?_cons, Option.toList_some, List.length_singleton] at hstarts hgen
    constructor
    · simp [hjoined]
    · simp [hstarts]
    · simp [hgen]
    · simpa using generations_snoc hgens (d := ⟨item, s.generation, outcome⟩) hgen
    · refine always_append.mpr ⟨htimely, always_append.mpr ⟨timely_farewell _ _ _, ?_⟩⟩
      simp [Always, Timely]

/-! ## What a message appends and finishes -/

/-- The items that a message appends to the queue. -/
def additions (s : Scheduler) : Message → List Item
  | .submit p => s.admitted [p]
  | .removeStale p => [⟨p, .removeStale⟩]
  | .completed p generation outcome =>
    if s.isCurrent p generation then s.admitted outcome.discovered else []
  | _ => []

/-- The item that a message finishes, if it is accepted. -/
def accepted (s : Scheduler) : Message → List Departure
  | .completed p generation outcome =>
    if s.isCurrent p generation then
      s.queue.head?.toList.map (⟨·, generation, some outcome⟩)
    else []
  | .timedOut p generation =>
    if s.isCurrent p generation then s.queue.head?.toList.map (⟨·, generation, none⟩) else []
  | _ => []

/-- What is said of each message of a run when it is handled, put together. -/
def collect {α : Type} (f : Scheduler → Message → List α) :
    Scheduler → List (Nat × Message) → List α
  | _, [] => []
  | s, m :: ms => f s m.2 ++ collect f (s.handle m.1 m.2) ms

lemma joined_turn (now : Nat) (h : s.Coherent) {t : Turn} (ht : t.Fits s) :
    joined (s.turn now t).events = joined s.events ++ (match t with
      | .join item => [item]
      | _ => []) := by
  obtain ⟨log, s', hs, he⟩ := h.shift now ht
  rw [he]
  cases hs <;> simp

lemma departures_turn (now : Nat) (h : s.Coherent) {t : Turn} (ht : t.Fits s) :
    departures (s.turn now t).events = departures s.events ++ (match t with
      | .leave outcome => s.queue.head?.toList.map (⟨·, s.generation, outcome⟩)
      | _ => []) := by
  obtain ⟨log, s', hs, he⟩ := h.shift now ht
  rw [he]
  cases hs with
  | next outcome item front hq hf hs => simp [hq]
  | last outcome item hq hf hd hs => simp [hq]
  | _ => simp

/-- Items that join are what the log says joined, and none of them leaves. -/
lemma log_joins (now : Nat) (h : s.Coherent) (items : List Item) :
    joined (s.turnAll now (items.map .join)).events = joined s.events ++ items ∧
      departures (s.turnAll now (items.map .join)).events = departures s.events ∧
      (s.turnAll now (items.map .join)).Coherent := by
  induction items generalizing s with
  | nil => simpa using h
  | cons item items ih =>
    have ht : (Turn.join item).Fits s := trivial
    obtain ⟨hjoined, hdepartures, h'⟩ := ih (h.turn ht)
    rw [List.map_cons, turnAll_cons]
    refine ⟨?_, ?_, h'⟩
    · rw [hjoined, joined_turn now h ht, List.append_assoc, List.singleton_append]
    · rw [hdepartures, departures_turn now h ht, List.append_nil]

/-- A message appends its additions and finishes what it is accepted for. -/
lemma log_handle (now : Nat) (h : s.Coherent) (hs : s.stopped = false) {m : Message}
    (hm : m ≠ .shutdown) :
    joined (s.handle now m).events = joined s.events ++ s.additions m ∧
      departures (s.handle now m).events = departures s.events ++ s.accepted m := by
  rw [handle_eq_turns hs hm]
  have hfit := h.fitAll_turns now m
  cases m with
  | submit p =>
    obtain ⟨hjoined, hdepartures, -⟩ := log_joins now h (s.admitted [p])
    exact ⟨hjoined, by simpa [accepted, turns] using hdepartures⟩
  | removeStale p =>
    obtain ⟨hjoined, hdepartures, -⟩ := log_joins now h [⟨p, .removeStale⟩]
    exact ⟨hjoined, by simpa [accepted, turns] using hdepartures⟩
  | gate state =>
    have ht : (Turn.tell state).Fits s := trivial
    exact ⟨joined_turn now h ht, departures_turn now h ht⟩
  | armTimeout p generation =>
    simp only [turns, additions, accepted] at hfit ⊢
    split at hfit
    · rename_i hc
      simp only [hc, if_true, turnAll_cons, turnAll_nil]
      exact ⟨joined_turn now h hfit.1, departures_turn now h hfit.1⟩
    · simp [*]
  | completed p generation outcome =>
    simp only [turns, additions, accepted] at hfit ⊢
    split at hfit
    · rename_i hc
      obtain ⟨item, rest, hq, -, rfl⟩ := h.isCurrent_iff.mp hc
      obtain ⟨hjoined, hdepartures, h'⟩ :=
        log_joins now h (s.admitted outcome.discovered)
      obtain ⟨hqueue, -, hgen⟩ :=
        turnAll_joins_front now (s.admitted outcome.discovered) hq
      obtain ⟨-, hleave, -⟩ := fitAll_append.mp hfit
      simp only [hc, if_true, turnAll_append, turnAll_cons, turnAll_nil]
      rw [joined_turn now h' hleave, departures_turn now h' hleave, hjoined, hdepartures]
      simp [hqueue, hgen, hq]
    · simp [*]
  | timedOut p generation =>
    simp only [turns, additions, accepted] at hfit ⊢
    split at hfit
    · rename_i hc
      obtain ⟨item, rest, hq, -, rfl⟩ := h.isCurrent_iff.mp hc
      simp only [hc, if_true, turnAll_cons, turnAll_nil]
      exact ⟨joined_turn now h hfit.1, departures_turn now h hfit.1⟩
    · simp [*]
  | shutdown => exact absurd rfl hm

lemma log_handleAll (h : s.Coherent) (hs : s.stopped = false) {ms : List (Nat × Message)}
    (hms : ∀ m ∈ ms, m.2 ≠ .shutdown) :
    joined (s.handleAll ms).events = joined s.events ++ s.collect additions ms ∧
      departures (s.handleAll ms).events = departures s.events ++ s.collect accepted ms := by
  induction ms generalizing s with
  | nil => simp [collect]
  | cons m ms ih =>
    obtain ⟨hm, hms⟩ := List.forall_mem_cons.mp hms
    obtain ⟨h', hs', -⟩ := h.handle_induction (P := fun _ => True) hs hm
      (fun _ _ _ _ _ => trivial) trivial
    obtain ⟨hjoined, hdepartures⟩ := ih h' hs' hms
    obtain ⟨hjoined', hdepartures'⟩ := log_handle m.1 h hs hm
    rw [handleAll_cons, hjoined, hdepartures, hjoined', hdepartures', List.append_assoc,
      List.append_assoc]
    exact ⟨rfl, rfl⟩

lemma handle_of_not_current (s : Scheduler) (now : Nat) {p : Path} {generation : Nat}
    (hc : s.isCurrent p generation = false) :
    s.handle now (.armTimeout p generation) = s ∧ s.handle now (.timedOut p generation) = s ∧
      ∀ outcome, s.handle now (.completed p generation outcome) = s := by
  cases hs : s.stopped <;> simp [handle, hs, armTimeout, timeOut, complete, hc]

/-! ## The promise -/

/-- **Items run in order, each exactly once.**  Take any messages but `shutdown`, handled at any
times from a fresh scheduler on.  `P` is what they append to the queue, and `F` what leaves it.
Then

* `P` is what joined the queue, and it is `F` followed by what is still queued;
* the items started are the front part of `P`, up to the first item that has not left, numbered
  from one; and when an item is started under a generation, exactly the items of `P` before it
  have left;
* the items of `F` left under successive generations, each by one message that was current, that
  is by a completion or a timeout with the front's path and generation;
* completions, timeouts and requests for a timer that are not current change nothing;
* exactly the items of `F` are processed, and the processed items are those of the five counts
  and those that only led to other items. -/
theorem items_run_in_order_exactly_once (excluded : List String) (limit : Option UInt32)
    (ms : List (Nat × Message)) (hms : ∀ m ∈ ms, m.2 ≠ .shutdown) :
    let s := (new excluded limit).handleAll ms
    let P := (new excluded limit).collect additions ms
    let F := departures s.events
    (joined s.events = P ∧ P = F.map (·.item) ++ s.queue) ∧
    (starts s.events = (P.take (F.length + 1)).zipIdx 1 ∧
      ∀ before item generation spent after,
        s.events = before ++ .started item generation spent :: after →
        P[generation - 1]? = some item ∧
          (departures before).map (·.item) = P.take (generation - 1)) ∧
    (F = (new excluded limit).collect accepted ms ∧
      F.map (·.generation) = List.range' 1 F.length ∧
      ∀ p generation, s.isCurrent p generation = true ↔
        ∃ item rest, s.queue = item :: rest ∧ item.path.sameAs p = true ∧
          generation = F.length + 1) ∧
    (∀ now p generation, s.isCurrent p generation = false →
      s.handle now (.armTimeout p generation) = s ∧
      s.handle now (.timedOut p generation) = s ∧
      ∀ outcome, s.handle now (.completed p generation outcome) = s) ∧
    (s.tally.processed = F.length ∧
      (∀ fate, s.tally.counted fate = ended F (some fate)) ∧
      s.tally.processed = s.tally.annotated + s.tally.removed + s.tally.skipped +
        s.tally.failed + s.tally.timedOut + ended F none) := by
  intro s P F
  obtain ⟨hjoined, hdepartures⟩ :=
    log_handleAll (coherent_new excluded limit) rfl hms
  obtain ⟨hcoherent, -, hordered, htallied⟩ :=
    (coherent_new excluded limit).handleAll_induction
      (P := fun s => s.Ordered ∧ s.Tallied) rfl hms
      (fun _ _ _ h ht hP => ⟨hP.1.turn h ht, hP.2.turn h ht⟩)
      ⟨ordered_new excluded limit, tallied_new excluded limit⟩
  have hP : joined s.events = P := hjoined
  have hF : F = (new excluded limit).collect accepted ms := hdepartures
  have hqueue : P = F.map (·.item) ++ s.queue := hP.symm.trans hordered.joined_eq
  have htake : P.take (F.length + 1) = F.map (·.item) ++ s.queue.head?.toList := by
    rw [hqueue, List.take_append]
    cases s.queue <;> simp [List.take_of_length_le]
  refine ⟨⟨hP, hqueue⟩, ⟨?_, ?_⟩, ⟨hF, hordered.generations_eq, ?_⟩, ?_, ?_⟩
  · rw [htake]
    exact hordered.starts_eq
  · intro before item generation spent after hlog
    have hbefore : generation = (departures before).length + 1 :=
      Always.at_event (hlog ▸ hordered.timely)
    have hstart : (item, generation) ∈ starts s.events := by simp [hlog]
    rw [hordered.starts_eq, ← htake] at hstart
    obtain ⟨hlow, -, hitem⟩ := List.mem_zipIdx hstart
    have hleft : F.map (·.item) = (departures before).map (·.item) ++
        (departures (.started item generation spent :: after)).map (·.item) := by
      rw [← List.map_append, ← departures_append, ← hlog]
    constructor
    · rw [List.getElem_take] at hitem
      rw [hitem, List.getElem?_eq_getElem]
    · rw [hqueue, hleft, hbefore, Nat.add_sub_cancel, List.append_assoc]
      exact (List.take_left' (List.length_map _)).symm
  · intro p generation
    rw [hcoherent.isCurrent_iff]
    refine exists_congr fun item => exists_congr fun rest => and_congr_right fun hq => ?_
    rw [hordered.generation_eq, hq]
    rfl
  · intro now p generation hc
    exact handle_of_not_current s now hc
  · have hprocessed : s.tally.processed = F.length := htallied.processed_eq
    have hcounted : ∀ fate, s.tally.counted fate = ended F (some fate) := htallied.counted_eq
    refine ⟨hprocessed, hcounted, ?_⟩
    rw [hprocessed, length_eq_ended F]
    simp only [← hcounted, Tally.counted]

/-- The promise, where a picture's time runs out while its completion is on its way: the timeout
comes first, so the completion is not current any more, and a forged one never was. -/
theorem items_run_in_order_after_race :
    let a : Path := ⟨[0x61]⟩
    let b : Path := ⟨[0x62]⟩
    let ms : List (Nat × Message) := [(0, .submit a), (0, .submit b), (1, .armTimeout a 1),
      (5, .timedOut a 1), (5, .completed a 1 .rejected), (6, .completed a 2 .rejected)]
    let s := (new [] (some 1)).handleAll ms
    departures s.events = [⟨⟨a, .examine⟩, 1, none⟩] ∧
      s.tally.processed = (departures s.events).length := by
  refine ⟨by decide +kernel, ?_⟩
  exact (items_run_in_order_exactly_once [] (some 1) _ (by decide)).2.2.2.2.1

end Scheduler

end PictureIndex
