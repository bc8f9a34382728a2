import PictureIndex.Proofs.Interleaving
/-!
# What a session knows of its scheduler

The scheduler of a session forgets its log after each message, but with the log from the deeds it
is the scheduler of which the other files speak: `Sound` says that what is known of schedulers
holds of it, and `Sound.move` that every move keeps this.

A property of sessions that speaks of the mail as well is more delicate, for the message that is
being handled has left the mailbox and its effects are not there yet.  `Delivers` lists what such
a property has to survive while one message is handled, part by part, and `Delivers.deliver` puts
the parts together.
-/

namespace PictureIndex

open Log

namespace Simulation

/-- How many items have left the queue. -/
def left (deeds : List Deed) : Nat := (departures (Deed.log deeds)).length

namespace Session

open Scheduler (Turn FitAll fitAll_quiet)

variable {s : Session}

/-- The scheduler of a session with everything that it has logged. -/
def record (s : Session) (deeds : List Deed) : Scheduler :=
  { s.scheduler with events := Deed.log deeds }

/-- Between two messages the scheduler has forgotten its log; with the log, what is known of
schedulers holds of it. -/
structure Sound (s : Session) (deeds : List Deed) : Prop where
  /-- The log is kept in the deeds only. -/
  quiet : s.scheduler.quiet = s.scheduler
  /-- Until it stops, the scheduler is coherent. -/
  coherent : s.scheduler.stopped = false → s.scheduler.Coherent
  /-- Until it stops, its log and its queue agree. -/
  ordered : s.scheduler.stopped = false → (s.record deeds).Ordered
  /-- When it has stopped, nothing is in flight. -/
  halted : s.scheduler.stopped = true → s.scheduler.inFlight = none
  /-- What was done is counted. -/
  tallied : (s.record deeds).Tallied

variable {deeds : List Deed}

lemma sound_start (world : World) (c : Config) (backends : Backends) :
    (ofScheduler world c backends).Sound [] where
  quiet := rfl
  coherent _ := Scheduler.coherent_new _ _
  ordered _ := Scheduler.ordered_new _ _
  halted _ := rfl
  tallied := Scheduler.tallied_new _ _

/-- What has joined has left or is queued. -/
lemma Sound.joined_eq (h : s.Sound deeds) (hopen : s.scheduler.stopped = false) :
    joined (Deed.log deeds) =
      (departures (Deed.log deeds)).map (·.item) ++ s.scheduler.queue :=
  (h.ordered hopen).joined_eq

lemma record_turn (hquiet : s.scheduler.quiet = s.scheduler) (t : Turn) :
    (s.turn t).record (deeds ++ s.said t) = (s.record deeds).turn s.world.now t := by
  have hrecord : (s.record deeds).quiet = s.scheduler := hquiet
  rw [Scheduler.turn_quiet, hrecord, record, turn_scheduler, said, hquiet, Deed.log_append,
    Deed.log_events]
  rfl

lemma Sound.turn (h : s.Sound deeds) (hopen : s.scheduler.stopped = false) {t : Turn}
    (ht : t.Fits s.scheduler) :
    (s.turn t).Sound (deeds ++ s.said t) ∧ (s.turn t).scheduler.stopped = false := by
  have hcoherent := h.coherent hopen
  have hrecorded : (s.record deeds).Coherent := ⟨hcoherent.front, hcoherent.drain, hcoherent.timer⟩
  have hfits : t.Fits (s.record deeds) := by cases t <;> exact ht
  have hrecord : (s.turn t).record (deeds ++ s.said t) = _ := record_turn h.quiet t
  have hturn : ((s.record deeds).turn s.world.now t).Coherent := hrecorded.turn hfits
  have hstopped : ((s.record deeds).turn s.world.now t).stopped = _ :=
    (hrecorded.turn_frame hfits).1
  rw [← hrecord] at hturn hstopped
  have hopen' : (s.turn t).scheduler.stopped = false := hstopped.trans hopen
  refine ⟨⟨by rw [turn_scheduler]; rfl, fun _ => ⟨hturn.front, hturn.drain, hturn.timer⟩,
    fun _ => ?_, fun hs => ?_, ?_⟩, hopen'⟩
  · rw [hrecord]
    exact (h.ordered hopen).turn hrecorded hfits
  · simp [hopen'] at hs
  · rw [hrecord]
    exact h.tallied.turn hrecorded hfits

lemma Sound.turns {P : Session → List Deed → Prop} (h : s.Sound deeds)
    (hopen : s.scheduler.stopped = false) {ts : List Turn}
    (hfit : FitAll s.world.now s.scheduler ts)
    (hstep : ∀ (s : Session) (deeds : List Deed) (t : Turn), s.Sound deeds →
      s.scheduler.stopped = false → t ∈ ts → t.Fits s.scheduler → P s deeds →
      P (s.turn t) (deeds ++ s.said t)) (hP : P s deeds) :
    ∃ deeds', deeds' = deeds ++ (s.scheduler.turnAll s.world.now ts).events.map .event ∧
      (ts.foldl Session.turn s).Sound deeds' ∧ (ts.foldl Session.turn s).scheduler.stopped = false ∧
      P (ts.foldl Session.turn s) deeds' := by
  induction ts generalizing s deeds with
  | nil =>
    have hevents : s.scheduler.events = [] := congrArg Scheduler.events h.quiet.symm
    exact ⟨deeds, by simp [hevents], h, hopen, hP⟩
  | cons t ts ih =>
    obtain ⟨ht, hts⟩ := hfit
    obtain ⟨hsound, hopen'⟩ := h.turn hopen ht
    have hnext : (s.turn t).scheduler = (s.scheduler.turn s.world.now t).quiet := by
      rw [turn_scheduler, h.quiet]
    have hts' : FitAll (s.turn t).world.now (s.turn t).scheduler ts := by
      rw [turn_now, hnext]
      exact fitAll_quiet.mpr hts
    obtain ⟨deeds', rfl, hall⟩ := ih hsound hopen' hts'
      (fun s deeds t hs ho ht => hstep s deeds t hs ho (List.mem_cons_of_mem _ ht))
      (hstep s deeds t h hopen (List.mem_cons_self ..) ht hP)
    have hevents : (s.scheduler.turnAll s.world.now (t :: ts)).events =
        (s.scheduler.turn s.world.now t).events ++
          ((s.turn t).scheduler.turnAll (s.turn t).world.now ts).events := by
      rw [Scheduler.turnAll_cons, Scheduler.turnAll_quiet, hnext, turn_now]
    exact ⟨_, by rw [hevents, said, h.quiet, List.map_append, List.append_assoc], hall⟩

/-- What a delivery does to a property `P box` of sessions, where `box` is the mail of which the
property takes account.  Mail that is ignored is dropped; items join and the gate is heard of
without regard to the mail; and a timer is set and an item leaves on account of one message. -/
structure Delivers (P : List Message → Session → List Deed → Prop) : Prop where
  /-- A message is dropped that is about no item, or not about the one in flight. -/
  drop : ∀ {m box s deeds}, s.Sound deeds → s.scheduler.stopped = false →
    (∀ p generation, m.about? = some (p, generation) → s.scheduler.isCurrent p generation = false) →
    P (m :: box) s deeds → P box s deeds
  /-- An item joins. -/
  join : ∀ {box s deeds} (item : Item), s.Sound deeds → s.scheduler.stopped = false →
    P box s deeds → P box (s.turn (.join item)) (deeds ++ s.said (.join item))
  /-- The gate is heard of. -/
  tell : ∀ {box s deeds} (state : GateState), s.Sound deeds → s.scheduler.stopped = false →
    P box s deeds → P box (s.turn (.tell state)) (deeds ++ s.said (.tell state))
  /-- The item in flight gets a timer. -/
  arm : ∀ {box s deeds} (p : Path), s.Sound deeds → s.scheduler.stopped = false →
    s.scheduler.queue ≠ [] → P (.armTimeout p s.scheduler.generation :: box) s deeds →
    P box (s.turn (.arm p s.scheduler.generation))
      (deeds ++ s.said (.arm p s.scheduler.generation))
  /-- The item in flight leaves. -/
  leave : ∀ {m box s deeds outcome}, s.Sound deeds → s.scheduler.stopped = false →
    s.scheduler.queue ≠ [] → m.Ends s.scheduler.generation outcome → P (m :: box) s deeds →
    P box (s.turn (.leave outcome)) (deeds ++ s.said (.leave outcome))

variable {P : List Message → Session → List Deed → Prop}

/-- A property kept by each part of a delivery is kept by deliveries. -/
lemma Delivers.deliver (hP : Delivers P) {m : Message} (box : List Message)
    (h : s.Sound deeds) (hopen : s.scheduler.stopped = false) (hm : m ≠ .shutdown)
    (hbefore : P (m :: box) s deeds) :
    let deeds' := deeds ++ (s.scheduler.handle s.world.now m).events.map .event
    (s.deliver m).Sound deeds' ∧ (s.deliver m).scheduler.stopped = false ∧
      P box (s.deliver m) deeds' := by
  have hfit := (h.coherent hopen).fitAll_turns s.world.now m
  -- items that join, under the mail of which the property takes account now
  have hjoins (items : List Item) (mail : List Message) (hP' : P mail s deeds) :=
    h.turns (P := P mail) hopen (Scheduler.fitAll_joins items)
      (fun s deeds t hs ho ht _ hb => by
        obtain ⟨item, -, rfl⟩ := List.mem_map.mp ht
        exact hP.join item hs ho hb) hP'
  have hone (t : Turn) (ht : t.Fits s.scheduler)
      (hafter : P box (s.turn t) (deeds ++ s.said t)) :
      (s.turn t).Sound (deeds ++ (s.scheduler.turn s.world.now t).events.map .event) ∧
        (s.turn t).scheduler.stopped = false ∧
        P box (s.turn t) (deeds ++ (s.scheduler.turn s.world.now t).events.map .event) := by
    rw [said, h.quiet] at hafter
    have hsound := h.turn hopen ht
    rw [said, h.quiet] at hsound
    exact ⟨hsound.1, hsound.2, hafter⟩
  have hignored (hm : ∀ p generation, m.about? = some (p, generation) →
      s.scheduler.isCurrent p generation = false) : P box s deeds :=
    hP.drop h hopen hm hbefore
  have hsilent (hm : m.about? = none) : P box s deeds := hignored (by simp [hm])
  have hnothing (hbox : P box s deeds) : s.Sound (deeds ++ s.scheduler.events.map .event) ∧
      s.scheduler.stopped = false ∧ P box s (deeds ++ s.scheduler.events.map .event) := by
    have hevents : s.scheduler.events = [] := congrArg Scheduler.events h.quiet.symm
    rw [hevents, List.map_nil, List.append_nil]
    exact ⟨h, hopen, hbox⟩
  have hcurrent {p : Path} {generation : Nat} (hc : s.scheduler.isCurrent p generation = true) :=
    (h.coherent hopen).isCurrent_iff.mp hc
  rw [deliver_eq_turns hopen h.quiet hm, Scheduler.handle_eq_turns hopen hm]
  cases m with
  | submit p =>
    obtain ⟨_, rfl, hall⟩ := hjoins (s.scheduler.admitted [p]) box (hsilent rfl)
    exact hall
  | removeStale p =>
    obtain ⟨_, rfl, hall⟩ := hjoins [⟨p, .removeStale⟩] box (hsilent rfl)
    exact hall
  | gate state => exact hone (.tell state) trivial (hP.tell state h hopen (hsilent rfl))
  | armTimeout p generation =>
    by_cases hc : s.scheduler.isCurrent p generation
    · obtain ⟨item, rest, hq, -, rfl⟩ := hcurrent hc
      have hne : s.scheduler.queue ≠ [] := by simp [hq]
      rw [Scheduler.turns, if_pos hc]
      exact hone (.arm p s.scheduler.generation) ⟨hne, rfl⟩ (hP.arm p h hopen hne hbefore)
    · rw [Scheduler.turns, if_neg hc]
      exact hnothing (hignored fun _ _ he => by obtain ⟨rfl, rfl⟩ := he; simpa using hc)
  | completed p generation outcome =>
    by_cases hc : s.scheduler.isCurrent p generation
    · obtain ⟨item, rest, hq, -, rfl⟩ := hcurrent hc
      rw [Scheduler.turns, if_pos hc]
      obtain ⟨_, rfl, hsound, hopen', hjoined⟩ := hjoins _ _ hbefore
      obtain ⟨hscheduler, -, hnow⟩ := foldl_turn_frame
        ((s.scheduler.admitted outcome.discovered).map .join) h.quiet
      obtain ⟨hqueue, -, hgeneration⟩ := Scheduler.turnAll_joins_front s.world.now
        (s.scheduler.admitted outcome.discovered) hq
      set s' := ((s.scheduler.admitted outcome.discovered).map Turn.join).foldl Session.turn s
      have hgen : s.scheduler.generation = s'.scheduler.generation := by
        rw [hscheduler]
        exact hgeneration.symm
      have hne : s'.scheduler.queue ≠ [] := by
        rw [hscheduler, Scheduler.quiet]
        simp [hqueue]
      have hafter := hP.leave hsound hopen' hne
        (m := .completed p s.scheduler.generation outcome) ⟨hgen, rfl⟩ hjoined
      have hsound' := hsound.turn hopen' (t := .leave (some outcome)) hne
      rw [List.foldl_append, Scheduler.turnAll_append]
      simp only [List.foldl_cons, List.foldl_nil, Scheduler.turnAll_cons, Scheduler.turnAll_nil]
      rw [Scheduler.turn_quiet]
      have hsaid : s'.said (.leave (some outcome)) =
          (s'.scheduler.turn s.world.now (.leave (some outcome))).events.map .event := by
        rw [said, hsound.quiet, hnow]
      simp only [List.map_append, ← List.append_assoc, ← hscheduler, ← hsaid]
      exact ⟨hsound'.1, hsound'.2, hafter⟩
    · rw [Scheduler.turns, if_neg hc]
      exact hnothing (hignored fun _ _ he => by obtain ⟨rfl, rfl⟩ := he; simpa using hc)
  | timedOut p generation =>
    by_cases hc : s.scheduler.isCurrent p generation
    · obtain ⟨item, rest, hq, -, rfl⟩ := hcurrent hc
      have hne : s.scheduler.queue ≠ [] := by simp [hq]
      rw [Scheduler.turns, if_pos hc]
      exact hone (.leave none) hne
        (hP.leave (m := .timedOut p s.scheduler.generation) h hopen hne ⟨rfl, rfl⟩ hbefore)
    · rw [Scheduler.turns, if_neg hc]
      exact hnothing (hignored fun _ _ he => by obtain ⟨rfl, rfl⟩ := he; simpa using hc)
  | shutdown => exact absurd rfl hm

/-! ### The end of a scheduler -/

lemma deliver_of_stopped (hstopped : s.scheduler.stopped = true)
    (hquiet : s.scheduler.quiet = s.scheduler) (m : Message) : s.deliver m = s := by
  have hhandle : ({ s.scheduler with events := [] }.handle s.world.now m) = s.scheduler := by
    rw [Scheduler.handle_of_stopped (by exact hstopped)]
    exact hquiet
  have hevents : s.scheduler.events = [] := congrArg Scheduler.events hquiet.symm
  rw [deliver, hhandle, hevents, List.foldl_nil]
  exact congrArg (fun x => { s with scheduler := x }) hquiet

/-- What a scheduler leaves behind when it stops. -/
lemma deliver_shutdown_eq (hopen : s.scheduler.stopped = false) :
    s.deliver .shutdown = { s with
      scheduler := { s.scheduler with
        inFlight := none, queue := [], stopped := true, events := [] }
      tasks := s.tasks.filter fun t => s.scheduler.inFlight.all (t.generation != ·.generation)
      timers := s.timers.filter fun t =>
        s.scheduler.inFlight.all fun c => c.timer.all (t.number != ·)
      world := s.world.release s.pipeline.backends
      status := { s.scheduler.status with queued := 0, inFlight := false } } := by
  have hhandle : s.scheduler.quiet.handle s.world.now .shutdown = s.scheduler.quiet.stop :=
    Scheduler.handle_shutdown (s := s.scheduler.quiet) hopen _
  have hdeliver : s.deliver .shutdown = s.scheduler.quiet.stop.events.foldl act
      { s with scheduler := s.scheduler.quiet.stop.quiet } := by
    rw [← hhandle]
    rfl
  rw [hdeliver]
  rcases hf : s.scheduler.inFlight with _ | ⟨path, generation, _ | timer⟩ <;>
    simp [Scheduler.stop, Scheduler.quiet, Scheduler.publish, Scheduler.emit, Scheduler.status, hf,
      act, release]

/-- What is left when the scheduler stops: nothing runs any more for the item in flight. -/
lemma deliver_shutdown (hopen : s.scheduler.stopped = false) :
    (s.deliver .shutdown).scheduler =
        { s.scheduler with inFlight := none, queue := [], stopped := true, events := [] } ∧
      (s.deliver .shutdown).tasks = s.tasks.filter
        (fun t => s.scheduler.inFlight.all (t.generation != ·.generation)) ∧
      (s.deliver .shutdown).timers = s.timers.filter
        (fun t => s.scheduler.inFlight.all fun c => c.timer.all (t.number != ·)) ∧
      departures (s.scheduler.quiet.handle s.world.now .shutdown).events = [] := by
  rw [deliver_shutdown_eq hopen, Scheduler.handle_shutdown (s := s.scheduler.quiet) hopen]
  refine ⟨rfl, rfl, rfl, ?_⟩
  rcases hf : s.scheduler.inFlight with _ | ⟨path, generation, _ | timer⟩ <;>
    simp [Scheduler.stop, Scheduler.quiet, Scheduler.publish, Scheduler.emit, hf]

lemma Sound.of_frame {s' : Session} {deeds' : List Deed} (h : s.Sound deeds)
    (hscheduler : s'.scheduler = s.scheduler) (hlog : Deed.log deeds' = Deed.log deeds) :
    s'.Sound deeds' := by
  have hrecord : s'.record deeds' = s.record deeds := by rw [record, record, hscheduler, hlog]
  exact ⟨by rw [hscheduler]; exact h.quiet, by rw [hscheduler]; exact h.coherent,
    by rw [hscheduler, hrecord]; exact h.ordered, by rw [hscheduler]; exact h.halted,
    by rw [hrecord]; exact h.tallied⟩

/-- Only deliveries concern the scheduler. -/
lemma move_scheduler {v : Move} (hv : v ≠ .deliver) :
    (s.move v).scheduler = s.scheduler ∧ Deed.log (s.deeds v) = [] := by
  obtain ⟨_, _, _, _, _, _, hmove, -⟩ := move_eq (s := s) hv
  refine ⟨by rw [hmove], ?_⟩
  cases v with
  | deliver => exact absurd rfl hv
  | task i =>
    rcases move_task s i with ⟨-, hdeeds⟩ | ⟨task, -, -, -, -, hdeeds⟩ <;> rw [hdeeds]
    · exact Deed.log_nil
    · cases s.written? task <;> rfl
  | _ => rfl

lemma move_deliver {m : Message} {rest : List Message} (hmail : s.mailbox = m :: rest)
    (hopen : s.scheduler.stopped = false) :
    s.move .deliver = { s with mailbox := rest }.deliver m ∧
      s.deeds .deliver = (s.scheduler.quiet.handle s.world.now m).events.map .event := by
  simp [move, deliverOldest, deeds, hmail, isOpen, hopen]

lemma mailbox_deliver {m : Message} {rest : List Message} (hmail : s.mailbox = m :: rest)
    (hopen : s.scheduler.stopped = false) : (s.move .deliver).mailbox = rest := by
  rw [(move_deliver hmail hopen).1]
  exact (foldl_act_frame _).2.1

/-- A scheduler that is told to stop does so. -/
lemma scheduler_shutdown {rest : List Message} (hmail : s.mailbox = .shutdown :: rest)
    (hopen : s.scheduler.stopped = false) : (s.move .deliver).scheduler =
      { s.scheduler with inFlight := none, queue := [], stopped := true, events := [] } := by
  rw [(move_deliver hmail hopen).1]
  exact (deliver_shutdown (s := { s with mailbox := rest }) hopen).1

/-- The scheduler handles the message that is delivered. -/
lemma Sound.scheduler_deliver (h : s.Sound deeds) {m : Message} {rest : List Message}
    (hmail : s.mailbox = m :: rest) (hopen : s.scheduler.stopped = false) :
    (s.move .deliver).scheduler = (s.scheduler.handle s.world.now m).quiet := by
  have hquiet : { s.scheduler with events := [] } = s.scheduler := h.quiet
  rw [(move_deliver hmail hopen).1, Session.deliver, (foldl_act_frame _).1]
  simp only [hquiet]
  rfl

/-- Where no message can be delivered, nothing is done but to empty the mailbox. -/
lemma move_deliver_nothing (h : s.Sound deeds)
    (hnone : s.mailbox = [] ∨ s.scheduler.stopped = true) :
    s.move .deliver = { s with mailbox := [] } ∧ s.deeds .deliver = [] := by
  cases hmail : s.mailbox with
  | nil =>
    have hself : { s with mailbox := [] } = s := by rw [← hmail]
    exact ⟨by simp [move, deliverOldest, hmail, hself], by simp [Session.deeds, hmail]⟩
  | cons m rest =>
    have hstopped : s.scheduler.stopped = true := by simpa [hmail] using hnone
    have hclosed : s.isOpen = false := by simp [isOpen, hstopped]
    have hevents : s.scheduler.events = [] := congrArg Scheduler.events h.quiet.symm
    constructor
    · simp only [move, deliverOldest, hmail, hclosed]
      exact deliver_of_stopped (s := { s with mailbox := [] }) hstopped h.quiet m
    · simp only [Session.deeds, hmail]
      rw [h.quiet, Scheduler.handle_of_stopped hstopped, hevents, List.map_nil]

/-- Either no message can be delivered, or the scheduler handles the oldest. -/
lemma delivery_cases (s : Session) : (s.mailbox = [] ∨ s.scheduler.stopped = true) ∨
    ∃ m rest, s.mailbox = m :: rest ∧ s.scheduler.stopped = false := by
  cases hmail : s.mailbox with
  | nil => exact .inl (.inl rfl)
  | cons m rest =>
    cases hopen : s.scheduler.stopped with
    | true => exact .inl (.inr rfl)
    | false => exact .inr ⟨m, rest, rfl, rfl⟩

lemma Sound.move (h : s.Sound deeds) (v : Move) : (s.move v).Sound (deeds ++ s.deeds v) := by
  by_cases hv : v = .deliver
  · subst hv
    obtain hnone | ⟨m, rest, hmail, hopen⟩ := s.delivery_cases
    · obtain ⟨hmove, hdeeds⟩ := move_deliver_nothing h hnone
      rw [hmove, hdeeds]
      exact h.of_frame rfl (by simp)
    · obtain ⟨hmove, hdeeds⟩ := move_deliver hmail hopen
      have hrest : ({ s with mailbox := rest } : Session).Sound deeds := h.of_frame rfl rfl
      rw [hmove, hdeeds, h.quiet]
      by_cases hm : m = .shutdown
      · subst hm
        obtain ⟨hscheduler, -, -, hlog⟩ := deliver_shutdown (s := { s with mailbox := rest }) hopen
        rw [h.quiet] at hlog
        refine ⟨by rw [hscheduler]; rfl, by simp [hscheduler], by simp [hscheduler],
          fun _ => by rw [hscheduler], ?_⟩
        refine h.tallied.of_frame ?_ ?_ ?_
        · rw [record, hscheduler]
          rfl
        · rw [record, hscheduler]
          rfl
        · simp [record, hlog]
      · have htrue : Delivers fun _ _ _ => True := by
          constructor <;> intros <;> trivial
        exact (htrue.deliver rest hrest hopen hm trivial).1
  · obtain ⟨hscheduler, hlog⟩ := move_scheduler (s := s) hv
    exact h.of_frame hscheduler (by simp [hlog])

/-- The latest generation is that of the last item to leave, or the one after it. -/
lemma Sound.generation_eq (h : s.Sound deeds) (hopen : s.scheduler.stopped = false) :
    s.scheduler.generation = left deeds + s.scheduler.queue.head?.toList.length :=
  (h.ordered hopen).generation_eq

/-- The item in flight is the one after those that have left. -/
lemma Sound.in_flight (h : s.Sound deeds) {c : InFlight} (hc : c ∈ s.scheduler.inFlight) :
    s.scheduler.stopped = false ∧ s.scheduler.queue ≠ [] ∧
      c.generation = s.scheduler.generation ∧ c.generation = left deeds + 1 := by
  have hopen : s.scheduler.stopped = false := by
    cases hs : s.scheduler.stopped with
    | false => rfl
    | true => simp [h.halted hs] at hc
  have hcoherent := h.coherent hopen
  have hgeneration := h.generation_eq hopen
  cases hq : s.scheduler.queue with
  | nil => simp [hcoherent.inFlight_of_nil hq] at hc
  | cons item rest =>
    obtain ⟨timer, hf⟩ := hcoherent.inFlight_of_cons hq
    obtain rfl := Option.mem_unique hc hf
    rw [hq] at hgeneration
    exact ⟨hopen, by simp, rfl, hgeneration⟩

/-- The budget counts what was annotated, as far as it can. -/
lemma Sound.used_eq (h : s.Sound deeds) : s.scheduler.budget.used.toNat =
    min (ended (departures (Deed.log deeds)) (some .annotated)) (2 ^ 32 - 1) := by
  rw [← show (s.record deeds).events = Deed.log deeds from rfl, ← h.tallied.counted_eq]
  exact h.tallied.used_eq

lemma move_limit (v : Move) :
    (s.move v).scheduler.budget.limit = s.scheduler.budget.limit := by
  by_cases hv : v = .deliver
  · subst hv
    rw [move, deliverOldest]
    split
    · rfl
    · rw [deliver, (foldl_act_frame _).1]
      exact Scheduler.handle_limit _
  · rw [(move_scheduler hv).1]

end Session

end Simulation

end PictureIndex
