import PictureIndex.Proofs.Accounting
import PictureIndex.Proofs.PlanRuns
/-!
# Items run as if alone

In a session the task of an item is one party among many, and its requests are put between moves of
the others.  But the only other tasks there ever were belong to items that have left.  So an item
sees the surroundings as its predecessor left them and changes them as it would if it were alone.

What is looked at of the surroundings is up to an `Outlook`.  The items that left form a `Relay`:
each was started in the state that the one before it left behind, with the budget that was left
then, and went some way along its own plan; if it left with an outcome, it went to the end.
`Tracked.move` says that every move that fits the outlook keeps this.
-/

namespace PictureIndex

open Log

/-- Whether a limit is reached when these items have left. -/
def isSpent (limit : Option UInt32) (F : List Departure) : Bool :=
  limit.any fun n => n.toNat ≤ ended F (some .annotated)

/-- The plan of an item. -/
def Pipeline.process (e : Pipeline) (exhausted : Bool) (item : Item) : Plan Outcome :=
  match item.work with
  | .examine => e.examine exhausted item.path
  | .removeStale => removeStale item.path

namespace Simulation

variable {σ : Type*}

/-- A way of looking at what surrounds the tasks, in which the log of calls plays no part. -/
structure Outlook (σ : Type*) where
  /-- The state that is looked at. -/
  view : World → σ
  /-- What comes of the requests of the item with some path. -/
  surroundings : Path → Surroundings σ
  /-- The log of calls plays no part. -/
  view_calls : ∀ (w : World) calls, view { w with calls := calls } = view w

namespace Outlook

variable (O : Outlook σ)

/-- What an item that left after others made of the state. -/
def Stint (e : Pipeline) (limit : Option UInt32) (F : List Departure) (d : Departure)
    (a b : σ) : Prop :=
  ∃ plan, Plan.Reaches (O.surroundings d.item.path) a (e.process (isSpent limit F) d.item) b plan ∧
    ∀ outcome ∈ d.outcome, plan = .done outcome

/-- What items that left one after the other made of the state. -/
inductive Relay (e : Pipeline) (limit : Option UInt32) (start : σ) : List Departure → σ → Prop
  | nil : Relay e limit start [] start
  | snoc {F : List Departure} {d : Departure} {a b : σ} (hrelay : Relay e limit start F a)
      (hstint : O.Stint e limit F d a b) : Relay e limit start (F ++ [d]) b

/-- Whether a move fits the outlook: requests are answered as it says, and neither a request
without an answer nor a change from outside touches the state. -/
def Allows (s : Session) : Move → Prop
  | .task i => ∀ task ∈ s.tasks[i]?, ∀ r next,
      Session.Task.runnable? s.world.now task = some (.ask r next) →
      match s.world.reply r with
      | (.answer a _, w) => O.surroundings task.path (O.view s.world) r a (O.view w)
      | (_, w) => O.view w = O.view s.world
  | .become w => O.view w = O.view s.world
  | _ => True

end Outlook

namespace Session

open Scheduler (Turn)

variable {O : Outlook σ} {s : Session} {deeds : List Deed} {box : List Message}
  {F : List Departure} {a : σ}

lemma Sound.isExhausted_eq (h : s.Sound deeds) : s.scheduler.budget.isExhausted =
    isSpent s.scheduler.budget.limit (departures (Deed.log deeds)) := by
  have hused := h.used_eq
  rw [Budget.isExhausted, isSpent]
  cases s.scheduler.budget.limit with
  | none => rfl
  | some n =>
    have hbound := n.toNat_lt
    simp only [Option.any_some, decide_eq_decide, UInt32.le_iff_toNat_le]
    omega

/-! ## The invariant -/

/-- How a session stands to the state `a` that the items that left have left behind. -/
inductive Standing (O : Outlook σ) (box : List Message) (s : Session) (F : List Departure)
    (a : σ) : Prop
  /-- It has stopped. -/
  | stopped (hstopped : s.scheduler.stopped = true)
  /-- No item is in flight, and the state is this one. -/
  | idle (hqueue : s.scheduler.queue.head? = none) (hview : O.view s.world = a)
  /-- An item is in flight and has gone some way along its plan.  Its task, if it can go on, has
  the rest of it before it; and if it has reported, the plan is done. -/
  | busy (item : Item) (plan : Plan Outcome) (hqueue : s.scheduler.queue.head? = some item)
      (hreach : Plan.Reaches (O.surroundings item.path) a
        (s.pipeline.process (isSpent s.scheduler.budget.limit F) item) (O.view s.world) plan)
      (htasks : ∀ task ∈ s.tasks, task.path = item.path ∧
        ∀ plan', task.state.plan? = some plan' → plan' = plan)
      (hmail : ∀ p outcome, .completed p s.scheduler.generation outcome ∈ box →
        plan = .done outcome)

/-- The invariant: the items that left form a relay, and the session stands to it as it should. -/
structure Tracked (O : Outlook σ) (e : Pipeline) (limit : Option UInt32) (start : σ)
    (box : List Message) (s : Session) (deeds : List Deed) : Prop where
  /-- The tasks know the same of the configuration throughout. -/
  pipeline_eq : s.pipeline = e
  /-- The limit stays. -/
  limit_eq : s.scheduler.budget.limit = limit
  /-- There is a state between the items that left and the one in flight. -/
  relay : ∃ a, O.Relay e limit start (departures (Deed.log deeds)) a ∧
    Standing O box s (departures (Deed.log deeds)) a

lemma Standing.of_frame {s' : Session} {box' : List Message} (h : Standing O box s F a)
    (hqueue : s'.scheduler.queue.head? = s.scheduler.queue.head?)
    (hstopped : s'.scheduler.stopped = s.scheduler.stopped)
    (hgeneration : s'.scheduler.generation = s.scheduler.generation)
    (hlimit : s'.scheduler.budget.limit = s.scheduler.budget.limit)
    (hpipeline : s'.pipeline = s.pipeline) (hview : O.view s'.world = O.view s.world)
    (htasks : s'.tasks = s.tasks)
    (hbox : ∀ p generation outcome, .completed p generation outcome ∈ box' →
      .completed p generation outcome ∈ box) : Standing O box' s' F a := by
  cases h with
  | stopped h => exact .stopped (hstopped.trans h)
  | idle hq hv => exact .idle (hqueue.trans hq) (hview.trans hv)
  | busy item plan hq hreach ht hmail =>
    refine .busy item plan (hqueue.trans hq) ?_ (htasks ▸ ht) fun p outcome hm => ?_
    · rw [hpipeline, hlimit, hview]
      exact hreach
    · rw [hgeneration] at hm
      exact hmail p outcome (hbox p _ outcome hm)

/-- An item that is started has its whole plan before it. -/
lemma Standing.of_start {item : Item} {exhausted : Bool}
    (hqueue : s.scheduler.queue.head? = some item)
    (hexhausted : exhausted = isSpent s.scheduler.budget.limit F)
    (htasks : s.tasks =
      [⟨item.path, s.scheduler.generation, .ready (s.planOf item exhausted)⟩])
    (hletters : ∀ m ∈ box, ∀ p generation, m.about? = some (p, generation) →
      generation < s.scheduler.generation) : Standing O box s F (O.view s.world) := by
  subst hexhausted
  refine .busy item _ hqueue .refl (fun task htask => ?_) fun p outcome hm => ?_
  · rw [htasks, List.mem_singleton] at htask
    subst htask
    exact ⟨rfl, fun plan hplan => (Option.some.inj hplan).symm⟩
  · exact absurd (hletters _ hm p _ rfl) (Nat.lt_irrefl _)

section

variable {e : Pipeline} {limit : Option UInt32} {start : σ}

lemma Tracked.of_frame {s' : Session} {deeds' : List Deed} {box' : List Message}
    (h : Tracked O e limit start box s deeds)
    (hlog : departures (Deed.log deeds') = departures (Deed.log deeds))
    (hqueue : s'.scheduler.queue.head? = s.scheduler.queue.head?)
    (hstopped : s'.scheduler.stopped = s.scheduler.stopped)
    (hgeneration : s'.scheduler.generation = s.scheduler.generation)
    (hlimit : s'.scheduler.budget.limit = s.scheduler.budget.limit)
    (hpipeline : s'.pipeline = s.pipeline) (hview : O.view s'.world = O.view s.world)
    (htasks : s'.tasks = s.tasks)
    (hbox : ∀ p generation outcome, .completed p generation outcome ∈ box' →
      .completed p generation outcome ∈ box) : Tracked O e limit start box' s' deeds' where
  pipeline_eq := hpipeline.trans h.pipeline_eq
  limit_eq := hlimit.trans h.limit_eq
  relay := by
    obtain ⟨a, hrelay, hstanding⟩ := h.relay
    rw [hlog]
    exact ⟨a, hrelay, hstanding.of_frame hqueue hstopped hgeneration hlimit hpipeline hview htasks
      hbox⟩

lemma Tracked.drop {m : Message} (h : Tracked O e limit start (m :: box) s deeds) :
    Tracked O e limit start box s deeds :=
  h.of_frame rfl rfl rfl rfl rfl rfl rfl rfl fun _ _ _ hm => List.mem_cons_of_mem m hm

/-! ## Deliveries -/

lemma departures_events (log : List Event) :
    departures (Deed.log (deeds ++ log.map .event)) =
      departures (Deed.log deeds) ++ departures log := by
  rw [Deed.log_append, Deed.log_events, departures_append]

/-- Events of which none is a departure leave the relay as it is. -/
lemma departures_events_of_nil {log : List Event} (hlog : departures log = []) :
    departures (Deed.log (deeds ++ log.map .event)) = departures (Deed.log deeds) := by
  rw [departures_events, hlog, List.append_nil]

lemma foldl_act_view (log : List Event) :
    O.view (log.foldl act s).world = O.view s.world := by
  obtain ⟨calls, hcalls⟩ := foldl_act_world (s := s) log
  rw [hcalls, O.view_calls]

lemma Tracked.join (item : Item) (hsound : s.Sound deeds) (hopen : s.scheduler.stopped = false)
    (horder : Orderly box s deeds) (h : Tracked O e limit start box s deeds) :
    Tracked O e limit start box (s.turn (.join item)) (deeds ++ s.said (.join item)) := by
  have hcoherent := hsound.coherent hopen
  obtain ⟨log, next, hshift, -, hsaid, hturn⟩ :=
    turn_eq (t := .join item) hcoherent hsound.quiet trivial
  rw [hsaid, hturn]
  cases hshift with
  | wait _ hq hs =>
    subst hs
    exact h.of_frame (departures_events_of_nil rfl) (by rw [hq]; rfl) rfl rfl rfl rfl rfl rfl
      fun _ _ _ => id
  | begin _ hq hs =>
    subst hs
    obtain ⟨a, hrelay, hstanding⟩ := h.relay
    have hidle := hcoherent.inFlight_of_nil hq
    have htasks : s.tasks ++ [⟨item.path, s.scheduler.generation + 1,
        .ready (s.planOf item s.scheduler.budget.isExhausted)⟩] = _ :=
      congrArg (· ++ _) (horder.idle hidle)
    have ha : O.view s.world = a := by
      cases hstanding with
      | stopped hstopped => simp [hopen] at hstopped
      | idle _ hview => exact hview
      | busy _ _ hqueue => simp [hq] at hqueue
    refine ⟨h.pipeline_eq, h.limit_eq, a, ?_⟩
    rw [departures_events_of_nil rfl, ← ha]
    refine ⟨ha ▸ hrelay, Standing.of_start rfl hsound.isExhausted_eq htasks fun m hm p g hg => ?_⟩
    · exact Nat.lt_succ_of_le (horder.letters m hm p g hg)

lemma Tracked.tell (state : GateState) (hsound : s.Sound deeds)
    (hopen : s.scheduler.stopped = false) (h : Tracked O e limit start box s deeds) :
    Tracked O e limit start box (s.turn (.tell state)) (deeds ++ s.said (.tell state)) := by
  obtain ⟨log, next, hshift, -, hsaid, hturn⟩ :=
    turn_eq (t := .tell state) (hsound.coherent hopen) hsound.quiet trivial
  rw [hsaid, hturn]
  cases hshift with
  | tell _ hs =>
    subst hs
    exact h.of_frame (departures_events_of_nil rfl) rfl rfl rfl rfl rfl rfl rfl fun _ _ _ => id

lemma Tracked.arm (p : Path) (hsound : s.Sound deeds) (hopen : s.scheduler.stopped = false)
    (hqueue : s.scheduler.queue ≠ [])
    (h : Tracked O e limit start (.armTimeout p s.scheduler.generation :: box) s deeds) :
    Tracked O e limit start box (s.turn (.arm p s.scheduler.generation))
      (deeds ++ s.said (.arm p s.scheduler.generation)) := by
  obtain ⟨log, next, hshift, -, hsaid, hturn⟩ := turn_eq
    (t := .arm p s.scheduler.generation) (hsound.coherent hopen) hsound.quiet ⟨hqueue, rfl⟩
  rw [hsaid, hturn]
  cases hshift with
  | @arm _ item rest timer _ hq hf hs =>
    subst hs
    have hstops (t : Session) : (timer.toList.map Event.timerStopped).foldl act t =
        { t with timers := t.timers.filter fun x => timer.all (x.number != ·) } := by
      cases timer <;> simp [act]
    simp only [List.foldl_cons, hstops, act]
    have hlog : departures (Event.timerSet p s.scheduler.generation (s.scheduler.timers + 1) ::
        timer.toList.map .timerStopped) = [] := by
      cases timer <;> rfl
    exact h.drop.of_frame (departures_events_of_nil hlog) rfl rfl rfl rfl rfl rfl rfl
      fun _ _ _ => id

/-- The item in flight hands the state on to the next one. -/
lemma Tracked.leave {m : Message} {outcome : Option Outcome} (hsound : s.Sound deeds)
    (hopen : s.scheduler.stopped = false) (hqueue : s.scheduler.queue ≠ [])
    (hends : m.Ends s.scheduler.generation outcome) (horder : Orderly (m :: box) s deeds)
    (h : Tracked O e limit start (m :: box) s deeds) :
    Tracked O e limit start box (s.turn (.leave outcome)) (deeds ++ s.said (.leave outcome)) := by
  obtain ⟨log, next, hshift, -, hsaid, hturn⟩ := turn_eq
    (t := .leave outcome) (hsound.coherent hopen) hsound.quiet hqueue
  obtain ⟨a, hrelay, hstanding⟩ := h.relay
  have hview : O.view (s.turn (.leave outcome)).world = O.view s.world := by
    rw [hturn]
    exact foldl_act_view log
  have hpipeline : (s.turn (.leave outcome)).pipeline = e := by
    rw [hturn, (foldl_act_frame _).2.2.1]
    exact h.pipeline_eq
  have hlimit : (s.turn (.leave outcome)).scheduler.budget.limit = limit := by
    rw [turn_scheduler]
    exact (Scheduler.turn_limit _).trans h.limit_eq
  have hspent := (hsound.turn hopen (t := .leave outcome) hqueue).1.isExhausted_eq
  -- what the item that leaves has made of the state
  have hstint {item : Item} (hfront : s.scheduler.queue.head? = some item) :
      O.Stint e limit (departures (Deed.log deeds)) ⟨item, s.scheduler.generation, outcome⟩ a
        (O.view s.world) := by
    cases hstanding with
    | stopped hstopped => simp [hopen] at hstopped
    | idle hnone => simp [hnone] at hfront
    | busy item' plan hqueue' hreach _ hmail =>
      obtain rfl : item' = item := Option.some.inj (hqueue'.symm.trans hfront)
      rw [h.pipeline_eq, h.limit_eq] at hreach
      refine ⟨plan, hreach, fun o ho => ?_⟩
      cases m with
      | completed p generation outcome' =>
        obtain ⟨rfl, rfl⟩ := hends
        obtain rfl := Option.some.inj ho
        exact hmail p outcome' List.mem_cons_self
      | timedOut p generation =>
        obtain ⟨rfl, rfl⟩ := hends
        exact nomatch ho
      | _ => exact absurd hends id
  refine ⟨hpipeline, hlimit, O.view (s.turn (.leave outcome)).world, ?_⟩
  rw [hlimit] at hspent
  rw [hsaid, departures_events] at hspent ⊢
  rw [← hview] at hstint
  generalize s.turn (.leave outcome) = s' at *
  cases hshift with
  | @next _ item front rest timer _ hq hf hs =>
    obtain ⟨-, htasks, -⟩ := horder.leaving hf hends
    rw [List.foldl_append, foldl_act_farewell] at hturn
    simp only [departures_append, Scheduler.departures_farewell, departures_cons, departures_nil,
      List.nil_append, List.append_nil] at hspent ⊢
    refine ⟨hrelay.snoc (hstint (by rw [hq]; rfl)), ?_⟩
    subst hs hturn
    refine Standing.of_start rfl ?_ (congrArg (· ++ _) htasks) fun m hm p g hg => ?_
    · rw [hlimit]
      exact hspent
    · exact Nat.lt_succ_of_le (horder.drop.letters m hm p g hg)
  | @last _ item timer _ _ hq hf hd hs =>
    simp only [departures_append, Scheduler.departures_farewell, departures_cons, departures_nil,
      List.nil_append, List.append_nil]
    refine ⟨hrelay.snoc (hstint (by rw [hq]; rfl)), .idle ?_ rfl⟩
    rw [hturn, (foldl_act_frame _).1, hs]
    rfl

lemma tracked_delivers : Delivers fun box s deeds =>
    Orderly box s deeds ∧ Tracked O e limit start box s deeds where
  drop _ _ _ h := ⟨h.1.drop, h.2.drop⟩
  join item hsound hopen h := ⟨h.1.join item hsound hopen, h.2.join item hsound hopen h.1⟩
  tell state hsound hopen h := ⟨h.1.tell state hsound hopen, h.2.tell state hsound hopen⟩
  arm p hsound hopen hqueue h :=
    ⟨h.1.arm p hsound hopen hqueue, h.2.arm p hsound hopen hqueue⟩
  leave hsound hopen hqueue hends h :=
    ⟨h.1.leave hsound hopen hqueue hends, h.2.leave hsound hopen hqueue hends h.1⟩

/-! ## The other moves -/

/-- The step of a task that fits the outlook takes the item in flight further along its plan. -/
lemma Tracked.advance {i : Nat} {task : Task} {s' : Session} {plan : Plan Outcome}
    (h : Tracked O e limit start s.mailbox s deeds) (hallows : O.Allows s (.task i))
    (horder : Orderly s.mailbox s deeds) (hsound : s.Sound deeds)
    (htask : s.tasks[i]? = some task) (hrun : Task.runnable? s.world.now task = some plan)
    (hadvance : Advance s i task s') :
    Tracked O e limit start s'.mailbox s'
      (deeds ++ (s.written? task).toList.map (.wrote task.generation)) := by
  have hstate := runnable_plan hrun
  obtain ⟨c, -, hc, -, rfl, htasks, -, -⟩ := horder.alone htask
  obtain ⟨hopen, hqueue, -, -⟩ := hsound.in_flight hc
  obtain ⟨a, hrelay, hstanding⟩ := h.relay
  have hlog : Deed.log (deeds ++ (s.written? task).toList.map (.wrote task.generation)) =
      Deed.log deeds := by
    cases s.written? task <;> simp [Deed.log]
  have hpipeline : s'.pipeline = s.pipeline := by cases hadvance <;> rfl
  have hscheduler : s'.scheduler = s.scheduler := by cases hadvance <;> rfl
  refine ⟨hpipeline.trans h.pipeline_eq, by rw [hscheduler]; exact h.limit_eq, a, ?_⟩
  rw [hlog]
  refine ⟨hrelay, ?_⟩
  cases hstanding with
  | stopped hstopped => simp [hopen] at hstopped
  | idle hnone => simp [hqueue] at hnone
  | busy item left hfront hreach hown hmail =>
    obtain ⟨hpath, hleft⟩ := hown task (by simp [htasks])
    obtain rfl := hleft plan hstate
    -- nothing has been reported while there is a request to be put
    have hsilent {r : Request} {next : r.Answer → Plan Outcome} (hplan : plan = .ask r next)
        {ms : List Message} (hms : ∀ m ∈ ms, ∀ p g o, m ≠ .completed p g o) {q : Plan Outcome} :
        ∀ p o, .completed p s.scheduler.generation o ∈ s.mailbox ++ s.entering ms →
          q = .done o := by
      intro p o hm
      rcases List.mem_append.mp hm with hold | hnew
      · cases hplan.symm.trans (hmail p o hold)
      · exact absurd rfl (hms _ ((entering_sublist ms).subset hnew) p _ o)
    have htold (r : Request) : ∀ m ∈ task.tells r, ∀ p g o, m ≠ .completed p g o := by
      intro m hm p g o
      cases r <;> simp [Task.tells] at hm
      simp [hm]
    have hanswers {r : Request} {next : r.Answer → Plan Outcome} (hplan : plan = .ask r next) :=
      hallows task htask r next (hplan ▸ hrun)
    cases hadvance with
    | report outcome hplan =>
      obtain rfl := Option.some.inj (hstate.symm.trans hplan)
      refine .busy item _ hfront hreach ?_ fun p o hm => ?_
      · simp [htasks]
      · rcases List.mem_append.mp hm with hold | hnew
        · exact hmail p o hold
        · have hone := List.mem_singleton.mp ((entering_sublist _).subset hnew)
          obtain ⟨-, -, rfl⟩ := Message.completed.inj hone
          rfl
    | answered r next answer delay w state hplan hreply hnext =>
      obtain rfl := Option.some.inj (hstate.symm.trans hplan)
      have hcomes := hanswers rfl
      rw [hreply, hpath] at hcomes
      refine .busy item (next answer) hfront (hreach.step hcomes) (fun t ht => ?_)
        (hsilent rfl (htold r))
      obtain rfl : t = { task with state := state } := by simpa [htasks] using ht
      exact ⟨hpath, fun p hp => Option.some.inj (hp.symm.trans hnext)⟩
    | hang r next w hplan hreply =>
      obtain rfl := Option.some.inj (hstate.symm.trans hplan)
      have hkept := hanswers rfl
      rw [hreply] at hkept
      refine .busy item _ hfront (hkept ▸ hreach) (fun t ht => ?_) (hsilent rfl (htold r))
      obtain rfl : t = { task with state := .stuck } := by simpa [htasks] using ht
      exact ⟨hpath, by rintro _ ⟨⟩⟩
    | die r next w hplan hreply =>
      obtain rfl := Option.some.inj (hstate.symm.trans hplan)
      have hkept := hanswers rfl
      rw [hreply] at hkept
      exact .busy item _ hfront (hkept ▸ hreach) (by simp [htasks]) (hsilent rfl (htold r))

lemma Tracked.deliver {m : Message} {rest : List Message}
    (h : Tracked O e limit start s.mailbox s deeds) (horder : Orderly s.mailbox s deeds)
    (hsound : s.Sound deeds) (hmail : s.mailbox = m :: rest)
    (hopen : s.scheduler.stopped = false) :
    Tracked O e limit start (s.move .deliver).mailbox (s.move .deliver)
      (deeds ++ s.deeds .deliver) := by
  obtain ⟨hmove, hdeeds⟩ := move_deliver hmail hopen
  have hbox : ({ s with mailbox := rest }.deliver m).mailbox = rest :=
    (foldl_act_frame _).2.1
  have hrest : ({ s with mailbox := rest } : Session).Sound deeds := hsound.of_frame rfl rfl
  rw [hmove, hdeeds, hbox, hsound.quiet]
  rw [hmail] at h horder
  by_cases hm : m = .shutdown
  · subst hm
    obtain ⟨hscheduler, -, -, hlog⟩ :=
      deliver_shutdown (s := { s with mailbox := rest }) hopen
    rw [hsound.quiet] at hlog
    obtain ⟨a, hrelay, -⟩ := h.relay
    refine ⟨?_, ?_, a, ?_, .stopped ?_⟩
    · rw [Session.deliver, (foldl_act_frame _).2.2.1]
      exact h.pipeline_eq
    · rw [hscheduler]
      exact h.limit_eq
    · simpa [hlog] using hrelay
    · rw [hscheduler]
  · have hbefore : Tracked O e limit start (m :: rest) { s with mailbox := rest } deeds :=
      h.of_frame rfl rfl rfl rfl rfl rfl rfl rfl fun _ _ _ => id
    exact (tracked_delivers.deliver rest hrest hopen hm
      ⟨horder.of_sublist (List.Sublist.refl _) rest, hbefore⟩).2.2.2

/-- Mail that reports nothing leaves everything as it is. -/
lemma Tracked.of_mail {s' : Session} {ms : List Message}
    (h : Tracked O e limit start s.mailbox s deeds) (hscheduler : s'.scheduler = s.scheduler)
    (hpipeline : s'.pipeline = s.pipeline) (hview : O.view s'.world = O.view s.world)
    (htasks : s'.tasks = s.tasks) (hmail : s'.mailbox = s.mailbox ++ s.entering ms)
    (hms : ∀ m ∈ ms, ∀ p generation outcome, m ≠ .completed p generation outcome) :
    Tracked O e limit start s'.mailbox s' deeds := by
  refine h.of_frame rfl (by rw [hscheduler]) (by rw [hscheduler]) (by rw [hscheduler])
    (by rw [hscheduler]) hpipeline hview htasks fun p generation outcome hm => ?_
  rw [hmail] at hm
  rcases List.mem_append.mp hm with hold | hnew
  · exact hold
  · exact absurd rfl (hms _ ((entering_sublist ms).subset hnew) p generation outcome)

/-- **Items run as if alone**: every move that fits the outlook keeps the relay. -/
theorem Tracked.move {v : Move} (h : Tracked O e limit start s.mailbox s deeds) (hv : v.Legal)
    (hallows : O.Allows s v) (horder : Orderly s.mailbox s deeds) (hsound : s.Sound deeds) :
    Tracked O e limit start (s.move v).mailbox (s.move v) (deeds ++ s.deeds v) := by
  have hnothing (hdeeds : s.deeds v = [])
      (hmove : Tracked O e limit start (s.move v).mailbox (s.move v) deeds) :
      Tracked O e limit start (s.move v).mailbox (s.move v) (deeds ++ s.deeds v) := by
    rwa [hdeeds, List.append_nil]
  have houtside {m : Message} (hm : m.about? = none) (p : Path) (generation : Nat)
      (outcome : Outcome) : m ≠ .completed p generation outcome := by
    rintro rfl
    exact nomatch hm
  cases v with
  | deliver =>
    obtain hnone | ⟨m, rest, hmail, hopen⟩ := s.delivery_cases
    · obtain ⟨hmove, hdeeds⟩ := move_deliver_nothing hsound hnone
      refine hnothing hdeeds ?_
      rw [hmove]
      exact h.of_frame rfl rfl rfl rfl rfl rfl rfl rfl nofun
    · exact h.deliver horder hsound hmail hopen
  | task i =>
    rcases move_task s i with ⟨hmove, hdeeds⟩ | ⟨task, plan, htask, hrun, hadvance, hdeeds⟩
    · exact hnothing hdeeds (by rw [hmove]; exact h)
    · rw [hdeeds]
      exact h.advance hallows horder hsound htask hrun hadvance
  | timer i =>
    refine hnothing rfl ?_
    rcases move_timer s i with hmove | ⟨timer, -, hmove⟩
    · rw [hmove]
      exact h
    · rw [hmove, send_eq]
      refine h.of_mail rfl rfl rfl rfl rfl fun m hm p generation outcome => ?_
      rw [List.mem_singleton.mp hm]
      nofun
  | gate | send =>
    refine hnothing rfl ?_
    obtain ⟨gate, watching, calls, ms, hms, hmove⟩ := move_outside s hv (by simp)
    rw [hmove, sendAll_eq]
    exact h.of_mail rfl rfl (O.view_calls ..) rfl rfl fun m hm => houtside (hms m hm)
  | become w =>
    refine hnothing rfl ?_
    exact h.of_frame rfl rfl rfl rfl rfl rfl hallows rfl fun _ _ _ => id

/-- When the queue is empty, the items that left have made of the state what it is. -/
lemma Tracked.relay_of_empty (h : Tracked O e limit start box s deeds)
    (hopen : s.scheduler.stopped = false) (hqueue : s.scheduler.queue = []) :
    O.Relay e limit start (departures (Deed.log deeds)) (O.view s.world) := by
  obtain ⟨a, hrelay, hstanding⟩ := h.relay
  cases hstanding with
  | stopped hstopped => simp [hopen] at hstopped
  | idle _ hview =>
    subst hview
    exact hrelay
  | busy item plan hfront => simp [hqueue] at hfront

lemma tracked_starting (world : World) (c : Config) (backends : Backends)
    (gate : Option (Worker × Gate × Nat)) :
    Tracked O (Pipeline.ofConfig c backends) c.indexingLimit (O.view world) []
      (starting world c backends gate) [] :=
  ⟨rfl, rfl, O.view world, .nil, .idle rfl rfl⟩

end

end Session

end Simulation

end PictureIndex
