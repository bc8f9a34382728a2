import PictureIndex.Proofs.Requests
/-!
# When the backends are released

A backend keeps its connection between two pictures and gives it up when there is nothing left to
annotate: the scheduler releases the backends when its queue runs empty, and once more when it
stops.  The release is asked for at the end of a turn in which the last item leaves, whatever made
it leave, and a directory whose entries are all excluded leaves an empty queue behind as a picture
does.

`Releasing` says of the log that there were as many releases as drains and that each came when all
that had joined had left, and `handle_drains` that a message drains the queue exactly if it finds
something there and leaves nothing.  `Discharged` adds the calls of the backends.  The calls of an
item are made by its task; so it matters that no task lives when the queue is empty, which is part
of `Orderly`.
-/

namespace PictureIndex

open Log

/-! ## Releases in the log -/

namespace Log

/-- Backends may be released when all that joined has left. -/
def Rested (before : List Event) : Event → Prop
  | .released => joined before = (departures before).map (·.item)
  | _ => True

lemma always_rested {before log : List Event} (h : .released ∉ log) :
    Always Rested before log := by
  refine always_of_forall fun e he before => ?_
  cases e with
  | released => exact absurd he h
  | _ => trivial

end Log

namespace Scheduler

variable {s s' : Scheduler} {now : Nat}

/-- How often the queue runs empty from one scheduler to another: once or not at all. -/
def emptied (s s' : Scheduler) : Nat := if s.queue ≠ [] ∧ s'.queue = [] then 1 else 0

lemma emptied_of_same (hq : s'.queue = s.queue) : emptied s s' = 0 := if_neg fun h => h.1 (hq ▸ h.2)

lemma emptied_of_idle (hq : s.queue = []) : emptied s s' = 0 := if_neg fun h => h.1 hq

lemma emptied_of_busy (hq : s'.queue ≠ []) : emptied s s' = 0 := if_neg fun h => hq h.2

lemma emptied_of_last (hq : s.queue ≠ []) (hq' : s'.queue = []) : emptied s s' = 1 :=
  if_pos ⟨hq, hq'⟩

lemma released_notMem_stops (timer : Option Nat) :
    .released ∉ timer.toList.map Event.timerStopped := by
  cases timer <;> simp

lemma released_notMem_farewell (c : InFlight) (outcome : Option Outcome) :
    .released ∉ farewell c outcome := by
  cases outcome <;> simp [farewell]

lemma settled_drains (outcome : Option Outcome) : (s.settled outcome).drains = s.tally.drains := by
  rcases outcome with _ | (_ | _ | _ | _ | _ | _ | _) <;> rfl

/-- A turn drains the queue, and releases the backends, exactly if it finds something there and
leaves nothing. -/
lemma turn_drains (now : Nat) (h : s.Coherent) {t : Turn} (ht : t.Fits s) :
    (s.turn now t).tally.drains = s.tally.drains + emptied s (s.turn now t) ∧
      (s.turn now t).events.count .released =
        s.events.count .released + emptied s (s.turn now t) := by
  obtain ⟨log, s', hs, he⟩ := h.shift now ht
  rw [he]
  -- but for the last item to leave, there is a queue afterwards or there was none before
  cases hs with
  | wait item hq hs =>
    subst hs
    rw [emptied_of_busy (List.cons_ne_nil _ _)]
    simp
  | begin item hq hs =>
    subst hs
    rw [emptied_of_idle hq]
    simp
  | @arm p item rest timer _ hq hf hs =>
    subst hs
    rw [emptied_of_busy (by simp [hq])]
    simp [List.count_eq_zero_of_not_mem (released_notMem_stops timer)]
  | tell state hs =>
    subst hs
    rw [emptied_of_same (by rfl)]
    simp
  | @next outcome item front rest timer _ hq hf hs =>
    subst hs
    rw [emptied_of_busy (List.cons_ne_nil _ _)]
    simp [settled_drains, List.count_eq_zero_of_not_mem (released_notMem_farewell _ outcome)]
  | @last outcome item timer start _ hq hf hd hs =>
    subst hs
    rw [emptied_of_last (by simp [hq]) rfl]
    simp [List.count_eq_zero_of_not_mem (released_notMem_farewell _ outcome)]

/-- Items that join do not drain the queue. -/
lemma joins_drains (now : Nat) (h : s.Coherent) (items : List Item) :
    (s.turnAll now (items.map .join)).tally.drains = s.tally.drains ∧
      (s.turnAll now (items.map .join)).events.count .released = s.events.count .released ∧
      (items = [] ∨ (s.turnAll now (items.map .join)).queue ≠ []) := by
  induction items generalizing s with
  | nil => exact ⟨rfl, rfl, .inl rfl⟩
  | cons item items ih =>
    have ht : (Turn.join item).Fits s := trivial
    have hbusy : (s.turn now (.join item)).queue ≠ [] := by
      obtain ⟨log, s', hs, he⟩ := h.shift now ht
      rw [he]
      cases hs <;> rename_i hs <;> subst hs <;> exact List.cons_ne_nil _ _
    obtain ⟨hdrains, hreleased⟩ := turn_drains now h ht
    rw [emptied_of_busy hbusy, Nat.add_zero] at hdrains hreleased
    obtain ⟨hdrains', hreleased', -⟩ := ih (h.turn ht)
    rw [List.map_cons, turnAll_cons]
    refine ⟨hdrains'.trans hdrains, hreleased'.trans hreleased, .inr ?_⟩
    obtain ⟨front, rest, hq⟩ := List.exists_cons_of_ne_nil hbusy
    rw [(turnAll_joins_front now items hq).1]
    exact List.cons_ne_nil _ _

/-- A message drains the queue, and releases the backends, exactly if it finds something there and
leaves nothing. -/
lemma handle_drains (now : Nat) (h : s.Coherent) (hs : s.stopped = false) {m : Message}
    (hm : m ≠ .shutdown) :
    (s.handle now m).tally.drains = s.tally.drains + emptied s (s.handle now m) ∧
      (s.handle now m).events.count .released =
        s.events.count .released + emptied s (s.handle now m) := by
  have hfit := h.fitAll_turns now m
  have hnothing : emptied s s = 0 := emptied_of_same rfl
  have hjoins (items : List Item) := joins_drains now h items
  have hjoined (items : List Item) :
      emptied s (s.turnAll now (items.map .join)) = 0 := by
    rcases (hjoins items).2.2 with rfl | hbusy
    · exact hnothing
    · exact emptied_of_busy hbusy
  rw [handle_eq_turns hs hm]
  cases m with
  | submit p =>
    rw [turns, hjoined]
    exact ⟨(hjoins _).1, (hjoins _).2.1⟩
  | removeStale p => exact turn_drains (t := .join _) now h trivial
  | gate state => exact turn_drains (t := .tell state) now h trivial
  | armTimeout p generation =>
    rw [turns] at hfit ⊢
    split
    · rw [if_pos ‹_›] at hfit
      exact turn_drains now h hfit.1
    · simp [hnothing]
  | completed p generation outcome =>
    rw [turns] at hfit ⊢
    split
    · rename_i hc
      rw [if_pos hc] at hfit
      obtain ⟨item, rest, hq, -, -⟩ := h.isCurrent_iff.mp hc
      obtain ⟨hdrains, hreleased, -⟩ := hjoins (s.admitted outcome.discovered)
      obtain ⟨-, hleave, -⟩ := fitAll_append.mp hfit
      have hcoherent := (log_joins now h (s.admitted outcome.discovered)).2.2
      have hqueue := (turnAll_joins_front now (s.admitted outcome.discovered) hq).1
      rw [turnAll_append, turnAll_cons, turnAll_nil]
      obtain ⟨hdrains', hreleased'⟩ := turn_drains now hcoherent hleave
      rw [hdrains', hreleased', hdrains, hreleased]
      simp only [emptied, hq, hqueue]
      simp
    · simp [hnothing]
  | timedOut p generation =>
    rw [turns] at hfit ⊢
    split
    · rw [if_pos ‹_›] at hfit
      exact turn_drains now h hfit.1
    · simp [hnothing]
  | shutdown => exact absurd rfl hm

/-- The releases in the log are those of the drains, and each came when all had left. -/
structure Releasing (s : Scheduler) : Prop where
  /-- There were as many releases as drains. -/
  released_eq : s.events.count .released = s.tally.drains
  /-- All that had joined had left. -/
  rested : Always Rested [] s.events

lemma Releasing.turn (hr : s.Releasing) (ho : s.Ordered) (h : s.Coherent) {t : Turn}
    (ht : t.Fits s) : (s.turn now t).Releasing := by
  obtain ⟨hdrains, hreleased⟩ := turn_drains now h ht
  refine ⟨by rw [hreleased, hdrains, hr.released_eq], ?_⟩
  obtain ⟨log, s', hs, he⟩ := h.shift now ht
  rw [he]
  refine always_append.mpr ⟨hr.rested, ?_⟩
  cases hs with
  | @last outcome item timer start _ hq hf hd hs =>
    refine always_append.mpr ⟨always_rested (released_notMem_farewell _ outcome), trivial, ?_,
      trivial, trivial⟩
    simp [Rested, ho.joined_eq, hq]
  | arm => exact always_rested (by simp [released_notMem_stops])
  | next outcome => exact always_rested (by simp [released_notMem_farewell])
  | _ => exact always_rested (by simp)

/-- A scheduler that stops releases the backends at last. -/
lemma stop_events (s : Scheduler) : ∃ leaving status,
    s.stop.events = s.events ++ leaving ++ [.released, .published status] ∧
      .released ∉ leaving := by
  rcases hf : s.inFlight with _ | ⟨path, generation, _ | timer⟩
  · exact ⟨[], _, by simp [stop, hf, emit, publish]; rfl, by simp⟩
  · exact ⟨[.aborted generation], _, by simp [stop, hf, emit, publish]; rfl, by simp⟩
  · exact ⟨[.aborted generation, .timerStopped timer], _,
      by simp [stop, hf, emit, publish]; rfl, by simp⟩

end Scheduler

namespace Simulation

/-! ## The calls of a backend -/

/-- Whether a call asks a backend about a picture, or disconnects it.  That a backend is polled
before anything is asked of it, and that it is told so, does not matter here. -/
def Call.concerns (k : BackendKind) : Call → Bool
  | .ocr _ => k == .ocr
  | .classify _ => k == .contentClassifier
  | .release k' => k' == k
  | .decode _ | .retry _ => false

/-- The call that a request makes, if the decoder or a backend has to answer it. -/
def Call.of? : Request → Option Call
  | .decode p => some (.decode p)
  | .recognise b => some (.ocr b)
  | .classify p => some (.classify p)
  | _ => none

/-- No request disconnects anybody. -/
lemma Call.ne_release_of {r : Request} {c : Call} (h : Call.of? r = some c) (k : BackendKind) :
    c ≠ .release k := by
  cases r <;> cases h <;> simp

/-- Whether the last call of a backend disconnects it, if it was called at all. -/
def Disconnected (k : BackendKind) (calls : List Call) : Prop :=
  ∀ c ∈ (calls.filter (·.concerns k)).getLast?, c = .release k

instance (k : BackendKind) (calls : List Call) : Decidable (Disconnected k calls) :=
  inferInstanceAs (Decidable (∀ _ ∈ _, _))

lemma disconnected_append {k : BackendKind} {calls new : List Call}
    (hnew : ∀ c ∈ new, c.concerns k = false) :
    Disconnected k (calls ++ new) ↔ Disconnected k calls := by
  have hnone : new.filter (·.concerns k) = [] := by simpa using hnew
  rw [Disconnected, List.filter_append, hnone, List.append_nil]
  rfl

/-- The calls that disconnect some backends. -/
def releases (b : Backends) : List Call := b.kinds.map .release

lemma count_releases (b : Backends) (k : BackendKind) :
    (releases b).count (.release k) = if k ∈ b.kinds then 1 else 0 := by
  obtain ⟨ocr, contentClassifier⟩ := b
  cases ocr <;> cases contentClassifier <;> cases k <;> decide

lemma disconnected_releases {b : Backends} {k : BackendKind} (hk : k ∈ b.kinds)
    (calls : List Call) : Disconnected k (calls ++ releases b) := by
  have hown : (releases b).filter (·.concerns k) = [.release k] := by
    obtain ⟨ocr, contentClassifier⟩ := b
    cases ocr <;> cases contentClassifier <;> cases k <;> first | rfl | exact absurd hk (by decide)
  rw [Disconnected, List.filter_append, hown]
  simp

namespace World

lemma calls_release (w : World) (b : Backends) : (w.release b).calls = w.calls ++ releases b :=
  congrArg World.calls (w.release_eq b)

/-- A request makes its call, or none. -/
lemma calls_reply (w : World) (r : Request) :
    ∃ new, (w.reply r).2.calls = w.calls ++ new ∧ ∀ c ∈ new, Call.of? r = some c := by
  have hnone {w' : World} (h : w'.calls = w.calls) :
      ∃ new, w'.calls = w.calls ++ new ∧ ∀ c ∈ new, Call.of? r = some c :=
    ⟨[], by simp [h], by simp⟩
  have hone {w' : World} {c : Call} (hc : Call.of? r = some c) (h : w'.calls = w.calls ++ [c]) :
      ∃ new, w'.calls = w.calls ++ new ∧ ∀ c ∈ new, Call.of? r = some c :=
    ⟨[c], h, by simpa using hc⟩
  cases r with
  | decode p =>
    rw [reply, decode]
    split
    · split
      · exact hone rfl rfl
      · exact hnone rfl
    · simp only
      split
      · exact hone rfl rfl
      · split <;> exact hone rfl rfl
  | recognise b => exact hone rfl rfl
  | classify p => exact hone rfl rfl
  | insert record =>
    simp only [reply, update]
    split <;> exact hnone rfl
  | remove p =>
    simp only [reply, update]
    split <;> exact hnone rfl
  | _ => exact hnone rfl

end World

namespace Session

open Scheduler (Turn emptied Releasing)

variable {s : Session} {deeds : List Deed}

/-- Backends are called as the events of the scheduler say. -/
lemma calls_foldl_act (log : List Event) :
    (log.foldl act s).world.calls = s.world.calls ++
      (List.replicate (log.count .released) (releases s.pipeline.backends)).flatten := by
  induction log generalizing s with
  | nil => simp
  | cons e log ih =>
    rw [List.foldl_cons, ih]
    cases e with
    | released =>
      rw [List.count_cons_self, List.replicate_succ, List.flatten_cons, ← List.append_assoc]
      exact congrArg (· ++ _) (s.world.calls_release s.pipeline.backends)
    | _ => rw [List.count_cons_of_ne (by simp)]; rfl

/-- Of the gate's doings only its notices to the classifier are logged. -/
lemma calls_gate (s : Session) :
    ∃ new, (s.move .gate).world.calls = s.world.calls ++ new ∧ ∀ c ∈ new, ∃ n, c = .retry n := by
  have hnone {s' : Session} (h : s'.world.calls = s.world.calls) :
      ∃ new, s'.world.calls = s.world.calls ++ new ∧ ∀ c ∈ new, ∃ n, c = .retry n :=
    ⟨[], by simp [h], by simp⟩
  have hsent {s' : Session} (ms : List Message)
      (h : ∃ new, s'.world.calls = s.world.calls ++ new ∧ ∀ c ∈ new, ∃ n, c = .retry n) :
      ∃ new, (s'.sendAll ms).world.calls = s.world.calls ++ new ∧ ∀ c ∈ new, ∃ n, c = .retry n := by
    rwa [sendAll_eq]
  rw [move, stepGate?]
  rcases s.gate with _ | ⟨w, g, wake⟩
  · exact hnone rfl
  · simp only
    split
    · exact hnone rfl
    · split
      · exact hsent _ (hnone rfl)
      · rcases g.poll s.world.isReady with ⟨g', poll⟩
        cases poll with
        | ready => exact hsent _ (hnone rfl)
        | failed => exact hsent _ (hnone rfl)
        | retryAfter secs =>
          rw [World.notifyRetry_eq]
          refine ⟨_, rfl, fun c hc => ⟨g'.attempts, ?_⟩⟩
          split at hc
          · exact List.mem_singleton.mp hc
          · cases hc

/-- Whether a move can happen, and nobody outside tampers with the log of calls. -/
def Traced (s : Session) (v : Move) : Prop :=
  v.Legal ∧ ∀ w ∈ v.world?, w.calls = s.world.calls

instance (s : Session) (v : Move) : Decidable (s.Traced v) :=
  inferInstanceAs (Decidable (v.Legal ∧ ∀ w ∈ v.world?, w.calls = s.world.calls))

/-- Where nothing is delivered and nothing is asked for, at most a notice is logged. -/
lemma calls_of_put?_none {v : Move} (hv : v ≠ .deliver) (hput : s.put? v = none)
    (h : s.Traced v) :
    ∃ new, (s.move v).world.calls = s.world.calls ++ new ∧ ∀ c ∈ new, ∃ n, c = .retry n := by
  have hnone (h : (s.move v).world.calls = s.world.calls) :
      ∃ new, (s.move v).world.calls = s.world.calls ++ new ∧ ∀ c ∈ new, ∃ n, c = .retry n :=
    ⟨[], by simp [h], by simp⟩
  cases v with
  | deliver => exact absurd rfl hv
  | task i =>
    rcases move_task s i with ⟨hmove, -⟩ | ⟨task, plan, htask, hrun, hadvance, -⟩
    · exact hnone (by rw [hmove])
    · cases plan with
      | ask r next => cases hput.symm.trans (put?_task htask hrun)
      | done outcome =>
        have hstate := runnable_plan hrun
        generalize s.move (.task i) = s' at hadvance hnone ⊢
        cases hadvance with
        | report outcome => exact hnone rfl
        | answered r next a delay w state hplan => cases hstate.symm.trans hplan
        | hang r next w hplan => cases hstate.symm.trans hplan
        | die r next w hplan => cases hstate.symm.trans hplan
  | timer i =>
    rcases move_timer s i with hmove | ⟨timer, -, hmove⟩
    · exact hnone (by rw [hmove])
    · exact hnone (by rw [hmove, send_eq])
  | gate => exact calls_gate s
  | send m => exact hnone (by rw [move, send_eq])
  | become w => exact hnone (h.2 w rfl)

/-- Only the scheduler disconnects backends, and where no task lives nobody else calls them. -/
lemma calls_move {v : Move} (hv : v ≠ .deliver) (h : s.Traced v) :
    ∃ new, (s.move v).world.calls = s.world.calls ++ new ∧ (∀ c ∈ new, ∀ k, c ≠ .release k) ∧
      (s.tasks = [] → ∀ c ∈ new, ∀ k, c.concerns k = false) := by
  cases hput : s.put? v with
  | none =>
    obtain ⟨new, hcalls, hnew⟩ := calls_of_put?_none hv hput h
    refine ⟨new, hcalls, fun c hc k => ?_, fun _ c hc k => ?_⟩ <;>
      obtain ⟨n, rfl⟩ := hnew c hc
    · simp
    · rfl
  | some x =>
    obtain ⟨task, r⟩ := x
    obtain ⟨i, next, rfl, htask, -⟩ := plan_of_put? hput
    obtain ⟨new, hcalls, hnew⟩ := s.world.calls_reply r
    refine ⟨new, by rw [world_of_put? hput, hcalls], fun c hc => Call.ne_release_of (hnew c hc),
      fun hidle => ?_⟩
    simp [hidle] at htask

/-! ## Drains and releases of a session -/

/-- What a session knows of its releases. -/
structure Discharged (s : Session) (deeds : List Deed) : Prop where
  /-- Each backend in use was disconnected whenever the scheduler asked for it. -/
  count_eq : ∀ k, s.world.calls.count (.release k) =
    if k ∈ s.pipeline.backends.kinds then (Deed.log deeds).count .released else 0
  /-- Until the scheduler stops, it asks for it when the queue is drained. -/
  drained : s.scheduler.stopped = false → (s.record deeds).Releasing
  /-- It asks for it once more when it stops, and not again. -/
  ended : s.scheduler.stopped = true → ∃ log rest, Deed.log deeds = log ++ .released :: rest ∧
    log.count .released = s.scheduler.tally.drains ∧ Always Rested [] log ∧ .released ∉ rest
  /-- Without a queue the backends in use are disconnected. -/
  silent : s.scheduler.queue = [] → ∀ k ∈ s.pipeline.backends.kinds,
    Disconnected k s.world.calls

/-- Where the scheduler has no part in a move, the calls are of no account. -/
lemma Discharged.of_frame {s' : Session} {deeds' : List Deed} {new : List Call}
    (h : s.Discharged deeds) (hscheduler : s'.scheduler = s.scheduler)
    (hpipeline : s'.pipeline = s.pipeline) (hlog : Deed.log deeds' = Deed.log deeds)
    (hcalls : s'.world.calls = s.world.calls ++ new) (hnew : ∀ c ∈ new, ∀ k, c ≠ .release k)
    (hidle : s.scheduler.queue = [] → ∀ c ∈ new, ∀ k, c.concerns k = false) :
    s'.Discharged deeds' where
  count_eq k := by
    have hnone : new.count (.release k) = 0 :=
      List.count_eq_zero_of_not_mem fun hmem => hnew _ hmem k rfl
    rw [hcalls, List.count_append, hnone, hpipeline, hlog]
    exact h.count_eq k
  drained hopen := by
    have hrecord : s'.record deeds' = s.record deeds := by rw [record, record, hscheduler, hlog]
    rw [hrecord]
    exact h.drained (hscheduler ▸ hopen)
  ended hstopped := by
    rw [hlog, hscheduler]
    exact h.ended (hscheduler ▸ hstopped)
  silent hqueue k hk := by
    rw [hscheduler] at hqueue
    rw [hpipeline] at hk
    rw [hcalls, disconnected_append fun c hc => hidle hqueue c hc k]
    exact h.silent hqueue k hk

lemma Sound.releasing_turn (h : s.Sound deeds) (hopen : s.scheduler.stopped = false) {t : Turn}
    (ht : t.Fits s.scheduler) (hr : (s.record deeds).Releasing) :
    ((s.turn t).record (deeds ++ s.said t)).Releasing := by
  have hcoherent := h.coherent hopen
  have hrecorded : (s.record deeds).Coherent := ⟨hcoherent.front, hcoherent.drain, hcoherent.timer⟩
  rw [record_turn h.quiet]
  exact hr.turn (h.ordered hopen) hrecorded (by cases t <;> exact ht)

lemma releasing_delivers : Delivers fun _ s deeds => (s.record deeds).Releasing where
  drop _ _ _ hr := hr
  join item hs ho hr := hs.releasing_turn ho (t := .join item) trivial hr
  tell state hs ho hr := hs.releasing_turn ho (t := .tell state) trivial hr
  arm p hs ho hq hr := hs.releasing_turn ho (t := .arm p _) ⟨hq, rfl⟩ hr
  leave hs ho hq _ hr := hs.releasing_turn ho (t := .leave _) hq hr

/-- What a delivery says of releases is what the backends hear. -/
lemma calls_deliver {m : Message} {rest : List Message} (hquiet : s.scheduler.quiet = s.scheduler)
    (hmail : s.mailbox = m :: rest) (hopen : s.scheduler.stopped = false) :
    (s.move .deliver).pipeline = s.pipeline ∧ (s.move .deliver).world.calls = s.world.calls ++
      (List.replicate ((s.scheduler.handle s.world.now m).events.count .released)
        (releases s.pipeline.backends)).flatten := by
  have hself : { s.scheduler with events := [] } = s.scheduler := hquiet
  rw [(move_deliver hmail hopen).1, Session.deliver]
  simp only [hself]
  exact ⟨(foldl_act_frame _).2.2.1, calls_foldl_act _⟩

lemma Sound.log_of_deliver (h : s.Sound deeds) {m : Message} {rest : List Message}
    (hmail : s.mailbox = m :: rest) (hopen : s.scheduler.stopped = false) :
    Deed.log (deeds ++ s.deeds .deliver) =
      Deed.log deeds ++ (s.scheduler.handle s.world.now m).events := by
  rw [Deed.log_append, (move_deliver hmail hopen).2, Deed.log_events, h.quiet]

/-- A delivery adds as many calls that disconnect a backend as releases to the log. -/
lemma Discharged.count_deliver {m : Message} {rest : List Message} (h : s.Discharged deeds)
    (hsound : s.Sound deeds) (hmail : s.mailbox = m :: rest)
    (hopen : s.scheduler.stopped = false) (k : BackendKind) :
    (s.move .deliver).world.calls.count (.release k) =
      if k ∈ (s.move .deliver).pipeline.backends.kinds then
        (Deed.log (deeds ++ s.deeds .deliver)).count .released else 0 := by
  obtain ⟨hpipeline, hcalls⟩ := calls_deliver hsound.quiet hmail hopen
  rw [hpipeline, hcalls, List.count_append, h.count_eq, List.count_flatten, List.map_replicate,
    List.sum_replicate, count_releases, hsound.log_of_deliver hmail hopen, List.count_append]
  split <;> simp

/-- After a release the backends in use are disconnected. -/
lemma disconnected_of_released {m : Message} {rest : List Message}
    (hquiet : s.scheduler.quiet = s.scheduler) (hmail : s.mailbox = m :: rest)
    (hopen : s.scheduler.stopped = false)
    (hreleased : (s.scheduler.handle s.world.now m).events.count .released = 1)
    (k : BackendKind) (hk : k ∈ (s.move .deliver).pipeline.backends.kinds) :
    Disconnected k (s.move .deliver).world.calls := by
  obtain ⟨hpipeline, hcalls⟩ := calls_deliver hquiet hmail hopen
  rw [hpipeline] at hk
  rw [hcalls, hreleased, List.replicate_one, List.flatten_singleton]
  exact disconnected_releases hk _

/-- The scheduler releases the backends a last time when it stops. -/
lemma Discharged.deliver_shutdown {rest : List Message} (h : s.Discharged deeds)
    (hsound : s.Sound deeds) (hmail : s.mailbox = .shutdown :: rest)
    (hopen : s.scheduler.stopped = false) :
    (s.move .deliver).Discharged (deeds ++ s.deeds .deliver) := by
  have hevents : s.scheduler.events = [] := congrArg Scheduler.events hsound.quiet.symm
  have hstop := Scheduler.handle_shutdown hopen s.world.now
  have hscheduler := scheduler_shutdown hmail hopen
  have hbefore := h.drained hopen
  obtain ⟨leaving, status, hsaid, hleaving⟩ := s.scheduler.stop_events
  rw [hevents, List.nil_append] at hsaid
  refine ⟨h.count_deliver hsound hmail hopen, fun ho => by simp [hscheduler] at ho, fun _ => ?_,
    fun _ => disconnected_of_released hsound.quiet hmail hopen ?_⟩
  · refine ⟨Deed.log deeds ++ leaving, [.published status], ?_, ?_, ?_, by simp⟩
    · rw [hsound.log_of_deliver hmail hopen, hstop, hsaid]
      simp
    · rw [List.count_append, List.count_eq_zero_of_not_mem hleaving, hscheduler]
      exact hbefore.released_eq
    · exact always_append.mpr ⟨hbefore.rested, always_rested hleaving⟩
  · rw [hstop, hsaid, List.count_append, List.count_eq_zero_of_not_mem hleaving]
    rfl

/-- A message is handled by turns, or it is the last. -/
lemma Discharged.deliver {m : Message} {rest : List Message} (h : s.Discharged deeds)
    (hsound : s.Sound deeds) (hmail : s.mailbox = m :: rest)
    (hopen : s.scheduler.stopped = false) :
    (s.move .deliver).Discharged (deeds ++ s.deeds .deliver) := by
  by_cases hm : m = .shutdown
  · subst hm
    exact h.deliver_shutdown hsound hmail hopen
  have hcoherent := hsound.coherent hopen
  have hscheduler := hsound.scheduler_deliver hmail hopen
  have hstays := (hcoherent.handle_frame s.world.now hopen hm).1
  obtain ⟨-, hreleased⟩ := Scheduler.handle_drains s.world.now hcoherent hopen hm
  rw [show s.scheduler.events = [] from congrArg Scheduler.events hsound.quiet.symm,
    List.count_nil, Nat.zero_add] at hreleased
  refine ⟨h.count_deliver hsound hmail hopen, fun _ => ?_,
    fun ho => by simp [hscheduler, Scheduler.quiet, hstays] at ho, fun hqueue => ?_⟩
  · have hrest : ({ s with mailbox := rest } : Session).Sound deeds := hsound.of_frame rfl rfl
    have hafter := (releasing_delivers.deliver rest hrest hopen hm (h.drained hopen)).2.2
    rw [(move_deliver hmail hopen).1, (move_deliver hmail hopen).2, hsound.quiet]
    exact hafter
  · have hempty : (s.scheduler.handle s.world.now m).queue = [] := by
      rw [hscheduler] at hqueue
      exact hqueue
    by_cases hbefore : s.scheduler.queue = []
    · obtain ⟨hpipeline, hcalls⟩ := calls_deliver hsound.quiet hmail hopen
      rw [Scheduler.emptied_of_idle hbefore] at hreleased
      rw [hpipeline, hcalls, hreleased, List.replicate_zero, List.flatten_nil, List.append_nil]
      exact h.silent hbefore
    · rw [Scheduler.emptied_of_last hbefore hempty] at hreleased
      exact disconnected_of_released hsound.quiet hmail hopen hreleased

/-- What the tasks know of the configuration never changes. -/
lemma move_pipeline (v : Move) : (s.move v).pipeline = s.pipeline := by
  by_cases hv : v = .deliver
  · subst hv
    show s.deliverOldest.pipeline = s.pipeline
    rw [deliverOldest]
    split
    · rfl
    · exact (foldl_act_frame _).2.2.1
  · obtain ⟨_, _, _, _, _, _, hmove, -⟩ := move_eq (s := s) hv
    rw [hmove]

lemma moveAll_pipeline (vs : List Move) : (s.moveAll vs).pipeline = s.pipeline := by
  induction vs generalizing s with
  | nil => rfl
  | cons v vs ih => exact ih.trans (move_pipeline v)

lemma Discharged.move {v : Move} (hv : s.Traced v) (hsound : s.Sound deeds)
    (horderly : Orderly s.mailbox s deeds) (h : s.Discharged deeds) :
    (s.move v).Discharged (deeds ++ s.deeds v) := by
  by_cases hdeliver : v = .deliver
  · subst hdeliver
    obtain hnone | ⟨m, rest, hmail, hopen⟩ := s.delivery_cases
    · obtain ⟨hmove, hdeeds⟩ := move_deliver_nothing hsound hnone
      rw [hmove, hdeeds, List.append_nil]
      exact ⟨h.count_eq, h.drained, h.ended, h.silent⟩
    · exact h.deliver hsound hmail hopen
  · obtain ⟨hscheduler, hlog⟩ := move_scheduler (s := s) hdeliver
    obtain ⟨new, hcalls, hnew, hidle⟩ := calls_move hdeliver hv
    refine h.of_frame hscheduler (move_pipeline v) (by simp [hlog]) hcalls hnew fun hqueue => ?_
    refine hidle (horderly.idle ?_)
    cases hs : s.scheduler.stopped with
    | true => exact hsound.halted hs
    | false => exact (hsound.coherent hs).inFlight_of_nil hqueue

/-- Whether the queue runs empty in a move, and not because the scheduler stops. -/
def runsEmpty (s : Session) (v : Move) : Bool :=
  !s.scheduler.queue.isEmpty && (s.move v).scheduler.queue.isEmpty && !(s.move v).scheduler.stopped

/-- How often the queue runs empty in some moves. -/
def drainings : Session → List Move → Nat
  | _, [] => 0
  | s, v :: vs => (s.runsEmpty v).toNat + drainings (s.move v) vs

/-- A drain is counted when the queue runs empty. -/
lemma Sound.drains_move (h : s.Sound deeds) (v : Move) :
    (s.move v).scheduler.tally.drains = s.scheduler.tally.drains + (s.runsEmpty v).toNat := by
  have hsame (hqueue : (s.move v).scheduler.queue = s.scheduler.queue) :
      (s.runsEmpty v).toNat = 0 := by
    rw [runsEmpty, hqueue]
    cases s.scheduler.queue.isEmpty <;> rfl
  by_cases hv : v = .deliver
  · subst hv
    obtain hnone | ⟨m, rest, hmail, hopen⟩ := s.delivery_cases
    · have hmove := (move_deliver_nothing h hnone).1
      rw [hsame (by rw [hmove]), hmove, Nat.add_zero]
    · by_cases hm : m = .shutdown
      · subst hm
        rw [runsEmpty, scheduler_shutdown hmail hopen]
        simp
      · have hcoherent := h.coherent hopen
        have hstays := (hcoherent.handle_frame s.world.now hopen hm).1
        have hdrains := (Scheduler.handle_drains s.world.now hcoherent hopen hm).1
        rw [runsEmpty, h.scheduler_deliver hmail hopen]
        refine hdrains.trans (congrArg _ ?_)
        simp only [Scheduler.emptied, Scheduler.quiet, hstays]
        cases s.scheduler.queue <;> cases (s.scheduler.handle s.world.now m).queue <;> rfl
  · have hscheduler := (move_scheduler (s := s) hv).1
    rw [hsame (by rw [hscheduler]), hscheduler, Nat.add_zero]

lemma Sound.drains_moveAll (h : s.Sound deeds) (vs : List Move) :
    (s.moveAll vs).scheduler.tally.drains = s.scheduler.tally.drains + s.drainings vs := by
  induction vs generalizing s deeds with
  | nil => rfl
  | cons v vs ih => rw [moveAll_cons, ih (h.move v), h.drains_move, drainings, Nat.add_assoc]

/-- There are as many releases as drains, and one more when the scheduler has stopped. -/
lemma Discharged.released_eq (h : s.Discharged deeds) : (Deed.log deeds).count .released =
    s.scheduler.tally.drains + s.scheduler.stopped.toNat := by
  cases hs : s.scheduler.stopped with
  | false => exact (h.drained hs).released_eq
  | true =>
    obtain ⟨log, rest, hlog, hcount, -, hrest⟩ := h.ended hs
    rw [hlog, List.count_append, List.count_cons_self, List.count_eq_zero_of_not_mem hrest, hcount]
    rfl

/-- A release comes when all that joined has left, or it is the last. -/
lemma Discharged.rested (h : s.Discharged deeds) {before after : List Event}
    (hlog : Deed.log deeds = before ++ .released :: after) :
    joined before = (departures before).map (·.item) ∨
      s.scheduler.stopped = true ∧ .released ∉ after := by
  cases hs : s.scheduler.stopped with
  | false =>
    have hrested : Always Rested [] (before ++ .released :: after) := by
      rw [← hlog]
      exact (h.drained hs).rested
    have hrest : Rested before .released := hrested.at_event
    exact .inl hrest
  | true =>
    obtain ⟨log, rest, hlog', -, hrested, hrest⟩ := h.ended hs
    rcases List.append_eq_append_iff.mp (hlog'.symm.trans hlog) with
      ⟨between, hbefore, hlast⟩ | ⟨between, hbefore, hlast⟩
    · -- what comes later is not before the last release
      cases between with
      | nil => exact .inr ⟨rfl, (List.cons.inj hlast).2 ▸ hrest⟩
      | cons e between =>
        rw [(List.cons.inj hlast).2] at hrest
        exact absurd (List.mem_append_right _ List.mem_cons_self) hrest
    · cases between with
      | nil => exact .inr ⟨rfl, (List.cons.inj hlast).2.symm ▸ hrest⟩
      | cons e between =>
        obtain ⟨rfl, -⟩ := List.cons.inj hlast
        rw [hbefore] at hrested
        have hrest : Rested before .released := hrested.at_event
        exact .inl hrest

lemma discharged_starting (world : World) (c : Config) (backends : Backends)
    (gate : Option (Worker × Gate × Nat)) (hcalls : world.calls = []) :
    (starting world c backends gate).Discharged [] := by
  have hnone : (starting world c backends gate).world.calls = [] := hcalls
  refine ⟨fun k => ?_, fun _ => ⟨rfl, trivial⟩, nofun, fun _ k _ => ?_⟩
  · rw [hnone]
    split <;> rfl
  · rw [hnone]
    exact nofun

/-- **Backends are released exactly on drains.**  Take any session that starts afresh, and any moves
of its parties that leave the log of calls to those who call.  Let a drain be a move in which the
queue runs empty while the scheduler goes on.  Then

* backends were released as often as the queue was drained, which is what is counted, and once more
  if the scheduler has stopped; each backend in use was disconnected at every release, and no other
  ever;
* if `shutdown` is the next message that an open scheduler handles, it stops, and every backend in
  use is disconnected once more;
* when the queue is empty, the last call of every backend in use disconnected it, unless it was
  never called;
* when backends were released, all that had joined the queue had left, so nothing was in flight,
  except for the last release, by which the scheduler stopped.

All this holds at every point of a run, because `vs` are any moves: of a run to that point. -/
theorem backends_are_released_on_drains (world : World) (c : Config) (backends : Backends)
    (gate : Option (Worker × Gate × Nat)) (hcalls : world.calls = []) (vs : List Move)
    (hvs : Along Traced (starting world c backends gate) vs) :
    let first := starting world c backends gate
    let s := first.moveAll vs
    let log := Deed.log (first.history vs)
    (log.count .released = s.scheduler.tally.drains + s.scheduler.stopped.toNat ∧
      s.scheduler.tally.drains = first.drainings vs ∧
      ∀ k, s.world.calls.count (.release k) =
        if k ∈ backends.kinds then log.count .released else 0) ∧
    (s.scheduler.stopped = false → s.mailbox.head? = some .shutdown →
      (s.move .deliver).scheduler.stopped = true ∧
        (s.move .deliver).scheduler.tally.drains = s.scheduler.tally.drains ∧
        ∀ k ∈ backends.kinds, (s.move .deliver).world.calls.count (.release k) =
          s.world.calls.count (.release k) + 1) ∧
    (s.scheduler.queue = [] → ∀ k ∈ backends.kinds, Disconnected k s.world.calls) ∧
    ∀ before after, log = before ++ .released :: after →
      joined before = (departures before).map (·.item) ∨
        s.scheduler.stopped = true ∧ .released ∉ after := by
  intro first s log
  obtain ⟨⟨hsound, horderly, h⟩, -⟩ : (s.Sound (first.history vs) ∧
      Orderly s.mailbox s (first.history vs) ∧ s.Discharged (first.history vs)) ∧
      Along (fun _ _ => True) first vs :=
    hvs.induction
      (P := fun s deeds => s.Sound deeds ∧ Orderly s.mailbox s deeds ∧ s.Discharged deeds)
      (fun s deeds v hv h => ⟨⟨h.1.move v, h.2.1.move hv.1 h.1, h.2.2.move hv h.1 h.2.1⟩, trivial⟩)
      ⟨sound_starting world c backends gate, orderly_starting world c backends gate,
        discharged_starting world c backends gate hcalls⟩
  have hpipeline : s.pipeline.backends = backends :=
    congrArg Pipeline.backends (moveAll_pipeline vs)
  refine ⟨⟨h.released_eq, ?_, fun k => hpipeline ▸ h.count_eq k⟩, fun hopen hhead => ?_,
    fun hqueue k hk => h.silent hqueue k (hpipeline.symm ▸ hk), fun before after hlog => ?_⟩
  · exact ((sound_starting world c backends gate).drains_moveAll vs).trans (Nat.zero_add _)
  · obtain ⟨rest, hmail⟩ := List.head?_eq_some_iff.mp hhead
    have hnext := h.deliver hsound hmail hopen
    have hscheduler := scheduler_shutdown hmail hopen
    refine ⟨by rw [hscheduler], by rw [hscheduler], fun k hk => ?_⟩
    have hk' : k ∈ s.pipeline.backends.kinds := hpipeline.symm ▸ hk
    rw [hnext.count_eq, h.count_eq, move_pipeline, if_pos hk', if_pos hk', hnext.released_eq,
      h.released_eq, hscheduler, hopen]
    rfl
  · exact h.rested hlog

/-- A configuration that allows any number of pictures. -/
def anyPictures : Config := { onePicture with indexingLimit := none }

/-- Of the pictures `/a.png` and `/b.png` the first is annotated; the time of the second runs out
when its text is being recognised, and then the worker is told to stop. -/
def drainedTwice : List Move :=
  List.flatten [[.send (.submit pathA), .deliver], List.replicate 10 (.task 0),
    [.deliver, .deliver], [.send (.submit pathB), .deliver], List.replicate 8 (.task 0), [.deliver],
    [.become { twoPictures with
      now := 120000
      calls := [.decode pathA, .ocr ⟨1, 1⟩, .release .ocr, .decode pathB, .ocr ⟨1, 1⟩] }],
    [.timer 0, .deliver, .send .shutdown, .deliver]]

/-- Three releases, of which the second is on account of a timeout and the third is the last. -/
theorem backends_are_released_on_drains_twice :
    let s := (starting twoPictures anyPictures ⟨true, false⟩ none).moveAll drainedTwice
    twoPictures.calls = [] ∧
      Along Traced (starting twoPictures anyPictures ⟨true, false⟩ none) drainedTwice ∧
      s.scheduler.stopped = true ∧ s.scheduler.queue = [] ∧ s.scheduler.tally.timedOut = 1 ∧
      s.scheduler.tally.drains =
        (starting twoPictures anyPictures ⟨true, false⟩ none).drainings drainedTwice ∧
      s.scheduler.tally.drains = 2 ∧ s.world.calls.count (.release .ocr) = 3 ∧
      Disconnected .ocr s.world.calls := by
  intro s
  have htraced : Along Traced (starting twoPictures anyPictures ⟨true, false⟩ none)
      drainedTwice := by decide +kernel
  have hqueue : s.scheduler.queue = [] := by decide +kernel
  obtain ⟨⟨-, hdrains, -⟩, -, hsilent, -⟩ := backends_are_released_on_drains twoPictures anyPictures
    ⟨true, false⟩ none rfl drainedTwice htraced
  exact ⟨rfl, htraced, by decide +kernel, hqueue, by decide +kernel, hdrains, by decide +kernel,
    by decide +kernel, hsilent hqueue .ocr (by decide)⟩

end Session

end Simulation

end PictureIndex
