import PictureIndex.Proofs.SchedulerLog
/-!
# The turns of the scheduler

Handling one message can change the scheduler several times: a directory that was listed puts all
its entries into the queue and then leaves it.  Here a message is cut into *turns*, each of which
is one of four things:

* an item joins the queue (`Turn.join`), and is started if the queue was empty;
* the item in flight gets a timer (`Turn.arm`);
* the readiness gate is heard of (`Turn.tell`);
* the item in flight leaves the queue (`Turn.leave`), and the next one is started.

`handle_eq_turns` says that handling a message is taking its turns, in order, and `turn_join_busy`
to `turn_leave_last` say what each turn does.  All of this holds in a *coherent* scheduler
(`Coherent`), where exactly the front of the queue is in flight; every turn keeps it so
(`Coherent.turn`).
-/

namespace PictureIndex

open Log

/-- The paths that an outcome leads to. -/
def Outcome.discovered : Outcome → List Path
  | .expanded paths | .staleDescendants paths => paths
  | _ => []

namespace Scheduler

variable {s : Scheduler} {now : Nat}

/-! ## Coherence -/

/-- Exactly the front of the queue is in flight, under the latest generation; the clock of the
drain runs while there is a queue; and timers are numbered from one. -/
structure Coherent (s : Scheduler) : Prop where
  /-- The item in flight is the front of the queue, with the latest generation. -/
  front : s.inFlight.map (fun c => (c.path, c.generation)) =
    s.queue.head?.map (fun item => (item.path, s.generation))
  /-- The drain is timed while something is queued. -/
  drain : s.drainStart.isSome = !s.queue.isEmpty
  /-- The timer of the item in flight was set before. -/
  timer : ∀ c ∈ s.inFlight, ∀ n ∈ c.timer, n ≤ s.timers

lemma coherent_new (excluded : List String) (limit : Option UInt32) :
    (new excluded limit).Coherent :=
  ⟨rfl, rfl, by simp [new]⟩

lemma Coherent.inFlight_of_nil (h : s.Coherent) (hq : s.queue = []) : s.inFlight = none := by
  have hf := h.front
  simpa [hq] using hf

lemma Coherent.drainStart_of_nil (h : s.Coherent) (hq : s.queue = []) : s.drainStart = none := by
  have hd := h.drain
  simpa [hq] using hd

lemma Coherent.inFlight_of_cons (h : s.Coherent) {item : Item} {rest : List Item}
    (hq : s.queue = item :: rest) :
    ∃ timer, s.inFlight = some ⟨item.path, s.generation, timer⟩ := by
  have hf := h.front
  rw [hq, List.head?_cons, Option.map_some, Option.map_eq_some_iff] at hf
  obtain ⟨⟨path, generation, timer⟩, hc, he⟩ := hf
  simp only [Prod.mk.injEq] at he
  obtain ⟨rfl, rfl⟩ := he
  exact ⟨timer, hc⟩

lemma Coherent.drainStart_of_cons (h : s.Coherent) {item : Item} {rest : List Item}
    (hq : s.queue = item :: rest) : ∃ start, s.drainStart = some start := by
  have hd := h.drain
  rw [hq] at hd
  exact Option.isSome_iff_exists.mp (by simpa using hd)

lemma Coherent.inFlight_isSome (h : s.Coherent) : s.inFlight.isSome = !s.queue.isEmpty := by
  cases hq : s.queue with
  | nil => simp [h.inFlight_of_nil hq]
  | cons item rest =>
    obtain ⟨timer, hf⟩ := h.inFlight_of_cons hq
    simp [hf]

/-- A message is current if it names the front's path and the latest generation. -/
lemma Coherent.isCurrent_iff (h : s.Coherent) {p : Path} {generation : Nat} :
    s.isCurrent p generation = true ↔
      ∃ item rest, s.queue = item :: rest ∧ item.path.sameAs p = true ∧
        generation = s.generation := by
  cases hq : s.queue with
  | nil => simp [isCurrent, hq]
  | cons item rest =>
    obtain ⟨timer, hf⟩ := h.inFlight_of_cons hq
    simp only [isCurrent, hq, hf, List.head?_cons, Option.any_some, Bool.and_eq_true, beq_iff_eq]
    constructor
    · rintro ⟨hp, hg⟩
      exact ⟨item, rest, rfl, hp, hg.symm⟩
    · rintro ⟨_, _, he, hp, rfl⟩
      obtain ⟨rfl, rfl⟩ := List.cons.inj he
      exact ⟨hp, rfl⟩

/-! ## Turns -/

/-- One of the things that handling a message consists of. -/
inductive Turn
  /-- An item joins the queue. -/
  | join (item : Item)
  /-- The item in flight gets a timer. -/
  | arm (p : Path) (generation : Nat)
  /-- The gate is heard of. -/
  | tell (state : GateState)
  /-- The item in flight leaves the queue; no outcome means that its time ran out. -/
  | leave (outcome : Option Outcome)

/-- The scheduler after a turn. -/
def turn (now : Nat) (s : Scheduler) : Turn → Scheduler
  | .join item => s.push now item
  | .arm p generation => s.setTimer p generation
  | .tell state => { s with gate := state }.publish
  | .leave outcome => (s.count outcome).leave now outcome

/-- The items of the paths that are not excluded. -/
def admitted (s : Scheduler) (paths : List Path) : List Item :=
  (paths.filter (!·.isExcluded s.excludedPrefixes)).map (⟨·, .examine⟩)

/-- The turns of a message. -/
def turns (s : Scheduler) : Message → List Turn
  | .submit p => (s.admitted [p]).map .join
  | .removeStale p => [.join ⟨p, .removeStale⟩]
  | .gate state => [.tell state]
  | .armTimeout p generation => if s.isCurrent p generation then [.arm p generation] else []
  | .completed p generation outcome =>
    if s.isCurrent p generation then
      (s.admitted outcome.discovered).map .join ++ [.leave (some outcome)]
    else []
  | .timedOut p generation => if s.isCurrent p generation then [.leave none] else []
  | .shutdown => []

/-! ### What a turn does -/

/-- The requests with which the scheduler takes leave of an item. -/
def farewell (c : InFlight) (outcome : Option Outcome) : List Event :=
  c.timer.toList.map .timerStopped ++ if outcome.isNone then [.aborted c.generation] else []

section

variable (timer : Option Nat) (c : InFlight) (outcome : Option Outcome)

@[simp] lemma joined_stops : joined (timer.toList.map .timerStopped) = [] := by
  cases timer <;> rfl

@[simp] lemma starts_stops : starts (timer.toList.map .timerStopped) = [] := by
  cases timer <;> rfl

@[simp] lemma departures_stops : departures (timer.toList.map .timerStopped) = [] := by
  cases timer <;> rfl

@[simp] lemma snapshots_stops : snapshots (timer.toList.map .timerStopped) = [] := by
  cases timer <;> rfl

@[simp] lemma joined_farewell : joined (farewell c outcome) = [] := by
  cases outcome <;> simp [farewell]

@[simp] lemma starts_farewell : starts (farewell c outcome) = [] := by
  cases outcome <;> simp [farewell]

@[simp] lemma departures_farewell : departures (farewell c outcome) = [] := by
  cases outcome <;> simp [farewell]

@[simp] lemma snapshots_farewell : snapshots (farewell c outcome) = [] := by
  cases outcome <;> simp [farewell]

end

lemma turn_join_busy (hq : s.queue ≠ []) (item : Item) :
    s.turn now (.join item) =
      let t := { s with queue := s.queue ++ [item] }
      { t with events := s.events ++ [.queued item, .published t.status] } := by
  simp [turn, push, publish, emit, status, hq]

lemma turn_join_idle (h : s.Coherent) (hq : s.queue = []) (item : Item) :
    s.turn now (.join item) =
      let t := { s with
        queue := [item]
        inFlight := some ⟨item.path, s.generation + 1, none⟩
        generation := s.generation + 1
        drainStart := some now }
      { t with events := s.events ++ [.queued item,
          .started item (s.generation + 1) s.budget.isExhausted, .published t.status] } := by
  simp [turn, push, pump, start, publish, emit, status, hq, h.inFlight_of_nil hq,
    h.drainStart_of_nil hq]

lemma turn_arm {c : InFlight} (hf : s.inFlight = some c) (p : Path) (generation : Nat) :
    s.turn now (.arm p generation) = { s with
      timers := s.timers + 1
      inFlight := some { c with timer := some (s.timers + 1) }
      events := s.events ++ .timerSet p generation (s.timers + 1) ::
        c.timer.toList.map .timerStopped } := by
  obtain ⟨path, generation', timer⟩ := c
  cases timer <;> simp [turn, setTimer, emit, hf]

lemma turn_tell (state : GateState) :
    s.turn now (.tell state) =
      let t := { s with gate := state }
      { t with events := s.events ++ [.published t.status] } := by
  simp [turn, publish, emit, status]

lemma count_eq (s : Scheduler) (outcome : Option Outcome) :
    s.count outcome =
      { s with tally := (s.count outcome).tally, budget := (s.count outcome).budget } := by
  rcases outcome with _ | (_ | _ | _ | _ | _ | _ | _) <;> rfl

/-- Counting an outcome as one item more. -/
def settled (s : Scheduler) (outcome : Option Outcome) : Tally :=
  { (s.count outcome).tally with processed := s.tally.processed + 1 }

lemma turn_leave_next {c : InFlight} {item next : Item} {rest : List Item}
    (hf : s.inFlight = some c) (hq : s.queue = item :: next :: rest) (outcome : Option Outcome) :
    s.turn now (.leave outcome) =
      let t := { s with
        queue := next :: rest
        inFlight := some ⟨next.path, s.generation + 1, none⟩
        generation := s.generation + 1
        tally := s.settled outcome
        budget := (s.count outcome).budget
        drainStart := some (s.drainStart.getD now) }
      { t with events := s.events ++ farewell c outcome ++ [.finished item c.generation outcome,
          .started next (s.generation + 1) t.budget.isExhausted, .published t.status] } := by
  have hp : (s.count outcome).tally.processed = s.tally.processed := by
    rcases outcome with _ | (_ | _ | _ | _ | _ | _ | _) <;> rfl
  obtain ⟨path, generation, timer⟩ := c
  rw [turn, count_eq]
  cases timer <;> cases outcome <;>
    simp [leave, pump, start, publish, emit, status, farewell, settled, hf, hq, hp]

lemma turn_leave_last {c : InFlight} {item : Item} {start : Nat} (hf : s.inFlight = some c)
    (hq : s.queue = [item]) (hd : s.drainStart = some start) (outcome : Option Outcome) :
    s.turn now (.leave outcome) =
      let t := { s with
        queue := []
        inFlight := none
        tally := { s.settled outcome with
          drains := s.tally.drains + 1
          lastDrain := some (Duration.ofMillis (now - start)) }
        budget := (s.count outcome).budget
        drainStart := none }
      { t with events := s.events ++ farewell c outcome ++ [.finished item c.generation outcome,
          .released, .published t.status] } := by
  have hp : (s.count outcome).tally.processed = s.tally.processed := by
    rcases outcome with _ | (_ | _ | _ | _ | _ | _ | _) <;> rfl
  have hdr : (s.count outcome).tally.drains = s.tally.drains := by
    rcases outcome with _ | (_ | _ | _ | _ | _ | _ | _) <;> rfl
  obtain ⟨path, generation, timer⟩ := c
  rw [turn, count_eq]
  cases timer <;> cases outcome <;>
    simp [leave, pump, drain, publish, emit, status, farewell, settled, hf, hq, hd, hp, hdr]

/-! ### The shape of a turn -/

/-- Whether a turn makes sense: only an item in flight gets a timer or leaves the queue. -/
def Turn.Fits (s : Scheduler) : Turn → Prop
  | .arm _ generation => s.queue ≠ [] ∧ generation = s.generation
  | .leave _ => s.queue ≠ []
  | _ => True

/-- Everything that a turn can do to a coherent scheduler: `Shift now s t log s'` says that `t`
leads to `s'` with `log` added to the events. -/
inductive Shift (now : Nat) (s : Scheduler) : Turn → List Event → Scheduler → Prop
  /-- An item joins those that wait. -/
  | wait (item : Item) {front : Item} {rest : List Item} {s' : Scheduler}
      (hq : s.queue = front :: rest)
      (hs : s' = { s with queue := front :: rest ++ [item] }) :
      Shift now s (.join item) [.queued item, .published s'.status] s'
  /-- An item joins an empty queue and is started. -/
  | begin (item : Item) {s' : Scheduler} (hq : s.queue = [])
      (hs : s' = { s with
        queue := [item]
        inFlight := some ⟨item.path, s.generation + 1, none⟩
        generation := s.generation + 1
        drainStart := some now }) :
      Shift now s (.join item) [.queued item,
        .started item (s.generation + 1) s.budget.isExhausted, .published s'.status] s'
  /-- The item in flight gets a timer, and an earlier one is stopped. -/
  | arm (p : Path) {item : Item} {rest : List Item} {timer : Option Nat} {s' : Scheduler}
      (hq : s.queue = item :: rest)
      (hf : s.inFlight = some ⟨item.path, s.generation, timer⟩)
      (hs : s' = { s with
        timers := s.timers + 1
        inFlight := some ⟨item.path, s.generation, some (s.timers + 1)⟩ }) :
      Shift now s (.arm p s.generation)
        (.timerSet p s.generation (s.timers + 1) :: timer.toList.map .timerStopped) s'
  /-- The gate is heard of. -/
  | tell (state : GateState) {s' : Scheduler} (hs : s' = { s with gate := state }) :
      Shift now s (.tell state) [.published s'.status] s'
  /-- An item leaves and the next one is started. -/
  | next (outcome : Option Outcome) (item front : Item) {rest : List Item} {timer : Option Nat}
      {s' : Scheduler} (hq : s.queue = item :: front :: rest)
      (hf : s.inFlight = some ⟨item.path, s.generation, timer⟩)
      (hs : s' = { s with
        queue := front :: rest
        inFlight := some ⟨front.path, s.generation + 1, none⟩
        generation := s.generation + 1
        tally := s.settled outcome
        budget := (s.count outcome).budget
        drainStart := some (s.drainStart.getD now) }) :
      Shift now s (.leave outcome) (farewell ⟨item.path, s.generation, timer⟩ outcome ++
        [.finished item s.generation outcome,
          .started front (s.generation + 1) s'.budget.isExhausted, .published s'.status]) s'
  /-- The last item leaves. -/
  | last (outcome : Option Outcome) (item : Item) {timer : Option Nat} {start : Nat}
      {s' : Scheduler} (hq : s.queue = [item])
      (hf : s.inFlight = some ⟨item.path, s.generation, timer⟩)
      (hd : s.drainStart = some start)
      (hs : s' = { s with
        queue := []
        inFlight := none
        tally := { s.settled outcome with
          drains := s.tally.drains + 1
          lastDrain := some (Duration.ofMillis (now - start)) }
        budget := (s.count outcome).budget
        drainStart := none }) :
      Shift now s (.leave outcome) (farewell ⟨item.path, s.generation, timer⟩ outcome ++
        [.finished item s.generation outcome, .released, .published s'.status]) s'

/-- A fitting turn of a coherent scheduler has one of the shapes above. -/
lemma Coherent.shift (h : s.Coherent) (now : Nat) {t : Turn} (ht : t.Fits s) :
    ∃ log s', Shift now s t log s' ∧ s.turn now t = { s' with events := s.events ++ log } := by
  cases t with
  | join item =>
    cases hq : s.queue with
    | nil => exact ⟨_, _, .begin item hq rfl, turn_join_idle h hq item⟩
    | cons front rest =>
      have hne : s.queue ≠ [] := by simp [hq]
      exact ⟨_, _, .wait item hq rfl, by simpa only [hq] using turn_join_busy hne item⟩
  | arm p generation =>
    obtain ⟨hne, rfl⟩ := ht
    obtain ⟨item, rest, hq⟩ := List.exists_cons_of_ne_nil hne
    obtain ⟨timer, hf⟩ := h.inFlight_of_cons hq
    exact ⟨_, _, .arm p hq hf rfl, turn_arm hf p s.generation⟩
  | tell state => exact ⟨_, _, .tell state rfl, turn_tell state⟩
  | leave outcome =>
    obtain ⟨item, rest, hq⟩ := List.exists_cons_of_ne_nil ht
    obtain ⟨timer, hf⟩ := h.inFlight_of_cons hq
    cases rest with
    | nil =>
      obtain ⟨start, hd⟩ := h.drainStart_of_cons hq
      exact ⟨_, _, .last outcome item hq hf hd rfl, by
        simpa only [List.append_assoc] using turn_leave_last hf hq hd outcome⟩
    | cons front rest =>
      exact ⟨_, _, .next outcome item front hq hf rfl, by
        simpa only [List.append_assoc] using turn_leave_next hf hq outcome⟩

lemma Coherent.turn (h : s.Coherent) {t : Turn} (ht : t.Fits s) : (s.turn now t).Coherent := by
  obtain ⟨log, s', hs, he⟩ := h.shift now ht
  rw [he]
  have hdrain := h.drain
  have htimer := h.timer
  cases hs with
  | wait item hq hs =>
    subst hs
    have hfront := h.front
    rw [hq] at hfront hdrain
    exact ⟨hfront, hdrain, htimer⟩
  | begin item hq hs =>
    subst hs
    exact ⟨rfl, rfl, by simp⟩
  | arm p hq hf hs =>
    subst hs
    exact ⟨by rw [hq]; rfl, hdrain, by simp⟩
  | tell state hs =>
    subst hs
    exact ⟨h.front, hdrain, htimer⟩
  | next outcome item front hq hf hs =>
    subst hs
    exact ⟨rfl, rfl, by simp⟩
  | last outcome item hq hf hd hs =>
    subst hs
    exact ⟨rfl, rfl, by simp⟩

/-- Turns never stop the scheduler, and exclude what they excluded before. -/
lemma Coherent.turn_frame (h : s.Coherent) {t : Turn} (ht : t.Fits s) :
    (s.turn now t).stopped = s.stopped ∧
      (s.turn now t).excludedPrefixes = s.excludedPrefixes := by
  obtain ⟨log, s', hs, he⟩ := h.shift now ht
  rw [he]
  cases hs <;> rename_i hs <;> subst hs <;> exact ⟨rfl, rfl⟩

/-! ## A message is its turns -/

/-- The scheduler after some turns. -/
def turnAll (now : Nat) (s : Scheduler) (ts : List Turn) : Scheduler := ts.foldl (turn now) s

@[simp] lemma turnAll_nil : s.turnAll now [] = s := rfl

@[simp] lemma turnAll_cons (t : Turn) (ts : List Turn) :
    s.turnAll now (t :: ts) = (s.turn now t).turnAll now ts := rfl

lemma turnAll_append (ts ts' : List Turn) :
    s.turnAll now (ts ++ ts') = (s.turnAll now ts).turnAll now ts' :=
  List.foldl_append

/-- Whether each of some turns fits when it comes. -/
def FitAll (now : Nat) : Scheduler → List Turn → Prop
  | _, [] => True
  | s, t :: ts => t.Fits s ∧ FitAll now (s.turn now t) ts

lemma fitAll_append {ts ts' : List Turn} :
    FitAll now s (ts ++ ts') ↔ FitAll now s ts ∧ FitAll now (s.turnAll now ts) ts' := by
  induction ts generalizing s with
  | nil => simp [FitAll]
  | cons t ts ih => simp [FitAll, ih, and_assoc]

lemma fitAll_joins (items : List Item) : FitAll now s (items.map .join) := by
  induction items generalizing s with
  | nil => trivial
  | cons item items ih => exact ⟨trivial, ih⟩

lemma turnAll_joins_front (now : Nat) (items : List Item) {item : Item} {rest : List Item}
    (hq : s.queue = item :: rest) :
    (s.turnAll now (items.map .join)).queue = item :: rest ++ items ∧
      (s.turnAll now (items.map .join)).inFlight = s.inFlight ∧
      (s.turnAll now (items.map .join)).generation = s.generation := by
  induction items generalizing s rest with
  | nil => simp [hq]
  | cons new items ih =>
    have hne : s.queue ≠ [] := by simp [hq]
    have hbusy : s.turn now (.join new) = _ := turn_join_busy hne new
    have hnext : (s.turn now (.join new)).queue = item :: (rest ++ [new]) := by
      simp [hbusy, hq]
    obtain ⟨hqueue, hflight, hgen⟩ := ih hnext
    refine ⟨by simpa using hqueue, hflight.trans ?_, hgen.trans ?_⟩ <;> rw [hbusy]

lemma push_excludedPrefixes (item : Item) :
    (s.push now item).excludedPrefixes = s.excludedPrefixes := by
  simp only [push, pump, publish, emit]
  split
  · split
    · rfl
    · simp only [drain]; split <;> rfl
    · rfl
  · rfl

/-- Submitting paths one by one is letting the admitted ones join. -/
lemma foldl_submit (now : Nat) (s : Scheduler) (paths : List Path) :
    paths.foldl (submit now) s = s.turnAll now ((s.admitted paths).map .join) := by
  induction paths generalizing s with
  | nil => rfl
  | cons p paths ih =>
    rw [List.foldl_cons, ih]
    by_cases hp : p.isExcluded s.excludedPrefixes
    · simp [submit, admitted, hp]
    · simp [submit, admitted, hp, turn, push_excludedPrefixes]

lemma isCurrent_congr {s' : Scheduler} (hq : s'.queue.head? = s.queue.head?)
    (hf : s'.inFlight = s.inFlight) (p : Path) (generation : Nat) :
    s'.isCurrent p generation = s.isCurrent p generation := by
  rw [isCurrent, isCurrent, hq, hf]

/-- What an outcome changes leaves the item current: it is still there to leave the queue. -/
lemma isCurrent_apply (outcome : Outcome) {p : Path} {generation : Nat}
    (hc : s.isCurrent p generation = true) :
    (s.apply now outcome).isCurrent p generation = true := by
  have hjoins (paths : List Path) :
      (paths.foldl (submit now) s).isCurrent p generation = true := by
    cases hq : s.queue with
    | nil => simp [isCurrent, hq] at hc
    | cons item rest =>
      rw [foldl_submit, ← hc]
      obtain ⟨hqueue, hflight, -⟩ := turnAll_joins_front now (s.admitted paths) hq
      exact isCurrent_congr (by simp [hqueue, hq]) hflight p generation
  cases outcome with
  | expanded paths => exact hjoins paths
  | staleDescendants paths => exact hjoins paths
  | _ => exact hc

lemma leave_apply (outcome : Outcome) :
    (s.apply now outcome).leave now (some outcome) =
      s.turnAll now ((s.admitted outcome.discovered).map .join ++ [.leave (some outcome)]) := by
  rw [turnAll_append, ← foldl_submit]
  cases outcome <;> rfl

lemma handle_eq_turns (hs : s.stopped = false) {m : Message} (hm : m ≠ .shutdown) :
    s.handle now m = s.turnAll now (s.turns m) := by
  cases m with
  | submit p => simpa [handle, hs, turns] using foldl_submit now s [p]
  | removeStale p => simp [handle, hs, turns, turn]
  | gate state => simp [handle, hs, turns, turn]
  | armTimeout p generation =>
    simp only [handle, hs, Bool.false_eq_true, if_false, armTimeout, turns]
    split <;> rfl
  | completed p generation outcome =>
    simp only [handle, hs, Bool.false_eq_true, if_false, complete, turns]
    split
    · rename_i hc
      rw [advance, if_pos (isCurrent_apply outcome hc), leave_apply]
    · rfl
  | timedOut p generation =>
    simp only [handle, hs, Bool.false_eq_true, if_false, timeOut, turns]
    split
    · rename_i hc
      have hcount : (s.count none).isCurrent p generation = true := hc
      rw [advance, if_pos hcount]
      rfl
    · rfl
  | shutdown => exact absurd rfl hm

lemma handle_shutdown (hs : s.stopped = false) (now : Nat) : s.handle now .shutdown = s.stop := by
  simp [handle, hs]

/-- The turns of a message fit when they come. -/
lemma Coherent.fitAll_turns (h : s.Coherent) (now : Nat) (m : Message) :
    FitAll now s (s.turns m) := by
  cases m with
  | submit p => exact fitAll_joins _
  | removeStale p => exact ⟨trivial, trivial⟩
  | gate state => exact ⟨trivial, trivial⟩
  | armTimeout p generation =>
    simp only [turns]
    split
    · rename_i hc
      obtain ⟨item, rest, hq, -, hg⟩ := h.isCurrent_iff.mp hc
      exact ⟨⟨by simp [hq], hg⟩, trivial⟩
    · trivial
  | completed p generation outcome =>
    simp only [turns]
    split
    · rename_i hc
      obtain ⟨item, rest, hq, -, -⟩ := h.isCurrent_iff.mp hc
      refine fitAll_append.mpr ⟨fitAll_joins _, ?_, trivial⟩
      simp [Turn.Fits, (turnAll_joins_front now _ hq).1]
    · trivial
  | timedOut p generation =>
    simp only [turns]
    split
    · rename_i hc
      obtain ⟨item, rest, hq, -, -⟩ := h.isCurrent_iff.mp hc
      exact ⟨by simp [Turn.Fits, hq], trivial⟩
    · trivial
  | shutdown => trivial

/-- What every fitting turn of a coherent scheduler keeps, fitting turns in a row keep. -/
lemma Coherent.turnAll_induction {P : Scheduler → Prop} (h : s.Coherent)
    (hs : s.stopped = false) {ts : List Turn} (hfit : FitAll now s ts)
    (hstep : ∀ (s : Scheduler) (t : Turn), s.Coherent → t.Fits s → P s → P (s.turn now t))
    (hP : P s) : (s.turnAll now ts).Coherent ∧ (s.turnAll now ts).stopped = false ∧
      P (s.turnAll now ts) := by
  induction ts generalizing s with
  | nil => exact ⟨h, hs, hP⟩
  | cons t ts ih =>
    obtain ⟨ht, hts⟩ := hfit
    exact ih (h.turn ht) ((h.turn_frame ht).1.trans hs) hts (hstep s t h ht hP)

lemma Coherent.handle_induction {P : Scheduler → Prop} (h : s.Coherent)
    (hs : s.stopped = false) {m : Message} (hm : m ≠ .shutdown)
    (hstep : ∀ (s : Scheduler) (t : Turn), s.Coherent → t.Fits s → P s → P (s.turn now t))
    (hP : P s) : (s.handle now m).Coherent ∧ (s.handle now m).stopped = false ∧
      P (s.handle now m) := by
  rw [handle_eq_turns hs hm]
  exact h.turnAll_induction hs (h.fitAll_turns now m) hstep hP

/-! ## Runs -/

/-- The scheduler after some messages, each handled at its time. -/
def handleAll (s : Scheduler) (ms : List (Nat × Message)) : Scheduler :=
  ms.foldl (fun s m => s.handle m.1 m.2) s

@[simp] lemma handleAll_nil : s.handleAll [] = s := rfl

@[simp] lemma handleAll_cons (m : Nat × Message) (ms : List (Nat × Message)) :
    s.handleAll (m :: ms) = (s.handle m.1 m.2).handleAll ms := rfl

lemma Coherent.handleAll_induction {P : Scheduler → Prop} (h : s.Coherent)
    (hs : s.stopped = false) {ms : List (Nat × Message)} (hms : ∀ m ∈ ms, m.2 ≠ .shutdown)
    (hstep : ∀ (now : Nat) (s : Scheduler) (t : Turn),
      s.Coherent → t.Fits s → P s → P (s.turn now t))
    (hP : P s) : (s.handleAll ms).Coherent ∧ (s.handleAll ms).stopped = false ∧
      P (s.handleAll ms) := by
  induction ms generalizing s with
  | nil => exact ⟨h, hs, hP⟩
  | cons m ms ih =>
    obtain ⟨hm, hms⟩ := List.forall_mem_cons.mp hms
    obtain ⟨h', hs', hP'⟩ := h.handle_induction hs hm (hstep m.1) hP
    exact ih h' hs' hms hP'

end Scheduler

end PictureIndex
