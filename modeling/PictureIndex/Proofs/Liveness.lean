import PictureIndex.Proofs.Attendance
/-!
# The queue moves on

Attendance is a promise about single moments.  Over time it means that the queue never stands
still: if no party is put off for ever, the item in flight leaves and the next one is started,
whatever the backends do.

A run is an endless row of moves, and `Fair` says that it puts nobody off: mail is handled, a task
that can go on does, and a timer goes off, unless the one is aborted and the other stopped before.
The proof is by contradiction.  Along a run on which the item stays in flight for ever
(`Standstill`) no message can be about it but a request for time, since any other would end it;
then no timer runs for it, since it would go off and leave such a message; then there is no request
for time either; and then its task cannot be at the start.  So nobody attends to it.
-/

namespace PictureIndex

namespace Scheduler

variable {a b c : Scheduler}

/-- The item in flight has stayed, and perhaps others have joined those that wait. -/
structure Waits (a b : Scheduler) : Prop where
  /-- The scheduler was not stopped. -/
  stopped : b.stopped = false
  /-- Nothing was started. -/
  generation : b.generation = a.generation
  /-- Nothing was finished. -/
  tally : b.tally = a.tally
  /-- Items may have joined. -/
  queue : ∃ new, b.queue = a.queue ++ new

/-- The item in flight has left with an outcome, or because its time ran out, and the next one was
started, if there was one. -/
structure Passed (a : Scheduler) (outcome : Option Outcome) (b : Scheduler) : Prop where
  /-- One item was finished. -/
  processed : b.tally.processed = a.tally.processed + 1
  /-- Whether its time ran out is counted. -/
  timedOut : b.tally.timedOut = a.tally.timedOut + outcome.isNone.toNat
  /-- The next item is in flight, under the next generation. -/
  inFlight : b.inFlight = b.queue.head?.map fun item => ⟨item.path, a.generation + 1, none⟩
  /-- It was the front of the queue that left. -/
  queue : ∃ new, b.queue = a.queue.tail ++ new

lemma Waits.refl (ha : a.stopped = false) : a.Waits a :=
  ⟨ha, rfl, rfl, [], (List.append_nil _).symm⟩

lemma Waits.trans (h : a.Waits b) (h' : b.Waits c) : a.Waits c := by
  obtain ⟨new, hnew⟩ := h.queue
  obtain ⟨new', hnew'⟩ := h'.queue
  exact ⟨h'.stopped, h'.generation.trans h.generation, h'.tally.trans h.tally, new ++ new', by
    rw [hnew', hnew, List.append_assoc]⟩

lemma Waits.queue_ne_nil (h : a.Waits b) (hqueue : a.queue ≠ []) : b.queue ≠ [] := by
  obtain ⟨new, hnew⟩ := h.queue
  simp [hnew, hqueue]

/-- An item may wait first and leave then. -/
lemma Waits.passed (h : a.Waits b) (hqueue : a.queue ≠ []) {outcome : Option Outcome}
    (h' : b.Passed outcome c) : a.Passed outcome c := by
  obtain ⟨new, hnew⟩ := h.queue
  obtain ⟨new', hnew'⟩ := h'.queue
  refine ⟨h.tally ▸ h'.processed, h.tally ▸ h'.timedOut, h.generation ▸ h'.inFlight,
    new ++ new', ?_⟩
  rw [hnew', hnew, List.tail_append_of_ne_nil hqueue, List.append_assoc]

end Scheduler

namespace Simulation

namespace Session

open Scheduler (Turn)

variable {s : Session} {deeds : List Deed}

/-! ## One message -/

lemma Sound.joins (h : s.Sound deeds) (hopen : s.scheduler.stopped = false)
    (hqueue : s.scheduler.queue ≠ []) (items : List Item) :
    let s' := (items.map Turn.join).foldl Session.turn s
    (∃ deeds', s'.Sound deeds') ∧ s.scheduler.Waits s'.scheduler ∧ s'.tasks = s.tasks ∧
      s'.timers = s.timers := by
  obtain ⟨deeds', -, hsound, -, hstays⟩ := h.turns hopen (Scheduler.fitAll_joins items)
    (P := fun s' _ => s.scheduler.Waits s'.scheduler ∧ s'.tasks = s.tasks ∧ s'.timers = s.timers)
    (fun s' _ t hs ho ht _ hstays => by
      obtain ⟨hwaits, htasks, htimers⟩ := hstays
      obtain ⟨item, -, rfl⟩ := List.mem_map.mp ht
      obtain ⟨log, next, hshift, -, -, hturn⟩ :=
        turn_eq (t := .join item) (hs.coherent ho) hs.quiet trivial
      rw [hturn]
      cases hshift with
      | wait _ hq hs =>
        subst hs
        exact ⟨hwaits.trans ⟨ho, rfl, rfl, [item], by rw [hq]; rfl⟩, htasks, htimers⟩
      | begin _ hq hs => exact absurd hq (hwaits.queue_ne_nil hqueue))
    ⟨.refl hopen, rfl, rfl⟩
  exact ⟨⟨deeds', hsound⟩, hstays⟩

/-- Letting the item in flight leave starts the next one. -/
lemma Sound.passed_of_leave (h : s.Sound deeds) (hopen : s.scheduler.stopped = false)
    (hqueue : s.scheduler.queue ≠ []) (outcome : Option Outcome) :
    s.scheduler.Passed outcome (s.turn (.leave outcome)).scheduler := by
  obtain ⟨log, next, hshift, -, -, hturn⟩ :=
    turn_eq (t := .leave outcome) (h.coherent hopen) h.quiet hqueue
  have htimedOut : (s.scheduler.count outcome).tally.timedOut =
      s.scheduler.tally.timedOut + outcome.isNone.toNat := by
    rcases outcome with _ | (_ | _ | _ | _ | _ | _ | _) <;> rfl
  rw [hturn, (foldl_act_frame _).1]
  cases hshift with
  | next _ item front hq hf hs =>
    subst hs
    exact ⟨rfl, htimedOut, rfl, [], by simp [hq]⟩
  | last _ item hq hf hd hs =>
    subst hs
    exact ⟨rfl, htimedOut, rfl, [], by simp [hq]⟩

/-- What handling a message makes of a session with an item in flight. -/
inductive Handled (s : Session) (m : Message) (s' : Session) : Prop
  /-- The scheduler stops. -/
  | stop (hstopped : s'.scheduler.stopped = true)
  /-- The item leaves. -/
  | pass (outcome : Option Outcome) (hends : m.Ends s.scheduler.generation outcome)
      (hpassed : s.scheduler.Passed outcome s'.scheduler)
  /-- The item stays.  If the message was about it, it was the request for its time. -/
  | wait (hwaits : s.scheduler.Waits s'.scheduler) (htasks : s'.tasks = s.tasks)
      (htimers : ∀ t ∈ s.timers, t ∈ s'.timers)
      (habout : ∀ p, m.about? = some (p, s.scheduler.generation) →
        m = .armTimeout p s.scheduler.generation ∧
          ∃ t ∈ s'.timers, t.generation = s.scheduler.generation)

section

variable {m : Message} {rest : List Message} {s' : Session}

/-- The item stays if the message is not about it, or is ignored. -/
lemma Healthy.handled_of_ignored (h : s.Healthy deeds) (hmail : s.mailbox = m :: rest)
    {c : InFlight} (hf : s.scheduler.inFlight = some c)
    (hwaits : s.scheduler.Waits s'.scheduler) (htasks : s'.tasks = s.tasks)
    (htimers : s'.timers = s.timers)
    (hm : ∀ p generation, m.about? = some (p, generation) →
      s.scheduler.isCurrent p generation = false) : Handled s m s' := by
  refine .wait hwaits htasks (fun t ht => htimers ▸ ht) fun p habout => ?_
  -- a message about the item in flight is not ignored
  have hgeneration : s.scheduler.generation = c.generation := (h.sound.in_flight hf).2.2.1.symm
  rw [hgeneration] at habout
  obtain rfl := (h.attentive.named c hf).mail m (by simp [hmail]) p habout
  exact absurd (h.sound.isCurrent hf) (by simp [hm _ _ habout])

/-- A request for time of the item in flight sets its timer. -/
lemma Healthy.handled_arm {p : Path} (h : s.Healthy deeds)
    (hmail : s.mailbox = .armTimeout p s.scheduler.generation :: rest)
    (hopen : s.scheduler.stopped = false) (hqueue : s.scheduler.queue ≠ []) :
    Handled s (.armTimeout p s.scheduler.generation)
      (({ s with mailbox := rest } : Session).turn (.arm p s.scheduler.generation)) := by
  have hrest : ({ s with mailbox := rest } : Session).Sound deeds := h.sound.of_frame rfl rfl
  obtain ⟨log, next, hshift, -, -, hturn⟩ := turn_eq
    (t := .arm p s.scheduler.generation) (hrest.coherent hopen) hrest.quiet ⟨hqueue, rfl⟩
  rw [hturn]
  cases hshift with
  | @arm _ item rest' timer _ hq hf hs =>
    subst hs
    obtain ⟨q, hunderway⟩ := h.orderly.busy _ hf
    rw [hmail] at hunderway
    obtain rfl : timer = none := (hunderway.first (by simp [isArmFor])).1
    refine .wait ⟨hopen, rfl, rfl, [], (List.append_nil _).symm⟩ rfl
      (fun t ht => List.mem_append_left _ ht) fun p' habout => ⟨?_, ?_⟩
    · obtain ⟨rfl, -⟩ := Prod.mk.inj (Option.some.inj habout)
      rfl
    · exact ⟨_, List.mem_append_right s.timers (List.mem_singleton_self _), rfl⟩

/-- **What the handling of a message comes to** while an item is in flight. -/
lemma Healthy.handled (h : s.Healthy deeds) (hmail : s.mailbox = m :: rest)
    (hopen : s.scheduler.stopped = false) (hqueue : s.scheduler.queue ≠ []) :
    Handled s m (s.move .deliver) := by
  obtain ⟨front, waiting, hq⟩ := List.exists_cons_of_ne_nil hqueue
  obtain ⟨timer, hf⟩ := (h.sound.coherent hopen).inFlight_of_cons hq
  have hrest : ({ s with mailbox := rest } : Session).Sound deeds := h.sound.of_frame rfl rfl
  have hstale {p : Path} {generation : Nat} (hm : m.about? = some (p, generation))
      (hc : ¬ s.scheduler.isCurrent p generation = true) :
      Handled s m { s with mailbox := rest } :=
    h.handled_of_ignored hmail hf (.refl hopen) rfl rfl fun p' generation' habout => by
      obtain ⟨rfl, rfl⟩ := Prod.mk.inj (Option.some.inj (hm.symm.trans habout))
      simpa using hc
  have hjoins := hrest.joins hopen hqueue
  rw [(move_deliver hmail hopen).1]
  by_cases hm : m = .shutdown
  · subst hm
    exact .stop (by rw [(deliver_shutdown (s := { s with mailbox := rest }) hopen).1])
  rw [deliver_eq_turns (s := { s with mailbox := rest }) hopen hrest.quiet hm]
  cases m with
  | submit p =>
    obtain ⟨-, hwaits, htasks, htimers⟩ := hjoins (s.scheduler.admitted [p])
    exact h.handled_of_ignored hmail hf hwaits htasks htimers (by simp [Message.about?])
  | removeStale p =>
    obtain ⟨-, hwaits, htasks, htimers⟩ := hjoins [⟨p, .removeStale⟩]
    exact h.handled_of_ignored hmail hf hwaits htasks htimers (by simp [Message.about?])
  | gate state =>
    obtain ⟨log, next, hshift, -, -, hturn⟩ :=
      turn_eq (t := .tell state) (hrest.coherent hopen) hrest.quiet trivial
    simp only [Scheduler.turns, List.foldl_cons, List.foldl_nil]
    rw [hturn]
    cases hshift with
    | tell _ hs =>
      subst hs
      exact h.handled_of_ignored hmail hf ⟨hopen, rfl, rfl, [], (List.append_nil _).symm⟩ rfl rfl
        (by simp [Message.about?])
  | armTimeout p generation =>
    by_cases hc : s.scheduler.isCurrent p generation
    · obtain ⟨_, _, _, -, rfl⟩ := (h.sound.coherent hopen).isCurrent_iff.mp hc
      simp only [Scheduler.turns, if_pos hc, List.foldl_cons, List.foldl_nil]
      exact h.handled_arm hmail hopen hqueue
    · simp only [Scheduler.turns, if_neg hc, List.foldl_nil]
      exact hstale rfl hc
  | completed p generation outcome =>
    by_cases hc : s.scheduler.isCurrent p generation
    · obtain ⟨_, _, _, -, rfl⟩ := (h.sound.coherent hopen).isCurrent_iff.mp hc
      obtain ⟨⟨_, hsound⟩, hwaits, -, -⟩ := hjoins (s.scheduler.admitted outcome.discovered)
      simp only [Scheduler.turns, if_pos hc, List.foldl_append, List.foldl_cons, List.foldl_nil]
      exact .pass _ ⟨rfl, rfl⟩ (hwaits.passed hqueue
        (hsound.passed_of_leave hwaits.stopped (hwaits.queue_ne_nil hqueue) _))
    · simp only [Scheduler.turns, if_neg hc, List.foldl_nil]
      exact hstale rfl hc
  | timedOut p generation =>
    by_cases hc : s.scheduler.isCurrent p generation
    · obtain ⟨_, _, _, -, rfl⟩ := (h.sound.coherent hopen).isCurrent_iff.mp hc
      simp only [Scheduler.turns, if_pos hc, List.foldl_cons, List.foldl_nil]
      exact .pass none ⟨rfl, rfl⟩ (hrest.passed_of_leave hopen hqueue none)
    · simp only [Scheduler.turns, if_neg hc, List.foldl_nil]
      exact hstale rfl hc
  | shutdown => exact absurd rfl hm

end

/-- Apart from deliveries, mail only grows, tasks change by their own steps and timers by going
off. -/
lemma move_frame {v : Move} (hv : v ≠ .deliver) :
    (∃ more, (s.move v).mailbox = s.mailbox ++ more) ∧
      ((∀ i, v ≠ .task i) → (s.move v).tasks = s.tasks) ∧
      ((∀ i, v ≠ .timer i) → (s.move v).timers = s.timers) := by
  obtain ⟨_, more, _, _, _, _, hmove, htasks, htimers, -⟩ := move_eq (s := s) hv
  rw [hmove]
  exact ⟨⟨more, rfl⟩, htasks, htimers⟩

/-- The session after some moves of an endless row. -/
def after (s : Session) (moves : Nat → Move) : Nat → Session
  | 0 => s
  | n + 1 => (s.after moves n).move (moves n)

/-- Nobody is put off for ever. -/
structure Fair (s : Session) (moves : Nat → Move) : Prop where
  /-- Where there is mail, a message is delivered. -/
  mail : ∀ n, (s.after moves n).mailbox ≠ [] → ∃ k ≥ n, moves k = .deliver
  /-- A task that is not stuck goes on or is aborted. -/
  task : ∀ n, ∀ t ∈ (s.after moves n).tasks, t.state.plan? ≠ none →
    ∃ k ≥ n, t ∉ (s.after moves k).tasks
  /-- A timer goes off or is stopped. -/
  timer : ∀ n, ∀ t ∈ (s.after moves n).timers, ∃ k ≥ n, t ∉ (s.after moves k).timers

/-- A fair run along which the item in flight stays for ever. -/
structure Standstill (s : Session) (moves : Nat → Move) : Prop where
  /-- Nobody is put off. -/
  fair : s.Fair moves
  /-- There is an item in flight. -/
  queue : s.scheduler.queue ≠ []
  /-- Whoever is asked comes back. -/
  responds : ∀ n, (s.after moves n).Responds (moves n)
  /-- What is known of sessions holds. -/
  healthy : ∀ n, ∃ deeds, (s.after moves n).Healthy deeds
  /-- The item stays. -/
  waits : ∀ n, s.scheduler.Waits (s.after moves n).scheduler

/-- What holds at some time and not later ends at some step. -/
lemma exists_end {p : Nat → Prop} {n k : Nat} (hnk : n ≤ k) (hn : p n) (hk : ¬ p k) :
    ∃ j, p j ∧ ¬ p (j + 1) := by
  induction hnk with
  | refl => exact absurd hn hk
  | @step k _ ih =>
    by_cases hp : p k
    · exact ⟨k, hp, hk⟩
    · exact ih hp

section Standstill

variable {moves : Nat → Move} (h : s.Standstill moves)

include h

lemma Standstill.open_at (n : Nat) : (s.after moves n).scheduler.stopped = false :=
  (h.waits n).stopped

lemma Standstill.queue_at (n : Nat) : (s.after moves n).scheduler.queue ≠ [] :=
  (h.waits n).queue_ne_nil h.queue

/-- Handling a message neither stops the scheduler nor ends the item. -/
lemma Standstill.handled {n : Nat} {m : Message} {rest : List Message}
    (hmoves : moves n = .deliver) (hmail : (s.after moves n).mailbox = m :: rest) :
    (s.after moves (n + 1)).tasks = (s.after moves n).tasks ∧
      (∀ t ∈ (s.after moves n).timers, t ∈ (s.after moves (n + 1)).timers) ∧
      ∀ p, m.about? = some (p, s.scheduler.generation) →
        m = .armTimeout p s.scheduler.generation ∧
          ∃ t ∈ (s.after moves (n + 1)).timers, t.generation = s.scheduler.generation := by
  obtain ⟨deeds, hhealthy⟩ := h.healthy n
  have hnext : s.after moves (n + 1) = (s.after moves n).move .deliver := by rw [after, hmoves]
  have hhandled := hhealthy.handled hmail (h.open_at n) (h.queue_at n)
  rw [← hnext] at hhandled
  cases hhandled with
  | stop hstopped => simp [h.open_at (n + 1)] at hstopped
  | pass outcome _ hpassed =>
    have hprocessed := hpassed.processed
    rw [(h.waits n).tally, (h.waits (n + 1)).tally] at hprocessed
    omega
  | wait _ htasks htimers habout =>
    rw [(h.waits n).generation] at habout
    exact ⟨htasks, htimers, habout⟩

lemma Standstill.delivered {n : Nat} (hmoves : moves n = .deliver) :
    (s.after moves (n + 1)).tasks = (s.after moves n).tasks ∧
      ∀ t ∈ (s.after moves n).timers, t ∈ (s.after moves (n + 1)).timers := by
  cases hmail : (s.after moves n).mailbox with
  | nil =>
    obtain ⟨deeds, hhealthy⟩ := h.healthy n
    rw [after, hmoves, (move_deliver_nothing hhealthy.sound (.inl hmail)).1]
    exact ⟨rfl, fun _ ht => ht⟩
  | cons m rest =>
    obtain ⟨htasks, htimers, -⟩ := h.handled hmoves hmail
    exact ⟨htasks, htimers⟩

/-- Where there is mail, a message is delivered, and what was there before is there still. -/
lemma Standstill.next_delivery {n : Nat} (hmail : (s.after moves n).mailbox ≠ []) :
    ∃ k ≥ n, moves k = .deliver ∧
      ∃ more, (s.after moves k).mailbox = (s.after moves n).mailbox ++ more := by
  obtain ⟨k, hnk, hk⟩ := h.fair.mail n hmail
  induction hd : k - n generalizing n with
  | zero =>
    obtain rfl : n = k := by omega
    exact ⟨n, Nat.le_refl n, hk, [], (List.append_nil _).symm⟩
  | succ d ih =>
    by_cases hn : moves n = .deliver
    · exact ⟨n, Nat.le_refl n, hn, [], (List.append_nil _).symm⟩
    · obtain ⟨more, hmore⟩ := (move_frame (s := s.after moves n) hn).1
      have hnext : (s.after moves (n + 1)).mailbox = (s.after moves n).mailbox ++ more := hmore
      have hne : n ≠ k := fun he => hn (he ▸ hk)
      obtain ⟨j, hnj, hj, more', hmore'⟩ :=
        ih (n := n + 1) (by simp [hnext, hmail]) (by omega) (by omega)
      exact ⟨j, by omega, hj, more ++ more', by rw [hmore', hnext, List.append_assoc]⟩

/-- Every message is delivered. -/
lemma Standstill.arrives {n : Nat} {m : Message} {before behind : List Message}
    (hmail : (s.after moves n).mailbox = before ++ m :: behind) :
    ∃ k, moves k = .deliver ∧ ∃ rest, (s.after moves k).mailbox = m :: rest := by
  -- by the number of messages before it
  induction before generalizing n behind with
  | nil =>
    obtain ⟨k, -, hk, more, hmore⟩ := h.next_delivery (n := n) (by simp [hmail])
    exact ⟨k, hk, behind ++ more, by simp [hmore, hmail]⟩
  | cons m' before ih =>
    obtain ⟨k, -, hk, more, hmore⟩ := h.next_delivery (n := n) (by simp [hmail])
    rw [hmail] at hmore
    have hnext : (s.after moves (k + 1)).mailbox = before ++ m :: (behind ++ more) := by
      rw [after, hk, mailbox_deliver hmore (h.open_at k)]
      simp
    exact ih hnext

/-- No message ends the item. -/
lemma Standstill.no_end {n : Nat} {m : Message} {p : Path}
    (hm : m ∈ (s.after moves n).mailbox) (habout : m.about? = some (p, s.scheduler.generation)) :
    m = .armTimeout p s.scheduler.generation := by
  obtain ⟨before, behind, hmail⟩ := List.append_of_mem hm
  obtain ⟨k, hk, rest, hrest⟩ := h.arrives hmail
  exact ((h.handled hk hrest).2.2 p habout).1

/-- No timer runs for the item: it would go off. -/
lemma Standstill.no_timer {n : Nat} {t : Timer} (ht : t ∈ (s.after moves n).timers) :
    t.generation ≠ s.scheduler.generation := by
  intro hgeneration
  obtain ⟨k, hnk, hk⟩ := h.fair.timer n t ht
  obtain ⟨j, hj, hgone⟩ := exists_end (p := fun j => t ∈ (s.after moves j).timers) hnk ht hk
  obtain ⟨deeds, hhealthy⟩ := h.healthy j
  by_cases hdeliver : moves j = .deliver
  · exact hgone ((h.delivered hdeliver).2 t hj)
  by_cases htimer : ∃ i, moves j = .timer i
  · obtain ⟨i, hi⟩ := htimer
    have hnext : s.after moves (j + 1) = (s.after moves j).move (.timer i) := by rw [after, hi]
    rcases move_timer (s.after moves j) i with hmove | ⟨t', ht', hmove⟩
    · rw [hnext, hmove] at hgone
      exact hgone hj
    · -- the timer that went off was the item's
      have hown := hhealthy.orderly.timers t (hj)
      have hown' := hhealthy.orderly.timers t' (List.mem_of_getElem? ht')
      have hsame : t'.generation = t.generation := by
        obtain ⟨-, he⟩ := LiveTimer.mk.inj (Option.some.inj (hown'.symm.trans hown))
        exact he
      have hmem : .timedOut t'.path t'.generation ∈ (s.after moves (j + 1)).mailbox := by
        rw [hnext, hmove, send_eq]
        simp [entering, isOpen, h.open_at j]
      have habout : (Message.timedOut t'.path t'.generation).about? =
          some (t'.path, s.scheduler.generation) := by rw [← hgeneration, ← hsame]; rfl
      simpa using h.no_end hmem habout
  · have hsame : (s.after moves (j + 1)).timers = _ :=
      (move_frame (s := s.after moves j) hdeliver).2.2 fun i hi => htimer ⟨i, hi⟩
    rw [hsame] at hgone
    exact hgone hj

/-- No message is about the item: granting its time would set a timer. -/
lemma Standstill.no_mail {n : Nat} {m : Message} (hm : m ∈ (s.after moves n).mailbox) (p : Path) :
    m.about? ≠ some (p, s.scheduler.generation) := by
  intro habout
  obtain ⟨before, behind, hmail⟩ := List.append_of_mem hm
  obtain ⟨k, hk, rest, hrest⟩ := h.arrives hmail
  obtain ⟨-, t, ht, hgeneration⟩ := (h.handled hk hrest).2.2 p habout
  exact h.no_timer ht hgeneration

/-- A task that is not stuck does its next step, and is answered unless it asks a backend. -/
lemma Standstill.advances {n : Nat} {task : Task} (htask : task ∈ (s.after moves n).tasks)
    (hplan : task.state.plan? ≠ none) :
    ∃ j, Advance (s.after moves j) 0 task (s.after moves (j + 1)) ∧
      (s.after moves j).tasks = [task] ∧ task.generation = s.scheduler.generation ∧
      ∀ r next, task.state.plan? = some (.ask r next) → r.asksBackend = false →
        ∃ a delay w, (s.after moves j).world.reply r = (.answer a delay, w) := by
  obtain ⟨k, hnk, hk⟩ := h.fair.task n task htask hplan
  obtain ⟨j, hj, hgone⟩ :=
    exists_end (p := fun j => task ∈ (s.after moves j).tasks) hnk htask hk
  obtain ⟨deeds, hhealthy⟩ := h.healthy j
  by_cases hdeliver : moves j = .deliver
  · rw [(h.delivered hdeliver).1] at hgone
    exact absurd hj hgone
  by_cases hstep : ∃ i, moves j = .task i
  · obtain ⟨i, hi⟩ := hstep
    have hnext : s.after moves (j + 1) = (s.after moves j).move (.task i) := by rw [after, hi]
    rcases move_task (s.after moves j) i with
      ⟨hmove, -⟩ | ⟨task', plan, htask', hrun, hadvance, -⟩
    · rw [hnext, hmove] at hgone
      exact absurd hj hgone
    · obtain ⟨c, q, hc, -, rfl, htasks, hown, -⟩ := hhealthy.orderly.alone htask'
      rw [htasks, List.mem_singleton] at hj
      subst hj
      have hgeneration := (hhealthy.sound.in_flight hc).2.2.1
      refine ⟨j, hnext ▸ hadvance, htasks,
        hown.trans (hgeneration.trans (h.waits j).generation), fun r next hask hbackend => ?_⟩
      obtain rfl := Option.some.inj ((runnable_plan hrun).symm.trans hask)
      exact (hi ▸ h.responds j).answer htask' hrun hbackend
  · have hsame : (s.after moves (j + 1)).tasks = _ :=
      (move_frame (s := s.after moves j) hdeliver).2.1 fun i hi => hstep ⟨i, hi⟩
    rw [hsame] at hgone
    exact absurd hj hgone

lemma Standstill.not_sent {n : Nat} {ms : List Message}
    (hmail : (s.after moves (n + 1)).mailbox =
      (s.after moves n).mailbox ++ (s.after moves n).entering ms) {m : Message} (hm : m ∈ ms)
    (p : Path) : m.about? ≠ some (p, s.scheduler.generation) := by
  refine h.no_mail (n := n + 1) ?_ p
  rw [hmail]
  simp [entering, isOpen, h.open_at n, hm]

/-- No task is at the start: it would go on until it sent a message. -/
lemma Standstill.no_fresh {n : Nat} {task : Task} {plan : Plan Outcome} {may : Bool}
    (htask : task ∈ (s.after moves n).tasks) (hplan : task.state.plan? = some plan) :
    ¬ plan.Keeps may Progress.Reports .fresh := by
  intro hkeeps
  -- on what is left of the plan
  induction plan generalizing n task with
  | done outcome =>
    obtain ⟨j, hadvance, -, hown, -⟩ := h.advances htask (by simp [hplan])
    generalize hs' : s.after moves (j + 1) = s' at hadvance
    cases hadvance with
    | report =>
      refine h.not_sent (by rw [hs']) (List.mem_singleton_self _) task.path ?_
      rw [← hown]
      rfl
    | answered r next a delay w state hplan' =>
      exact nomatch Option.some.inj (hplan.symm.trans hplan')
    | hang r next w hplan' => exact nomatch Option.some.inj (hplan.symm.trans hplan')
    | die r next w hplan' => exact nomatch Option.some.inj (hplan.symm.trans hplan')
  | ask r next ih =>
    obtain ⟨j, hadvance, htasks, hown, hanswers⟩ := h.advances htask (by simp [hplan])
    obtain ⟨a, delay, w, hreply⟩ :=
      hanswers r next hplan (Progress.asksBackend_of_fresh hkeeps.1)
    generalize hs' : s.after moves (j + 1) = s' at hadvance
    cases hadvance with
    | report outcome hplan' => exact nomatch Option.some.inj (hplan.symm.trans hplan')
    | answered r' next' a' delay' w' state hplan' hreply' hstate =>
      obtain ⟨rfl, hnext⟩ := Plan.ask.inj (Option.some.inj (hplan.symm.trans hplan'))
      obtain rfl := eq_of_heq hnext
      by_cases hr : r = .arm
      · subst hr
        have hmail : (s.after moves (j + 1)).mailbox = (s.after moves j).mailbox ++
            (s.after moves j).entering (task.tells .arm) := by rw [hs']
        refine h.not_sent hmail (List.mem_singleton_self _) task.path ?_
        rw [← hown]
        rfl
      · have hfresh := hkeeps.2 a'
        rw [Progress.after_fresh hkeeps.1 hr] at hfresh
        have hgone : (s.after moves (j + 1)).tasks = [{ task with state := state }] := by
          rw [hs']
          simp [htasks]
        exact ih a' (hgone ▸ List.mem_singleton_self _) hstate hfresh
    | hang r' next' w' hplan' hreply' =>
      obtain ⟨rfl, -⟩ := Plan.ask.inj (Option.some.inj (hplan.symm.trans hplan'))
      simp [hreply] at hreply'
    | die r' next' w' hplan' hreply' =>
      obtain ⟨rfl, -⟩ := Plan.ask.inj (Option.some.inj (hplan.symm.trans hplan'))
      simp [hreply] at hreply'

/-- So nobody attends to the item, which cannot be. -/
lemma Standstill.false : False := by
  obtain ⟨deeds, hhealthy⟩ := h.healthy 0
  obtain ⟨front, waiting, hq⟩ := List.exists_cons_of_ne_nil (h.queue_at 0)
  obtain ⟨timer, hf⟩ := (hhealthy.sound.coherent (h.open_at 0)).inFlight_of_cons hq
  cases hhealthy.attentive.attended _ hf with
  | message m hm p habout => exact h.no_mail hm p habout
  | task task may plan htask _ hplan hkeeps => exact h.no_fresh htask hplan hkeeps
  | timer t ht hgeneration => exact h.no_timer ht hgeneration

end Standstill

/-! ## Hung and dead tasks -/

/-- The task of the item in flight has hung or died: it cannot go on, and it has not reported. -/
structure Abandoned (s : Session) : Prop where
  /-- The task cannot go on. -/
  tasks : ∀ task ∈ s.tasks, task.state.plan? = none
  /-- It has not reported. -/
  mailbox : ∀ m ∈ s.mailbox, ∀ p outcome, m ≠ .completed p s.scheduler.generation outcome

lemma Abandoned.of_move {s' : Session} {ms : List Message} (h : s.Abandoned)
    (hscheduler : s'.scheduler = s.scheduler) (htasks : s'.tasks = s.tasks)
    (hmail : s'.mailbox = s.mailbox ++ s.entering ms)
    (hms : ∀ m ∈ ms, ∀ p generation outcome, m ≠ .completed p generation outcome) :
    s'.Abandoned where
  tasks := htasks ▸ h.tasks
  mailbox m hm p outcome := by
    rw [hmail] at hm
    rw [hscheduler]
    rcases List.mem_append.mp hm with hold | hnew
    · exact h.mailbox m hold p outcome
    · exact hms m ((entering_sublist ms).subset hnew) p _ outcome

/-- Apart from deliveries nothing revives a task that has hung or died. -/
lemma Abandoned.move (h : s.Abandoned) {v : Move} (hlegal : v.Legal) (hv : v ≠ .deliver) :
    (s.move v).Abandoned := by
  have houtside {m : Message} (hm : m.about? = none) (p : Path) (generation : Nat)
      (outcome : Outcome) : m ≠ .completed p generation outcome := by
    rintro rfl
    exact nomatch hm
  cases v with
  | deliver => exact absurd rfl hv
  | task i =>
    rcases move_task s i with ⟨hmove, -⟩ | ⟨task, plan, htask, hrun, -⟩
    · rw [hmove]
      exact h
    · have hstuck := h.tasks task (List.mem_of_getElem? htask)
      exact nomatch (runnable_plan hrun).symm.trans hstuck
  | timer i =>
    rcases move_timer s i with hmove | ⟨timer, -, hmove⟩
    · rw [hmove]
      exact h
    · rw [hmove, send_eq]
      refine h.of_move rfl rfl rfl fun m hm p generation outcome => ?_
      rw [List.mem_singleton.mp hm]
      nofun
  | gate | send =>
    obtain ⟨gate, watching, calls, ms, hms, hmove⟩ := move_outside s hlegal (by simp)
    rw [hmove, sendAll_eq]
    exact h.of_move rfl rfl rfl fun m hm => houtside (hms m hm)
  | become w => exact ⟨h.tasks, h.mailbox⟩

/-- What a move makes of a session with an item in flight: the scheduler stops, or the item leaves,
and because of its time if its task has hung or died, or it stays. -/
lemma Healthy.stops_passes_or_waits (h : s.Healthy deeds) (hopen : s.scheduler.stopped = false)
    (hqueue : s.scheduler.queue ≠ []) {v : Move} (hlegal : v.Legal) :
    (s.move v).scheduler.stopped = true ∨
      (∃ outcome, s.scheduler.Passed outcome (s.move v).scheduler ∧
        (s.Abandoned → outcome = none)) ∨
      (s.scheduler.Waits (s.move v).scheduler ∧ (s.Abandoned → (s.move v).Abandoned)) := by
  by_cases hv : v = .deliver
  · subst hv
    cases hmail : s.mailbox with
    | nil =>
      rw [(move_deliver_nothing h.sound (.inl hmail)).1]
      exact .inr (.inr ⟨.refl hopen, fun hlost => ⟨hlost.tasks, by simp⟩⟩)
    | cons m rest =>
      cases h.handled hmail hopen hqueue with
      | stop hstopped => exact .inl hstopped
      | pass outcome hends hpassed =>
        refine .inr (.inl ⟨outcome, hpassed, fun hlost => ?_⟩)
        cases m with
        | completed p generation outcome' =>
          obtain ⟨rfl, -⟩ := hends
          exact absurd rfl (hlost.mailbox _ (by simp [hmail]) p outcome')
        | timedOut p generation => exact hends.2
        | _ => exact absurd hends id
      | wait hwaits htasks =>
        refine .inr (.inr ⟨hwaits, fun hlost => ⟨htasks ▸ hlost.tasks, fun m' hm' p outcome => ?_⟩⟩)
        rw [mailbox_deliver hmail hopen] at hm'
        rw [hwaits.generation]
        exact hlost.mailbox m' (hmail ▸ List.mem_cons_of_mem m hm') p outcome
  · refine .inr (.inr ⟨?_, fun hlost => hlost.move hlegal hv⟩)
    rw [(move_scheduler hv).1]
    exact .refl hopen

/-- Along a fair run the item in flight leaves, unless the scheduler stops. -/
lemma Healthy.passes (h : s.Healthy deeds) (hopen : s.scheduler.stopped = false)
    (hqueue : s.scheduler.queue ≠ []) {moves : Nat → Move}
    (hmoves : ∀ n, (moves n).Legal ∧ (s.after moves n).Responds (moves n))
    (hfair : s.Fair moves) :
    ∃ n, (s.after moves n).scheduler.stopped = true ∨
      ∃ outcome, s.scheduler.Passed outcome (s.after moves n).scheduler ∧
        (s.Abandoned → outcome = none) := by
  by_contra hnever
  have hstays (n : Nat) : (∃ deeds, (s.after moves n).Healthy deeds) ∧
      s.scheduler.Waits (s.after moves n).scheduler ∧
      (s.Abandoned → (s.after moves n).Abandoned) := by
    induction n with
    | zero => exact ⟨⟨deeds, h⟩, .refl hopen, id⟩
    | succ n ih =>
      obtain ⟨⟨deeds', hhealthy⟩, hwaits, hlost⟩ := ih
      refine ⟨⟨_, hhealthy.move (hmoves n)⟩, ?_⟩
      rcases hhealthy.stops_passes_or_waits hwaits.stopped (hwaits.queue_ne_nil hqueue)
        (hmoves n).1 with hstopped | ⟨outcome, hpassed, hnone⟩ | ⟨hwaits', hlost'⟩
      · exact absurd ⟨n + 1, .inl hstopped⟩ hnever
      · exact absurd ⟨n + 1, .inr ⟨outcome, hwaits.passed hqueue hpassed, hnone ∘ hlost⟩⟩ hnever
      · exact ⟨hwaits.trans hwaits', hlost' ∘ hlost⟩
  exact Standstill.false
    ⟨hfair, hqueue, fun n => (hmoves n).2, fun n => (hstays n).1, fun n => (hstays n).2.1⟩

/-! ## The queue -/

/-- Nobody is put off if at some time all is quiet and only deliveries follow. -/
lemma fair_of_quiet {moves : Nat → Move} (n : Nat) (hmoves : ∀ k ≥ n, moves k = .deliver)
    (hmail : (s.after moves n).mailbox = []) (htasks : (s.after moves n).tasks = [])
    (htimers : (s.after moves n).timers = []) : s.Fair moves := by
  have hquiet (d : Nat) : s.after moves (n + d) = s.after moves n := by
    induction d with
    | zero => rfl
    | succ d ih =>
      have hnext : s.after moves (n + (d + 1)) = (s.after moves n).move .deliver := by
        rw [← Nat.add_assoc, after, ih, hmoves _ (Nat.le_add_right n d)]
      rw [hnext, move, deliverOldest, hmail]
  constructor
  · exact fun k _ => ⟨n + k, Nat.le_add_left k n, hmoves _ (Nat.le_add_right n k)⟩
  · exact fun k t _ _ => ⟨n + k, Nat.le_add_left k n, by simp [hquiet, htasks]⟩
  · exact fun k t _ => ⟨n + k, Nat.le_add_left k n, by simp [hquiet, htimers]⟩

end Session

end Simulation

end PictureIndex
