import PictureIndex.Proofs.Launches
import PictureIndex.Proofs.Releases
/-!
# After the last message

A worker is told to stop by a message like any other.  When its turn comes, much may be under way:
a picture may be with a backend, its timer may run or have gone off already, there may be messages
behind this one, and the gate, the sweep, the watcher and the host may go on to send more.  Here it
is shown that all of them come too late.

`Step` lists what may happen to a session, whoever acts: the moves of its parties, and what the
host and the watcher do besides.  What others make of the world is up to a relation `outside`.
`Steps` are such steps in a row, with the deeds done in them.

* `Posted`: the status published last is the present one, so that nothing is lost in it when the
  scheduler stops.
* `host_takes_steps`: the calls of the host are such steps.
* `Intact.step_cases`: what may still happen to a session whose scheduler has stopped.
* `Intact.over`: by such steps nobody but others changes the world, except that a gate that is still
  there notifies the classifier of its polls (`Over`).
* `shutdown_is_final`: the last message itself and whatever may happen after it.
-/

namespace PictureIndex

open Log

namespace Scheduler

variable {s s' : Scheduler} {now : Nat}

/-- A turn publishes the new status at last, or the status stays as it is. -/
lemma Shift.reported {t : Turn} {log : List Event} (hs : Shift now s t log s') :
    (∃ front, log = front ++ [.published s'.status]) ∨
      snapshots log = [] ∧ s'.status = s.status := by
  cases hs with
  | wait item => exact .inl ⟨[.queued item], rfl⟩
  | begin item => exact .inl ⟨[.queued item, .started item _ _], rfl⟩
  | @arm p item rest timer _ hq hf hs =>
    subst hs
    exact .inr ⟨by simp, by simp [status, hf]⟩
  | tell state => exact .inl ⟨[], rfl⟩
  | next | last => exact .inl ⟨_, (List.append_assoc _ [_, _] [_]).symm⟩

end Scheduler

namespace Simulation

namespace Session

open Scheduler (Turn)

variable {s s' : Session} {deeds new : List Deed} {outside : World → World → Prop}

/-! ## The published status -/

/-- What is published at last is the status. -/
lemma foldl_act_status (log : List Event) :
    (log.foldl act s).status = (snapshots log).getLast?.getD s.status := by
  induction log generalizing s with
  | nil => rfl
  | cons e log ih =>
    rw [List.foldl_cons, ih]
    cases e with
    | published status =>
      rw [snapshots_cons, List.singleton_append, List.getLast?_cons]
      rfl
    | _ => rfl

/-- The status published last is the present one. -/
def Posted (s : Session) : Prop := s.status = s.scheduler.status

lemma Posted.turn (h : s.Posted) (hsound : s.Sound deeds) (hopen : s.scheduler.stopped = false)
    {t : Turn} (ht : t.Fits s.scheduler) : (s.turn t).Posted := by
  obtain ⟨log, next, hshift, -, -, hturn⟩ := turn_eq (hsound.coherent hopen) hsound.quiet ht
  have hscheduler : (s.turn t).scheduler = next := by
    rw [hturn]
    exact (foldl_act_frame log).1
  rw [Posted, hscheduler, hturn, foldl_act_status]
  rcases hshift.reported with ⟨front, rfl⟩ | ⟨hnone, hsame⟩
  · simp
  · rw [hnone, hsame]
    exact h

lemma posted_delivers : Delivers fun _ s _ => s.Posted where
  drop _ _ _ h := h
  join _ hs ho h := h.turn hs ho trivial
  tell _ hs ho h := h.turn hs ho trivial
  arm _ hs ho hq h := h.turn hs ho ⟨hq, rfl⟩
  leave hs ho hq _ h := h.turn hs ho hq

/-- Only deliveries publish anything. -/
lemma move_status {v : Move} (hv : v ≠ .deliver) : (s.move v).status = s.status := by
  obtain ⟨_, _, _, _, _, _, hmove, -⟩ := move_eq (s := s) hv
  rw [hmove]

/-! ## Whatever may happen -/

/-- The watcher tells of the changes that it noted. -/
def report (s : Session) : Session :=
  { s with changes := [] }.sendAll ((Change.submitted ⟨false, s.changes⟩).map .submit)

/-- A sweep tells of the recorded paths at which it finds nothing. -/
def sweep (s : Session) : Session :=
  s.sendAll (s.world.files.sweep (s.world.recorded.toOption.getD []))

/-- What may happen next, with what is done in it and what becomes of the session.  What others
make of the world is as `outside` says. -/
inductive Step (outside : World → World → Prop) (s : Session) : List Deed → Session → Prop
  /-- A party of the session acts, a message comes from outside, or the world becomes another. -/
  | move (v : Move) (hlegal : v.Legal) (houtside : ∀ w ∈ v.world?, outside s.world w) :
      Step outside s (s.deeds v) (s.move v)
  /-- A sweep comes to its end. -/
  | sweep : Step outside s [] s.sweep
  /-- Another program changes the files, and the watcher notes it. -/
  | edit (e : Edit) : Step outside s [] (s.edit e)
  /-- The watcher tells of what it noted. -/
  | report : Step outside s [] s.report
  /-- The host asks to stop. -/
  | stop : Step outside s [] s.shutdown

/-- What may happen in a row, with all that is done in it. -/
inductive Steps (outside : World → World → Prop) (s : Session) : List Deed → Session → Prop
  /-- Nothing happens. -/
  | refl : Steps outside s [] s
  /-- Something happens after other things. -/
  | next {deeds new : List Deed} {s' s'' : Session} (h : Steps outside s deeds s')
      (hstep : Step outside s' new s'') : Steps outside s (deeds ++ new) s''

/-- Only the watcher notes anything. -/
lemma note_eq (s : Session) (l : Option Location) :
    ∃ changes, s.note l = { s with changes := changes } := by
  unfold note
  split
  · split <;> exact ⟨_, rfl⟩
  · exact ⟨_, rfl⟩

/-- What is not a move sends messages from outside; apart from that it concerns files, gate and
watcher only. -/
lemma Step.cases_move (h : Step outside s new s') :
    (∃ v, v.Legal ∧ (∀ w ∈ v.world?, outside s.world w) ∧ new = s.deeds v ∧ s' = s.move v) ∨
      new = [] ∧ ∃ files gate watching changes ms, (∀ m ∈ ms, Message.about? m = none) ∧
        (s.gate = none → gate = none) ∧
        s' = { s with
          world := { s.world with files := files }, gate := gate, watching := watching
          changes := changes }.sendAll ms := by
  cases h with
  | move v hlegal houtside => exact .inl ⟨v, hlegal, houtside, rfl, rfl⟩
  | sweep =>
    refine .inr ⟨rfl, s.world.files, s.gate, s.watching, s.changes, _, fun m hm => ?_, id, rfl⟩
    obtain ⟨p, -, rfl⟩ := List.mem_map.mp hm
    rfl
  | edit e =>
    obtain ⟨changes, hnoted⟩ := note_eq
      { s with world := { s.world with files := s.world.files.edit e } }
      (s.world.files.noticed? (s.world.files.edit e) e)
    exact .inr ⟨rfl, _, s.gate, s.watching, changes, [], by simp, id, hnoted⟩
  | report =>
    refine .inr ⟨rfl, s.world.files, s.gate, s.watching, [], _, fun m hm => ?_, id, rfl⟩
    obtain ⟨p, -, rfl⟩ := List.mem_map.mp hm
    rfl
  | stop => exact .inr ⟨rfl, s.world.files, none, none, [], [.shutdown], by simp [Message.about?],
      fun _ => rfl, rfl⟩

lemma Step.pipeline_eq (h : Step outside s new s') : s'.pipeline = s.pipeline := by
  obtain ⟨v, -, -, -, rfl⟩ | ⟨-, files, gate, watching, changes, ms, -, -, rfl⟩ := h.cases_move
  · exact move_pipeline v
  · rw [sendAll_eq]

lemma Steps.pipeline_eq (h : Steps outside s new s') : s'.pipeline = s.pipeline := by
  induction h with
  | refl => rfl
  | next _ hstep ih => exact hstep.pipeline_eq.trans ih

/-- A gate that is gone never comes back. -/
lemma Step.gate_eq_none (h : Step outside s new s') (hgone : s.gate = none) : s'.gate = none := by
  obtain ⟨v, -, -, -, rfl⟩ | ⟨-, files, gate, watching, changes, ms, -, hgate, rfl⟩ := h.cases_move
  · by_cases hv : v = .gate
    · rw [hv, Session.move, stepGate?, hgone]
      exact hgone
    · rw [gate_move hv, hgone]
  · rw [sendAll_eq]
    exact hgate hgone

/-- When the host has asked to stop, the gate is gone. -/
lemma Steps.gate_eq_none (h : Steps outside s.shutdown new s') : s'.gate = none := by
  have hgone : s.shutdown.gate = none := by
    rw [shutdown, send_eq]
  generalize s.shutdown = first at h hgone
  induction h with
  | refl => exact hgone
  | next _ hstep ih => exact hstep.gate_eq_none ih

/-- Moves in a row are steps. -/
lemma Steps.moveAll (h : Steps outside s deeds s') {vs : List Move}
    (hvs : Along (fun s v => v.Legal ∧ ∀ w ∈ v.world?, outside s.world w) s' vs) :
    Steps outside s (deeds ++ s'.history vs) (s'.moveAll vs) :=
  (hvs.induction (P := fun s' deeds => Steps outside s deeds s') (R := fun _ _ => True)
    (fun _ _ v hv hsteps => ⟨hsteps.next (.move v hv.1 hv.2), trivial⟩) h).1

lemma Steps.leadsTo {s'' : Session} (hs : Steps (fun _ _ => True) s deeds s')
    (h : s'.LeadsTo s'') : ∃ deeds, Steps (fun _ _ => True) s deeds s'' := by
  obtain ⟨vs, hvs, rfl⟩ := h
  have hall : Along (fun _ v => v.Legal ∧ ∀ w ∈ v.world?, True) s' vs :=
    along_iff.mpr fun us v ws heq => ⟨hvs v (by simp [heq]), fun _ _ => trivial⟩
  exact ⟨_, hs.moveAll hall⟩

/-- **Whatever the host does is done in steps**: when it waits, changes files, lets the watcher tell
of that, or asks to stop. -/
theorem host_takes_steps (s : Session) :
    (∀ ms, ∃ deeds, Steps (fun _ _ => True) s deeds (s.elapse ms)) ∧
      (∀ processed limit, ∃ deeds,
        Steps (fun _ _ => True) s deeds (s.waitSettled processed limit).1) ∧
      (∀ e, ∃ deeds, Steps (fun _ _ => True) s deeds (s.edit e)) ∧
      (∀ processed, ∃ deeds, Steps (fun _ _ => True) s deeds (s.watch processed)) ∧
      ∃ deeds, Steps (fun _ _ => True) s deeds s.shutdown := by
  refine ⟨fun ms => Steps.refl.leadsTo (leadsTo_run ..), fun processed limit => ?_,
    fun e => ⟨_, Steps.refl.next (.edit e)⟩,
    fun processed => (Steps.refl.next .report).leadsTo (leadsTo_run ..),
    ⟨_, Steps.refl.next .stop⟩⟩
  rw [waitSettled]
  split
  · exact ⟨_, .refl⟩
  split
  · exact ⟨_, .refl⟩
  · exact Steps.refl.leadsTo (leadsTo_run ..)

/-- What is known of a session at every moment: the scheduler is sound, everything is in order, and
the published status is the present one. -/
structure Intact (s : Session) (deeds : List Deed) : Prop where
  /-- What is known of schedulers holds. -/
  sound : s.Sound deeds
  /-- At most the item in flight has a task and a timer. -/
  orderly : Orderly s.mailbox s deeds
  /-- The status published last is the present one. -/
  posted : s.Posted

lemma intact_starting (world : World) (c : Config) (backends : Backends)
    (gate : Option (Worker × Gate × Nat)) : (starting world c backends gate).Intact [] :=
  ⟨sound_starting world c backends gate, orderly_starting world c backends gate, rfl⟩

lemma Posted.move (h : s.Posted) (hsound : s.Sound deeds) (v : Move) : (s.move v).Posted := by
  by_cases hv : v = .deliver
  · subst hv
    obtain hnone | ⟨m, rest, hmail, hopen⟩ := s.delivery_cases
    · rw [(move_deliver_nothing hsound hnone).1]
      exact h
    rw [(move_deliver hmail hopen).1]
    by_cases hm : m = .shutdown
    · subst hm
      rw [deliver_shutdown_eq (s := { s with mailbox := rest }) hopen]
      rfl
    · have hrest : ({ s with mailbox := rest } : Session).Sound deeds := hsound.of_frame rfl rfl
      exact (posted_delivers.deliver rest hrest hopen hm h).2.2
  · rw [Posted, move_status hv, (move_scheduler hv).1]
    exact h

lemma Intact.step (h : s.Intact deeds) (hstep : Step outside s new s') :
    s'.Intact (deeds ++ new) := by
  obtain ⟨v, hlegal, -, rfl, rfl⟩ | ⟨rfl, files, gate, watching, changes, ms, hms, -, rfl⟩ :=
    hstep.cases_move
  · exact ⟨h.sound.move v, h.orderly.move hlegal h.sound, h.posted.move h.sound v⟩
  · rw [List.append_nil, sendAll_eq]
    exact ⟨h.sound.of_frame rfl rfl,
      h.orderly.of_mail rfl rfl (List.Sublist.refl _) rfl
        (fun m hm _ _ habout => by simp [hms m hm] at habout) fun m hm => about_none (hms m hm),
      h.posted⟩

lemma Steps.intact (h : Steps outside s new s') (hintact : s.Intact deeds) :
    s'.Intact (deeds ++ new) := by
  induction h with
  | refl => rwa [List.append_nil]
  | next _ hstep ih =>
    rw [← List.append_assoc]
    exact ih.step hstep

/-! ## When it is over -/

section

variable (h : s.Intact deeds) (hstopped : s.scheduler.stopped = true)

include hstopped

lemma sendAll_of_stopped (ms : List Message) : s.sendAll ms = s := by
  have hnone : s.entering ms = [] := by simp [entering, isOpen, hstopped]
  rw [sendAll_eq, hnone, List.append_nil]

/-- Handles report that the mailbox is closed. -/
lemma offer_of_stopped (m : Message) : s.offer m = (false, s) := by
  have hclosed : s.isOpen = false := by simp [isOpen, hstopped]
  rw [offer, send, hclosed]
  rfl

include h

lemma Intact.tasks_nil : s.tasks = [] := h.orderly.idle (h.sound.halted hstopped)

lemma Intact.timers_nil : s.timers = [] :=
  h.orderly.timers_nil (by simp [Scheduler.ownTimer, h.sound.halted hstopped])

/-- Nobody asks for anything any more. -/
lemma Intact.put?_eq_none (v : Move) : s.put? v = none := by
  cases v with
  | task i => simp [put?, h.tasks_nil hstopped]
  | _ => rfl

/-- **What may still happen when it is over.**  Nothing is done.  Others may change the world, the
mailbox is emptied, and a gate that is still there may poll and notify the classifier. -/
lemma Intact.step_cases (hstep : Step outside s new s') : new = [] ∧
    ((∃ w, outside s.world w ∧ s' = { s with world := w }) ∨
      ∃ mailbox files gate watching changes notices, (∀ c ∈ notices, ∃ n, c = Call.retry n) ∧
        (s.gate = none → gate = none ∧ notices = []) ∧
        s' = { s with
          world := { s.world with files := files, calls := s.world.calls ++ notices }
          mailbox := mailbox, gate := gate, watching := watching, changes := changes }) := by
  have hsame : ∃ mailbox files gate watching changes notices,
      (∀ c ∈ notices, ∃ n, c = Call.retry n) ∧ (s.gate = none → gate = none ∧ notices = []) ∧
      s = { s with
        world := { s.world with files := files, calls := s.world.calls ++ notices }
        mailbox := mailbox, gate := gate, watching := watching, changes := changes } :=
    ⟨s.mailbox, s.world.files, s.gate, s.watching, s.changes, [], by simp,
      fun hgate => ⟨hgate, rfl⟩, by rw [List.append_nil]⟩
  obtain ⟨v, -, houtside, rfl, rfl⟩ | ⟨rfl, files, gate, watching, changes, ms, -, hgate, rfl⟩ :=
    hstep.cases_move
  · cases v with
    | deliver =>
      obtain ⟨hmove, hdeeds⟩ := move_deliver_nothing h.sound (.inr hstopped)
      rw [hmove]
      exact ⟨hdeeds, .inr ⟨[], s.world.files, s.gate, s.watching, s.changes, [], by simp,
        fun hgate => ⟨hgate, rfl⟩, by rw [List.append_nil]⟩⟩
    | task i =>
      rcases move_task s i with ⟨hmove, hdeeds⟩ | ⟨task, plan, htask, -⟩
      · rw [hmove]
        exact ⟨hdeeds, .inr hsame⟩
      · simp [h.tasks_nil hstopped] at htask
    | timer i =>
      rcases move_timer s i with hmove | ⟨timer, htimer, -⟩
      · rw [hmove]
        exact ⟨rfl, .inr hsame⟩
      · simp [h.timers_nil hstopped] at htimer
    | gate =>
      obtain ⟨gate, watching, calls, ms, -, hmove⟩ := move_gate s
      obtain ⟨notices, hcalls, hnotices⟩ := calls_gate s
      rw [sendAll_of_stopped (by exact hstopped)] at hmove
      rw [hmove] at hcalls ⊢
      obtain rfl : calls = s.world.calls ++ notices := hcalls
      refine ⟨rfl, .inr ⟨s.mailbox, s.world.files, gate, watching, s.changes, notices, hnotices,
        fun hgate => ?_, rfl⟩⟩
      have hidle : s.move .gate = s := by rw [move, stepGate?, hgate]; rfl
      rw [hidle] at hmove
      have hsame : gate = s.gate := (congrArg Session.gate hmove).symm
      have hcalls : s.world.calls ++ notices = s.world.calls :=
        (congrArg (World.calls ∘ Session.world) hmove).symm
      exact ⟨hsame.trans hgate, List.append_right_eq_self.mp hcalls⟩
    | send m =>
      have hmove : s.move (.send m) = s := sendAll_of_stopped hstopped [m]
      rw [hmove]
      exact ⟨rfl, .inr hsame⟩
    | become w => exact ⟨rfl, .inl ⟨w, houtside w rfl, rfl⟩⟩
  · rw [sendAll_of_stopped (by exact hstopped)]
    exact ⟨rfl, .inr ⟨s.mailbox, files, gate, watching, changes, [], by simp,
      fun hnone => ⟨hgate hnone, rfl⟩, by rw [List.append_nil]⟩⟩

end

/-- From one session to another it is over: nothing is done but what others do, and what a gate does
that is still there. -/
structure Over (outside : World → World → Prop) (s s' : Session) : Prop where
  /-- The scheduler has stopped for good. -/
  scheduler_eq : s'.scheduler = s.scheduler
  /-- Nothing is published. -/
  status_eq : s'.status = s.status
  /-- A gate that is gone never comes back. -/
  gate_eq : s.gate = none → s'.gate = none
  /-- Only others write into the store. -/
  store_eq : (∀ w w', outside w w' → w'.store = w.store) → s'.world.store = s.world.store
  /-- Nothing is called, but a gate that is still there notifies the classifier of its polls. -/
  calls_eq : (∀ w w', outside w w' → w'.calls = w.calls) → ∃ notices,
    s'.world.calls = s.world.calls ++ notices ∧ (∀ c ∈ notices, ∃ n, c = Call.retry n) ∧
      (s.gate = none → notices = [])

lemma Over.refl (s : Session) : Over outside s s :=
  ⟨rfl, rfl, id, fun _ => rfl, fun _ => ⟨[], by simp⟩⟩

lemma Over.trans {s'' : Session} (h : Over outside s s') (h' : Over outside s' s'') :
    Over outside s s'' := by
  refine ⟨h'.scheduler_eq.trans h.scheduler_eq, h'.status_eq.trans h.status_eq,
    fun hgone => h'.gate_eq (h.gate_eq hgone),
    fun hout => (h'.store_eq hout).trans (h.store_eq hout), fun hout => ?_⟩
  obtain ⟨notices, hcalls, hnotices, hnone⟩ := h.calls_eq hout
  obtain ⟨notices', hcalls', hnotices', hnone'⟩ := h'.calls_eq hout
  refine ⟨notices ++ notices', by rw [hcalls', hcalls, List.append_assoc], ?_, fun hgone => ?_⟩
  · exact List.forall_mem_append.mpr ⟨hnotices, hnotices'⟩
  · rw [hnone hgone, hnone' (h.gate_eq hgone), List.append_nil]

/-- When the scheduler has stopped, it is over with every step. -/
lemma Intact.over_step (h : s.Intact deeds) (hstopped : s.scheduler.stopped = true)
    (hstep : Step outside s new s') : new = [] ∧ Over outside s s' := by
  obtain ⟨rfl, ⟨w, hw, rfl⟩ | ⟨mailbox, files, gate, watching, changes, notices, hnotices, hgate,
    rfl⟩⟩ := h.step_cases hstopped hstep
  · exact ⟨rfl, rfl, rfl, id, fun hout => hout _ _ hw, fun hout => ⟨[], by simp [hout _ _ hw]⟩⟩
  · exact ⟨rfl, rfl, rfl, fun hgone => (hgate hgone).1, fun _ => rfl,
      fun _ => ⟨notices, rfl, hnotices, fun hgone => (hgate hgone).2⟩⟩

/-- When the scheduler has stopped, it is over for good. -/
lemma Intact.over (h : s.Intact deeds) (hstopped : s.scheduler.stopped = true)
    (hs : Steps outside s new s') : new = [] ∧ Over outside s s' ∧ s'.Intact deeds := by
  induction hs with
  | refl => exact ⟨rfl, .refl s, h⟩
  | next _ hstep ih =>
    obtain ⟨rfl, hover, hintact⟩ := ih
    obtain ⟨rfl, hover'⟩ := hintact.over_step (hover.scheduler_eq ▸ hstopped) hstep
    exact ⟨rfl, hover.trans hover', by simpa using hintact.step hstep⟩

/-- **Shutdown is final.**  Take any session that starts afresh and in which anything has happened:
an item may be in flight with its task at any point, its timer may run or have gone off, and there
may be any messages.  Let `shutdown` be the message that the scheduler handles next.  Then

* the published status loses its queue and its item in flight, and keeps everything else; the
  backends are disconnected, which is all that happens to the world, so the store is what it was;
  no item is started, and no task and no timer is left;
* of all that may happen later, nothing is a deed, so the records written are those written before,
  and no task asks for anything; the published status stays, and so does the store unless others
  write into it; nothing is decoded and no backend asked about a picture, but a gate that is still
  there may notify the classifier of its polls; and handles report that nothing is taken any more.

A gate is not there any more if it was the host that asked to stop: see `Steps.gate_eq_none`. -/
theorem shutdown_is_final (world : World) (c : Config) (backends : Backends)
    (gate : Option (Worker × Gate × Nat)) {s : Session} {deeds : List Deed}
    (hs : Steps (fun _ _ => True) (starting world c backends gate) deeds s)
    (hopen : s.isOpen = true) (hnext : s.mailbox.head? = some .shutdown) :
    let halted := s.move .deliver
    (halted.status = { s.status with queued := 0, inFlight := false } ∧
      halted.world = { s.world with calls := s.world.calls ++ releases backends } ∧
      starts (Deed.log (s.deeds .deliver)) = [] ∧ halted.tasks = [] ∧ halted.timers = []) ∧
    ∀ outside more last, Steps outside halted more last →
      more = [] ∧ Deed.writes (deeds ++ s.deeds .deliver ++ more) = Deed.writes deeds ∧
      (∀ v, last.put? v = none) ∧ last.status = halted.status ∧
      ((∀ w w', outside w w' → w'.store = w.store) → last.world.store = s.world.store) ∧
      ((∀ w w', outside w w' → w'.calls = w.calls) → ∃ notices,
        last.world.calls = halted.world.calls ++ notices ∧
          (∀ c ∈ notices, ∃ n, c = Call.retry n) ∧ (s.gate = none → notices = [])) ∧
      ∀ p, last.enqueue p = (false, last) ∧ last.removeStale p = (false, last) := by
  intro halted
  have hintact : s.Intact deeds := hs.intact (intact_starting world c backends gate)
  have hstopped : s.scheduler.stopped = false := by simpa [isOpen] using hopen
  obtain ⟨rest, hmail⟩ := List.head?_eq_some_iff.mp hnext
  have hbackends : s.pipeline.backends = backends := congrArg Pipeline.backends hs.pipeline_eq
  obtain ⟨hmove, hdeeds⟩ := move_deliver hmail hstopped
  have hhalted : halted = { s with mailbox := rest }.deliver .shutdown := hmove
  rw [deliver_shutdown_eq (by exact hstopped), World.release_eq] at hhalted
  have hstep : Step (fun _ _ => True) s (s.deeds .deliver) halted :=
    .move .deliver trivial (by simp [Move.world?])
  have hlast : halted.Intact (deeds ++ s.deeds .deliver) := hintact.step hstep
  have hover : halted.scheduler.stopped = true := by rw [hhalted]
  refine ⟨⟨?_, ?_, ?_, hlast.tasks_nil hover, hlast.timers_nil hover⟩, ?_⟩
  · rw [hhalted, hintact.posted]
  · rw [hhalted, ← hbackends]
    rfl
  · rcases hintact.sound.open_or_idle .deliver with hstill | ⟨hidle, -⟩
    · exact absurd (hover.symm.trans hstill) (by simp)
    · exact hidle
  · intro outside more last hsteps
    obtain ⟨rfl, hend, hintact'⟩ := hlast.over hover hsteps
    have hclosed : last.scheduler.stopped = true := hend.scheduler_eq ▸ hover
    refine ⟨rfl, by simp [hdeeds], hintact'.put?_eq_none hclosed, hend.status_eq, fun hout => ?_,
      fun hout => ?_, fun p => ?_⟩
    · rw [hend.store_eq hout, hhalted]
    · obtain ⟨notices, hcalls, hnotices, hnone⟩ := hend.calls_eq hout
      exact ⟨notices, hcalls, hnotices, fun hgone => hnone (by rw [hhalted]; exact hgone)⟩
    · exact ⟨offer_of_stopped hclosed _, offer_of_stopped hclosed _⟩

/-- The picture `/a.png` is decoded and its timer runs; `/b.png` waits. -/
def underWay : List Move :=
  List.flatten [[.send (.submit pathA), .send (.submit pathB), .deliver, .deliver],
    List.replicate 7 (.task 0), [.deliver]]

/-- The time of `/a.png` runs out, and then its text is recognised and its record is written. -/
def overtaken : List Move :=
  [.become { twoPictures with now := 120000, calls := [.decode pathA] }, .timer 0, .task 0, .task 0]

/-- Others neither write into the store nor call anybody. -/
def Aloof (w w' : World) : Prop := w'.store = w.store ∧ w'.calls = w.calls

/-- The host asks to stop while a picture is with a backend.  Its timer goes off and its record is
written before the scheduler handles the message, and nothing comes of anything after it. -/
theorem shutdown_is_final_in_flight :
    let first := starting twoPictures anyPictures ⟨true, false⟩
      (some (⟨anyPictures, ⟨true, false⟩⟩, Gate.new ⟨true, false⟩ 3, 1000))
    let s := (first.moveAll underWay).shutdown.moveAll overtaken
    let last := (s.move .deliver).moveAll [.gate, .task 0, .timer 0, .deliver]
    s.isOpen = true ∧ s.mailbox.head? = some .shutdown ∧ s.mailbox.length = 2 ∧
      s.tasks.length = 1 ∧ s.status.queued = 2 ∧ s.status.inFlight = true ∧
      last.status = { s.status with queued := 0, inFlight := false } ∧
      last.world.store = s.world.store ∧ s.world.store.all.toOption = some ["/a.png"] ∧
      last.world.calls = s.world.calls ++ [.release .ocr] ∧ last.enqueue pathB = (false, last) := by
  intro first s last
  have hunderWay : Along (fun _ v => v.Legal ∧ ∀ w ∈ v.world?, True) first underWay := by
    decide +kernel
  have hovertaken : Along (fun _ v => v.Legal ∧ ∀ w ∈ v.world?, True)
      (first.moveAll underWay).shutdown overtaken := by decide +kernel
  have hsteps : Steps (fun _ _ => True) first _ s :=
    ((Steps.refl.moveAll hunderWay).next .stop).moveAll hovertaken
  have hlater : Steps Aloof (s.move .deliver) _ last :=
    Steps.refl.moveAll (by simp [Along, Move.Legal, Move.world?])
  have hafter : Steps (fun _ _ => True) (first.moveAll underWay).shutdown _ s :=
    Steps.refl.moveAll hovertaken
  have hgone : s.gate = none := hafter.gate_eq_none
  have hopen : s.isOpen = true := by decide +kernel
  have hnext : s.mailbox.head? = some .shutdown := by decide +kernel
  obtain ⟨⟨hstatus, hworld, -⟩, hend⟩ := shutdown_is_final twoPictures anyPictures ⟨true, false⟩
    _ hsteps hopen hnext
  obtain ⟨-, -, -, hsame, hstore, hcalls, hclosed⟩ := hend Aloof _ last hlater
  obtain ⟨notices, hnotices, -, hnone⟩ := hcalls fun _ _ h => h.2
  refine ⟨hopen, hnext, by decide +kernel, by decide +kernel, by decide +kernel,
    by decide +kernel, hsame.trans hstatus, hstore fun _ _ h => h.1, by decide +kernel, ?_,
    (hclosed pathB).1⟩
  rw [hnotices, hnone hgone, List.append_nil, hworld]
  rfl

end Session

end Simulation

end PictureIndex
