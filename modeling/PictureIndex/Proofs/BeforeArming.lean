import PictureIndex.Proofs.Launches
import PictureIndex.Proofs.LawfulRecords
import PictureIndex.Proofs.Releases
/-!
# What happens before the gate arms

A worker waits for its backends before it looks at its root, sweeps out the records and watches the
tree, and if they never become ready it does none of this.  But the gate holds back only what the
worker itself would submit.  The scheduler does not look at the gate, so a path that the host
enqueues is examined at once: its picture is decoded, shown to backends that may not be ready, and
recorded (`enqueued_picture_recorded_before_arming`).

That is all, though.  As long as the scheduler has not been told that the gate has armed, the items
that join its queue are those that stem from enqueued paths (`Stems`), the decoder and the backends
are called for these only, and records are written for these only
(`only_enqueued_paths_before_arming`).  Where nothing is enqueued, nothing is called.
-/

namespace PictureIndex

open Log

/-- The items that stem from some paths, given what has left the queue: those for paths that are
not excluded, and those to which these have led. -/
inductive Stems (excluded : List String) (told : List Path) (departed : List Departure) :
    Item → Prop
  /-- A path that is not excluded is examined. -/
  | told {p : Path} (hp : p ∈ told) (hadmitted : p.isExcluded excluded = false) :
      Stems excluded told departed ⟨p, .examine⟩
  /-- An item that has left may have led to others. -/
  | led {d : Departure} {y : Item} (hd : d ∈ departed)
      (hstems : Stems excluded told departed d.item) (hy : y ∈ d.followers excluded) :
      Stems excluded told departed y

namespace Stems

variable {excluded : List String} {told told' : List Path} {departed departed' : List Departure}
  {y : Item}

lemma mono (htold : told ⊆ told') (hdeparted : departed ⊆ departed')
    (h : Stems excluded told departed y) : Stems excluded told' departed' y := by
  induction h with
  | told hp hadmitted => exact .told (htold hp) hadmitted
  | led hd _ hy ih => exact .led (hdeparted hd) ih hy

/-- Nothing stems from excluded paths. -/
lemma not_of_excluded (htold : ∀ p ∈ told, p.isExcluded excluded = true) :
    ¬ Stems excluded told departed y := by
  intro h
  induction h with
  | told hp hadmitted => exact absurd ((htold _ hp).symm.trans hadmitted) (by simp)
  | led _ _ _ ih => exact ih

end Stems

/-- Whether a message tells of the gate. -/
def Message.isOfGate : Message → Bool
  | .gate _ => true
  | _ => false

namespace Simulation

/-- Whether a call is made on behalf of a path. -/
def Call.IsFor (p : Path) : Call → Prop
  | .decode q | .classify q => q = p
  | .ocr _ => True
  | .retry _ | .release _ => False

/-- The path that a move enqueues. -/
def Move.enqueued? : Move → Option Path
  | .send (.submit p) => some p
  | _ => none

/-- Whether a move is that of a worker's host or not from outside: a host enqueues paths and tells
the worker to stop. -/
def Move.OfHost : Move → Prop
  | .send m => (Move.send m).enqueued?.isSome ∨ m = .shutdown
  | _ => True

instance (v : Move) : Decidable v.OfHost :=
  match v with
  | .send m => inferInstanceAs (Decidable ((Move.send m).enqueued?.isSome ∨ m = .shutdown))
  | .deliver | .task _ | .timer _ | .gate | .become _ => .isTrue trivial

/-- A request makes its call on behalf of the path that it names. -/
lemma Call.isFor_of {r : Request} {c : Call} (h : Call.of? r = some c) {p : Path}
    (hr : r.IsOf p) : c.IsFor p := by
  cases r <;> cases h
  case decode => exact hr.elim (fun h => nomatch h) Option.some.inj
  case classify => exact hr.elim (fun h => nomatch h) Option.some.inj
  case recognise => trivial

namespace Session

variable {s : Session} {deeds : List Deed}

/-! ## Whose calls and records they are -/

/-- Whatever tasks do and have done is done for items that were started. -/
structure Owned (s : Session) (deeds : List Deed) : Prop where
  /-- A task that lives asks for the path of an item that was started under its generation. -/
  tasks : ∀ task ∈ s.tasks, ∃ item, (item, task.generation) ∈ starts (Deed.log deeds) ∧
    ∀ plan, task.state.plan? = some plan → plan.Puts (Request.IsOf item.path)
  /-- But for notices and releases, calls were made on behalf of items that were started. -/
  calls : ∀ c ∈ s.world.calls, (∃ n, c = .retry n) ∨ (∃ k, c = .release k) ∨
    ∃ x ∈ starts (Deed.log deeds), c.IsFor x.1.path
  /-- Records were written for items that were started. -/
  writes : ∀ x ∈ Deed.writes deeds, ∃ item, (item, x.1) ∈ starts (Deed.log deeds) ∧
    x.2.path = item.path

/-- A request is put for an item that was started. -/
lemma Owned.of_put? (h : s.Owned deeds) {v : Move} {task : Task} {r : Request}
    (hput : s.put? v = some (task, r)) :
    ∃ item, (item, task.generation) ∈ starts (Deed.log deeds) ∧ r.IsOf item.path := by
  obtain ⟨i, next, -, htask, hrun⟩ := plan_of_put? hput
  obtain ⟨item, hstart, hputs⟩ := h.tasks task (List.mem_of_getElem? htask)
  exact ⟨item, hstart, (hputs _ (runnable_plan hrun)).1⟩

/-- A task stays that of its item in what it does. -/
lemma Owned.tasks_move (h : s.Owned deeds) (v : Move) : ∀ task ∈ (s.move v).tasks,
    ∃ item, (item, task.generation) ∈ starts (Deed.log (deeds ++ s.deeds v)) ∧
      ∀ plan, task.state.plan? = some plan → plan.Puts (Request.IsOf item.path) := by
  have hold : ∀ task ∈ s.tasks,
      ∃ item, (item, task.generation) ∈ starts (Deed.log (deeds ++ s.deeds v)) ∧
        ∀ plan, task.state.plan? = some plan → plan.Puts (Request.IsOf item.path) := by
    intro task htask
    obtain ⟨item, hstart, hputs⟩ := h.tasks task htask
    exact ⟨item, starts_subset (List.subset_append_left _ _) hstart, hputs⟩
  intro task htask
  by_cases hdeliver : v = .deliver
  · subst hdeliver
    rcases mem_deliver_tasks htask with hmem | ⟨item, generation, exhausted, hstart, rfl⟩
    · exact hold task hmem
    · refine ⟨item, ?_, fun plan hplan => ?_⟩
      · rw [Deed.log_append, starts_append]
        exact List.mem_append_right _ (mem_starts hstart)
      · obtain rfl := Option.some.inj hplan
        exact s.pipeline.puts_process exhausted item fun r hr => hr
  by_cases htasks : ∀ i, v ≠ .task i
  · rw [(move_frame hdeliver).2.1 htasks] at htask
    exact hold task htask
  simp only [not_forall, not_not] at htasks
  obtain ⟨i, rfl⟩ := htasks
  rcases move_task s i with ⟨hmove, -⟩ | ⟨owner, plan, howner, hrun, hadvance, -⟩
  · rw [hmove] at htask
    exact hold task htask
  · obtain ⟨item, hstart, hputs⟩ := hold owner (List.mem_of_getElem? howner)
    generalize s.move (.task i) = s' at hadvance htask
    cases hadvance with
    | report outcome hplan => exact hold task (List.mem_of_mem_eraseIdx htask)
    | die r next w hplan hreply => exact hold task (List.mem_of_mem_eraseIdx htask)
    | hang r next w hplan hreply =>
      rcases List.mem_or_eq_of_mem_set htask with hmem | rfl
      · exact hold task hmem
      · exact ⟨item, hstart, fun plan hplan => by cases hplan⟩
    | answered r next a delay w state hplan hreply hnext =>
      rcases List.mem_or_eq_of_mem_set htask with hmem | rfl
      · exact hold task hmem
      · refine ⟨item, hstart, fun plan hplan' => ?_⟩
        obtain rfl := Option.some.inj (hnext.symm.trans hplan')
        exact (hputs _ hplan).2 a

/-- In what is delivered only the releases are called. -/
lemma calls_deliverOldest (s : Session) : ∃ new,
    (s.move .deliver).world.calls = s.world.calls ++ new ∧ ∀ c ∈ new, ∃ k, c = .release k := by
  show ∃ new, s.deliverOldest.world.calls = _ ∧ _
  rw [deliverOldest]
  split
  · exact ⟨[], (List.append_nil _).symm, by simp⟩
  · refine ⟨_, calls_foldl_act _, fun c hc => ?_⟩
    obtain ⟨some, hsome, hc⟩ := List.mem_flatten.mp hc
    rw [List.eq_of_mem_replicate hsome] at hc
    obtain ⟨k, -, rfl⟩ := List.mem_map.mp hc
    exact ⟨k, rfl⟩

lemma Owned.move {v : Move} (h : s.Owned deeds) (hv : s.Traced v) :
    (s.move v).Owned (deeds ++ s.deeds v) := by
  have hstarts := starts_subset (List.subset_append_left deeds (s.deeds v))
  refine ⟨h.tasks_move v, fun c hc => ?_, fun x hx => ?_⟩
  · have hold (hc : c ∈ s.world.calls) : (∃ n, c = .retry n) ∨ (∃ k, c = .release k) ∨
        ∃ x ∈ starts (Deed.log (deeds ++ s.deeds v)), c.IsFor x.1.path := by
      rcases h.calls c hc with hretry | hrelease | ⟨x, hx, hfor⟩
      · exact .inl hretry
      · exact .inr (.inl hrelease)
      · exact .inr (.inr ⟨x, hstarts hx, hfor⟩)
    by_cases hdeliver : v = .deliver
    · subst hdeliver
      obtain ⟨new, hcalls, hnew⟩ := calls_deliverOldest s
      rw [hcalls] at hc
      exact (List.mem_append.mp hc).elim hold fun hc => .inr (.inl (hnew c hc))
    cases hput : s.put? v with
    | none =>
      obtain ⟨new, hcalls, hnew⟩ := calls_of_put?_none hdeliver hput hv
      rw [hcalls] at hc
      exact (List.mem_append.mp hc).elim hold fun hc => .inl (hnew c hc)
    | some y =>
      obtain ⟨task, r⟩ := y
      obtain ⟨item, hstart, hown⟩ := h.of_put? hput
      obtain ⟨new, hcalls, hnew⟩ := s.world.calls_reply r
      rw [world_of_put? hput, hcalls] at hc
      refine (List.mem_append.mp hc).elim hold fun hc => .inr (.inr ?_)
      exact ⟨_, hstarts hstart, Call.isFor_of (hnew c hc) hown⟩
  · obtain ⟨generation, record⟩ := x
    rw [Deed.writes_append] at hx
    rcases List.mem_append.mp hx with hold | hnow
    · obtain ⟨item, hstart, hpath⟩ := h.writes _ hold
      exact ⟨item, hstarts hstart, hpath⟩
    · obtain ⟨d, hd, hwrote⟩ := List.mem_filterMap.mp hnow
      obtain rfl : d = .wrote generation record := by
        cases d <;> cases hwrote
        rfl
      obtain ⟨task, hput, rfl, -⟩ := mem_deeds_wrote.mp hd
      obtain ⟨item, hstart, hown⟩ := h.of_put? hput
      exact ⟨item, hstarts hstart, hown.elim (fun h => nomatch h) Option.some.inj⟩

/-! ## The gate speaks once -/

/-- How often the scheduler is still to be told of the gate: by mail, or when the gate is done. -/
def signals (s : Session) : Nat := s.mailbox.countP (·.isOfGate) + s.gate.toList.length

/-- The scheduler is told of the gate once at most, and until then it takes it to be waiting. -/
structure Signalled (s : Session) : Prop where
  /-- It is told once. -/
  once : s.signals ≤ 1
  /-- It knows better only when it has been told. -/
  heard : s.scheduler.gate ≠ .waiting → s.signals = 0

lemma Signalled.of_le {s' : Session} (h : s.Signalled)
    (hgate : s'.scheduler.gate = s.scheduler.gate) (hsignals : s'.signals ≤ s.signals) :
    s'.Signalled where
  once := hsignals.trans h.once
  heard hheard := Nat.le_zero.mp ((h.heard (hgate ▸ hheard)).symm ▸ hsignals)

/-- Those who are not the gate do not speak for it. -/
lemma isOfGate_of_about {m : Message} (h : m.about?.isSome) : m.isOfGate = false := by
  cases m with
  | gate => cases h
  | _ => rfl

lemma isOfGate_of_task {m : Message} (h : m.isFromTask = true) : m.isOfGate = false := by
  cases m with
  | gate => cases h
  | _ => rfl

lemma countP_armed (w : Worker) (t : FileTree) (recorded : Option (List String)) :
    (w.armed t recorded).countP (·.isOfGate) = 1 := by
  have hsweep : (t.sweep (recorded.getD [])).countP (·.isOfGate) = 0 := by
    rw [List.countP_eq_zero]
    intro m hm
    obtain ⟨p, -, rfl⟩ := List.mem_map.mp hm
    simp [Message.isOfGate]
  rw [Worker.armed, List.countP_cons_of_pos rfl, List.countP_cons_of_neg Bool.false_ne_true, hsweep]

/-- The gate is done when it has spoken. -/
lemma signals_gate (s : Session) : (s.move .gate).signals ≤ s.signals := by
  cases hgate : s.gate with
  | none =>
    have hmove : s.move .gate = s := by simp [move, stepGate?, hgate]
    rw [hmove]
  | some x =>
    obtain ⟨w, g, wake⟩ := x
    obtain ⟨gate, watching, calls, ms, hmove, hms⟩ := move_waiting hgate
    have hspoken : (s.entering ms).countP (·.isOfGate) + gate.toList.length ≤ 1 := by
      have hentering := (entering_sublist (s := s) ms).countP_le (p := (·.isOfGate))
      rcases hms with ⟨-, rfl⟩ | ⟨rfl, rfl | rfl⟩
      · cases gate <;> simp [entering]
      · rw [countP_armed] at hentering
        simpa using hentering
      · rw [show Worker.givenUp.countP (·.isOfGate) = 1 from rfl] at hentering
        simpa using hentering
    rw [hmove, sendAll_eq, signals, signals, hgate, List.countP_append]
    simp only [Option.toList_some, List.length_singleton]
    exact Nat.add_assoc _ _ _ ▸ Nat.add_le_add_left hspoken _

lemma signals_move {v : Move} (hdeliver : v ≠ .deliver) (hv : v.OfHost) :
    (s.move v).signals ≤ s.signals := by
  by_cases hgate : v = .gate
  · rw [hgate]
    exact signals_gate s
  obtain ⟨more, hmore, hfrom⟩ := mailbox_move hdeliver
  have hnone : more.countP (·.isOfGate) = 0 := by
    rw [List.countP_eq_zero]
    intro m hm
    rw [Bool.not_eq_true]
    rcases hfrom m hm with ⟨-, htask⟩ | ⟨-, htimer⟩ | hgate' | hsent
    · exact isOfGate_of_task htask
    · exact isOfGate_of_about htimer
    · exact absurd hgate' hgate
    · subst hsent
      rcases hv with henqueued | rfl
      · cases m <;> first | rfl | cases henqueued
      · rfl
  rw [signals, signals, hmore, List.countP_append, hnone, gate_move hgate, Nat.add_zero]

/-- Handling a message either tells of the gate or leaves what is known of it as it is. -/
lemma Sound.gate_deliver (h : s.Sound deeds) {m : Message} {rest : List Message}
    (hmail : s.mailbox = m :: rest) (hopen : s.scheduler.stopped = false) :
    (s.move .deliver).signals + (if m.isOfGate then 1 else 0) = s.signals ∧
      (m.isOfGate = false → (s.move .deliver).scheduler.gate = s.scheduler.gate) ∧
      ∀ state, m = .gate state → (s.move .deliver).scheduler.gate = state := by
  have hscheduler := h.scheduler_deliver hmail hopen
  refine ⟨?_, fun hm => ?_, ?_⟩
  · rw [signals, signals, mailbox_deliver hmail hopen, hmail, gate_move (by simp), List.countP_cons]
    omega
  · rw [hscheduler]
    by_cases hshutdown : m = .shutdown
    · subst hshutdown
      rw [← hscheduler, scheduler_shutdown hmail hopen]
    · have hgate : (s.scheduler.handle s.world.now m).gate = s.scheduler.gate ∨
          m = .gate (s.scheduler.handle s.world.now m).gate :=
        Scheduler.handle_gate hopen hshutdown
      rcases hgate with hsame | hnews
      · exact hsame
      · rw [hnews] at hm
        cases hm
  · rintro state rfl
    rw [hscheduler, Scheduler.handle, if_neg (by simp [hopen])]
    rfl

lemma Signalled.move {v : Move} (h : s.Signalled) (hsound : s.Sound deeds) (hv : v.OfHost) :
    (s.move v).Signalled := by
  by_cases hdeliver : v = .deliver
  swap
  · exact h.of_le (by rw [(move_scheduler hdeliver).1]) (signals_move hdeliver hv)
  subst hdeliver
  obtain hnone | ⟨m, rest, hmail, hopen⟩ := s.delivery_cases
  · refine h.of_le ?_ ?_ <;> rw [(move_deliver_nothing hsound hnone).1]
    simp [signals]
  obtain ⟨hsignals, hsame, -⟩ := hsound.gate_deliver hmail hopen
  cases hm : m.isOfGate with
  | false =>
    refine h.of_le (hsame hm) ?_
    rw [← hsignals]
    exact Nat.le_add_right _ _
  | true =>
    have honce := h.once
    rw [hm, if_pos rfl] at hsignals
    exact ⟨by omega, fun _ => by omega⟩

/-- Once armed, the gate stays so. -/
lemma Signalled.armed_move {v : Move} (h : s.Signalled) (hsound : s.Sound deeds)
    (harmed : s.scheduler.gate = .armed) : (s.move v).scheduler.gate = .armed := by
  by_cases hdeliver : v = .deliver
  swap
  · rw [(move_scheduler hdeliver).1, harmed]
  subst hdeliver
  obtain hnone | ⟨m, rest, hmail, hopen⟩ := s.delivery_cases
  · rw [(move_deliver_nothing hsound hnone).1, harmed]
  obtain ⟨hsignals, hsame, -⟩ := hsound.gate_deliver hmail hopen
  rw [h.heard (by rw [harmed]; simp)] at hsignals
  cases hm : m.isOfGate with
  | false => rw [hsame hm, harmed]
  | true => simp [hm] at hsignals

/-! ## Only what the host enqueues -/

/-- The mail that comes before the news that the gate has armed. -/
def early (ms : List Message) : List Message := ms.takeWhile (· ≠ .gate .armed)

lemma early_cons {m : Message} (hm : m ≠ .gate .armed) (ms : List Message) :
    early (m :: ms) = m :: early ms := by
  simp [early, hm]

lemma mem_early_append {ms more : List Message} {m : Message} (hm : m ∈ early (ms ++ more)) :
    m ∈ early ms ∨ m ∈ early more := by
  induction ms with
  | nil => exact .inr hm
  | cons first ms ih =>
    by_cases hfirst : first = .gate .armed
    · rw [hfirst, early, List.cons_append, List.takeWhile_cons_of_neg (by simp)] at hm
      cases hm
    · rw [List.cons_append, early_cons hfirst] at hm
      rw [early_cons hfirst]
      rcases List.mem_cons.mp hm with rfl | hm
      · exact .inl List.mem_cons_self
      · exact (ih hm).imp_left (List.mem_cons_of_mem _)

/-- What is known of a session whose scheduler has not been told that the gate has armed. -/
structure Early (excluded : List String) (told : List Path) (s : Session) (deeds : List Deed) :
    Prop where
  /-- The scheduler knows which paths are excluded. -/
  excluded_eq : s.scheduler.excludedPrefixes = excluded
  /-- Until the news that the gate has armed, the mail asks for enqueued paths only. -/
  mail : ∀ m ∈ early s.mailbox, ∀ y ∈ m.items excluded,
    ∃ p ∈ told, p.isExcluded excluded = false ∧ y = ⟨p, .examine⟩
  /-- What has joined stems from enqueued paths. -/
  joined_stems : ∀ y ∈ joined (Deed.log deeds),
    Stems excluded told (departures (Deed.log deeds)) y
  /-- What was started had joined. -/
  started_joined : ∀ x ∈ starts (Deed.log deeds), x.1 ∈ joined (Deed.log deeds)
  /-- Enqueued paths have joined or are about to. -/
  told_joined : s.scheduler.stopped = false → ∀ p ∈ told, p.isExcluded excluded = false →
    ⟨p, .examine⟩ ∈ joined (Deed.log deeds) ∨ .submit p ∈ s.mailbox
  /-- What an item has led to has joined. -/
  led_joined : ∀ d ∈ departures (Deed.log deeds), ∀ y ∈ d.followers excluded,
    y ∈ joined (Deed.log deeds)

/-- The news of the gate comes before what the worker submits by itself, and apart from that only
the host asks for anything. -/
lemma early_move {v : Move} (hdeliver : v ≠ .deliver) (hv : v.OfHost) (excluded : List String) :
    ∃ more, (s.move v).mailbox = s.mailbox ++ more ∧ ∀ m ∈ early more, ∀ y ∈ m.items excluded,
      ∃ p, v.enqueued? = some p ∧ p.isExcluded excluded = false ∧ y = ⟨p, .examine⟩ := by
  by_cases hgate : v = .gate
  · subst hgate
    cases hwaiting : s.gate with
    | none =>
      have hmove : s.move .gate = s := by simp [move, stepGate?, hwaiting]
      exact ⟨[], by rw [hmove, List.append_nil], by simp [early]⟩
    | some x =>
      obtain ⟨w, g, wake⟩ := x
      obtain ⟨gate, watching, calls, ms, hmove, hms⟩ := move_waiting hwaiting
      rw [hmove, sendAll_eq]
      refine ⟨s.entering ms, rfl, fun m hm y hy => ?_⟩
      rw [entering] at hm
      split at hm
      · rcases hms with ⟨-, rfl⟩ | ⟨-, rfl | rfl⟩
        · cases hm
        · simp [early, Worker.armed] at hm
        · obtain rfl := List.mem_singleton.mp ((List.takeWhile_sublist _).mem hm)
          cases hy
      · cases hm
  · obtain ⟨more, hmore, hfrom⟩ := mailbox_move hdeliver
    refine ⟨more, hmore, fun m hm y hy => ?_⟩
    rcases hfrom m ((List.takeWhile_sublist _).mem hm) with
      ⟨-, htask⟩ | ⟨-, htimer⟩ | hgate' | rfl
    · cases m <;> cases htask <;> cases hy
    · rw [Message.items_of_about htimer] at hy
      cases hy
    · exact absurd hgate' hgate
    · rcases hv with henqueued | rfl
      · cases m with
        | submit p =>
          rw [Message.items] at hy
          split at hy
          · cases hy
          · rename_i hadmitted
            exact ⟨p, rfl, by simpa using hadmitted, List.mem_singleton.mp hy⟩
        | _ => cases henqueued
      · cases hy

variable {excluded : List String} {told : List Path}

/-- Moves other than deliveries only bring mail. -/
lemma Early.of_mail {v : Move} (h : s.Early excluded told deeds) (hdeliver : v ≠ .deliver)
    (hv : v.OfHost) :
    (s.move v).Early excluded (told ++ v.enqueued?.toList) (deeds ++ s.deeds v) := by
  obtain ⟨hscheduler, hlog⟩ := move_scheduler (s := s) hdeliver
  have hsame : Deed.log (deeds ++ s.deeds v) = Deed.log deeds := by
    rw [Deed.log_append, hlog, List.append_nil]
  obtain ⟨more, hmore, hnews⟩ := early_move (s := s) hdeliver hv excluded
  refine ⟨by rw [hscheduler]; exact h.excluded_eq, fun m hm y hy => ?_, fun y hy => ?_, ?_,
    fun hopen p hp hadmitted => ?_, ?_⟩
  · rw [hmore] at hm
    rcases mem_early_append hm with hold | hnew
    · obtain ⟨p, hp, hy⟩ := h.mail m hold y hy
      exact ⟨p, List.mem_append_left _ hp, hy⟩
    · obtain ⟨p, hp, hy⟩ := hnews m hnew y hy
      exact ⟨p, List.mem_append_right _ (by simp [hp]), hy⟩
  · rw [hsame] at hy ⊢
    exact (h.joined_stems y hy).mono (List.subset_append_left _ _) (List.Subset.refl _)
  · rw [hsame]
    exact h.started_joined
  · rw [hscheduler] at hopen
    rw [hsame, hmore]
    rcases List.mem_append.mp hp with hold | hnew
    · exact (h.told_joined hopen p hold hadmitted).imp_right (List.mem_append_left _)
    · -- the path is enqueued now
      have henqueued : v.enqueued? = some p := by simpa using hnew
      cases v with
      | send m =>
        cases m with
        | submit q =>
          obtain rfl := Option.some.inj henqueued
          refine .inr (hmore ▸ ?_)
          simp [Session.move, send_eq, entering, isOpen, hopen]
        | _ => cases henqueued
      | _ => cases henqueued
  · rw [hsame]
    exact h.led_joined

/-- A scheduler that stops lets nothing join, start or leave. -/
lemma log_shutdown {rest : List Message} (hmail : s.mailbox = .shutdown :: rest)
    (hopen : s.scheduler.stopped = false) :
    joined (Deed.log (s.deeds .deliver)) = [] ∧ starts (Deed.log (s.deeds .deliver)) = [] ∧
      departures (Deed.log (s.deeds .deliver)) = [] := by
  have hstop : s.scheduler.quiet.handle s.world.now .shutdown = s.scheduler.quiet.stop :=
    Scheduler.handle_shutdown (s := s.scheduler.quiet) hopen _
  rw [(move_deliver hmail hopen).2, Deed.log_events, hstop, Scheduler.stop]
  rcases hf : s.scheduler.quiet.inFlight with _ | ⟨path, generation, _ | timer⟩ <;>
    simp [Scheduler.quiet, Scheduler.emit, Scheduler.publish]

lemma Early.deliver_shutdown {rest : List Message} (h : s.Early excluded told deeds)
    (hmail : s.mailbox = .shutdown :: rest) (hopen : s.scheduler.stopped = false) :
    (s.move .deliver).Early excluded told (deeds ++ s.deeds .deliver) := by
  have hnews := h.mail
  rw [hmail, early_cons (by simp)] at hnews
  obtain ⟨hjoined, hstarts, hleft⟩ := log_shutdown hmail hopen
  have hscheduler := scheduler_shutdown hmail hopen
  refine ⟨by rw [hscheduler]; exact h.excluded_eq, ?_, ?_, ?_, ?_, ?_⟩
  · rw [mailbox_deliver hmail hopen]
    exact (List.forall_mem_cons.mp hnews).2
  · simpa [hjoined, hleft] using h.joined_stems
  · simpa [hjoined, hstarts] using h.started_joined
  · intro hstill
    simp [hscheduler] at hstill
  · simpa [hjoined, hleft] using h.led_joined

/-- The item that leaves with a message stems from enqueued paths, as it is the front of the
queue. -/
lemma Early.stems_of_accepted (h : s.Early excluded told deeds) (hsound : s.Sound deeds)
    (hopen : s.scheduler.stopped = false) {m : Message} {d : Departure}
    (hd : d ∈ s.scheduler.accepted m) :
    Stems excluded told (departures (Deed.log deeds)) d.item := by
  have hfront : d.item ∈ s.scheduler.queue := by
    rcases accepted_eq s.scheduler m with hnone | ⟨d', hone, hqueue⟩
    · simp [hnone] at hd
    · rw [hone, List.mem_singleton] at hd
      exact hd ▸ hqueue
  exact h.joined_stems d.item (hsound.joined_eq hopen ▸ List.mem_append_right _ hfront)

/-- What a delivery makes of the log, unless it tells of the gate. -/
lemma Early.deliver {m : Message} {rest : List Message} (h : s.Early excluded told deeds)
    (hsound : s.Sound deeds) (hmail : s.mailbox = m :: rest) (hopen : s.scheduler.stopped = false)
    (hm : m ≠ .gate .armed) :
    (s.move .deliver).Early excluded told (deeds ++ s.deeds .deliver) := by
  by_cases hshutdown : m = .shutdown
  · subst hshutdown
    exact h.deliver_shutdown hmail hopen
  have hnews := h.mail
  rw [hmail, early_cons hm] at hnews
  obtain ⟨hasked, hlater⟩ := List.forall_mem_cons.mp hnews
  obtain ⟨hjoined, hleft, hstays, hexcluded, hrest⟩ := hsound.log_deliver hopen hmail hshutdown
  have hadditions := s.scheduler.additions_eq m
  rw [h.excluded_eq] at hadditions
  rw [hadditions] at hjoined
  refine ⟨hexcluded.trans h.excluded_eq, by rwa [hrest], fun y hy => ?_, fun x hx =>
    (hsound.move .deliver).joined_of_started hstays hx, fun _ p hp hadmitted => ?_,
    fun d hd y hy => ?_⟩
  · rw [hjoined] at hy
    rw [hleft]
    have hmono := List.subset_append_left (departures (Deed.log deeds)) (s.scheduler.accepted m)
    rcases List.mem_append.mp hy with hold | hnew
    · exact (h.joined_stems y hold).mono (List.Subset.refl _) hmono
    rcases List.mem_append.mp hnew with hitem | hfollows
    · obtain ⟨p, hp, hadmitted, rfl⟩ := hasked y hitem
      exact .told hp hadmitted
    · obtain ⟨d, hd, hy⟩ := List.mem_flatMap.mp hfollows
      have hstems := (h.stems_of_accepted hsound hopen hd).mono (List.Subset.refl _) hmono
      exact .led (List.mem_append_right _ hd) hstems hy
  · rw [hjoined, hrest]
    rcases h.told_joined hopen p hp hadmitted with hold | hbox
    · exact .inl (List.mem_append_left _ hold)
    · rw [hmail] at hbox
      rcases List.mem_cons.mp hbox with rfl | hbox
      · refine .inl (List.mem_append_right _ (List.mem_append_left _ ?_))
        simp [Message.items, hadmitted]
      · exact .inr hbox
  · rw [hleft] at hd
    rw [hjoined]
    rcases List.mem_append.mp hd with hold | hnew
    · exact List.mem_append_left _ (h.led_joined d hold y hy)
    · exact List.mem_append_right _ (List.mem_append_right _ (List.mem_flatMap.mpr ⟨d, hnew, hy⟩))

/-! ## The whole run -/

/-- The paths that some moves enqueue. -/
def enqueued (vs : List Move) : List Path := vs.filterMap Move.enqueued?

/-- As long as the scheduler is not told that the gate has armed, all this stays so. -/
lemma early_along {vs : List Move} (hvs : Along (fun _ v => v.OfHost) s vs)
    (hsound : s.Sound deeds) (hsignalled : s.Signalled)
    (h : s.scheduler.gate = .armed ∨ s.Early excluded told deeds) :
    (s.moveAll vs).scheduler.gate = .armed ∨
      (s.moveAll vs).Early excluded (told ++ enqueued vs) (deeds ++ s.history vs) := by
  induction vs generalizing s deeds told with
  | nil => simpa [enqueued, history] using h
  | cons v vs ih =>
    obtain ⟨hv, hvs⟩ := hvs
    have htold : told ++ enqueued (v :: vs) = told ++ v.enqueued?.toList ++ enqueued vs := by
      cases hv : v.enqueued? <;> simp [enqueued, hv]
    rw [moveAll_cons, history, htold, ← List.append_assoc]
    refine ih hvs (hsound.move v) (hsignalled.move hsound hv) ?_
    rcases h with harmed | hearly
    · exact .inl (hsignalled.armed_move hsound harmed)
    by_cases hdeliver : v = .deliver
    swap
    · exact .inr (hearly.of_mail hdeliver hv)
    subst hdeliver
    have hnone : told ++ (Move.deliver.enqueued?).toList = told := List.append_nil told
    rw [hnone]
    obtain hidle | ⟨m, rest, hmail, hopen⟩ := s.delivery_cases
    · obtain ⟨hmove, hdeeds⟩ := move_deliver_nothing hsound hidle
      rw [hmove, hdeeds, List.append_nil]
      refine .inr ⟨hearly.excluded_eq, by simp [early], hearly.joined_stems,
        hearly.started_joined, fun hopen p hp hadmitted => ?_, hearly.led_joined⟩
      rcases hidle with hempty | hstopped
      · exact hempty ▸ hearly.told_joined hopen p hp hadmitted
      · exact absurd (hstopped.symm.trans hopen) (by simp)
    · by_cases hm : m = .gate .armed
      · exact .inl ((hsound.gate_deliver hmail hopen).2.2 _ hm)
      · exact .inr (hearly.deliver hsound hmail hopen hm)

lemma early_ofWorker (world : World) (w : Worker) :
    (ofWorker world w).Signalled ∧ (ofWorker world w).Early w.config.excludedPrefixes [] [] :=
  ⟨⟨Nat.le_refl 1, fun h => absurd rfl h⟩, rfl, by simp [early, ofWorker, ofScheduler], by simp,
    by simp, by simp, by simp⟩

/-- **Before the gate arms only enqueued paths are looked at.**  Take a worker that has been started
with any backends, and any moves in which its host enqueues paths and may tell it to stop, with
backends that are ready whenever they are, and nobody outside tampering with the log of calls.  If
at the end the scheduler has not been told that the gate has armed, be it that the gate still waits
or that it has given up, then

* every item that has joined the queue stems from the enqueued paths; and when no mail is left, all
  that stem from them have joined, so the gate does not hold back any of them;
* every call of the decoder and of a backend was made for such an item, and every record was written
  for one;
* if all enqueued paths are excluded, above all if there are none, then nothing has joined, no
  record was written, and neither the decoder nor a backend was called, but for being told that the
  gate waits for it or being disconnected. -/
theorem only_enqueued_paths_before_arming (world : World) (hcalls : world.calls = []) (w : Worker)
    (vs : List Move) (hvs : Along (fun s v => v.OfHost ∧ s.Traced v) (ofWorker world w) vs)
    (hgate : ((ofWorker world w).moveAll vs).scheduler.gate ≠ .armed) :
    let s := (ofWorker world w).moveAll vs
    let deeds := (ofWorker world w).history vs
    let stems := Stems w.config.excludedPrefixes (enqueued vs) (departures (Deed.log deeds))
    (∀ y ∈ joined (Deed.log deeds), stems y) ∧
    (s.scheduler.stopped = false → s.mailbox = [] →
      ∀ y, stems y → y ∈ joined (Deed.log deeds)) ∧
    (∀ c ∈ s.world.calls, (∃ n, c = .retry n) ∨ (∃ k, c = .release k) ∨
      ∃ y, stems y ∧ c.IsFor y.path) ∧
    (∀ generation record, .wrote generation record ∈ deeds →
      ∃ y, stems y ∧ record.path = y.path) ∧
    ((∀ p ∈ enqueued vs, p.isExcluded w.config.excludedPrefixes = true) →
      joined (Deed.log deeds) = [] ∧ Deed.writes deeds = [] ∧
        ∀ c ∈ s.world.calls, (∃ n, c = .retry n) ∨ ∃ k, c = .release k) := by
  intro s deeds stems
  obtain ⟨hsignalled, hfirst⟩ := early_ofWorker world w
  have hsound : (ofWorker world w).Sound [] := sound_starting world w.config w.backends _
  have hearly : s.Early w.config.excludedPrefixes (enqueued vs) deeds :=
    (early_along (hvs.mono fun _ _ hv => hv.1) hsound hsignalled (.inr hfirst)).resolve_left hgate
  have howned : s.Owned deeds := by
    have hnone : (ofWorker world w).Owned [] := by
      refine ⟨by simp [ofWorker, ofScheduler], fun c hc => ?_, by simp⟩
      have hempty : (ofWorker world w).world.calls = [] := hcalls
      simp [hempty] at hc
    exact (hvs.induction (P := Owned) (R := fun _ _ => True)
      (fun s deeds v hv h => ⟨h.move hv.2, trivial⟩) hnone).1
  have hstarted {x : Item × Nat} (hx : x ∈ starts (Deed.log deeds)) : stems x.1 :=
    hearly.joined_stems x.1 (hearly.started_joined x hx)
  have hcalled : ∀ c ∈ s.world.calls, (∃ n, c = .retry n) ∨ (∃ k, c = .release k) ∨
      ∃ y, stems y ∧ c.IsFor y.path := by
    intro c hc
    obtain hretry | hrelease | ⟨x, hx, hfor⟩ := howned.calls c hc
    · exact .inl hretry
    · exact .inr (.inl hrelease)
    · exact .inr (.inr ⟨x.1, hstarted hx, hfor⟩)
  have hwrote {generation : Nat} {record : Record} (hx : .wrote generation record ∈ deeds) :
      ∃ y, stems y ∧ record.path = y.path := by
    obtain ⟨y, hy, hpath⟩ := howned.writes (generation, record)
      (List.mem_filterMap.mpr ⟨_, hx, rfl⟩)
    exact ⟨y, hstarted hy, hpath⟩
  refine ⟨hearly.joined_stems, fun hopen hempty y hy => ?_, hcalled,
    fun generation record hx => hwrote hx, fun hexcluded => ⟨?_, ?_, fun c hc => ?_⟩⟩
  · induction hy with
    | told hp hadmitted =>
      refine (hearly.told_joined hopen _ hp hadmitted).resolve_right ?_
      rw [hempty]
      exact List.not_mem_nil
    | led hd _ hy => exact hearly.led_joined _ hd _ hy
  · rw [List.eq_nil_iff_forall_not_mem]
    exact fun y hy => Stems.not_of_excluded hexcluded (hearly.joined_stems y hy)
  · rw [List.eq_nil_iff_forall_not_mem]
    rintro ⟨generation, record⟩ hx
    obtain ⟨y, hy, -⟩ := howned.writes _ hx
    exact Stems.not_of_excluded hexcluded (hstarted hy)
  · rcases hcalled c hc with hretry | hrelease | ⟨y, hy, -⟩
    · exact .inl hretry
    · exact .inr hrelease
    · exact absurd hy (Stems.not_of_excluded hexcluded)

/-- The pictures `/a.png` and `/b.png`, and text recognition that is never ready. -/
def neverReady : World := { twoPictures with ocr := ⟨none, []⟩ }

/-- A worker that gives up on text recognition after one poll. -/
def impatient : Worker where
  config := { onePicture with
    useContentClassifier := false, indexingLimit := none, readinessRetryCeiling := 0 }
  backends := ⟨true, false⟩

/-- A picture is enqueued and looked at. -/
def lookedAt (p : Path) : List Move :=
  [.send (.submit p), .deliver] ++ List.replicate 10 (.task 0) ++ [.deliver, .deliver]

/-- One picture is enqueued while the gate waits, and one when it has given up. -/
def earlyAndLate : List Move :=
  lookedAt pathA ++
    [.become { neverReady with
      now := 120000, calls := [.decode pathA, .ocr ⟨1, 1⟩, .release .ocr] }, .gate, .deliver] ++
    lookedAt pathB

/-- The items that join while a gate waits and after it has given up, and the records written. -/
theorem only_enqueued_paths_before_arming_of_failed_gate :
    let s := (ofWorker neverReady impatient).moveAll earlyAndLate
    let deeds := (ofWorker neverReady impatient).history earlyAndLate
    neverReady.calls = [] ∧
      Along (fun s v => v.OfHost ∧ s.Traced v) (ofWorker neverReady impatient) earlyAndLate ∧
      s.scheduler.gate = .permanentlyFailed ∧ enqueued earlyAndLate = [pathA, pathB] ∧
      joined (Deed.log deeds) = [⟨pathA, .examine⟩, ⟨pathB, .examine⟩] ∧
      ∀ y ∈ joined (Deed.log deeds), Stems [] [pathA, pathB] (departures (Deed.log deeds)) y := by
  intro s deeds
  have hhost : Along (fun s v => v.OfHost ∧ s.Traced v) (ofWorker neverReady impatient)
      earlyAndLate := by decide +kernel
  have hfailed : s.scheduler.gate = .permanentlyFailed := by decide +kernel
  have henqueued : enqueued earlyAndLate = [pathA, pathB] := by decide +kernel
  have hunarmed :
      ((ofWorker neverReady impatient).moveAll earlyAndLate).scheduler.gate ≠ .armed := by
    decide +kernel
  have hstems :=
    (only_enqueued_paths_before_arming neverReady rfl impatient earlyAndLate hhost hunarmed).1
  rw [henqueued] at hstems
  exact ⟨rfl, hhost, hfailed, henqueued, by decide +kernel, hstems⟩

/-- A picture that is enqueued while the gate waits is decoded, shown to a backend that is not
ready, and recorded; so is a picture that is enqueued after the gate has given up. -/
theorem enqueued_picture_recorded_before_arming :
    let early := (ofWorker neverReady impatient).moveAll (lookedAt pathA)
    let late := (ofWorker neverReady impatient).moveAll earlyAndLate
    Worker.start neverReady.files impatient.config true false = .ok impatient ∧
      early.scheduler.gate = .waiting ∧
      early.world.calls = [.decode pathA, .ocr ⟨1, 1⟩, .release .ocr] ∧
      (early.world.row? pathA).isSome = true ∧ late.scheduler.gate = .permanentlyFailed ∧
      late.world.calls = early.world.calls ++ [.decode pathB, .ocr ⟨1, 1⟩, .release .ocr] ∧
      (late.world.row? pathB).isSome = true := by
  refine ⟨rfl, ?_⟩
  decide +kernel

end Session

end Simulation

end PictureIndex
