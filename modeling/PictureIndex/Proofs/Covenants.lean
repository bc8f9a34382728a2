import PictureIndex.Proofs.Requests
/-!
# Covenants

What a task does depends on the answers it gets, and these come from surroundings that others
change as well.  So what is known of it is known under a condition: as long as it is answered in
certain ways, it puts certain requests only and ends in certain ways only (`Plan.Abides`).  A
`Covenant` says so for the tasks of all items.

`Abiding` says that all tasks that live keep a covenant, and that all items that ended ended as it
says.  Moves keep this in which the other side keeps it too (`Abiding.move`): requests are answered
as they may be, and the items that are started are bound by it.
-/

namespace PictureIndex

open Log

/-- What is expected of the tasks of items, and of those who answer them. -/
structure Covenant where
  /-- The answers that may come of a request on behalf of the item with a path and a
  generation. -/
  answers : Path → Nat → (r : Request) → r.Answer → Prop
  /-- The requests that may be put on its behalf. -/
  allows : Path → Nat → Request → Prop
  /-- How the item of a generation may end. -/
  reports : Nat → Outcome → Prop

/-- Whether the plan of an item keeps a covenant. -/
def Covenant.Binds (C : Covenant) (p : Path) (generation : Nat) (plan : Plan Outcome) : Prop :=
  plan.Abides (C.answers p generation) (C.allows p generation) (C.reports generation)

/-- The covenant that binds the item of one generation, whatever it is told. -/
def Covenant.ofItem (generation : Nat) (allows : Request → Prop) (reports : Outcome → Prop) :
    Covenant where
  answers _ _ _ _ := True
  allows _ g r := g = generation → allows r
  reports g outcome := g = generation → reports outcome

lemma Covenant.ofItem_binds {p : Path} {g generation : Nat} {allows : Request → Prop}
    {reports : Outcome → Prop} {plan : Plan Outcome}
    (h : g = generation → plan.Within allows reports) :
    (ofItem generation allows reports).Binds p g plan := by
  induction plan with
  | done outcome => exact h
  | ask r next ih => exact ⟨fun hg => (h hg).1, fun a _ => ih a fun hg => (h hg).2 a⟩

namespace Simulation

namespace Session

variable {s : Session} {deeds : List Deed}

/-! ## The covenant -/

/-- Whether a move keeps a covenant with the tasks: their requests are answered as they may be, and
the items that are started are bound by it. -/
structure Honours (C : Covenant) (s : Session) (v : Move) : Prop where
  /-- Nobody outside speaks for a task. -/
  legal : v.Legal
  /-- The answer is one that may come. -/
  answers : ∀ task r, s.put? v = some (task, r) → ∀ a delay w,
    s.world.reply r = (.answer a delay, w) → C.answers task.path task.generation r a
  /-- An item that is started is bound. -/
  starts : ∀ item generation exhausted,
    .started item generation exhausted ∈ Deed.log (s.deeds v) →
      C.Binds item.path generation (s.pipeline.process exhausted item)

/-- All tasks keep a covenant, and all items that reported ended as it says. -/
structure Abiding (C : Covenant) (s : Session) (deeds : List Deed) : Prop where
  /-- The tasks that live keep it. -/
  tasks : ∀ task ∈ s.tasks, ∀ plan, task.state.plan? = some plan →
    C.Binds task.path task.generation plan
  /-- So did those that have reported. -/
  mail : ∀ p generation outcome, .completed p generation outcome ∈ s.mailbox →
    C.reports generation outcome
  /-- So did those whose items have left. -/
  left : ∀ d ∈ departures (Deed.log deeds), ∀ outcome, d.outcome = some outcome →
    C.reports d.generation outcome

variable {C : Covenant}

/-- Where nobody lives and nobody has reported, the covenant is kept. -/
lemma abiding_of_nil (htasks : s.tasks = []) (hmail : s.mailbox = []) : Abiding C s [] where
  tasks := by simp [htasks]
  mail := by simp [hmail]
  left := by simp

/-- The requests put are allowed. -/
lemma Abiding.allowed (h : Abiding C s deeds) {v : Move} {task : Task} {r : Request}
    (hput : s.put? v = some (task, r)) : C.allows task.path task.generation r := by
  obtain ⟨i, next, -, htask, hrun⟩ := plan_of_put? hput
  exact (h.tasks task (List.mem_of_getElem? htask) _ (runnable_plan hrun)).1

/-- A move that neither delivers nor is made by a task keeps the covenant. -/
lemma Abiding.of_mail {s' : Session} {ms : List Message} (h : Abiding C s deeds)
    (htasks : s'.tasks = s.tasks) (hmail : s'.mailbox = s.mailbox ++ s.entering ms)
    (hms : ∀ m ∈ ms, ∀ p generation outcome, m ≠ .completed p generation outcome) :
    Abiding C s' deeds where
  tasks := by
    rw [htasks]
    exact h.tasks
  mail p generation outcome hm := by
    rw [hmail] at hm
    rcases List.mem_append.mp hm with hold | hnew
    · exact h.mail p generation outcome hold
    · exact absurd rfl (hms _ ((entering_sublist ms).subset hnew) p generation outcome)
  left := h.left

lemma Abiding.advance {i : Nat} {task : Task} {plan : Plan Outcome} {s' : Session}
    (h : Abiding C s deeds) (hhonours : Honours C s (.task i)) (htask : s.tasks[i]? = some task)
    (hrun : Task.runnable? s.world.now task = some plan) (hadvance : Advance s i task s') :
    Abiding C s' deeds := by
  have hstate := runnable_plan hrun
  have hbinds := h.tasks task (List.mem_of_getElem? htask) plan hstate
  -- unless the task reports, no report is added to the mail
  have hasked (r : Request) : ∀ p generation outcome,
      .completed p generation outcome ∈ s.mailbox ++ s.entering (task.tells r) →
        C.reports generation outcome := by
    intro p generation outcome hm
    rcases List.mem_append.mp hm with hold | hnew
    · exact h.mail p generation outcome hold
    · have htold := (entering_sublist _).subset hnew
      cases r <;> simp [Task.tells] at htold
  cases hadvance with
  | report outcome hplan =>
    obtain rfl := Option.some.inj (hstate.symm.trans hplan)
    refine ⟨fun t ht => h.tasks t (List.mem_of_mem_eraseIdx ht), fun p g o hm => ?_, h.left⟩
    rcases List.mem_append.mp hm with hold | hnew
    · exact h.mail p g o hold
    · have hone := List.mem_singleton.mp ((entering_sublist _).subset hnew)
      obtain ⟨-, rfl, rfl⟩ := Message.completed.inj hone
      exact hbinds
  | answered r next a delay w state hplan hreply hnext =>
    obtain rfl := Option.some.inj (hstate.symm.trans hplan)
    refine ⟨fun t ht plan' hplan' => ?_, hasked r, h.left⟩
    rcases List.mem_or_eq_of_mem_set ht with hold | rfl
    · exact h.tasks t hold plan' hplan'
    · obtain rfl := Option.some.inj (hnext.symm.trans hplan')
      exact hbinds.2 a (hhonours.answers task r (put?_task htask hrun) a delay w hreply)
  | hang r next w hplan hreply =>
    refine ⟨fun t ht plan' hplan' => ?_, hasked r, h.left⟩
    rcases List.mem_or_eq_of_mem_set ht with hold | rfl
    · exact h.tasks t hold plan' hplan'
    · cases hplan'
  | die r next w hplan hreply =>
    exact ⟨fun t ht => h.tasks t (List.mem_of_mem_eraseIdx ht), hasked r, h.left⟩

/-- **A covenant that is honoured is kept.** -/
theorem Abiding.move {v : Move} (h : Abiding C s deeds) (hsound : s.Sound deeds)
    (hhonours : Honours C s v) : Abiding C (s.move v) (deeds ++ s.deeds v) := by
  have hnothing (hdeeds : s.deeds v = []) (hmove : Abiding C (s.move v) deeds) :
      Abiding C (s.move v) (deeds ++ s.deeds v) := by
    rwa [hdeeds, List.append_nil]
  have houtside {m : Message} (hm : m.about? = none) (p : Path) (generation : Nat)
      (outcome : Outcome) : m ≠ .completed p generation outcome := by
    rintro rfl
    cases hm
  cases v with
  | deliver =>
    refine ⟨fun task htask plan hplan => ?_, fun p generation outcome hm => ?_, fun d hd o ho => ?_⟩
    · rcases mem_deliver_tasks htask with hold | ⟨item, generation, exhausted, hstart, rfl⟩
      · exact h.tasks task hold plan hplan
      · obtain rfl := Option.some.inj hplan
        exact hhonours.starts item generation exhausted hstart
    · exact h.mail p generation outcome (mailbox_deliver_subset hm)
    · rw [Deed.log_append, departures_append] at hd
      rcases List.mem_append.mp hd with hold | hnew
      · exact h.left d hold o ho
      · obtain ⟨p, rest, hmail, -⟩ := hsound.reported hnew ho
        exact h.mail p d.generation o (by rw [hmail]; exact List.mem_cons_self)
  | task i =>
    rcases move_task s i with ⟨hmove, hdeeds⟩ | ⟨task, plan, htask, hrun, hadvance, hdeeds⟩
    · exact hnothing hdeeds (by rw [hmove]; exact h)
    · obtain ⟨htasks, hmail, hleft⟩ := h.advance hhonours htask hrun hadvance
      refine ⟨htasks, hmail, ?_⟩
      rw [Deed.log_append, (move_scheduler (v := .task i) (by simp)).2, List.append_nil]
      exact hleft
  | timer i =>
    refine hnothing rfl ?_
    rcases move_timer s i with hmove | ⟨timer, -, hmove⟩
    · rw [hmove]
      exact h
    · rw [hmove, send_eq]
      refine h.of_mail rfl rfl fun m hm p generation outcome => ?_
      rw [List.mem_singleton.mp hm]
      simp
  | gate | send =>
    refine hnothing rfl ?_
    obtain ⟨gate, watching, calls, ms, hms, hmove⟩ := move_outside s hhonours.legal (by simp)
    rw [hmove, sendAll_eq]
    exact h.of_mail rfl rfl fun m hm => houtside (hms m hm)
  | become w => exact hnothing rfl ⟨h.tasks, h.mail, h.left⟩

/-! ## The rest of an item -/

section

variable {c : Config} {backends : Backends} {i : Nat} {task : Task} {r : Request}
  {next : r.Answer → Plan Outcome} {allows : Request → Prop} {reports : Outcome → Prop}

/-- A task that puts a request has the rest of its plan before it, and nothing has been heard of
its item so far. -/
lemma Budgeted.abiding_rest (h : s.Budgeted c backends deeds) (htask : s.tasks[i]? = some task)
    (hrun : Task.runnable? s.world.now task = some (.ask r next))
    (hnext : ∀ a delay w, s.world.reply r = (.answer a delay, w) → (next a).Within allows reports) :
    Abiding (.ofItem task.generation allows reports) (s.move (.task i))
      (deeds ++ s.deeds (.task i)) := by
  obtain ⟨f, q, hf, hunderway, rfl, htasks, hown, -⟩ := h.orderly.alone htask
  obtain ⟨-, -, -, hleft⟩ := h.sound.in_flight hf
  have hstate := runnable_plan hrun
  have hsilent (p : Path) (generation : Nat) (outcome : Outcome)
      (hm : .completed p generation outcome ∈ s.mailbox ++ s.entering (task.tells r)) :
      (Covenant.ofItem task.generation allows reports).reports generation outcome := by
    rintro rfl
    rcases List.mem_append.mp hm with hold | hnew
    · rw [hown] at hold
      simp [(hunderway.report p outcome hold).1] at htask
    · have htold := (entering_sublist _).subset hnew
      cases r <;> simp [Task.tells] at htold
  have hgone (d : Departure) (hd : d ∈ departures (Deed.log (deeds ++ s.deeds (.task 0))))
      (outcome : Outcome) (_ : d.outcome = some outcome) :
      (Covenant.ofItem task.generation allows reports).reports d.generation outcome := by
    rintro hsame
    rw [Deed.log_append, (move_scheduler (v := .task 0) (by simp)).2, List.append_nil] at hd
    have hle := h.orderly.ledger.generation_le hd
    omega
  have hadvance := advance_of_runnable htask hrun
  generalize s.move (.task 0) = s' at hadvance
  cases hadvance with
  | report outcome hplan => cases hstate.symm.trans hplan
  | answered r' next' a delay w state hplan hreply hstep =>
    obtain ⟨rfl, hrest⟩ := Plan.ask.inj (Option.some.inj (hstate.symm.trans hplan))
    obtain rfl := eq_of_heq hrest
    refine ⟨fun t ht plan hplan' => ?_, hsilent, hgone⟩
    obtain rfl : t = { task with state := state } := by simpa [htasks] using ht
    obtain rfl := Option.some.inj (hstep.symm.trans hplan')
    exact Covenant.ofItem_binds fun _ => hnext a delay w hreply
  | hang r' next' w hplan hreply =>
    obtain ⟨rfl, -⟩ := Plan.ask.inj (Option.some.inj (hstate.symm.trans hplan))
    refine ⟨fun t ht plan hplan' => ?_, hsilent, hgone⟩
    obtain rfl : t = { task with state := .stuck } := by simpa [htasks] using ht
    cases hplan'
  | die r' next' w hplan hreply =>
    obtain ⟨rfl, -⟩ := Plan.ask.inj (Option.some.inj (hstate.symm.trans hplan))
    exact ⟨by simp [htasks], hsilent, hgone⟩

/-- **What is left of the plan binds an item from then on**, whatever else happens. -/
theorem Budgeted.rest_along (h : s.Budgeted c backends deeds) (htask : s.tasks[i]? = some task)
    (hrun : Task.runnable? s.world.now task = some (.ask r next))
    (hnext : ∀ a delay w, s.world.reply r = (.answer a delay, w) → (next a).Within allows reports)
    {item : Item} (hstart : (item, task.generation) ∈ starts (Deed.log deeds)) {ws : List Move}
    (hws : ∀ v ∈ ws, v.Legal) :
    Along (fun s v => ∀ r, s.asked? v = some (task.generation, r) → allows r)
        (s.move (.task i)) ws ∧
      ∀ d ∈ departures (Deed.log (deeds ++ s.deeds (.task i) ++ (s.move (.task i)).history ws)),
        d.generation = task.generation → ∀ outcome ∈ d.outcome, reports outcome := by
  have hlegal : Along (fun _ v => v.Legal) (s.move (.task i)) ws :=
    along_iff.mpr fun us v vs hsplit => hws v (by simp [hsplit])
  obtain ⟨⟨-, habiding, -⟩, halong⟩ := hlegal.induction
    (P := fun s deeds => s.Budgeted c backends deeds ∧
      Abiding (.ofItem task.generation allows reports) s deeds ∧
      (item, task.generation) ∈ starts (Deed.log deeds))
    (R := fun s v => ∀ r, s.asked? v = some (task.generation, r) → allows r)
    (fun s deeds v hv ⟨hbudgeted, habiding, hstart⟩ => by
      refine ⟨⟨hbudgeted.move hv, habiding.move hbudgeted.sound ⟨hv, ?_, ?_⟩, ?_⟩, ?_⟩
      · exact fun _ _ _ _ _ _ _ => trivial
      · intro item' generation exhausted hagain
        refine Covenant.ofItem_binds ?_
        rintro rfl
        exact absurd hagain (hbudgeted.sound.not_started_again hstart)
      · exact starts_subset (List.subset_append_left _ _) hstart
      · intro r hasked
        rw [asked?_eq] at hasked
        obtain ⟨⟨task', r'⟩, hput, hsame⟩ := Option.map_eq_some_iff.mp hasked
        obtain ⟨hgeneration, rfl⟩ := Prod.mk.inj hsame
        exact habiding.allowed hput hgeneration)
    ⟨h.move (v := .task i) trivial, h.abiding_rest htask hrun hnext,
      starts_subset (List.subset_append_left _ _) hstart⟩
  exact ⟨halong, fun d hd hgeneration outcome houtcome =>
    habiding.left d hd outcome houtcome hgeneration⟩

end

end Session

end Simulation

end PictureIndex
