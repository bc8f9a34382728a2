import PictureIndex.Proofs.Rows
/-!
# What tasks were told, and when

A covenant says what a task does as long as it is answered in certain ways.  Where it matters in
which order the answers came, one has to look back.  Take an endless row of moves of a session that
started afresh.  The task of an item has been told something in some of the moves (`Told`), and it
stands at the point of the item's plan to which exactly these answers lead (`Descends`).  So the
number of moves is the state in which the plan is carried out, and each answer leads from one number
to a later one (`heard`).

`chronicled` says this of the tasks that live, of the outcomes that are on their way, and of the
items that have left.
-/

namespace PictureIndex.Simulation

open Log

namespace Session

/-- Whether the task of a generation puts a request in a move and is given an answer. -/
def Told (s : Session) (v : Move) (generation : Nat) (r : Request) (a : r.Answer) : Prop :=
  s.asked? v = some (generation, r) ∧ ∃ delay w, s.world.reply r = (.answer a delay, w)

variable (first : Session) (moves : Nat → Move)

/-- Whether the task of a generation puts no request from one point to another. -/
def Silent (generation k n : Nat) : Prop :=
  ∀ j, k ≤ j → j < n → ∀ r, (first.after moves j).asked? (moves j) ≠ some (generation, r)

/-- The moves as the task of a generation sees them: from one point to the one after the next move
in which it is told something. -/
def heard (generation : Nat) : Surroundings Nat := fun k r a n =>
  ∃ j, n = j + 1 ∧ k ≤ j ∧ first.Silent moves generation k j ∧
    (first.after moves j).Told (moves j) generation r a

/-- Whether the plan of an item that was started under a generation leads to another plan at some
point. -/
def Descends (e : Pipeline) (item : Item) (generation : Nat) (plan : Plan Outcome) (k : Nat) :
    Prop :=
  ∃ l exhausted, .started item generation exhausted ∈
      Deed.log ((first.after moves l).deeds (moves l)) ∧
    Plan.Reaches (first.heard moves generation) (l + 1) (e.process exhausted item) k plan

variable {first moves} {n : Nat}

lemma mem_chronicle {d : Deed} {l : Nat} (hl : l < n)
    (hd : d ∈ (first.after moves l).deeds (moves l)) : d ∈ first.chronicle moves n := by
  induction n with
  | zero => omega
  | succ n ih =>
    rw [chronicle, List.mem_append]
    rcases Nat.lt_succ_iff_lt_or_eq.mp hl with hlt | rfl
    · exact .inl (ih hlt)
    · exact .inr hd

/-- What happened has happened in one of the moves. -/
lemma exists_of_mem_chronicle {d : Deed} (hd : d ∈ first.chronicle moves n) :
    ∃ l < n, d ∈ (first.after moves l).deeds (moves l) := by
  induction n with
  | zero => exact absurd hd List.not_mem_nil
  | succ n ih =>
    rcases List.mem_append.mp hd with hold | hnew
    · obtain ⟨l, hl, hmem⟩ := ih hold
      exact ⟨l, by omega, hmem⟩
    · exact ⟨n, by omega, hnew⟩

/-- What has been told lies before. -/
lemma le_of_heard {generation k n : Nat} {plan plan' : Plan Outcome}
    (h : Plan.Reaches (first.heard moves generation) k plan n plan') : k ≤ n := by
  induction h with
  | refl => exact Nat.le_refl k
  | step _ hanswer ih =>
    obtain ⟨j, rfl, hj, -⟩ := hanswer
    omega

lemma Silent.succ {generation k : Nat} (h : first.Silent moves generation k n)
    (hnow : ∀ r, (first.after moves n).asked? (moves n) ≠ some (generation, r)) :
    first.Silent moves generation k (n + 1) := by
  intro j hk hj
  rcases Nat.lt_succ_iff_lt_or_eq.mp hj with hlt | rfl
  · exact h j hk hlt
  · exact hnow

/-- The row that a path has is the one it had at the start or that of a record written since, if
nobody outside touches it. -/
lemma row?_after {p : Path} {row : Row}
    (houtside : ∀ k < n, ∀ w ∈ (moves k).world?, w.row? p = (first.after moves k).world.row? p)
    (hrow : (first.after moves n).world.row? p = some row) :
    first.world.row? p = some row ∨ ∃ generation record,
      .wrote generation record ∈ first.chronicle moves n ∧ record.path.text = p.text ∧
        row = Store.rowOf record := by
  induction n with
  | zero => exact .inl hrow
  | succ n ih =>
    have hbefore (hold : (first.after moves n).world.row? p = some row) :
        first.world.row? p = some row ∨ ∃ generation record,
          .wrote generation record ∈ first.chronicle moves (n + 1) ∧
            record.path.text = p.text ∧ row = Store.rowOf record := by
      refine (ih (fun k hk => houtside k (by omega)) hold).imp_right ?_
      rintro ⟨generation, record, hwrote, hsame⟩
      exact ⟨generation, record, List.mem_append_left _ hwrote, hsame⟩
    rw [after] at hrow
    cases hput : (first.after moves n).put? (moves n) with
    | none =>
      refine hbefore (hrow ▸ (row?_move (houtside n (by omega)) fun task r hr => ?_).symm)
      cases hput.symm.trans hr
    | some x =>
      rw [world_of_put? hput] at hrow
      rcases World.row?_reply_some hrow with hold | ⟨record, hr, htext, hsame, hok⟩
      · exact hbefore hold
      · rw [← Prod.eta x, hr] at hput
        refine .inr ⟨x.1.generation, record, ?_, htext, hsame⟩
        exact List.mem_append_right _ (mem_deeds_wrote.mpr ⟨x.1, hput, rfl, hok⟩)

/-! ## All that is known after some moves -/

section

variable {c : Config} {backends : Backends}

lemma budgeted_after (world : World) (c : Config) (backends : Backends)
    (gate : Option (Worker × Gate × Nat)) (hlegal : ∀ k < n, (moves k).Legal) :
    ((starting world c backends gate).after moves n).Budgeted c backends
      ((starting world c backends gate).chronicle moves n) := by
  induction n with
  | zero => exact budgeted_starting world c backends gate
  | succ n ih => exact (ih fun k hk => hlegal k (by omega)).move (hlegal n (by omega))

/-- What is known of the tasks and the items of a session that has been reached by some moves. -/
structure Chronicled (first : Session) (moves : Nat → Move) (e : Pipeline) (n : Nat)
    (s : Session) : Prop where
  /-- A task that lives stands where the answers have led it, and has asked nothing since. -/
  tasks : ∀ task ∈ s.tasks, ∀ plan, task.state.plan? = some plan →
    ∃ item k, item.path = task.path ∧ k ≤ n ∧
      first.Descends moves e item task.generation plan k ∧
      first.Silent moves task.generation k n
  /-- An outcome that is reported is one to which the answers have led. -/
  mail : ∀ p generation outcome, .completed p generation outcome ∈ s.mailbox →
    ∃ item k, k ≤ n ∧ first.Descends moves e item generation (.done outcome) k
  /-- So is the outcome with which an item has left. -/
  left : ∀ d ∈ first.finished moves n, ∀ outcome ∈ d.outcome,
    ∃ k ≤ n, first.Descends moves e d.item d.generation (.done outcome) k

lemma Descends.started {e : Pipeline} {item : Item} {generation k : Nat} {plan : Plan Outcome}
    (h : first.Descends moves e item generation plan k) (hk : k ≤ n) :
    (item, generation) ∈ starts (Deed.log (first.chronicle moves n)) := by
  obtain ⟨l, exhausted, hstart, hreach⟩ := h
  have hl := le_of_heard hreach
  obtain ⟨d, hd, hevent⟩ := List.mem_filterMap.mp (mem_starts hstart)
  obtain ⟨d', hd', hlog⟩ := List.mem_filterMap.mp hd
  exact List.mem_filterMap.mpr ⟨d, List.mem_filterMap.mpr ⟨d', mem_chronicle (by omega) hd', hlog⟩,
    hevent⟩

variable {e : Pipeline}

/-- A move that neither delivers nor is made by a task tells no task anything. -/
lemma Chronicled.of_mail {s s' : Session} {ms : List Message}
    (h : Chronicled first moves e n s) (htasks : s'.tasks = s.tasks)
    (hmail : s'.mailbox = s.mailbox ++ s.entering ms)
    (hms : ∀ m ∈ ms, ∀ p generation outcome, m ≠ .completed p generation outcome)
    (hnone : (first.after moves n).asked? (moves n) = none)
    (hdeeds : (first.after moves n).deeds (moves n) = []) :
    Chronicled first moves e (n + 1) s' where
  tasks task htask plan hplan := by
    rw [htasks] at htask
    obtain ⟨item, k, hpath, hk, hdescends, hsilent⟩ := h.tasks task htask plan hplan
    exact ⟨item, k, hpath, by omega, hdescends, hsilent.succ fun r => by simp [hnone]⟩
  mail p generation outcome hm := by
    rw [hmail] at hm
    rcases List.mem_append.mp hm with hold | hnew
    · obtain ⟨item, k, hk, hdescends⟩ := h.mail p generation outcome hold
      exact ⟨item, k, by omega, hdescends⟩
    · exact absurd rfl (hms _ ((entering_sublist ms).subset hnew) p generation outcome)
  left d hd outcome houtcome := by
    rw [finished, chronicle, hdeeds, List.append_nil] at hd
    obtain ⟨k, hk, hdescends⟩ := h.left d hd outcome houtcome
    exact ⟨k, by omega, hdescends⟩

lemma Chronicled.of_nothing {s s' : Session} (h : Chronicled first moves e n s)
    (htasks : s'.tasks = s.tasks) (hmail : s'.mailbox = s.mailbox)
    (hnone : (first.after moves n).asked? (moves n) = none)
    (hdeeds : (first.after moves n).deeds (moves n) = []) :
    Chronicled first moves e (n + 1) s' := by
  have hsame : s'.mailbox = s.mailbox ++ s.entering [] := by simp [hmail, entering]
  exact h.of_mail htasks hsame (by simp) hnone hdeeds

/-- A delivery starts items, which have their whole plans before them, and takes note of outcomes
that were reported. -/
lemma Chronicled.deliver (h : Chronicled first moves e n (first.after moves n))
    (hsound : (first.after moves n).Sound (first.chronicle moves n))
    (hpipeline : (first.after moves n).pipeline = e) (hv : moves n = .deliver) :
    Chronicled first moves e (n + 1) ((first.after moves n).move .deliver) := by
  refine ⟨fun task htask plan hplan => ?_, fun p generation outcome hm => ?_,
    fun d hd outcome houtcome => ?_⟩
  · rcases mem_deliver_tasks htask with hold | ⟨item, generation, exhausted, hstart, rfl⟩
    · obtain ⟨item, k, hpath, hk, hdescends, hsilent⟩ := h.tasks task hold plan hplan
      exact ⟨item, k, hpath, by omega, hdescends, hsilent.succ fun r => by simp [hv, asked?]⟩
    · obtain rfl := Option.some.inj hplan
      rw [hpipeline]
      refine ⟨item, n + 1, rfl, Nat.le_refl _, ⟨n, exhausted, by rwa [hv], .refl⟩, ?_⟩
      exact fun j hj hlt => absurd hlt (by omega)
  · obtain ⟨item, k, hk, hdescends⟩ := h.mail p generation outcome (mailbox_deliver_subset hm)
    exact ⟨item, k, by omega, hdescends⟩
  · rw [finished, chronicle, hv, Deed.log_append, departures_append] at hd
    rcases List.mem_append.mp hd with hold | hnew
    · obtain ⟨k, hk, hdescends⟩ := h.left d hold outcome houtcome
      exact ⟨k, by omega, hdescends⟩
    · obtain ⟨p, rest, hmail, hopen, hflight, hfront⟩ := hsound.reported hnew houtcome
      obtain ⟨f, hf, hgeneration⟩ := Option.map_eq_some_iff.mp hflight
      obtain ⟨item, k, hk, hdescends⟩ :=
        h.mail p d.generation outcome (by rw [hmail]; exact List.mem_cons_self)
      -- the item that was reported is the one that leaves
      obtain rfl := hsound.item_eq hf hfront (hgeneration ▸ hdescends.started hk)
      exact ⟨k, by omega, hdescends⟩

/-- A task that goes on has been told one thing more, or reports its outcome. -/
lemma Chronicled.advance {i : Nat} {task : Task} {plan : Plan Outcome} {s' : Session}
    (h : Chronicled first moves e n (first.after moves n))
    (horderly : Orderly (first.after moves n).mailbox (first.after moves n)
      (first.chronicle moves n))
    (hv : moves n = .task i) (htask : (first.after moves n).tasks[i]? = some task)
    (hrun : Task.runnable? (first.after moves n).world.now task = some plan)
    (hadvance : Advance (first.after moves n) i task s') :
    Chronicled first moves e (n + 1) s' := by
  have hstate := runnable_plan hrun
  obtain ⟨-, -, -, -, rfl, htasks, -, -⟩ := horderly.alone htask
  obtain ⟨item, k, hpath, hk, ⟨l, exhausted, hstart, hreach⟩, hsilent⟩ :=
    h.tasks task (List.mem_of_getElem? htask) plan hstate
  have hleft : ∀ d ∈ first.finished moves (n + 1), ∀ outcome ∈ d.outcome,
      ∃ k ≤ n + 1, first.Descends moves e d.item d.generation (.done outcome) k := by
    intro d hd outcome houtcome
    rw [finished, chronicle, hv, Deed.log_append, (move_scheduler (v := .task 0) (by simp)).2,
      List.append_nil] at hd
    obtain ⟨k, hk, hdescends⟩ := h.left d hd outcome houtcome
    exact ⟨k, by omega, hdescends⟩
  have hmail (p : Path) (generation : Nat) (outcome : Outcome)
      (hm : .completed p generation outcome ∈ (first.after moves n).mailbox) :
      ∃ item k, k ≤ n + 1 ∧ first.Descends moves e item generation (.done outcome) k := by
    obtain ⟨item, k, hk, hdescends⟩ := h.mail p generation outcome hm
    exact ⟨item, k, by omega, hdescends⟩
  -- unless the task reports, no report is added to the mail
  have hasked (r : Request) (p : Path) (generation : Nat) (outcome : Outcome)
      (hm : .completed p generation outcome ∈
        (first.after moves n).mailbox ++ (first.after moves n).entering (task.tells r)) :
      ∃ item k, k ≤ n + 1 ∧ first.Descends moves e item generation (.done outcome) k := by
    rcases List.mem_append.mp hm with hold | hnew
    · exact hmail p generation outcome hold
    · have htold := (entering_sublist _).subset hnew
      cases r <;> simp [Task.tells] at htold
  cases hadvance with
  | report outcome hplan =>
    obtain rfl := Option.some.inj (hstate.symm.trans hplan)
    refine ⟨by simp [htasks], fun p generation o hm => ?_, hleft⟩
    rcases List.mem_append.mp hm with hold | hnew
    · exact hmail p generation o hold
    · have hone := List.mem_singleton.mp ((entering_sublist _).subset hnew)
      obtain ⟨-, rfl, rfl⟩ := Message.completed.inj hone
      exact ⟨item, k, by omega, l, exhausted, hstart, hreach⟩
  | answered r next a delay w state hplan hreply hnext =>
    obtain rfl := Option.some.inj (hstate.symm.trans hplan)
    refine ⟨fun t ht plan' hplan' => ?_, hasked r, hleft⟩
    obtain rfl : t = { task with state := state } := by simpa [htasks] using ht
    obtain rfl := Option.some.inj (hnext.symm.trans hplan')
    have hput : (first.after moves n).asked? (moves n) = some (task.generation, r) := by
      rw [hv, asked?_eq, put?_task htask hrun]
      rfl
    refine ⟨item, n + 1, hpath, Nat.le_refl _, ⟨l, exhausted, hstart, hreach.step ?_⟩, ?_⟩
    · exact ⟨n, rfl, hk, hsilent, hput, delay, w, hreply⟩
    · exact fun j hj hlt => absurd hlt (by omega)
  | hang r next w hplan hreply =>
    refine ⟨fun t ht plan' hplan' => ?_, hasked r, hleft⟩
    obtain rfl : t = { task with state := .stuck } := by simpa [htasks] using ht
    cases hplan'
  | die r next w hplan hreply => exact ⟨by simp [htasks], hasked r, hleft⟩

lemma Chronicled.move (h : Chronicled first moves e n (first.after moves n))
    (hbudgeted : (first.after moves n).Budgeted c backends (first.chronicle moves n))
    (hpipeline : (first.after moves n).pipeline = e) (hlegal : (moves n).Legal) :
    Chronicled first moves e (n + 1) ((first.after moves n).move (moves n)) := by
  have hinert (hnone : (first.after moves n).asked? (moves n) = none)
      (hdeeds : (first.after moves n).deeds (moves n) = []) :
      Chronicled first moves e (n + 1) (first.after moves n) :=
    h.of_nothing rfl rfl hnone hdeeds
  have houtside {m : Message} (hm : m.about? = none) (p : Path) (generation : Nat)
      (outcome : Outcome) : m ≠ .completed p generation outcome := by
    rintro rfl
    cases hm
  cases hv : moves n with
  | deliver => exact h.deliver hbudgeted.sound hpipeline hv
  | task i =>
    cases htask : (first.after moves n).tasks[i]? with
    | none =>
      have hmove : (first.after moves n).move (.task i) = first.after moves n := by
        simp [Session.move, stepTaskAt?, htask]
      rw [hmove]
      exact hinert (by simp [hv, asked?, htask]) (by simp [hv, Session.deeds, htask])
    | some task =>
      cases hrun : Task.runnable? (first.after moves n).world.now task with
      | none =>
        have hmove : (first.after moves n).move (.task i) = first.after moves n := by
          simp [Session.move, stepTaskAt?, htask, hrun]
        rw [hmove]
        exact hinert (by simp [hv, asked?, htask, hrun])
          (by simp [hv, Session.deeds, htask, written?, hrun])
      | some plan =>
        exact h.advance hbudgeted.orderly hv htask hrun (advance_of_runnable htask hrun)
  | timer i =>
    have hnone : (first.after moves n).asked? (moves n) = none := by rw [hv]; rfl
    have hdeeds : (first.after moves n).deeds (moves n) = [] := by rw [hv]; rfl
    rcases move_timer (first.after moves n) i with hmove | ⟨timer, -, hmove⟩
    · rw [hmove]
      exact hinert hnone hdeeds
    · rw [hmove, send_eq]
      refine h.of_mail rfl rfl (fun m hm p generation outcome => ?_) hnone hdeeds
      rw [List.mem_singleton.mp hm]
      simp
  | gate =>
    obtain ⟨gate, watching, calls, ms, hms, hmove⟩ := move_gate (first.after moves n)
    rw [hmove, sendAll_eq]
    exact h.of_mail rfl rfl (fun m hm => houtside (hms m hm)) (by rw [hv]; rfl) (by rw [hv]; rfl)
  | send m =>
    rw [Session.move, send_eq]
    refine h.of_mail rfl rfl (fun m' hm' => ?_) (by rw [hv]; rfl) (by rw [hv]; rfl)
    rw [List.mem_singleton.mp hm']
    rw [hv] at hlegal
    exact houtside hlegal
  | become w =>
    exact h.of_nothing rfl rfl (by rw [hv]; rfl) (by rw [hv]; rfl)

/-- **Every task stands where the answers have led it**, and every item left with an outcome to
which the answers had led. -/
theorem chronicled (world : World) (c : Config) (backends : Backends)
    (gate : Option (Worker × Gate × Nat)) (hlegal : ∀ k < n, (moves k).Legal) :
    Chronicled (starting world c backends gate) moves (Pipeline.ofConfig c backends) n
      ((starting world c backends gate).after moves n) := by
  induction n with
  | zero =>
    have htasks : (starting world c backends gate).tasks = [] := rfl
    have hmail : (starting world c backends gate).mailbox = [] := rfl
    exact ⟨by simp [after, htasks], by simp [after, hmail], by simp [finished, chronicle]⟩
  | succ n ih =>
    have hbefore : ∀ k < n, (moves k).Legal := fun k hk => hlegal k (by omega)
    have hbudgeted := budgeted_after world c backends gate hbefore
    exact (ih hbefore).move hbudgeted hbudgeted.tracked.pipeline_eq (hlegal n (by omega))

/-- A task that puts a request stands before it. -/
lemma Chronicled.of_put (h : Chronicled first moves e n (first.after moves n)) {task : Task}
    {r : Request} (hput : (first.after moves n).put? (moves n) = some (task, r)) :
    ∃ item k next, item.path = task.path ∧ k ≤ n ∧
      first.Descends moves e item task.generation (.ask r next) k ∧
      first.Silent moves task.generation k n := by
  obtain ⟨i, next, -, htask, hrun⟩ := plan_of_put? hput
  obtain ⟨item, k, hpath, hk, hdescends, hsilent⟩ :=
    h.tasks task (List.mem_of_getElem? htask) _ (runnable_plan hrun)
  exact ⟨item, k, next, hpath, hk, hdescends, hsilent⟩

end

end Session

end PictureIndex.Simulation
