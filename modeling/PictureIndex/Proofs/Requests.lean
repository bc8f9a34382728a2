import PictureIndex.Proofs.BudgetEnforcement
import PictureIndex.Proofs.Provenance
/-!
# What moves ask and start

A move puts one request or none (`Session.put?`), and the world changes as this request does, unless
the move comes from outside.  Items are started by deliveries, each under a generation of its own
(`Numbered`).
-/

namespace PictureIndex.Simulation

open Log

/-- The world that a move brings about from outside. -/
def Move.world? : Move → Option World
  | .become w => some w
  | _ => none

namespace Session

variable {s : Session} {deeds : List Deed}

/-! ## Requests and what comes of them -/

lemma asked?_eq (s : Session) (v : Move) :
    s.asked? v = (s.put? v).map fun x => (x.1.generation, x.2) := by
  cases v with
  | task i =>
    rw [asked?, put?]
    cases s.tasks[i]? with
    | none => rfl
    | some task =>
      simp only [Option.bind_some]
      rcases Task.runnable? s.world.now task with _ | outcome | ⟨r, next⟩ <;> rfl
  | _ => rfl

/-- A move that puts a request changes the world as the request does. -/
lemma world_of_put? {v : Move} {task : Task} {r : Request} (h : s.put? v = some (task, r)) :
    (s.move v).world = (s.world.reply r).2 := by
  obtain ⟨i, next, rfl, htask, hrun⟩ := plan_of_put? h
  have hstate := runnable_plan hrun
  have hadvance := advance_of_runnable htask hrun
  have hreplied {r' : Request} {next' : r'.Answer → Plan Outcome} {x : Reply r'.Answer × World}
      (hplan : task.state.plan? = some (.ask r' next')) (hx : s.world.reply r' = x) :
      x.2 = (s.world.reply r).2 := by
    obtain ⟨rfl, -⟩ := Plan.ask.inj (Option.some.inj (hplan.symm.trans hstate))
    rw [hx]
  generalize s.move (.task i) = s' at hadvance
  cases hadvance with
  | report outcome hplan => exact nomatch hstate.symm.trans hplan
  | answered r' next' a delay w state hplan hreply => exact hreplied hplan hreply
  | hang r' next' w hplan hreply => exact hreplied hplan hreply
  | die r' next' w hplan hreply => exact hreplied hplan hreply

lemma world_of_asked? {v : Move} {generation : Nat} {r : Request}
    (h : s.asked? v = some (generation, r)) : (s.move v).world = (s.world.reply r).2 := by
  rw [asked?_eq] at h
  obtain ⟨x, hput, hsame⟩ := Option.map_eq_some_iff.mp h
  rw [← (Prod.mk.inj hsame).2]
  exact world_of_put? hput

/-- A move that puts no request changes at most the log of calls, unless it comes from outside. -/
lemma world_of_put?_none {v : Move} (hput : s.put? v = none) (hworld : v.world? = none) :
    ∃ calls, (s.move v).world = { s.world with calls := calls } := by
  cases v with
  | deliver =>
    show ∃ calls, s.deliverOldest.world = _
    rw [deliverOldest]
    split
    · exact ⟨_, rfl⟩
    · exact foldl_act_world _
  | task i =>
    rcases move_task s i with ⟨hmove, -⟩ | ⟨task, plan, htask, hrun, hadvance, -⟩
    · rw [hmove]
      exact ⟨_, rfl⟩
    · cases plan with
      | done outcome =>
        have hstate := runnable_plan hrun
        generalize s.move (.task i) = s' at hadvance
        cases hadvance with
        | report outcome => exact ⟨_, rfl⟩
        | answered r next a delay w state hplan => cases hstate.symm.trans hplan
        | hang r next w hplan => cases hstate.symm.trans hplan
        | die r next w hplan => cases hstate.symm.trans hplan
      | ask r next => cases hput.symm.trans (put?_task htask hrun)
  | timer i =>
    rcases move_timer s i with hmove | ⟨timer, -, hmove⟩
    · rw [hmove]
      exact ⟨_, rfl⟩
    · rw [hmove, send_eq]
      exact ⟨_, rfl⟩
  | gate =>
    obtain ⟨gate, watching, calls, ms, -, hmove⟩ := move_gate s
    rw [hmove, sendAll_eq]
    exact ⟨calls, rfl⟩
  | send m =>
    rw [move, send_eq]
    exact ⟨_, rfl⟩
  | become w => cases hworld

/-- The world after a move comes from outside or from a request, or it is the one before it with
another log of calls. -/
lemma world_move {R : World → Prop} {v : Move} (houtside : ∀ w ∈ v.world?, R w)
    (hrequest : ∀ task r, s.put? v = some (task, r) → R (s.world.reply r).2)
    (hcalls : ∀ calls, R { s.world with calls := calls }) : R (s.move v).world := by
  cases hput : s.put? v with
  | some x =>
    rw [world_of_put? hput]
    exact hrequest x.1 x.2 hput
  | none =>
    cases hworld : v.world? with
    | none =>
      obtain ⟨calls, hsame⟩ := world_of_put?_none hput hworld
      rw [hsame]
      exact hcalls calls
    | some w =>
      cases v with
      | become w' => exact houtside w' rfl
      | _ => exact nomatch hworld

/-- A record is written by a task that asked for it, and only if the store takes it. -/
lemma mem_deeds_wrote {v : Move} {generation : Nat} {record : Record} :
    .wrote generation record ∈ s.deeds v ↔ ∃ task, s.put? v = some (task, .insert record) ∧
      task.generation = generation ∧ (s.world.update .insert (·.insert record)).1 = .ok () := by
  cases v with
  | task i =>
    rw [Session.deeds, put?]
    cases s.tasks[i]? with
    | none => simp
    | some task =>
      simp only [Option.bind_some, List.mem_map, Option.mem_toList, written?]
      cases hrun : Task.runnable? s.world.now task with
      | none => simp
      | some plan =>
        rcases plan with outcome | ⟨_ | _ | _ | _ | _ | _ | _ | _ | _ | record' | _ | _, next⟩
        case ask.insert =>
          constructor
          · rintro ⟨taken, htaken, hsame⟩
            obtain ⟨rfl, rfl⟩ := Deed.wrote.inj hsame
            obtain ⟨answer, hanswer, rfl⟩ := Option.map_eq_some_iff.mp htaken
            refine ⟨task, rfl, rfl, ?_⟩
            cases hok : (s.world.update .insert (·.insert record')).1 with
            | error error => simp [hok, Except.toOption] at hanswer
            | ok => rfl
          · rintro ⟨task', hsame, rfl, hok⟩
            obtain ⟨rfl, hinsert⟩ := Prod.mk.inj (Option.some.inj hsame)
            obtain rfl := Request.insert.inj hinsert
            exact ⟨record', by simp only [hok]; rfl, rfl⟩
        all_goals simp
  | deliver =>
    rw [Session.deeds]
    split <;> simp [put?]
  | _ => simp [Session.deeds, put?]

/-! ## The items started -/

lemma mem_starts {log : List Event} {item : Item} {generation : Nat} {exhausted : Bool}
    (h : .started item generation exhausted ∈ log) : (item, generation) ∈ starts log :=
  List.mem_filterMap.mpr ⟨_, h, rfl⟩

lemma starts_subset {deeds' : List Deed} (h : deeds ⊆ deeds') :
    starts (Deed.log deeds) ⊆ starts (Deed.log deeds') := by
  intro x hx
  obtain ⟨e, he, hstart⟩ := List.mem_filterMap.mp hx
  obtain ⟨d, hd, hevent⟩ := List.mem_filterMap.mp he
  exact List.mem_filterMap.mpr ⟨e, List.mem_filterMap.mpr ⟨d, h hd, hevent⟩, hstart⟩

/-- What happens in one of some moves happens in all of them together. -/
lemma deeds_subset_history {us ws : List Move} {v : Move} :
    (s.moveAll us).deeds v ⊆ s.history (us ++ v :: ws) := by
  rw [history_append, history]
  exact fun _ h => List.mem_append_right _ (List.mem_append_left _ h)

/-- A scheduler that stops starts nothing. -/
lemma not_started_stop {scheduler : Scheduler} (hevents : scheduler.events = []) {item : Item}
    {generation : Nat} {exhausted : Bool} :
    .started item generation exhausted ∉ scheduler.stop.events := by
  rw [Scheduler.stop]
  rcases hf : scheduler.inFlight with _ | ⟨path, generation', _ | timer⟩ <;>
    simp [hf, hevents, Scheduler.emit, Scheduler.publish]

/-- Unless the scheduler goes on, no item is started and none leaves. -/
lemma Sound.open_or_idle (h : s.Sound deeds) (v : Move) :
    (s.move v).scheduler.stopped = false ∨
      starts (Deed.log (s.deeds v)) = [] ∧ departures (Deed.log (s.deeds v)) = [] := by
  by_cases hv : v = .deliver
  swap
  · exact .inr (by simp [(move_scheduler hv).2])
  subst hv
  obtain hnone | ⟨m, rest, hmail, hopen⟩ := s.delivery_cases
  · exact .inr (by simp [(move_deliver_nothing h hnone).2])
  by_cases hm : m = .shutdown
  · subst hm
    have hstop : s.scheduler.quiet.handle s.world.now .shutdown = s.scheduler.quiet.stop :=
      Scheduler.handle_shutdown (s := s.scheduler.quiet) hopen _
    rw [(move_deliver hmail hopen).2, Deed.log_events]
    refine .inr ⟨?_, (deliver_shutdown hopen).2.2.2⟩
    rw [hstop, List.eq_nil_iff_forall_not_mem]
    rintro ⟨item, generation⟩ hstart
    obtain ⟨e, he, hitem⟩ := List.mem_filterMap.mp hstart
    cases e with
    | started item' generation' exhausted => exact not_started_stop rfl he
    | _ => cases hitem
  · left
    rw [h.scheduler_deliver hmail hopen]
    exact ((h.coherent hopen).handle_frame s.world.now hopen hm).1

/-- Whether each generation is that of one item. -/
structure Numbered (deeds : List Deed) : Prop where
  /-- No generation is started twice. -/
  nodup : ((starts (Deed.log deeds)).map (·.2)).Nodup
  /-- The items that left had been started. -/
  departed : ∀ d ∈ departures (Deed.log deeds), (d.item, d.generation) ∈ starts (Deed.log deeds)

lemma Numbered.item_eq (h : Numbered deeds) {item item' : Item} {generation : Nat}
    (hitem : (item, generation) ∈ starts (Deed.log deeds))
    (hitem' : (item', generation) ∈ starts (Deed.log deeds)) : item = item' :=
  (Prod.mk.inj (List.inj_on_of_nodup_map h.nodup hitem hitem' rfl)).1

/-- Items are numbered as they are started. -/
lemma Sound.numbered (h : s.Sound deeds) (hopen : s.scheduler.stopped = false) :
    Numbered deeds := by
  have hordered := h.ordered hopen
  have hstarts : starts (Deed.log deeds) = ((departures (Deed.log deeds)).map (·.item) ++
      s.scheduler.queue.head?.toList).zipIdx 1 := hordered.starts_eq
  have hgenerations : (departures (Deed.log deeds)).map (·.generation) =
      List.range' 1 (departures (Deed.log deeds)).length := hordered.generations_eq
  constructor
  · rw [hstarts, List.zipIdx_map_snd]
    exact List.nodup_range'
  · intro d hd
    obtain ⟨n, hn, rfl⟩ := List.mem_iff_getElem.mp hd
    have hnumber : (departures (Deed.log deeds))[n].generation = 1 + n := by
      have hsame := congrArg (·[n]?) hgenerations
      simpa [hn] using hsame
    rw [hstarts, hnumber, List.mk_mem_zipIdx_iff_le_and_getElem?_sub]
    simp [List.getElem?_append, hn]

lemma Sound.front_started (h : s.Sound deeds) {f : InFlight} (hf : f ∈ s.scheduler.inFlight)
    {item : Item} (hfront : s.scheduler.queue.head? = some item) :
    (item, f.generation) ∈ starts (Deed.log deeds) := by
  obtain ⟨hopen, -, -, hleft⟩ := h.in_flight hf
  have hstarts : starts (Deed.log deeds) = ((departures (Deed.log deeds)).map (·.item) ++
      s.scheduler.queue.head?.toList).zipIdx 1 := (h.ordered hopen).starts_eq
  rw [hstarts, hfront, hleft, List.zipIdx_append]
  simp [left, Nat.add_comm]

/-- Under the generation in flight only the front of the queue was started. -/
lemma Sound.item_eq (h : s.Sound deeds) {f : InFlight} (hf : f ∈ s.scheduler.inFlight)
    {item item' : Item} (hfront : s.scheduler.queue.head? = some item)
    (hstart : (item', f.generation) ∈ starts (Deed.log deeds)) : item' = item :=
  (h.numbered (h.in_flight hf).1).item_eq hstart (h.front_started hf hfront)

lemma Sound.numbered_move (h : s.Sound deeds) (hnumbered : Numbered deeds) (v : Move) :
    Numbered (deeds ++ s.deeds v) := by
  rcases h.open_or_idle v with hopen | ⟨hstarts, hdepartures⟩
  · exact (h.move v).numbered hopen
  · constructor
    · rw [Deed.log_append, starts_append, hstarts, List.append_nil]
      exact hnumbered.nodup
    · rw [Deed.log_append, starts_append, departures_append, hstarts, hdepartures, List.append_nil,
        List.append_nil]
      exact hnumbered.departed

lemma numbered_moveAll (world : World) (c : Config) (backends : Backends)
    (gate : Option (Worker × Gate × Nat)) (vs : List Move) :
    Numbered ((starting world c backends gate).history vs) := by
  have hlegal : ∀ v ∈ vs, True := fun _ _ => trivial
  have hall := moveAll_induction (P := fun s deeds => s.Sound deeds ∧ Numbered deeds)
    (fun s deeds v _ h => ⟨h.1.move v, h.1.numbered_move h.2 v⟩) hlegal []
    ⟨sound_starting world c backends gate, ⟨by simp [Deed.log], by simp [Deed.log]⟩⟩
  rw [List.nil_append] at hall
  exact hall.2

/-- No generation is started twice. -/
lemma Sound.not_started_again (h : s.Sound deeds) {v : Move} {item item' : Item} {generation : Nat}
    {exhausted : Bool} (hstart : (item, generation) ∈ starts (Deed.log deeds)) :
    .started item' generation exhausted ∉ Deed.log (s.deeds v) := by
  intro hagain
  have hnew := mem_starts hagain
  rcases h.open_or_idle v with hopen | ⟨hnone, -⟩
  · have hnodup := ((h.move v).numbered hopen).nodup
    rw [Deed.log_append, starts_append, List.map_append, List.nodup_append] at hnodup
    exact hnodup.2.2 generation (List.mem_map_of_mem hstart) generation
      (List.mem_map_of_mem hnew) rfl
  · exact absurd hnew (by simp [hnone])

/-- A task that lives lived before or is that of an item that was started. -/
lemma mem_foldl_act_tasks {log : List Event} {task : Task}
    (h : task ∈ (log.foldl act s).tasks) : task ∈ s.tasks ∨
      ∃ item generation exhausted, .started item generation exhausted ∈ log ∧
        task = ⟨item.path, generation, .ready (s.pipeline.process exhausted item)⟩ := by
  induction log generalizing s with
  | nil => exact .inl h
  | cons e log ih =>
    have hpipeline : (s.act e).pipeline = s.pipeline := by cases e <;> rfl
    rcases ih h with hold | ⟨item, generation, exhausted, hmem, hnew⟩
    · cases e with
      | started item generation exhausted =>
        rcases List.mem_append.mp hold with hold | hnew
        · exact .inl hold
        · exact .inr ⟨item, generation, exhausted, List.mem_cons_self, List.mem_singleton.mp hnew⟩
      | aborted generation => exact .inl (List.mem_filter.mp hold).1
      | _ => exact .inl hold
    · rw [hpipeline] at hnew
      exact .inr ⟨item, generation, exhausted, List.mem_cons_of_mem e hmem, hnew⟩

/-- Deliveries start items, and no other moves make tasks. -/
lemma mem_deliver_tasks {task : Task} (h : task ∈ (s.move .deliver).tasks) : task ∈ s.tasks ∨
    ∃ item generation exhausted,
      .started item generation exhausted ∈ Deed.log (s.deeds .deliver) ∧
        task = ⟨item.path, generation, .ready (s.pipeline.process exhausted item)⟩ := by
  change task ∈ s.deliverOldest.tasks at h
  rw [deliverOldest] at h
  split at h
  · exact .inl h
  · rename_i m rest hmail
    have hdeeds : Deed.log (s.deeds .deliver) =
        (s.scheduler.quiet.handle s.world.now m).events := by
      simp only [Session.deeds, hmail, Deed.log_events]
    rw [hdeeds]
    rcases mem_foldl_act_tasks h with hold | hnew
    · exact .inl hold
    · exact .inr hnew

/-- An item that leaves with an outcome was reported. -/
lemma Sound.reported (h : s.Sound deeds) {d : Departure} {outcome : Outcome}
    (hd : d ∈ departures (Deed.log (s.deeds .deliver))) (houtcome : d.outcome = some outcome) :
    ∃ p rest, s.mailbox = .completed p d.generation outcome :: rest ∧
      s.scheduler.stopped = false ∧ s.scheduler.inFlight.map (·.generation) = some d.generation ∧
      s.scheduler.queue.head? = some d.item := by
  obtain hnone | ⟨m, rest, hmail, hopen⟩ := s.delivery_cases
  · simp [(move_deliver_nothing h hnone).2] at hd
  rw [(move_deliver hmail hopen).2, Deed.log_events] at hd
  by_cases hm : m = .shutdown
  · subst hm
    rw [(deliver_shutdown hopen).2.2.2] at hd
    exact absurd hd List.not_mem_nil
  have hcoherent := h.coherent hopen
  obtain ⟨-, hdepartures⟩ := Scheduler.log_handle s.world.now hcoherent hopen hm
  rw [h.quiet, hdepartures,
    show s.scheduler.events = [] from congrArg Scheduler.events h.quiet.symm,
    departures_nil, List.nil_append] at hd
  cases m with
  | completed p generation outcome' =>
    rw [Scheduler.accepted] at hd
    split at hd
    · rename_i hc
      obtain ⟨item, waiting, hq, -, rfl⟩ := hcoherent.isCurrent_iff.mp hc
      obtain ⟨timer, hf⟩ := hcoherent.inFlight_of_cons hq
      rw [hq] at hd
      obtain rfl := List.mem_singleton.mp hd
      obtain rfl := Option.some.inj houtcome
      exact ⟨p, rest, hmail, hopen, by rw [hf]; rfl, by rw [hq]; rfl⟩
    · exact absurd hd List.not_mem_nil
  | timedOut p generation =>
    rw [Scheduler.accepted] at hd
    split at hd
    · obtain ⟨item, -, rfl⟩ := List.mem_map.mp hd
      cases houtcome
    · exact absurd hd List.not_mem_nil
  | _ => exact absurd hd List.not_mem_nil

end Session

end PictureIndex.Simulation
