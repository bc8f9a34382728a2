import PictureIndex.Proofs.Breakdowns
import PictureIndex.Proofs.Liveness
import PictureIndex.Proofs.StoreTables
/-!
# A submission in peace

A path is submitted, and from then on nothing comes from outside: no other message is sent, the
files stay as they are, nobody else writes to the store, which refuses nothing, and no item's time
runs out.  Still the parties act in any order, time passes as it will, and the decoder and the
backends answer what they may.

Then the items that leave tell everything.  Each of them made of the store what its plan does alone
(`Store.serves`), and what is still queued is what they led to (`Peaceful.items_eq`).  So whoever
knows how single items end and what they lead to knows how the store looks when the queue is empty;
and if there is a bound on the number of items that can leave, it will be empty (`Peaceful.drains`).
-/

namespace PictureIndex

open Log

/-- Whether a request is put to the decoder or to a backend. -/
def Request.isOutward : Request → Bool
  | .decode _ | .recognise _ | .classify _ => true
  | _ => false

/-- Whether a message is one that tasks send. -/
def Message.isFromTask : Message → Bool
  | .armTimeout _ _ | .completed _ _ _ => true
  | _ => false

lemma Message.about_of_isFromTask {m : Message} (h : m.isFromTask = true) : m.about?.isSome := by
  cases m with
  | armTimeout | completed => rfl
  | _ => cases h

/-- The items to which an outcome leads. -/
def Outcome.followers (excluded : List String) (outcome : Outcome) : List Item :=
  (outcome.discovered.filter (!·.isExcluded excluded)).map (⟨·, .examine⟩)

/-- The items to which one that left has led. -/
def Departure.followers (excluded : List String) (d : Departure) : List Item :=
  d.outcome.elim [] (·.followers excluded)

/-- Whether an item may be the next to leave: first comes the submitted one, and then what those
before it have led to, in this order. -/
def Departure.MayFollow (excluded : List String) (first : Item) (before : List Departure)
    (d : Departure) : Prop :=
  before.map (·.item) ++ [d.item] <+: first :: before.flatMap (·.followers excluded)

lemma Scheduler.Coherent.handle_frame {s : Scheduler} (h : s.Coherent) (now : Nat)
    (hs : s.stopped = false) {m : Message} (hm : m ≠ .shutdown) :
    (s.handle now m).stopped = false ∧
      (s.handle now m).excludedPrefixes = s.excludedPrefixes := by
  have hall : (s.handle now m).Coherent ∧ (s.handle now m).stopped = false ∧
      (s.handle now m).excludedPrefixes = s.excludedPrefixes :=
    h.handle_induction (P := fun x => x.excludedPrefixes = s.excludedPrefixes) hs hm
      (fun x t hx ht hP => (hx.turn_frame ht).2.trans hP) rfl
  exact hall.2

namespace Store

/-- Surroundings in which nothing but the store changes: the files are these, and the decoder and
the backends answer what they may. -/
def serves (files : FileTree) (may : (r : Request) → r.Answer → Prop) : Surroundings Store
  | s, .kind p, a, s' => a = files.kind? p ∧ s' = s
  | s, .list p, a, s' => a = files.list p ∧ s' = s
  | s, .sniff p, a, s' => a = files.pictureType p ∧ s' = s
  | s, .info p, a, s' => a = files.info? p ∧ s' = s
  | s, .recordedTime p, a, s' => a = s.lastModified? p ∧ s' = s
  | s, .under p, a, s' => a = s.under p ∧ s' = s
  | s, .insert r, a, s' => (a, s') = s.attempt (s.insert r)
  | s, .remove p, a, s' => (a, s') = s.attempt (s.remove p)
  | s, .arm, _, s' => s' = s
  | s, .decode p, a, s' => may (.decode p) a ∧ s' = s
  | s, .recognise b, a, s' => may (.recognise b) a ∧ s' = s
  | s, .classify p, a, s' => may (.classify p) a ∧ s' = s
  | _, .abort, _, _ => False

section

variable {files : FileTree} {may : (r : Request) → r.Answer → Prop} {s s' : Store} {t : Table Row}
  {answer : Except Error Unit}

/-- What is asked about the files is answered as they are. -/
lemma told_of_serves {r : Request} {a : r.Answer} (h : serves files may s r a s') :
    Pipeline.told files r a := by
  cases r with
  | kind | sniff | info => exact h.1
  | _ => trivial

lemma serves_insert (ht : s.pictures = some t) {record : Record} :
    serves files may s (.insert record) answer s' ↔ answer = .ok () ∧
      s' = { s with pictures := some (t.insert record.path.text (rowOf record)) } := by
  show (answer, s') = s.attempt (s.insert record) ↔ _
  rw [insert_eq ht]
  exact Prod.ext_iff

lemma serves_remove (ht : s.pictures = some t) {p : Path} :
    serves files may s (.remove p) answer s' ↔ answer = .ok () ∧
      s' = { s with pictures := some (t.erase p.text) } := by
  show (answer, s') = s.attempt (s.remove p) ↔ _
  rw [remove_eq ht]
  exact Prod.ext_iff

end

end Store

namespace Simulation

namespace World

variable {w : World} {may : (r : Request) → r.Answer → Prop}

/-- Requests change neither the files nor what the store refuses, nor the decoder. -/
lemma reply_frame (w : World) (r : Request) : (w.reply r).2.files = w.files ∧
    (w.reply r).2.refused = w.refused ∧ (w.reply r).2.decoder = w.decoder := by
  cases r with
  | decode p =>
    rw [reply, decode]
    split
    · split <;> exact ⟨rfl, rfl, by simp [*, log]⟩
    · simp only
      split
      · exact ⟨rfl, rfl, by simp [*, log]⟩
      · split <;> exact ⟨rfl, rfl, by simp [*, log]⟩
  | insert record =>
    simp only [reply, update]
    split <;> exact ⟨rfl, rfl, rfl⟩
  | remove p =>
    simp only [reply, update]
    split <;> exact ⟨rfl, rfl, rfl⟩
  | _ => exact ⟨rfl, rfl, rfl⟩

/-- The decoder and the backends leave the store alone. -/
lemma reply_store_of_outward {r : Request} (hr : r.isOutward = true) :
    (w.reply r).2.store = w.store := by
  cases r with
  | decode p =>
    rw [reply, decode]
    split
    · split <;> rfl
    · simp only
      split
      · rfl
      · split <;> rfl
  | recognise b => rfl
  | classify p => rfl
  | _ => cases hr

lemma update_eq_attempt (hrefused : w.refused = []) (c : StoreCall)
    (f : Store → Except Error Store) :
    ((w.update c f).1, (w.update c f).2.store) = w.store.attempt (f w.store) := by
  rw [update, query, hrefused]
  simp only [List.contains_nil, Bool.false_eq_true, if_false]
  cases f w.store <;> rfl

/-- A world that refuses nothing answers as said of its files and its store. -/
lemma reply_serves (hrefused : w.refused = []) {r : Request} {a : r.Answer} {delay : Nat}
    {w' : World} (hreply : w.reply r = (.answer a delay, w'))
    (hmay : r.isOutward = true → may r a) :
    Store.serves w.files may w.store r a w'.store := by
  have hstore (hr : r.isOutward = true) : w'.store = w.store := by
    have hkept := reply_store_of_outward (w := w) hr
    rwa [hreply] at hkept
  cases r with
  | decode p => exact ⟨hmay rfl, hstore rfl⟩
  | recognise b => exact ⟨hmay rfl, hstore rfl⟩
  | classify p => exact ⟨hmay rfl, hstore rfl⟩
  | insert record =>
    obtain ⟨hanswer, rfl⟩ := Prod.mk.inj hreply
    obtain ⟨rfl, -⟩ := Reply.answer.inj hanswer
    exact update_eq_attempt hrefused _ _
  | remove p =>
    obtain ⟨hanswer, rfl⟩ := Prod.mk.inj hreply
    obtain ⟨rfl, -⟩ := Reply.answer.inj hanswer
    exact update_eq_attempt hrefused _ _
  | arm =>
    obtain ⟨-, rfl⟩ := Prod.mk.inj hreply
    rfl
  | recordedTime p =>
    obtain ⟨hanswer, rfl⟩ := Prod.mk.inj hreply
    obtain ⟨rfl, -⟩ := Reply.answer.inj hanswer
    refine ⟨?_, rfl⟩
    rw [query, hrefused]
    rfl
  | under p =>
    obtain ⟨hanswer, rfl⟩ := Prod.mk.inj hreply
    obtain ⟨rfl, -⟩ := Reply.answer.inj hanswer
    refine ⟨?_, rfl⟩
    rw [query, hrefused]
    rfl
  | abort => exact a.elim
  | _ =>
    obtain ⟨hanswer, rfl⟩ := Prod.mk.inj hreply
    obtain ⟨rfl, -⟩ := Reply.answer.inj hanswer
    exact ⟨rfl, rfl⟩

/-- Who does not answer leaves the store alone: that are only the decoder and the backends, and
nobody answers a task that takes itself down. -/
lemma reply_store_of_no_answer {r : Request}
    (hnone : ∀ a delay, (w.reply r).1 ≠ .answer a delay) : (w.reply r).2.store = w.store := by
  cases r with
  | decode p => exact reply_store_of_outward rfl
  | recognise b => exact reply_store_of_outward rfl
  | classify p => exact reply_store_of_outward rfl
  | abort => rfl
  | _ => exact absurd rfl (hnone _ _)

end World

/-- The outlook on the store alone, where the files are these. -/
def still (files : FileTree) (may : Path → (r : Request) → r.Answer → Prop) : Outlook Store where
  view w := w.store
  surroundings p := Store.serves files (may p)
  view_calls _ _ := rfl

/-- Whether the scheduler or a task moves. -/
def Move.IsInner (v : Move) : Prop := v = .deliver ∨ ∃ i, v = .task i

lemma Move.isInner_getD {vs : List Move} (hvs : ∀ v ∈ vs, v.IsInner) (n : Nat) :
    (vs.getD n .deliver).IsInner := by
  rw [List.getD_eq_getElem?_getD]
  cases hn : vs[n]? with
  | none => exact .inl rfl
  | some v => exact hvs v (List.mem_of_getElem? hn)

namespace Session

variable {s : Session} {deeds : List Deed}

/-- Whether nothing comes from outside in a move, but that time passes and that the decoder and
the backends become others. -/
def Calm (s : Session) : Move → Prop
  | .deliver | .task _ => True
  | .become w => w.files = s.world.files ∧ w.store = s.world.store ∧
      w.refused = s.world.refused ∧ w.decoder.Returns
  | .timer _ | .gate | .send _ => False

/-- Whether the decoder and the backends answer in a move only what they may. -/
def Heeds (s : Session) (may : Path → (r : Request) → r.Answer → Prop) : Move → Prop
  | .task i => ∀ task ∈ s.tasks[i]?, ∀ r next,
      Task.runnable? s.world.now task = some (.ask r next) → r.isOutward = true →
      ∀ a delay w, s.world.reply r = (.answer a delay, w) → may task.path r a
  | _ => True

lemma heeds_anything (s : Session) (v : Move) : s.Heeds (fun _ _ _ => True) v := by
  cases v with
  | task i => exact fun _ _ _ _ _ _ _ _ _ _ => trivial
  | _ => trivial

/-- What happened in the first moves of an endless row. -/
def chronicle (s : Session) (moves : Nat → Move) : Nat → List Deed
  | 0 => []
  | n + 1 => s.chronicle moves n ++ (s.after moves n).deeds (moves n)

/-- The items that have left within the first moves of an endless row. -/
def finished (s : Session) (moves : Nat → Move) (n : Nat) : List Departure :=
  departures (Deed.log (s.chronicle moves n))

lemma calm_of_isInner {v : Move} (hv : v.IsInner) (s : Session) : s.Calm v := by
  rcases hv with rfl | ⟨i, rfl⟩ <;> exact trivial

lemma Calm.legal {v : Move} (h : s.Calm v) : v.Legal := by
  cases v with
  | send m => exact absurd h id
  | _ => trivial

/-- What handling a message adds to the log, and what it leaves as it is. -/
lemma Sound.log_deliver (h : s.Sound deeds) (hopen : s.scheduler.stopped = false) {m : Message}
    {rest : List Message} (hmail : s.mailbox = m :: rest) (hm : m ≠ .shutdown) :
    joined (Deed.log (deeds ++ s.deeds .deliver)) =
        joined (Deed.log deeds) ++ s.scheduler.additions m ∧
      departures (Deed.log (deeds ++ s.deeds .deliver)) =
        departures (Deed.log deeds) ++ s.scheduler.accepted m ∧
      (s.move .deliver).scheduler.stopped = false ∧
      (s.move .deliver).scheduler.excludedPrefixes = s.scheduler.excludedPrefixes ∧
      (s.move .deliver).mailbox = rest := by
  obtain ⟨hmove, hdeeds⟩ := move_deliver hmail hopen
  have hcoherent := h.coherent hopen
  have hevents : s.scheduler.events = [] := congrArg Scheduler.events h.quiet.symm
  obtain ⟨hstays, hexcluded⟩ := hcoherent.handle_frame s.world.now hopen hm
  obtain ⟨hjoined, hdepartures⟩ := Scheduler.log_handle s.world.now hcoherent hopen hm
  rw [hevents, joined_nil, List.nil_append] at hjoined
  rw [hevents, departures_nil, List.nil_append] at hdepartures
  have hscheduler := h.scheduler_deliver hmail hopen
  refine ⟨?_, ?_, by rw [hscheduler]; exact hstays, by rw [hscheduler]; exact hexcluded, ?_⟩
  · rw [Deed.log_append, hdeeds, h.quiet, Deed.log_events, joined_append, hjoined]
  · rw [Deed.log_append, hdeeds, h.quiet, Deed.log_events, departures_append, hdepartures]
  · exact mailbox_deliver hmail hopen

/-- Where the store refuses nothing, answers are as said of the files and the store. -/
lemma Heeds.serves {may : Path → (r : Request) → r.Answer → Prop} {i : Nat}
    (h : s.Heeds may (.task i)) (hrefused : s.world.refused = []) {task : Task}
    (htask : task ∈ s.tasks[i]?) {r : Request} {next : r.Answer → Plan Outcome}
    (hrun : Task.runnable? s.world.now task = some (.ask r next)) :
    match s.world.reply r with
    | (.answer a _, w) => Store.serves s.world.files (may task.path) s.world.store r a w.store
    | (_, w) => w.store = s.world.store := by
  rcases hreply : s.world.reply r with ⟨⟨a, delay⟩ | _ | _, w⟩
  · exact World.reply_serves hrefused hreply fun hr =>
      h task htask r next hrun hr a delay w hreply
  all_goals
    have hkept := World.reply_store_of_no_answer (w := s.world) (r := r) (by simp [hreply])
    rwa [hreply] at hkept

/-! ## The invariant -/

variable {c : Config} {backends : Backends} {files : FileTree} {start : Store} {p : Path}
  {may : Path → (r : Request) → r.Answer → Prop}

/-- What is known of a session after calm moves since a path was submitted to it. -/
structure Peaceful (c : Config) (backends : Backends) (files : FileTree)
    (may : Path → (r : Request) → r.Answer → Prop) (start : Store) (p : Path) (s : Session)
    (deeds : List Deed) : Prop where
  /-- The scheduler is as it should be. -/
  sound : s.Sound deeds
  /-- The ledger and the parties are in order. -/
  orderly : Orderly s.mailbox s deeds
  /-- Items change the store as if they were alone. -/
  tracked : Tracked (still files may) (Pipeline.ofConfig c backends) c.indexingLimit start
    s.mailbox s deeds
  /-- The files are as they were. -/
  files_eq : s.world.files = files
  /-- The store refuses nothing. -/
  refused_eq : s.world.refused = []
  /-- The scheduler has not stopped. -/
  stopped_eq : s.scheduler.stopped = false
  /-- What is excluded stays excluded. -/
  excluded_eq : s.scheduler.excludedPrefixes = c.excludedPrefixes
  /-- All mail comes from tasks. -/
  mail : ∀ m ∈ s.mailbox, m.isFromTask = true
  /-- Nothing joined but the submitted path and what items led to. -/
  joined_eq : joined (Deed.log deeds) = ⟨p, .examine⟩ ::
    (departures (Deed.log deeds)).flatMap (·.followers c.excludedPrefixes)
  /-- Items have left in the order in which they joined. -/
  fed : Always (Departure.MayFollow c.excludedPrefixes ⟨p, .examine⟩) []
    (departures (Deed.log deeds))
  /-- No item's time has run out. -/
  punctual : ∀ d ∈ departures (Deed.log deeds), d.outcome ≠ none

lemma Calm.allows {v : Move} (hcalm : s.Calm v) (hheeds : s.Heeds may v)
    (hfiles : s.world.files = files) (hrefused : s.world.refused = []) :
    (still files may).Allows s v := by
  subst hfiles
  cases v with
  | task i => exact fun task htask r next hrun => hheeds.serves hrefused htask hrun
  | become w => exact hcalm.2.1
  | _ => trivial

/-- What has left and what is queued is the submitted path and what the items that left led to. -/
lemma Peaceful.items_eq (h : s.Peaceful c backends files may start p deeds) :
    (departures (Deed.log deeds)).map (·.item) ++ s.scheduler.queue = ⟨p, .examine⟩ ::
      (departures (Deed.log deeds)).flatMap (·.followers c.excludedPrefixes) := by
  rw [← h.joined_eq, h.sound.joined_eq h.stopped_eq]

/-- What handling a message of a task adds to the log. -/
lemma Peaceful.deliver {m : Message} {rest : List Message}
    (h : s.Peaceful c backends files may start p deeds) (hmail : s.mailbox = m :: rest) :
    let s' := s.move .deliver
    let deeds' := deeds ++ s.deeds .deliver
    s'.scheduler.stopped = false ∧ s'.scheduler.excludedPrefixes = c.excludedPrefixes ∧
      joined (Deed.log deeds') = ⟨p, .examine⟩ ::
        (departures (Deed.log deeds')).flatMap (·.followers c.excludedPrefixes) ∧
      Always (Departure.MayFollow c.excludedPrefixes ⟨p, .examine⟩) []
        (departures (Deed.log deeds')) ∧
      ∀ d ∈ departures (Deed.log deeds'), d.outcome ≠ none := by
  intro s' deeds'
  have hfrom := h.mail m (by simp [hmail])
  have hm : m ≠ .shutdown := by
    rintro rfl
    cases hfrom
  have hcoherent := h.sound.coherent h.stopped_eq
  obtain ⟨hadd, hleft, hopen, hexcluded, -⟩ :=
    h.sound.log_deliver h.stopped_eq hmail hm
  -- what the message appends is what the item that it finishes has led to
  have hmessage : s.scheduler.additions m =
        (s.scheduler.accepted m).flatMap (·.followers c.excludedPrefixes) ∧
      Always (Departure.MayFollow c.excludedPrefixes ⟨p, .examine⟩)
        (departures (Deed.log deeds)) (s.scheduler.accepted m) ∧
      ∀ d ∈ s.scheduler.accepted m, d.outcome ≠ none := by
    cases m with
    | armTimeout p generation => exact ⟨rfl, trivial, by simp [Scheduler.accepted]⟩
    | completed q generation outcome =>
      simp only [Scheduler.additions, Scheduler.accepted]
      by_cases hc : s.scheduler.isCurrent q generation
      · obtain ⟨item, waiting, hq, -, -⟩ := hcoherent.isCurrent_iff.mp hc
        have hitems := h.items_eq
        rw [hq, List.append_cons] at hitems
        simp only [hc, if_true, hq, List.head?_cons, Option.toList_some, List.map_cons,
          List.map_nil]
        refine ⟨?_, ⟨⟨waiting, hitems⟩, trivial⟩, by simp⟩
        simp [Departure.followers, Outcome.followers, Scheduler.admitted, h.excluded_eq]
      · simp [hc, Always]
    | _ => cases hfrom
  refine ⟨hopen, hexcluded.trans h.excluded_eq, ?_, ?_, ?_⟩
  · rw [hadd, hleft, hmessage.1, h.joined_eq, List.flatMap_append, List.cons_append]
  · rw [hleft]
    exact always_append.mpr ⟨h.fed, hmessage.2.1⟩
  · intro d hd
    rw [hleft, List.mem_append] at hd
    exact hd.elim (h.punctual d) (hmessage.2.2 d)

/-- Where the time can be told of every picture that is queued, no task takes itself down. -/
lemma Peaceful.responds (h : s.Peaceful c backends files may start p deeds) (v : Move)
    (hreturns : s.world.decoder.Returns)
    (hqueue : ∀ item ∈ s.scheduler.queue,
      ¬ item.BreaksDown (Pipeline.ofConfig c backends).maxSize files) : s.Responds v := by
  refine responds_of_returns hreturns fun task hput => ?_
  obtain ⟨i, next, -, htask, hrun⟩ := plan_of_put? hput
  obtain ⟨a, -, hstanding⟩ := h.tracked.relay
  cases hstanding with
  | stopped hstopped => simp [h.stopped_eq] at hstopped
  | idle hnone =>
    obtain ⟨f, -, hf, -⟩ := h.orderly.alone htask
    exact (h.sound.in_flight hf).2.1 (List.head?_eq_none_iff.mp hnone)
  | busy item plan hfront hreach htasks =>
    obtain rfl := (htasks task (List.mem_of_getElem? htask)).2 _ (runnable_plan hrun)
    rw [h.tracked.pipeline_eq] at hreach
    have habides (exhausted : Bool) := Pipeline.abides_unbroken (Pipeline.ofConfig c backends)
      exhausted (fun _ _ => id) (hqueue item (List.mem_of_head? hfront))
    have hrest := (habides _).of_reaches hreach fun _ _ _ _ => Store.told_of_serves
    exact hrest.1 rfl

/-- What requests do not change, nor the log of calls, stays as it is unless the world becomes
another. -/
lemma Calm.keeps {P : World → Prop} (hreply : ∀ w r, P w → P (w.reply r).2)
    (hcalls : ∀ w calls, P w → P { w with calls := calls }) {v : Move} (hcalm : s.Calm v)
    (hbecome : ∀ w, v = .become w → P w) (h : P s.world) : P (s.move v).world := by
  cases v with
  | deliver =>
    show P s.deliverOldest.world
    rw [deliverOldest]
    split
    · exact h
    · rw [deliver]
      obtain ⟨calls, hworld⟩ := foldl_act_world _
      rw [hworld]
      exact hcalls _ calls h
  | task i =>
    rcases move_task s i with ⟨hmove, -⟩ | ⟨task, plan, -, -, hadvance, -⟩
    · rwa [hmove]
    · have hlater {r : Request} {x : Reply r.Answer × World} (hx : s.world.reply r = x) : P x.2 :=
        hx ▸ hreply s.world r h
      generalize s.move (.task i) = s' at hadvance
      cases hadvance with
      | report outcome => exact h
      | answered r next a delay w state _ hx => exact hlater hx
      | hang r next w _ hx => exact hlater hx
      | die r next w _ hx => exact hlater hx
  | become w => exact hbecome w rfl
  | _ => exact absurd hcalm id

/-- The scheduler takes mail out of its mailbox. -/
lemma mailbox_deliver_subset : (s.move .deliver).mailbox ⊆ s.mailbox := by
  intro m hm
  change m ∈ s.deliverOldest.mailbox at hm
  rw [deliverOldest] at hm
  split at hm
  · exact hm
  · rename_i first rest hmail
    rw [deliver, (foldl_act_frame _).2.1] at hm
    simp only at hm
    split at hm
    · exact hmail ▸ List.mem_cons_of_mem first hm
    · cases hm

/-- Apart from deliveries, mail is added by tasks, by timers, by the gate or from outside. -/
lemma mailbox_move {v : Move} (hv : v ≠ .deliver) :
    ∃ more, (s.move v).mailbox = s.mailbox ++ more ∧ ∀ m ∈ more,
      (∃ i, v = .task i) ∧ m.isFromTask = true ∨ (∃ i, v = .timer i) ∧ m.about?.isSome ∨
        v = .gate ∨ v = .send m := by
  cases v with
  | deliver => exact absurd rfl hv
  | task i =>
    rcases move_task s i with ⟨hmove, -⟩ | ⟨task, plan, -, -, hadvance, -⟩
    · exact ⟨[], by rw [hmove, List.append_nil], nofun⟩
    · have htold (r : Request) : ∀ m ∈ s.entering (task.tells r), m.isFromTask = true := by
        intro m hm
        have hmem := (entering_sublist _).subset hm
        cases r <;> simp [Task.tells] at hmem
        rw [hmem]
        rfl
      generalize s.move (.task i) = s' at hadvance
      cases hadvance with
      | report outcome =>
        refine ⟨_, rfl, fun m hm => .inl ⟨⟨i, rfl⟩, ?_⟩⟩
        rw [List.mem_singleton.mp ((entering_sublist _).subset hm)]
        rfl
      | answered r next a delay w state _ _ =>
        exact ⟨_, rfl, fun m hm => .inl ⟨⟨i, rfl⟩, htold r m hm⟩⟩
      | hang r next w _ _ =>
        exact ⟨_, rfl, fun m hm => .inl ⟨⟨i, rfl⟩, htold r m hm⟩⟩
      | die r next w _ _ =>
        exact ⟨_, rfl, fun m hm => .inl ⟨⟨i, rfl⟩, htold r m hm⟩⟩
  | timer i =>
    rcases move_timer s i with hmove | ⟨timer, -, hmove⟩
    · exact ⟨[], by rw [hmove, List.append_nil], nofun⟩
    · rw [hmove, send_eq]
      refine ⟨_, rfl, fun m hm => .inr (.inl ⟨⟨i, rfl⟩, ?_⟩)⟩
      rw [List.mem_singleton.mp ((entering_sublist _).subset hm)]
      rfl
  | gate =>
    obtain ⟨more, hmore⟩ := (move_frame hv).1
    exact ⟨more, hmore, by simp⟩
  | send m' =>
    rw [Session.move, send_eq]
    refine ⟨_, rfl, fun m hm => .inr (.inr (.inr ?_))⟩
    rw [List.mem_singleton.mp ((entering_sublist _).subset hm)]
  | become w => exact ⟨[], (List.append_nil _).symm, nofun⟩

/-- Mail was there before, or it comes from the task, the timer or the gate that moved, or it was
sent from outside. -/
lemma mem_mailbox_move {v : Move} {m : Message} (hm : m ∈ (s.move v).mailbox) :
    m ∈ s.mailbox ∨ (∃ i, v = .task i) ∧ m.isFromTask = true ∨
      (∃ i, v = .timer i) ∧ m.about?.isSome ∨ v = .gate ∨ v = .send m := by
  by_cases hv : v = .deliver
  · subst hv
    exact .inl (mailbox_deliver_subset hm)
  · obtain ⟨more, hmore, hfrom⟩ := mailbox_move hv
    rw [hmore] at hm
    exact (List.mem_append.mp hm).imp_right (hfrom m)

/-- In calm moves all mail comes from tasks. -/
lemma Calm.mail {v : Move} (hcalm : s.Calm v) (h : ∀ m ∈ s.mailbox, m.isFromTask = true) :
    ∀ m ∈ (s.move v).mailbox, m.isFromTask = true := by
  intro m hm
  rcases mem_mailbox_move hm with hold | ⟨-, hfrom⟩ | ⟨⟨i, rfl⟩, -⟩ | rfl | rfl
  · exact h m hold
  · exact hfrom
  all_goals exact absurd hcalm id

/-- Calm moves keep the peace. -/
theorem Peaceful.move {v : Move} (h : s.Peaceful c backends files may start p deeds)
    (hcalm : s.Calm v) (hheeds : s.Heeds may v) :
    (s.move v).Peaceful c backends files may start p (deeds ++ s.deeds v) := by
  have hsound := h.sound.move v
  have horderly := h.orderly.move hcalm.legal h.sound
  have htracked := h.tracked.move hcalm.legal
    (hcalm.allows hheeds h.files_eq h.refused_eq) h.orderly h.sound
  have hmail := hcalm.mail h.mail
  obtain ⟨hfiles, hrefused⟩ :=
    hcalm.keeps (P := fun w => w.files = files ∧ w.refused = [])
      (fun w r hw => ⟨(w.reply_frame r).1.trans hw.1, (w.reply_frame r).2.1.trans hw.2⟩)
      (fun _ _ hw => hw)
      (by rintro w rfl; exact ⟨hcalm.1.trans h.files_eq, hcalm.2.2.1.trans h.refused_eq⟩)
      ⟨h.files_eq, h.refused_eq⟩
  by_cases hv : v = .deliver
  · subst hv
    cases hbox : s.mailbox with
    | nil =>
      obtain ⟨hmove, hdeeds⟩ := move_deliver_nothing h.sound (.inl hbox)
      have hsame : s.move .deliver = s := by rw [hmove, ← hbox]
      rw [hsame, hdeeds, List.append_nil]
      exact h
    | cons m rest =>
      obtain ⟨hopen, hexcluded, hjoined, hfed, hpunctual⟩ := h.deliver hbox
      exact ⟨hsound, horderly, htracked, hfiles, hrefused, hopen, hexcluded, hmail, hjoined, hfed,
        hpunctual⟩
  · obtain ⟨hscheduler, hlog⟩ := move_scheduler (s := s) hv
    have hsame : Deed.log (deeds ++ s.deeds v) = Deed.log deeds := by
      rw [Deed.log_append, hlog, List.append_nil]
    exact ⟨hsound, horderly, htracked, hfiles, hrefused, by rw [hscheduler]; exact h.stopped_eq,
      by rw [hscheduler]; exact h.excluded_eq, hmail, by rw [hsame]; exact h.joined_eq,
      by rw [hsame]; exact h.fed, by rw [hsame]; exact h.punctual⟩

/-! ## Submissions -/

/-- A session with a fresh scheduler to which a path has been submitted. -/
def submitted (world : World) (c : Config) (backends : Backends) (p : Path) : Session :=
  (starting world c backends none).moveAll [.send (.submit p), .deliver]

lemma peaceful_submitted {world : World} (may : Path → (r : Request) → r.Answer → Prop)
    (hrefused : world.refused = []) (c : Config) (backends : Backends) (p : Path)
    (hadmitted : p.isExcluded c.excludedPrefixes = false) :
    (submitted world c backends p).world.decoder = world.decoder ∧
      ∃ deeds, departures (Deed.log deeds) = [] ∧ (submitted world c backends p).Healthy deeds ∧
        (submitted world c backends p).Peaceful c backends world.files may world.store p deeds := by
  let first := starting world c backends none
  let second := first.move (.send (.submit p))
  have hfirst : first.Healthy [] := healthy_starting world c backends none
  have hsecond : second.Healthy ([] ++ _) := hfirst.move (v := .send (.submit p))
    ⟨rfl, responds_of_put?_none rfl⟩
  have htracked : Tracked (still world.files may) (Pipeline.ofConfig c backends) c.indexingLimit
      world.store second.mailbox second ([] ++ _) :=
    (tracked_starting (O := still world.files may) world c backends none).move
      (v := .send (.submit p)) rfl trivial hfirst.orderly hfirst.sound
  have hmail : second.mailbox = [.submit p] := rfl
  obtain ⟨hmove, hdeeds⟩ := move_deliver hmail rfl
  obtain ⟨hjoined, hdepartures⟩ := Scheduler.log_handle second.world.now
    (hsecond.sound.coherent rfl) rfl (m := .submit p) nofun
  obtain ⟨hopen, hexcluded⟩ := (hsecond.sound.coherent rfl).handle_frame second.world.now rfl
    (m := .submit p) nofun
  have hlog : Deed.log (second.deeds .deliver) =
      (second.scheduler.handle second.world.now (.submit p)).events := by
    rw [hdeeds, hsecond.sound.quiet, Deed.log_events]
  have hadmit : second.scheduler.additions (.submit p) = [⟨p, .examine⟩] := by
    simp only [Scheduler.additions, Scheduler.admitted, List.filter_cons, List.filter_nil]
    rw [show second.scheduler.excludedPrefixes = c.excludedPrefixes from rfl, hadmitted]
    rfl
  have hthird := hsecond.move (v := .deliver) ⟨trivial, responds_of_put?_none rfl⟩
  have htracked' := htracked.move (v := .deliver) trivial trivial hsecond.orderly hsecond.sound
  obtain ⟨calls, hworld⟩ :
      ∃ calls, (second.move .deliver).world = { world with calls := calls } := by
    rw [hmove]
    exact foldl_act_world _
  have hscheduler := hsecond.sound.scheduler_deliver hmail rfl
  have hleft : departures (Deed.log (second.deeds .deliver)) = [] := by
    rw [hlog, hdepartures]
    rfl
  have hsubmitted : submitted world c backends p = second.move .deliver := rfl
  rw [hsubmitted]
  refine ⟨by rw [hworld], _, hleft, hthird, hthird.sound, hthird.orderly, htracked',
    by rw [hworld], by rw [hworld]; exact hrefused, by rw [hscheduler]; exact hopen,
    by rw [hscheduler]; exact hexcluded, ?_, ?_, ?_, ?_⟩
  · intro m hm
    have hnone : (second.move .deliver).mailbox = [] := by
      rw [hmove]
      exact (foldl_act_frame _).2.1
    simp [hnone] at hm
  · rw [hleft, hlog, hjoined, hadmit]
    rfl
  · rw [hleft]
    trivial
  · rw [hleft]
    simp

/-! ## Endless calm -/

section

variable {moves : Nat → Move}

lemma Peaceful.after (h : s.Peaceful c backends files may start p deeds)
    (hcalm : ∀ n, (s.after moves n).Calm (moves n))
    (hheeds : ∀ n, (s.after moves n).Heeds may (moves n)) (n : Nat) :
    (s.after moves n).Peaceful c backends files may start p (deeds ++ s.chronicle moves n) := by
  induction n with
  | zero => rwa [chronicle, List.append_nil]
  | succ n ih =>
    rw [chronicle, ← List.append_assoc]
    exact ih.move (hcalm n) (hheeds n)

lemma after_after (n k : Nat) :
    (s.after moves n).after (fun j => moves (n + j)) k = s.after moves (n + k) := by
  induction k with
  | zero => rfl
  | succ k ih =>
    rw [Session.after, ih, ← Nat.add_assoc, Session.after]

lemma Fair.after (h : s.Fair moves) (n : Nat) : (s.after moves n).Fair fun j => moves (n + j) := by
  have hlater {P : Nat → Prop} {k : Nat} (hP : ∃ j ≥ n + k, P j) : ∃ j ≥ k, P (n + j) := by
    obtain ⟨j, hj, hPj⟩ := hP
    exact ⟨j - n, by omega, by rwa [show n + (j - n) = j by omega]⟩
  constructor
  · intro k hmail
    rw [after_after] at hmail
    exact hlater (h.mail (n + k) hmail)
  · intro k t ht hplan
    rw [after_after] at ht
    simp only [after_after]
    exact hlater (h.task (n + k) t ht hplan)
  · intro k t ht
    rw [after_after] at ht
    simp only [after_after]
    exact hlater (h.timer (n + k) t ht)

lemma Healthy.after (h : s.Healthy deeds)
    (hmoves : ∀ n, (moves n).Legal ∧ (s.after moves n).Responds (moves n)) (n : Nat) :
    (s.after moves n).Healthy (deeds ++ s.chronicle moves n) := by
  induction n with
  | zero => rwa [chronicle, List.append_nil]
  | succ n ih =>
    rw [chronicle, ← List.append_assoc]
    exact ih.move (hmoves n)

/-- In peace the decoder keeps coming back. -/
lemma returns_after (hreturns : s.world.decoder.Returns)
    (hcalm : ∀ n, (s.after moves n).Calm (moves n)) (n : Nat) :
    (s.after moves n).world.decoder.Returns := by
  induction n with
  | zero => exact hreturns
  | succ n ih =>
    refine (hcalm n).keeps (P := fun w => w.decoder.Returns) (fun w r hw => ?_) (fun _ _ hw => hw)
      (fun w hv => ?_) ih
    · rwa [(w.reply_frame r).2.2]
    · have hnow := hcalm n
      rw [hv] at hnow
      exact hnow.2.2.2

/-- Where only so many items can leave, and whoever is asked comes back, the queue runs empty. -/
theorem Peaceful.drains (h : s.Peaceful c backends files may start p deeds)
    (hhealthy : s.Healthy deeds) (hcalm : ∀ n, (s.after moves n).Calm (moves n))
    (hheeds : ∀ n, (s.after moves n).Heeds may (moves n))
    (hresponds : ∀ n, (s.after moves n).Responds (moves n)) (hfair : s.Fair moves) (bound : Nat)
    (hbound : ∀ n, left (deeds ++ s.chronicle moves n) ≤ bound) :
    ∃ n, (s.after moves n).scheduler.queue = [] := by
  by_contra hnever
  have hmoves (n : Nat) : (moves n).Legal ∧ (s.after moves n).Responds (moves n) :=
    ⟨(hcalm n).legal, hresponds n⟩
  -- however many items have left, one more will
  have hmore (count : Nat) : ∃ n, count ≤ left (deeds ++ s.chronicle moves n) := by
    induction count with
    | zero => exact ⟨0, Nat.zero_le _⟩
    | succ count ih =>
      obtain ⟨n, hn⟩ := ih
      have hpeaceful := h.after hcalm hheeds n
      have hqueue : (s.after moves n).scheduler.queue ≠ [] := fun hnil => hnever ⟨n, hnil⟩
      obtain ⟨k, hk⟩ := (hhealthy.after hmoves n).passes hpeaceful.stopped_eq hqueue
        (fun j => by rw [after_after]; exact hmoves (n + j)) (hfair.after n)
      rw [after_after] at hk
      have hlater := h.after hcalm hheeds (n + k)
      have hprocessed (m : Nat) : (s.after moves m).scheduler.tally.processed =
          left (deeds ++ s.chronicle moves m) :=
        (h.after hcalm hheeds m).sound.tallied.processed_eq
      rcases hk with hstopped | ⟨outcome, hpassed, -⟩
      · simp [hlater.stopped_eq] at hstopped
      · refine ⟨n + k, ?_⟩
        have hone := hpassed.processed
        rw [hprocessed, hprocessed] at hone
        omega
  obtain ⟨n, hn⟩ := hmore (bound + 1)
  have hle := hbound n
  omega

end

end Session

/-! ## Agendas -/

/-- What is known beforehand of the items to which a submitted one will lead. -/
structure Agenda (e : Pipeline) (limit : Option UInt32) (excluded : List String)
    (files : FileTree) (may : Path → (r : Request) → r.Answer → Prop) (start : Store)
    (first : Item) where
  /-- All items, in the order in which they will leave. -/
  items : List Item
  /-- The items to which an item will lead. -/
  followers : Item → List Item
  /-- What the store will look like when some items have left. -/
  Made : List Item → Store → Prop
  /-- How far an item is from the first one. -/
  rank : Item → Nat
  /-- After the first item there come those to which the items lead. -/
  items_eq : items = first :: items.flatMap followers
  /-- Items lead away from the first one. -/
  rank_lt : ∀ x ∈ items, ∀ y ∈ followers x, rank x < rank y
  /-- At the start nothing has left. -/
  made_nil : Made [] start
  /-- Each item does what is known of it. -/
  step : ∀ done item rest a exhausted outcome b, items = done ++ item :: rest → Made done a →
    (limit = none → exhausted = false) →
    Plan.Runs (Store.serves files (may item.path)) a (e.process exhausted item) outcome b →
    outcome.followers excluded = followers item ∧ Made (done ++ [item]) b

namespace Agenda

variable {e : Pipeline} {limit : Option UInt32} {excluded : List String} {files : FileTree}
  {may : Path → (r : Request) → r.Answer → Prop} {start : Store} {first : Item}
  (A : Agenda e limit excluded files may start first)

/-- Items that leave in the order in which they joined are those of the agenda, from the first one
on, and do what is known of them. -/
lemma follows {F : List Departure} {a : Store} (hrelay : (still files may).Relay e limit start F a)
    (hfed : Always (Departure.MayFollow excluded first) [] F)
    (hpunctual : ∀ d ∈ F, d.outcome ≠ none) :
    F.map (·.item) <+: A.items ∧
      F.flatMap (·.followers excluded) = (F.map (·.item)).flatMap A.followers ∧
      A.Made (F.map (·.item)) a := by
  induction hrelay with
  | nil =>
    refine ⟨?_, rfl, A.made_nil⟩
    exact List.nil_prefix
  | @snoc F d a b _ hstint ih =>
    obtain ⟨hbefore, hnow, -⟩ := always_append.mp hfed
    obtain ⟨hbegins, hfollowers, hmade⟩ := ih hbefore fun d hd =>
      hpunctual d (List.mem_append_left _ hd)
    have hnext : F.map (·.item) ++ [d.item] <+: A.items := by
      rw [Departure.MayFollow, List.nil_append, hfollowers] at hnow
      refine hnow.trans ?_
      obtain ⟨rest, hrest⟩ := hbegins
      rw [A.items_eq]
      refine List.cons_prefix_cons.mpr ⟨rfl, rest.flatMap A.followers, ?_⟩
      rw [← List.flatMap_append, hrest]
    obtain ⟨rest, hrest⟩ := hnext
    obtain ⟨outcome, houtcome⟩ := Option.ne_none_iff_exists'.mp
      (hpunctual d (List.mem_append_right _ (List.mem_singleton_self d)))
    obtain ⟨plan, hreach, hdone⟩ := hstint
    obtain rfl := hdone outcome houtcome
    obtain ⟨hled, hmade'⟩ := A.step _ d.item rest a _ outcome b (by rw [← hrest]; simp) hmade
      (fun hnone => by rw [hnone]; rfl) hreach
    rw [List.map_append, List.flatMap_append, hfollowers, List.flatMap_append]
    refine ⟨⟨rest, hrest⟩, ?_, hmade'⟩
    simp [Departure.followers, houtcome, hled]

/-- What items of the agenda lead to is on the agenda. -/
lemma mem_of_followers {done : List Item} (hbegins : done <+: A.items) {item : Item}
    (hitem : item ∈ first :: done.flatMap A.followers) : item ∈ A.items := by
  obtain ⟨rest, hrest⟩ := hbegins
  rw [A.items_eq, ← hrest, List.flatMap_append, ← List.cons_append]
  exact List.mem_append_left _ hitem

/-- If nothing is left over of what the items have led to, all items have left. -/
lemma complete {done : List Item} (hbegins : done <+: A.items)
    (hdone : done = first :: done.flatMap A.followers) : done = A.items := by
  obtain ⟨rest, hrest⟩ := hbegins
  have hself : rest = rest.flatMap A.followers := by
    have hitems := A.items_eq
    rw [← hrest, List.flatMap_append, ← List.cons_append, ← hdone] at hitems
    exact List.append_cancel_left hitems
  -- whatever is left over has something before it that is left over
  have hrank (n : Nat) : ∀ y ∈ rest, n ≤ A.rank y := by
    induction n with
    | zero => exact fun y _ => Nat.zero_le _
    | succ n ih =>
      intro y hy
      rw [hself] at hy
      obtain ⟨x, hx, hyx⟩ := List.mem_flatMap.mp hy
      have hlt := A.rank_lt x (hrest ▸ List.mem_append_right done hx) y hyx
      have hle := ih x hx
      omega
  cases rest with
  | nil => rw [← hrest, List.append_nil]
  | cons y rest =>
    have hlt := hrank (A.rank y + 1) y List.mem_cons_self
    omega

end Agenda

namespace Session

variable {c : Config} {backends : Backends} {world : World} {p : Path}
  {may : Path → (r : Request) → r.Answer → Prop} {moves : Nat → Move}

/-- **A submission in peace follows its agenda.**  At every point the items that have left are those
of the agenda, from the first one on; when the queue is empty, it is all of them, and the store
looks as it should; and if the decoder comes back, the time can be told of every picture on the
agenda and nobody is put off for ever, it will be empty. -/
theorem submitted_follows (hrefused : world.refused = [])
    (hadmitted : p.isExcluded c.excludedPrefixes = false)
    (A : Agenda (Pipeline.ofConfig c backends) c.indexingLimit c.excludedPrefixes world.files may
      world.store ⟨p, .examine⟩)
    (hcalm : ∀ n, ((submitted world c backends p).after moves n).Calm (moves n))
    (hheeds : ∀ n, ((submitted world c backends p).after moves n).Heeds may (moves n)) :
    let s := submitted world c backends p
    (∀ n, (s.finished moves n).map (·.item) <+: A.items ∧
      ((s.after moves n).scheduler.queue = [] →
        (s.finished moves n).map (·.item) = A.items ∧
          A.Made A.items (s.after moves n).world.store)) ∧
    (world.decoder.Returns →
      (∀ item ∈ A.items, ¬ item.BreaksDown (Pipeline.ofConfig c backends).maxSize world.files) →
      s.Fair moves → ∃ n, (s.after moves n).scheduler.queue = []) := by
  intro s
  obtain ⟨hdecoder, deeds, hnone, hhealthy, hpeaceful⟩ :=
    peaceful_submitted may hrefused c backends p hadmitted
  have hlater (n : Nat) := hpeaceful.after hcalm hheeds n
  have hfinished (n : Nat) : departures (Deed.log (deeds ++ s.chronicle moves n)) =
      s.finished moves n := by
    rw [Deed.log_append, departures_append, hnone, List.nil_append, finished]
  have hfollows (n : Nat) : (s.finished moves n).map (·.item) <+: A.items ∧
      (s.finished moves n).map (·.item) ++ (s.after moves n).scheduler.queue = ⟨p, .examine⟩ ::
        ((s.finished moves n).map (·.item)).flatMap A.followers := by
    have hn := hlater n
    obtain ⟨a, hrelay, -⟩ := hn.tracked.relay
    obtain ⟨hbegins, hfollowers, -⟩ := A.follows hrelay hn.fed hn.punctual
    have hitems := hn.items_eq
    rw [hfollowers, hfinished] at hitems
    rw [hfinished] at hbegins
    exact ⟨hbegins, hitems⟩
  refine ⟨fun n => ⟨(hfollows n).1, fun hqueue => ?_⟩, fun hreturns htold hfair => ?_⟩
  · have hn := hlater n
    have hrelay := hn.tracked.relay_of_empty hn.stopped_eq hqueue
    obtain ⟨-, -, hmade⟩ := A.follows hrelay hn.fed hn.punctual
    obtain ⟨hbegins, hitems⟩ := hfollows n
    rw [hqueue, List.append_nil] at hitems
    rw [hfinished] at hmade
    have hall := A.complete hbegins hitems
    exact ⟨hall, hall ▸ hmade⟩
  · have hresponds (n : Nat) : (s.after moves n).Responds (moves n) := by
      refine (hlater n).responds _ (returns_after (hdecoder ▸ hreturns) hcalm n) ?_
      intro item hitem
      obtain ⟨hbegins, hitems⟩ := hfollows n
      exact htold item (A.mem_of_followers hbegins (hitems ▸ List.mem_append_right _ hitem))
    refine hpeaceful.drains hhealthy hcalm hheeds hresponds hfair A.items.length fun n => ?_
    have hle := (hfollows n).1.length_le
    rwa [List.length_map, ← hfinished] at hle

end Session

end Simulation

end PictureIndex
