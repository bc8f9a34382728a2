import PictureIndex.Proofs.EventOrder
/-!
# What a worker makes of its root

A worker that has been started waits until its gate arms.  Then it queues its root, and the sweep
finds nothing to remove, as there are no records yet.  Until then nothing happens
(`Session.Launched`).

If nobody else sends anything, only the root has been asked for.  So when nothing is left to be
done, the items that have left were for the paths of its itinerary (`Situation.Course.mem_iff`), and
each of these paths has the row that it should (`worker_indexes_its_root`).
-/

namespace PictureIndex

open Log

namespace Scheduler

variable {s : Scheduler} {now : Nat}

/-- Only a turn that tells of the gate changes what is known of it. -/
lemma turn_gate {t : Turn} (ht : ∀ state, t ≠ .tell state) : (s.turn now t).gate = s.gate := by
  have hpump (s : Scheduler) : (s.pump now).gate = s.gate := by
    rw [pump]
    split
    · rfl
    · rw [drain]; split <;> rfl
    · rfl
  cases t with
  | join item =>
    simp only [turn, push, publish, emit]
    split
    · rw [hpump]
    · rfl
  | arm p generation =>
    simp only [turn, setTimer]
    split <;> rfl
  | tell state => exact absurd rfl (ht state)
  | leave outcome =>
    have hcount : (s.count outcome).gate = s.gate := by rw [count_eq]
    rw [turn, leave, ← hcount]
    split
    · simp only [publish, emit]
      rw [hpump]
      split <;> split <;> rfl
    · rfl

/-- A scheduler that hears of its gate learns of it from a message. -/
lemma handle_gate (hs : s.stopped = false) {m : Message} (hm : m ≠ .shutdown) :
    (s.handle now m).gate = s.gate ∨ m = .gate (s.handle now m).gate := by
  have hturns (ts : List Turn) (s : Scheduler) (hts : ∀ state, .tell state ∉ ts) :
      (s.turnAll now ts).gate = s.gate := by
    induction ts generalizing s with
    | nil => rfl
    | cons t ts ih =>
      have ht (state : GateState) : t ≠ .tell state := fun hsame =>
        hts state (hsame ▸ List.mem_cons_self)
      rw [turnAll_cons, ih _ fun state hmem => hts state (List.mem_cons_of_mem t hmem),
        turn_gate ht]
  rw [handle_eq_turns hs hm]
  cases m with
  | gate state => exact .inr rfl
  | shutdown => exact absurd rfl hm
  | submit p => exact .inl (hturns _ _ (by simp [turns]))
  | removeStale p => exact .inl (hturns _ _ (by simp [turns]))
  | _ =>
    refine .inl (hturns _ _ fun state hmem => ?_)
    simp only [turns] at hmem
    split at hmem <;> simp at hmem

end Scheduler

/-! ## Tours -/

namespace Situation

variable {S : Situation} {root : Path} {l : Location} {items : List Item} {k : String}

/-- Whether nothing is asked for but a directory, and nothing is recorded. -/
structure IsTour (S : Situation) (root : Path) (l : Location) : Prop where
  /-- The directory is one of the tree. -/
  holds : S.files.Holds root l
  /-- There are no records. -/
  rows_eq : ∀ k, S.rows k = none
  /-- The directory is asked for, unless its path is excluded. -/
  asked_iff : ∀ y, S.asked y ↔ y = ⟨root, .examine⟩ ∧ root.isExcluded S.excluded = false

/-- **The items of a course for a directory are those of its itinerary.** -/
theorem Course.mem_iff (h : S.Course items) (hS : S.IsTour root l) {y : Item} :
    y ∈ items ↔ ∃ p ∈ S.files.itinerary root l S.excluded, y = ⟨p, .examine⟩ := by
  have hmem {p : Path} : p ∈ S.files.itinerary root l S.excluded ↔ _ := hS.holds.mem_itinerary
  constructor
  · suffices hall : ∀ n before y after, before.length = n → items = before ++ y :: after →
        ∃ p ∈ S.files.itinerary root l S.excluded, y = ⟨p, .examine⟩ by
      intro hy
      obtain ⟨before, after, hitems⟩ := List.append_of_mem hy
      exact hall _ before y after rfl hitems
    intro n
    induction n using Nat.strongRecOn with
    | _ n ih =>
      rintro before y after rfl hitems
      rcases h.fed before y after hitems with
        hasked | ⟨front, x, back, rfl, hwork, hadmitted, hleads⟩
      · obtain ⟨rfl, hadmitted⟩ := (hS.asked_iff y).mp hasked
        refine ⟨root, hmem.mpr ⟨[], ?_, rfl, hadmitted⟩, rfl⟩
        rw [List.append_nil]
        exact hS.holds.isSome
      · -- the item that led to this one came earlier, and it is one of the itinerary
        obtain ⟨p, hp, rfl⟩ := ih front.length (by simp) front x (back ++ y :: after) rfl
          (by rw [hitems, List.append_assoc, List.cons_append])
        obtain ⟨q, work⟩ := y
        obtain rfl : work = .examine := hwork
        refine ⟨q, ?_, rfl⟩
        cases hleads with
        | entry hkind hq =>
          obtain ⟨names, hat, rfl, -⟩ := hmem.mp hp
          rw [FileTree.list_below hS.holds.wellFormed hS.holds.locate_eq hat hkind] at hq
          obtain ⟨name, hname, rfl⟩ := List.mem_map.mp hq
          rw [FileTree.mem_names, List.append_assoc] at hname
          exact hmem.mpr ⟨_, hname, rfl, hadmitted⟩
        | below hkind => exact absurd hkind (hS.holds.kind?_ne_none hp)
  · rintro ⟨p, hp, rfl⟩
    obtain ⟨names, hat, rfl, hadmitted⟩ := hmem.mp hp
    clear hp
    induction names using List.reverseRecOn with
    | nil => exact h.asked_mem _ ((hS.asked_iff _).mpr ⟨rfl, hadmitted⟩)
    | append_singleton names name ih =>
      rw [← List.append_assoc] at hat
      have hdir := hS.holds.wellFormed.isDirectoryAt hat
      have habove := FileTree.at?_isSome_of_directory hdir
      have hlocate := FileTree.locate?_below hS.holds.wellFormed hS.holds.locate_eq habove
      have hkind := FileTree.kind?_of_directory hlocate hdir
      -- what is below an excluded directory would be excluded, too
      have hopen : (root.below names).isExcluded S.excluded = false := by
        by_contra hexcluded
        rw [Bool.not_eq_false] at hexcluded
        have hbelow := Path.isExcluded_entry (Path.below_ne_nil hS.holds.root_ne_nil names)
          hexcluded name
        rw [← Path.below_concat, hadmitted] at hbelow
        cases hbelow
      obtain ⟨before, after, hitems⟩ := List.append_of_mem (ih habove hopen)
      refine h.follows_mem before _ after hitems _ ⟨rfl, hadmitted, .entry hkind ?_⟩
      rw [FileTree.list_below hS.holds.wellFormed hS.holds.locate_eq habove hkind]
      exact List.mem_map.mpr ⟨name, FileTree.mem_names.mpr hat, rfl⟩

/-- **Such a course leaves the rows of its itinerary behind**, and no others. -/
theorem Course.row_eq_itinerary (h : S.Course items) (hS : S.IsTour root l) : S.row items k =
    if .ofText k ∈ S.files.itinerary root l S.excluded then
      S.pipeline.rowAfter S.findings S.files (.ofText k) none
    else none := by
  by_cases hthere : S.files.kind? (.ofText k) = none
  · rw [row_of_gone hS.holds.textNames hthere, hS.rows_eq, ite_self,
      if_neg fun hmem => hS.holds.kind?_ne_none hmem hthere]
  · have hspelled : ∀ y ∈ items, y.path.IsText ∨ S.files.kind? y.path.respelled = none := by
      intro y hy
      obtain ⟨p, hp, rfl⟩ := (h.mem_iff hS).mp hy
      exact .inl (FileTree.isText_of_kind? hS.holds.textNames (hS.holds.kind?_ne_none hp))
    rw [row_of_there hspelled hthere, hS.rows_eq]
    exact if_congr (by simp [h.mem_iff hS]) rfl rfl

end Situation

namespace Simulation

namespace Session

variable {s : Session} {deeds : List Deed}

/-! ## The gate -/

/-- Only its own moves change the gate. -/
lemma gate_move {v : Move} (hv : v ≠ .gate) : (s.move v).gate = s.gate := by
  have hfold (log : List Event) (s : Session) : (log.foldl act s).gate = s.gate := by
    induction log generalizing s with
    | nil => rfl
    | cons e log ih =>
      rw [List.foldl_cons, ih]
      cases e <;> rfl
  by_cases hdeliver : v = .deliver
  · subst hdeliver
    show s.deliverOldest.gate = s.gate
    rw [deliverOldest]
    split
    · rfl
    · rw [deliver, hfold]
  · obtain ⟨_, _, _, _, _, _, hmove, -, -, hgate⟩ := move_eq (s := s) hdeliver
    rw [hmove]
    exact hgate hv

/-- The gate waits, it arms, or it gives up. -/
lemma move_waiting {w : Worker} {g : Gate} {wake : Nat} (hgate : s.gate = some (w, g, wake)) :
    ∃ gate watching calls ms, s.move .gate = { s with
        gate := gate, watching := watching, world := { s.world with calls := calls } }.sendAll ms ∧
      ((∀ x ∈ gate, x.1 = w) ∧ ms = [] ∨ gate = none ∧
        (ms = w.armed s.world.files s.world.recorded.toOption ∨ ms = Worker.givenUp)) := by
  rw [move, stepGate?, hgate]
  have hidle : ∃ gate watching calls ms, s = { s with
        gate := gate, watching := watching, world := { s.world with calls := calls } }.sendAll ms ∧
      ((∀ x ∈ gate, x.1 = w) ∧ ms = [] ∨ gate = none ∧
        (ms = w.armed s.world.files s.world.recorded.toOption ∨ ms = Worker.givenUp)) :=
    ⟨s.gate, s.watching, s.world.calls, [], rfl, .inl ⟨by simp [hgate], rfl⟩⟩
  simp only
  split
  · exact hidle
  · split
    · exact ⟨none, _, s.world.calls, _, rfl, .inr ⟨rfl, .inl rfl⟩⟩
    · rcases g.poll s.world.isReady with ⟨g', poll⟩
      cases poll with
      | ready => exact ⟨none, _, s.world.calls, _, rfl, .inr ⟨rfl, .inl rfl⟩⟩
      | failed => exact ⟨none, _, s.world.calls, _, rfl, .inr ⟨rfl, .inr rfl⟩⟩
      | retryAfter secs =>
        let later := some (w, g', wake + Wait.ofMillis (secs * 1000))
        rw [World.notifyRetry_eq]
        exact ⟨later, _, _, [], rfl, .inl ⟨by simp [later], rfl⟩⟩

/-! ## The invariant -/

/-- Whether nothing comes from outside in a move of a worker, but that time passes, that the decoder
and the backends become others and that directories list their entries in another order. -/
def LeftAlone (s : Session) (v : Move) : Prop := v = .gate ∨ s.Steady v ∧ ∀ m, v ≠ .send m

section

variable {S : Situation} {start : Store} {w : Worker}

/-- What is known of a worker after moves in which it is left alone. -/
structure Launched (S : Situation) (start : Store) (w : Worker) (s : Session) (deeds : List Deed) :
    Prop where
  /-- Everything is in order. -/
  ongoing : s.Ongoing S start deeds
  /-- The gate is that of the worker. -/
  gate_eq : ∀ x ∈ s.gate, x.1 = w
  /-- As long as it waits, nothing happens. -/
  untouched : s.gate ≠ none →
    s.mailbox = [] ∧ s.tasks = [] ∧ s.timers = [] ∧ s.world.store = start
  /-- When it has armed, the root has been submitted. -/
  told : s.scheduler.gate = .armed ∨ .gate .armed ∈ s.mailbox →
    Noted S (.submit w.config.root) s deeds

/-- A worker whose gate waits for longer does nothing else. -/
lemma Launched.of_waiting {v : Move} (h : s.Launched S start w deeds) (hv : v ≠ .gate)
    (halone : s.LeftAlone v) (hgate : (s.move v).gate ≠ none) :
    (s.move v).mailbox = [] ∧ (s.move v).tasks = [] ∧ (s.move v).timers = [] ∧
      (s.move v).world.store = start := by
  rw [gate_move hv] at hgate
  obtain ⟨hmailbox, htasks, htimers, hstore⟩ := h.untouched hgate
  obtain ⟨hsteady, hsilent⟩ := halone.resolve_left hv
  have hsame (hmove : s.move v = s) : (s.move v).mailbox = [] ∧ (s.move v).tasks = [] ∧
      (s.move v).timers = [] ∧ (s.move v).world.store = start := by
    rw [hmove]
    exact ⟨hmailbox, htasks, htimers, hstore⟩
  cases v with
  | deliver =>
    refine hsame ?_
    rw [(move_deliver_nothing h.ongoing.sound (.inl hmailbox)).1, ← hmailbox]
  | task i => exact hsame (by simp [move, stepTaskAt?, htasks])
  | timer i => exact hsame (by simp [move, fireTimerAt?, htimers])
  | gate => exact absurd rfl hv
  | send m => exact absurd rfl (hsilent m)
  | become w => exact ⟨hmailbox, htasks, htimers, hsteady.2.1.trans hstore⟩

/-- When the gate moves, the worker may be told to begin. -/
lemma Launched.of_gate (h : s.Launched S start w deeds) (ht : start.pictures = some Table.empty)
    (hasked : ∀ y ∈ (Message.submit w.config.root).items S.excluded, S.asked y) :
    (s.move .gate).Launched S start w (deeds ++ s.deeds .gate) := by
  cases hgate : s.gate with
  | none =>
    have hmove : s.move .gate = s := by simp [move, stepGate?, hgate]
    have hdeeds : s.deeds .gate = [] := rfl
    rwa [hmove, hdeeds, List.append_nil]
  | some x =>
    obtain ⟨w', g, wake⟩ := x
    obtain rfl : w' = w := h.gate_eq _ hgate
    obtain ⟨hmailbox, htasks, htimers, hstore⟩ := h.untouched (by simp [hgate])
    have hswept : w'.armed s.world.files s.world.recorded.toOption =
        [.gate .armed, .submit w'.config.root] := by
      have hnothing : s.world.recorded = .ok [] := by
        rw [World.recorded, World.query, h.ongoing.refused_eq, hstore, Store.all,
          Store.pictureTable, ht]
        rfl
      rw [hnothing]
      rfl
    obtain ⟨gate, watching, calls, ms, hmove, hms⟩ := move_waiting hgate
    rw [hswept] at hms
    have hopen : s.isOpen = true := by simp [isOpen, h.ongoing.stopped_eq]
    have hmail : (s.move .gate).mailbox = ms := by
      rw [hmove, sendAll_eq]
      show s.mailbox ++ (if s.isOpen then ms else []) = ms
      rw [hopen, hmailbox]
      rfl
    have hnext : (s.move .gate).Ongoing S start (deeds ++ s.deeds .gate) := by
      refine h.ongoing.move (.inl rfl) trivial fun m hm => ?_
      rw [hmail] at hm
      rcases hms with ⟨-, rfl⟩ | ⟨-, rfl | rfl⟩
      · simp at hm
      · rcases List.mem_cons.mp hm with rfl | hm
        · exact .inr ⟨by simp, by simp [Message.items]⟩
        · rw [List.mem_singleton.mp hm]
          exact .inr ⟨by simp, hasked⟩
      · rw [List.mem_singleton.mp hm]
        exact .inr ⟨by simp, by simp [Message.items]⟩
    have hnoted : s.scheduler.gate = .armed →
        Noted S (.submit w'.config.root) (s.move .gate) (deeds ++ s.deeds .gate) := fun harmed =>
      h.ongoing.noted_move (.inr (h.told (.inl harmed)))
    have hgate' : (s.move .gate).gate = gate := by rw [hmove, sendAll_eq]
    have hscheduler := (move_scheduler (s := s) (v := .gate) (by simp)).1
    refine ⟨hnext, ?_, ?_, ?_⟩
    · rw [hgate']
      rcases hms with ⟨hsame, -⟩ | ⟨rfl, -⟩
      · exact hsame
      · simp
    · rw [hgate', hmail]
      rcases hms with ⟨-, rfl⟩ | ⟨rfl, -⟩
      · intro _
        rw [hmove]
        exact ⟨rfl, htasks, htimers, hstore⟩
      · simp
    · rw [hscheduler, hmail]
      rcases hms with ⟨-, rfl⟩ | ⟨-, rfl | rfl⟩
      · simpa using hnoted
      · exact fun _ => .inl (by simp [hmail])
      · simpa [Worker.givenUp] using hnoted

/-- Moves in which it is left alone keep what is known of a worker. -/
theorem Launched.move {v : Move} (h : s.Launched S start w deeds)
    (ht : start.pictures = some Table.empty)
    (hasked : ∀ y ∈ (Message.submit w.config.root).items S.excluded, S.asked y)
    (halone : s.LeftAlone v) (hheeds : s.Heeds S.findings.may v) :
    (s.move v).Launched S start w (deeds ++ s.deeds v) := by
  by_cases hv : v = .gate
  · subst hv
    exact h.of_gate ht hasked
  obtain ⟨hsteady, hsilent⟩ := halone.resolve_left hv
  have hmail := h.ongoing.steady_mail hsteady fun m hm => absurd hm (hsilent m)
  refine ⟨h.ongoing.move (.inr hsteady) hheeds hmail, ?_, h.of_waiting hv halone,
    fun harmed => h.ongoing.noted_move (.inr (h.told ?_))⟩
  · rw [gate_move hv]
    exact h.gate_eq
  · rcases harmed with harmed | hbox
    · by_cases hdeliver : v = .deliver
      swap
      · exact .inl ((move_scheduler hdeliver).1 ▸ harmed)
      subst hdeliver
      cases hbox : s.mailbox with
      | nil =>
        rw [(move_deliver_nothing h.ongoing.sound (.inl hbox)).1] at harmed
        exact .inl harmed
      | cons m rest =>
        have hm : m ≠ .shutdown := h.ongoing.ne_shutdown (by simp [hbox])
        have hcases : (s.scheduler.handle s.world.now m).gate = s.scheduler.gate ∨
            m = .gate (s.scheduler.handle s.world.now m).gate :=
          Scheduler.handle_gate h.ongoing.stopped_eq hm
        rw [h.ongoing.sound.scheduler_deliver hbox h.ongoing.stopped_eq] at harmed
        change (s.scheduler.handle s.world.now m).gate = .armed at harmed
        rcases hcases with hsame | hheard
        · exact .inl (hsame ▸ harmed)
        · rw [harmed] at hheard
          exact .inr (hheard ▸ List.mem_cons_self)
    · rcases mem_mailbox_move hbox with hold | ⟨-, hfrom⟩ | ⟨-, habout⟩ | hgate | hsent
      · exact .inr hold
      · cases hfrom
      · cases habout
      · exact absurd hgate hv
      · exact absurd hsent (hsilent _)

lemma Launched.along {vs : List Move} (h : s.Launched S start w deeds)
    (ht : start.pictures = some Table.empty)
    (hasked : ∀ y ∈ (Message.submit w.config.root).items S.excluded, S.asked y)
    (hvs : Along (fun s v => s.LeftAlone v ∧ s.Heeds S.findings.may v) s vs) :
    (s.moveAll vs).Launched S start w (deeds ++ s.history vs) := by
  induction vs generalizing s deeds with
  | nil => rwa [history, List.append_nil]
  | cons v vs ih =>
    obtain ⟨⟨halone, hheeds⟩, hvs⟩ := hvs
    rw [moveAll_cons, history, ← List.append_assoc]
    exact ih (h.move ht hasked halone hheeds) hvs

end

/-! ## The whole run -/

/-- Whether a worker arms and does all there is to do in some moves in which nobody disturbs it and
no item's time runs out, whatever is found out being as said. -/
structure Completes (A : Findings) (s : Session) (vs : List Move) : Prop where
  /-- Nobody disturbs the worker, and answers are as said. -/
  leftAlone : Along (fun s v => s.LeftAlone v ∧ s.Heeds A.may v) s vs
  /-- No item's time runs out. -/
  punctual : ∀ d ∈ departures (Deed.log (s.history vs)), d.outcome ≠ none
  /-- The gate has armed. -/
  armed : (s.moveAll vs).scheduler.gate = .armed
  /-- No item is left. -/
  queue_eq : (s.moveAll vs).scheduler.queue = []
  /-- No message is left. -/
  mailbox_eq : (s.moveAll vs).mailbox = []

/-- **What a worker makes of its root.**  Take a tree whose names are UTF-8, an empty store that
refuses nothing, and a worker without a limit whose root is a directory of the tree.  When the gate
has armed and nothing is left to be done, everything below the directory that is not excluded has
the row that it should have, and nothing else has a row. -/
theorem worker_indexes_its_root (world : World) (hempty : world.store.pictures = some Table.empty)
    (hrefused : world.refused = []) (w : Worker) (hlimit : w.config.indexingLimit = none)
    (l : Location) (hroot : world.files.Holds w.config.root l) (A : Findings) (vs : List Move)
    (h : Completes A (ofWorker world w) vs) :
    let last := ((ofWorker world w).moveAll vs).world
    (∀ names, (world.files.at? (l ++ names)).isSome → last.row? (w.config.root.below names) =
      if (w.config.root.below names).isExcluded w.config.excludedPrefixes then none
      else (Pipeline.ofConfig w.config w.backends).rowAfter A world.files
        (w.config.root.below names) none) ∧
    ∀ k row, last.row? (.ofText k) = some row ↔ ∃ names,
      (world.files.at? (l ++ names)).isSome ∧ k = (w.config.root.below names).text ∧
        (Pipeline.ofConfig w.config w.backends).rowAfter A world.files
          (w.config.root.below names) none = some row ∧
        (w.config.root.below names).isExcluded w.config.excludedPrefixes = false := by
  intro last
  let S := situation world w.config w.backends A (· = .submit w.config.root)
  have hrows (k : String) : S.rows k = Table.empty.find? k := by
    show world.store.pictures.bind _ = _
    rw [hempty, Option.bind_some]
  have hasked (y : Item) : S.asked y ↔ y ∈ (Message.submit w.config.root).items S.excluded :=
    exists_eq_left
  have hS : S.IsTour w.config.root l := by
    refine ⟨hroot, fun k => by rw [hrows, Table.find?_empty], fun y => ?_⟩
    rw [hasked, Message.items]
    cases hexcluded : w.config.root.isExcluded S.excluded <;> simp
  have hfirst : (ofWorker world w).Launched S world.store w [] := by
    have hongoing := ongoing_starting hrefused hlimit w.backends A (· = .submit w.config.root)
    refine ⟨?_, by simp [ofWorker], fun _ => ⟨rfl, rfl, rfl, rfl⟩, ?_⟩
    · exact { hongoing with
        sound := sound_starting ..
        orderly := orderly_starting ..
        tracked := hlimit ▸ tracked_starting .. }
    · rintro (harmed | hbox)
      · cases harmed
      · cases hbox
  have hend := hfirst.along hempty (fun y hy => (hasked y).mpr hy) h.leftAlone
  obtain ⟨items, t, hitems, hstore, hfind⟩ := hend.ongoing.course h.queue_eq h.mailbox_eq h.punctual
    (fun y hy => ⟨_, (hasked y).mp hy, hend.told (.inl h.armed)⟩) hempty hrows
  have hrow (p : Path) : last.row? p = S.row items p.text := by
    rw [World.row?, hstore, Option.bind_some, hfind]
  have hmem {p : Path} : p ∈ world.files.itinerary w.config.root l S.excluded ↔ _ :=
    hroot.mem_itinerary
  have hbelow (names : List (List UInt8)) (hat : (world.files.at? (l ++ names)).isSome) :
      last.row? (w.config.root.below names) =
        if (w.config.root.below names).isExcluded w.config.excludedPrefixes then none
        else (Pipeline.ofConfig w.config w.backends).rowAfter A world.files
          (w.config.root.below names) none := by
    set p := w.config.root.below names
    have hthere : world.files.kind? p ≠ none := by
      rw [FileTree.kind?_below hroot.wellFormed hroot.locate_eq hat, Option.ne_none_iff_isSome,
        Option.isSome_map]
      exact hat
    have htext : Path.ofText p.text = p := FileTree.isText_of_kind? hroot.textNames hthere
    rw [hrow, hitems.row_eq_itinerary hS, htext]
    by_cases hexcluded : p.isExcluded w.config.excludedPrefixes = true
    · rw [if_pos hexcluded, if_neg]
      intro hp
      obtain ⟨-, -, -, hadmitted⟩ := hmem.mp hp
      exact absurd (hexcluded.symm.trans hadmitted) (by simp)
    · rw [if_neg hexcluded, if_pos]
      · rfl
      · exact hmem.mpr ⟨names, hat, rfl, Bool.eq_false_iff.mpr hexcluded⟩
  refine ⟨hbelow, fun k row => ⟨fun hk => ?_, ?_⟩⟩
  · rw [hrow, Path.text_ofText, hitems.row_eq_itinerary hS] at hk
    split at hk
    · rename_i hp
      obtain ⟨names, hat, hsame, hadmitted⟩ := hmem.mp hp
      rw [hsame] at hk hadmitted
      exact ⟨names, hat, by rw [← hsame, Path.text_ofText], hk, hadmitted⟩
    · cases hk
  · rintro ⟨names, hat, rfl, hfound, hadmitted⟩
    rw [hrow, Path.text_ofText, ← hrow, hbelow names hat, hadmitted]
    exact hfound

end Session

end Simulation

end PictureIndex
