import PictureIndex.Proofs.Accounting
/-!
# Somebody always sees to the item in flight

The scheduler starts an item and then waits until it is told of it.  Who makes sure that it will
be told?  At first the task does, as long as files, store and decoder come back (`Responds`): it
does not ask a backend before it has asked for its time to run.  Then the request for time is in
the mailbox, and after that the timer runs, whatever becomes of the task; and when the timer is
done, or the task has reported, the message that ends the item is in the mailbox.  `Attended`
names these three, and `Attentive` is the invariant.

The dangerous moments are those when one hands over to the next: a task that dies right after its
request, a timer that is stopped on account of an earlier item, a message that comes too late.
They are the cases of the proofs below.
-/

namespace PictureIndex

/-- Whether a request is put to a backend. -/
def Request.asksBackend : Request → Bool
  | .recognise _ | .classify _ => true
  | _ => false

namespace Progress

variable {may : Bool} {r : Request}

/-- At the start no backend is asked. -/
lemma asksBackend_of_fresh (hr : Allows may .fresh r) : r.asksBackend = false := by
  cases r with
  | recognise | classify => exact absurd hr id
  | _ => rfl

/-- A request other than that for time leaves a task at the start. -/
lemma after_fresh (hr : Allows may .fresh r) (hne : r ≠ .arm) (a : r.Answer) :
    after .fresh r a = .fresh := by
  cases r with
  | arm => exact absurd rfl hne
  | insert => exact absurd hr id
  | _ => rfl

end Progress

namespace Simulation

open Log

/-! ## Who comes back -/

/-- Whether a reply is an answer. -/
def Reply.isAnswer {α : Type} : Reply α → Bool
  | .answer _ _ => true
  | .never | .lost => false

/-- Whether a decoder comes back from every file. -/
def Decoder.Returns : Decoder → Prop
  | .proper _ => True
  | .scripted _ hanging => hanging = []

/-- Whether the decoder comes back after a move. -/
def Move.Returns : Move → Prop
  | .become w => w.decoder.Returns
  | _ => True

/-- Whether whoever is asked in a move comes back, be it the file system, the store or the decoder.
Backends need not.  Who reads a modification time that no record can hold does not come back
(`Request.abort`). -/
def Session.Responds (s : Session) (v : Move) : Prop :=
  ∀ x ∈ s.put? v, x.2.asksBackend = false → (s.world.reply x.2).1.isAnswer = true

instance (d : Decoder) : Decidable d.Returns :=
  match d with
  | .proper _ => .isTrue trivial
  | .scripted _ hanging => inferInstanceAs (Decidable (hanging = []))

instance (v : Move) : Decidable v.Returns :=
  match v with
  | .become w => inferInstanceAs (Decidable w.decoder.Returns)
  | .deliver | .task _ | .timer _ | .gate | .send _ => .isTrue trivial

instance (s : Session) (v : Move) : Decidable (s.Responds v) :=
  inferInstanceAs (Decidable (∀ x ∈ s.put? v, _ → _))

/-- Where the decoder comes back, only a backend keeps a task waiting for ever, and a task is lost
on account of a backend or because it takes itself down. -/
lemma World.isAnswer_reply {w : World} (hw : w.decoder.Returns) {r : Request}
    (hbackend : r.asksBackend = false) (habort : r ≠ .abort) : (w.reply r).1.isAnswer = true := by
  cases r with
  | decode p =>
    rw [reply, decode]
    cases hd : w.decoder with
    | proper logged => rfl
    | scripted failing hanging =>
      rw [hd] at hw
      obtain rfl : hanging = [] := hw
      simp only [List.contains_nil, Bool.false_eq_true, if_false]
      split <;> rfl
  | recognise | classify => cases hbackend
  | abort => exact absurd rfl habort
  | _ => rfl

namespace Session

open Scheduler (Turn)

variable {s : Session} {deeds : List Deed} {box : List Message}

/-- Where nobody is asked, nobody has to come back. -/
lemma responds_of_put?_none {v : Move} (h : s.put? v = none) : s.Responds v := by
  intro x hx
  rw [h] at hx
  cases hx

/-- Where the decoder comes back, a move gets its answer unless a task takes itself down. -/
lemma responds_of_returns {v : Move} (hreturns : s.world.decoder.Returns)
    (habort : ∀ task, s.put? v ≠ some (task, .abort)) : s.Responds v := by
  rintro ⟨task, r⟩ hput hbackend
  refine World.isAnswer_reply hreturns hbackend ?_
  rintro rfl
  exact habort task hput

/-- Unless it asks a backend, a task that goes on is answered. -/
lemma Responds.answer {i : Nat} {task : Task} {r : Request} {next : r.Answer → Plan Outcome}
    (h : s.Responds (.task i)) (htask : s.tasks[i]? = some task)
    (hrun : Task.runnable? s.world.now task = some (.ask r next))
    (hbackend : r.asksBackend = false) :
    ∃ a delay w, s.world.reply r = (.answer a delay, w) := by
  have hanswer := h _ (put?_task htask hrun) hbackend
  rcases hreply : s.world.reply r with ⟨⟨a, delay⟩ | _ | _, w⟩
  · exact ⟨a, delay, w, rfl⟩
  all_goals
    rw [hreply] at hanswer
    cases hanswer

/-! ## The invariant -/

/-- Somebody will see to it that the item of a generation ends. -/
inductive Attended (box : List Message) (s : Session) (generation : Nat) : Prop
  /-- A message about it is on its way. -/
  | message (m : Message) (hm : m ∈ box) (p : Path) (habout : m.about? = some (p, generation))
  /-- Its task has not asked for its time yet, and will. -/
  | task (task : Task) (may : Bool) (plan : Plan Outcome) (htask : task ∈ s.tasks)
      (hgeneration : task.generation = generation) (hplan : task.state.plan? = some plan)
      (hkeeps : plan.Keeps may Progress.Reports .fresh)
  /-- Its time runs. -/
  | timer (t : Timer) (ht : t ∈ s.timers) (hgeneration : t.generation = generation)

/-- Everything that is about the item in flight has its path. -/
structure Named (box : List Message) (s : Session) (c : InFlight) : Prop where
  /-- Mail has. -/
  mail : ∀ m ∈ box, ∀ p, m.about? = some (p, c.generation) → p = c.path
  /-- The task has. -/
  tasks : ∀ t ∈ s.tasks, t.path = c.path
  /-- The timer has. -/
  timers : ∀ t ∈ s.timers, t.path = c.path

/-- The invariant: the item in flight is attended to, where `box` is the mail that is still to be
handled. -/
structure Attentive (box : List Message) (s : Session) : Prop where
  /-- The item in flight is attended to. -/
  attended : ∀ c ∈ s.scheduler.inFlight, Attended box s c.generation
  /-- What is about it has its path. -/
  named : ∀ c ∈ s.scheduler.inFlight, Named box s c

lemma Attended.mono {s' : Session} {box' : List Message} {generation : Nat}
    (h : Attended box s generation)
    (hbox : ∀ m ∈ box, m.about? ≠ none → m ∈ box') (htasks : ∀ t ∈ s.tasks, t ∈ s'.tasks)
    (htimers : ∀ t ∈ s.timers, t ∈ s'.timers) : Attended box' s' generation := by
  cases h with
  | message m hm p habout => exact .message m (hbox m hm (by simp [habout])) p habout
  | task task may plan htask hgeneration hplan hkeeps =>
    exact .task task may plan (htasks task htask) hgeneration hplan hkeeps
  | timer t ht hgeneration => exact .timer t (htimers t ht) hgeneration

/-- An item that was started just now is attended to by its task. -/
lemma attended_start {item : Item} {generation : Nat} {exhausted : Bool}
    (htask : ⟨item.path, generation, .ready (s.planOf item exhausted)⟩ ∈ s.tasks) :
    Attended box s generation :=
  .task _ _ _ htask rfl rfl (s.planOf_keeps item exhausted)

lemma Attentive.of_some {c : InFlight} (hc : s.scheduler.inFlight = some c)
    (hattended : Attended box s c.generation) (hnamed : Named box s c) : Attentive box s where
  attended c' hc' := by
    obtain rfl := Option.mem_unique hc hc'
    exact hattended
  named c' hc' := by
    obtain rfl := Option.mem_unique hc hc'
    exact hnamed

/-- As long as the item in flight, its task, its timer and the mail about items stay, it is
attended to. -/
lemma Attentive.of_frame {s' : Session} {box' : List Message} (h : Attentive box s)
    (hflight : s'.scheduler.inFlight = s.scheduler.inFlight) (htasks : s'.tasks = s.tasks)
    (htimers : s'.timers = s.timers)
    (hbox : ∀ m, m.about? ≠ none → (m ∈ box' ↔ m ∈ box)) : Attentive box' s' where
  attended c hc := by
    refine (h.attended c (hflight ▸ hc)).mono (fun m hm habout => (hbox m habout).mpr hm) ?_ ?_
    · exact fun t ht => htasks ▸ ht
    · exact fun t ht => htimers ▸ ht
  named c hc := by
    have hnamed := h.named c (hflight ▸ hc)
    constructor
    · intro m hm p habout
      exact hnamed.mail m ((hbox m (by simp [habout])).mp hm) p habout
    · rw [htasks]
      exact hnamed.tasks
    · rw [htimers]
      exact hnamed.timers

/-- An item is started where no task and no timer is left. -/
lemma Attentive.of_start {item : Item} {exhausted : Bool}
    (hletters : ∀ m ∈ box, ∀ p generation, m.about? = some (p, generation) →
      generation < s.scheduler.generation) (htimers : s.timers = [])
    (hflight : s.scheduler.inFlight = some ⟨item.path, s.scheduler.generation, none⟩)
    (htasks : s.tasks =
      [⟨item.path, s.scheduler.generation, .ready (s.planOf item exhausted)⟩]) :
    Attentive box s := by
  refine .of_some hflight (attended_start (htasks ▸ List.mem_singleton_self _)) ?_
  constructor
  · intro m hm p habout
    exact absurd (hletters m hm p _ habout) (Nat.lt_irrefl _)
  · simp [htasks]
  · simp [htimers]

/-! ## Deliveries -/

lemma sameAs_refl (p : Path) : p.sameAs p = true := by simp [Path.sameAs]

lemma Sound.isCurrent (h : s.Sound deeds) {c : InFlight} (hc : c ∈ s.scheduler.inFlight) :
    s.scheduler.isCurrent c.path c.generation = true := by
  obtain ⟨hopen, hqueue, -, -⟩ := h.in_flight hc
  obtain ⟨item, rest, hq⟩ := List.exists_cons_of_ne_nil hqueue
  obtain ⟨timer, hf⟩ := (h.coherent hopen).inFlight_of_cons hq
  obtain rfl := Option.mem_unique hf hc
  exact (h.coherent hopen).isCurrent_iff.mpr ⟨item, rest, hq, sameAs_refl _, rfl⟩

/-- A message that is ignored is not about the item in flight. -/
lemma Attentive.drop {m : Message} (h : Attentive (m :: box) s) (hsound : s.Sound deeds)
    (hignored : ∀ p generation, m.about? = some (p, generation) →
      s.scheduler.isCurrent p generation = false) : Attentive box s where
  attended c hc := by
    have hcurrent := hsound.isCurrent hc
    cases h.attended c hc with
    | message m' hm p habout =>
      rcases List.mem_cons.mp hm with rfl | hm
      · obtain rfl := (h.named c hc).mail _ (List.mem_cons_self ..) p habout
        simp [hignored _ _ habout] at hcurrent
      · exact .message m' hm p habout
    | task task may plan htask hgeneration hplan hkeeps =>
      exact .task task may plan htask hgeneration hplan hkeeps
    | timer t ht hgeneration => exact .timer t ht hgeneration
  named c hc := by
    obtain ⟨hmail, htasks, htimers⟩ := h.named c hc
    exact ⟨fun m hm => hmail m (List.mem_cons_of_mem _ hm), htasks, htimers⟩

lemma Attentive.join (item : Item) (hsound : s.Sound deeds) (hopen : s.scheduler.stopped = false)
    (horder : Orderly box s deeds) (h : Attentive box s) :
    Attentive box (s.turn (.join item)) := by
  have hcoherent := hsound.coherent hopen
  obtain ⟨log, next, hshift, -, -, hturn⟩ :=
    turn_eq (t := .join item) hcoherent hsound.quiet trivial
  rw [hturn]
  cases hshift with
  | wait _ hq hs =>
    subst hs
    exact h.of_frame rfl rfl rfl fun _ _ => Iff.rfl
  | begin _ hq hs =>
    subst hs
    have hidle := hcoherent.inFlight_of_nil hq
    refine Attentive.of_start ?_ (horder.timers_nil (by simp [Scheduler.ownTimer, hidle]))
      rfl (congrArg (· ++ _) (horder.idle hidle))
    exact fun m hm p g hg => Nat.lt_succ_of_le (horder.letters m hm p g hg)

lemma Attentive.tell (state : GateState) (hsound : s.Sound deeds)
    (hopen : s.scheduler.stopped = false) (h : Attentive box s) :
    Attentive box (s.turn (.tell state)) := by
  obtain ⟨log, next, hshift, -, -, hturn⟩ :=
    turn_eq (t := .tell state) (hsound.coherent hopen) hsound.quiet trivial
  rw [hturn]
  cases hshift with
  | tell _ hs =>
    subst hs
    exact h.of_frame rfl rfl rfl fun _ _ => Iff.rfl

/-- The item in flight gets a timer, which attends to it from now on. -/
lemma Attentive.arm (p : Path) (hsound : s.Sound deeds) (hopen : s.scheduler.stopped = false)
    (hqueue : s.scheduler.queue ≠ [])
    (horder : Orderly (.armTimeout p s.scheduler.generation :: box) s deeds)
    (h : Attentive (.armTimeout p s.scheduler.generation :: box) s) :
    Attentive box (s.turn (.arm p s.scheduler.generation)) := by
  obtain ⟨log, next, hshift, -, -, hturn⟩ := turn_eq
    (t := .arm p s.scheduler.generation) (hsound.coherent hopen) hsound.quiet ⟨hqueue, rfl⟩
  rw [hturn]
  cases hshift with
  | @arm _ item rest timer _ hq hf hs =>
    subst hs
    -- there is no earlier timer to be stopped
    obtain ⟨q, hunderway⟩ := horder.busy _ hf
    obtain rfl : timer = none := (hunderway.first (by simp [isArmFor])).1
    obtain ⟨hmail, htasks, htimers⟩ := h.named _ hf
    have hpath : p = item.path := hmail _ (List.mem_cons_self ..) p rfl
    refine .of_some rfl ?_ ⟨fun m hm => ?_, htasks, fun t ht => ?_⟩
    · exact .timer _ (List.mem_append_right s.timers (List.mem_singleton_self _)) rfl
    · exact hmail m (List.mem_cons_of_mem _ hm)
    · rcases List.mem_append.mp ht with hold | hnew
      · exact htimers t hold
      · rw [List.mem_singleton.mp hnew]
        exact hpath

/-- The item in flight leaves, and nothing that belongs to it stays behind. -/
lemma Orderly.attentive_leave {m : Message} {outcome : Option Outcome}
    (horder : Orderly (m :: box) s deeds) (hsound : s.Sound deeds)
    (hopen : s.scheduler.stopped = false) (hqueue : s.scheduler.queue ≠ [])
    (hends : m.Ends s.scheduler.generation outcome) : Attentive box (s.turn (.leave outcome)) := by
  obtain ⟨log, next, hshift, -, -, hturn⟩ := turn_eq
    (t := .leave outcome) (hsound.coherent hopen) hsound.quiet hqueue
  rw [hturn]
  cases hshift with
  | @next _ item front rest timer _ hq hf hs =>
    subst hs
    obtain ⟨-, htasks, htimers⟩ := horder.leaving hf hends
    rw [List.foldl_append, foldl_act_farewell]
    refine Attentive.of_start ?_ htimers rfl (congrArg (· ++ _) htasks)
    exact fun m hm p g hg => Nat.lt_succ_of_le (horder.drop.letters m hm p g hg)
  | @last _ item timer start _ hq hf hd hs =>
    subst hs
    rw [List.foldl_append, foldl_act_farewell]
    exact ⟨nofun, nofun⟩

lemma attentive_delivers : Delivers fun box s deeds => Orderly box s deeds ∧ Attentive box s where
  drop hsound _ hignored h := ⟨h.1.drop, h.2.drop hsound hignored⟩
  join item hsound hopen h := ⟨h.1.join item hsound hopen, h.2.join item hsound hopen h.1⟩
  tell state hsound hopen h := ⟨h.1.tell state hsound hopen, h.2.tell state hsound hopen⟩
  arm p hsound hopen hqueue h :=
    ⟨h.1.arm p hsound hopen hqueue, h.2.arm p hsound hopen hqueue h.1⟩
  leave hsound hopen hqueue hends h :=
    ⟨h.1.leave hsound hopen hqueue hends, h.1.attentive_leave hsound hopen hqueue hends⟩

/-! ## The other moves -/

lemma Sound.entering_eq (h : s.Sound deeds) {c : InFlight} (hc : c ∈ s.scheduler.inFlight)
    (ms : List Message) : s.entering ms = ms := by
  simp [entering, isOpen, (h.in_flight hc).1]

section

variable {s' : Session} {c : InFlight} {task : Task} {ms : List Message}

/-- What the task of the item in flight sends names the item. -/
lemma Named.of_told (h : Named s.mailbox s c) (hpath : task.path = c.path)
    (hms : ∀ m ∈ ms, m.about? = some (task.path, task.generation))
    (htasks : ∀ t ∈ s'.tasks, t.path = task.path) (htimers : s'.timers = s.timers) :
    Named (s.mailbox ++ s.entering ms) s' c where
  mail m hm p habout := by
    rcases List.mem_append.mp hm with hold | hnew
    · exact h.mail m hold p habout
    · have hsent := hms m ((entering_sublist ms).subset hnew)
      obtain ⟨rfl, -⟩ := Prod.mk.inj (Option.some.inj (hsent.symm.trans habout))
      exact hpath
  tasks t ht := (htasks t ht).trans hpath
  timers := htimers ▸ h.timers

/-- Whoever attends to the item in flight still does when the task has sent something, unless it was
the task. -/
lemma Attended.of_told {generation : Nat} (h : Attended s.mailbox s generation)
    (htasks : s.tasks = [task]) (htimers : s'.timers = s.timers)
    (htask : ∀ may plan, task.state.plan? = some plan → plan.Keeps may Progress.Reports .fresh →
      Attended (s.mailbox ++ s.entering ms) s' generation) :
    Attended (s.mailbox ++ s.entering ms) s' generation := by
  cases h with
  | message m hm p habout => exact .message m (List.mem_append_left _ hm) p habout
  | task t may plan ht hgeneration hplan hkeeps =>
    rw [htasks, List.mem_singleton] at ht
    subst ht
    exact htask may plan hplan hkeeps
  | timer t ht hgeneration => exact .timer t (htimers ▸ ht) hgeneration

/-- A task at the start is answered. -/
lemma Responds.answer_of_fresh {i : Nat} {r : Request} {next : r.Answer → Plan Outcome}
    {may : Bool} {plan : Plan Outcome} (hresponds : s.Responds (.task i))
    (htask : s.tasks[i]? = some task)
    (hrun : Task.runnable? s.world.now task = some (.ask r next))
    (hplan : task.state.plan? = some plan) (hkeeps : plan.Keeps may Progress.Reports .fresh) :
    ∃ a delay w, s.world.reply r = (.answer a delay, w) := by
  obtain rfl := Option.some.inj (hplan.symm.trans (runnable_plan hrun))
  exact hresponds.answer htask hrun (Progress.asksBackend_of_fresh hkeeps.1)

end

/-- **The step of the task hands the item over to the mailbox, or keeps it.** -/
lemma Attentive.advance {i : Nat} {task : Task} {s' : Session} {plan : Plan Outcome}
    (h : Attentive s.mailbox s) (hresponds : s.Responds (.task i))
    (horder : Orderly s.mailbox s deeds) (hsound : s.Sound deeds)
    (htask : s.tasks[i]? = some task) (hrun : Task.runnable? s.world.now task = some plan)
    (hadvance : Advance s i task s') : Attentive s'.mailbox s' := by
  obtain ⟨c, q, hc, -, rfl, htasks, hown, -⟩ := horder.alone htask
  have hstate := runnable_plan hrun
  have hattended := h.attended c hc
  have hnamed := h.named c hc
  have hpath : task.path = c.path := hnamed.tasks task (by simp [htasks])
  have henter := hsound.entering_eq hc
  cases hadvance with
  | report outcome hplan =>
    refine .of_some hc (hattended.of_told htasks rfl fun may plan hplan hkeeps => ?_)
      (hnamed.of_told hpath (fun m hm => ?_) (by simp [htasks]) rfl)
    · refine .message (.completed task.path task.generation outcome) ?_ task.path ?_
      · simp [henter]
      · rw [← hown]
        rfl
    · rw [List.mem_singleton.mp hm]
      rfl
  | answered r next a delay w state hplan hreply hnext =>
    refine .of_some hc (hattended.of_told htasks rfl fun may plan hplan' hkeeps => ?_)
      (hnamed.of_told hpath (fun m hm => about_of_tells hm) (by simp [htasks]) rfl)
    obtain rfl := Option.some.inj (hplan'.symm.trans hplan)
    by_cases hr : r = .arm
    · subst hr
      refine .message (.armTimeout task.path task.generation) ?_ task.path ?_
      · simp [henter, Task.tells]
      · rw [← hown]
        rfl
    · have hfresh := hkeeps.2 a
      rw [Progress.after_fresh hkeeps.1 hr] at hfresh
      exact .task { task with state := state } may (next a) (by simp [htasks]) hown hnext hfresh
  | hang r next w hplan hreply =>
    obtain rfl := Option.some.inj (hstate.symm.trans hplan)
    refine .of_some hc (hattended.of_told htasks rfl fun may plan hplan' hkeeps => ?_)
      (hnamed.of_told hpath (fun m hm => about_of_tells hm) (by simp [htasks]) rfl)
    obtain ⟨a, delay, w', hanswer⟩ := hresponds.answer_of_fresh htask hrun hplan' hkeeps
    simp [hreply] at hanswer
  | die r next w hplan hreply =>
    obtain rfl := Option.some.inj (hstate.symm.trans hplan)
    refine .of_some hc (hattended.of_told htasks rfl fun may plan hplan' hkeeps => ?_)
      (hnamed.of_told hpath (fun m hm => about_of_tells hm) (by simp [htasks]) rfl)
    obtain ⟨a, delay, w', hanswer⟩ := hresponds.answer_of_fresh htask hrun hplan' hkeeps
    simp [hreply] at hanswer

/-- A timer hands the item over to the mailbox. -/
lemma Attentive.fire {i : Nat} {t : Timer} (h : Attentive s.mailbox s)
    (horder : Orderly s.mailbox s deeds) (hsound : s.Sound deeds)
    (htimer : s.timers[i]? = some t) :
    Attentive (s.mailbox ++ s.entering [.timedOut t.path t.generation])
      { s with
        mailbox := s.mailbox ++ s.entering [.timedOut t.path t.generation]
        timers := s.timers.eraseIdx i } := by
  have hmem := List.mem_of_getElem? htimer
  obtain ⟨c, hc, hown⟩ := Option.bind_eq_some_iff.mp (horder.timers t hmem)
  obtain ⟨number, -, he⟩ := Option.map_eq_some_iff.mp hown
  have hgeneration : c.generation = t.generation := (LiveTimer.mk.inj he).2
  obtain ⟨hmail, htasks, htimers⟩ := h.named c hc
  refine .of_some hc ?_ ⟨fun m hm p habout => ?_, htasks, fun t' ht' => ?_⟩
  · refine .message (.timedOut t.path t.generation) ?_ t.path ?_
    · simp [hsound.entering_eq hc]
    · rw [hgeneration]
      rfl
  · rcases List.mem_append.mp hm with hold | hnew
    · exact hmail m hold p habout
    · rw [hsound.entering_eq hc] at hnew
      rw [List.mem_singleton.mp hnew] at habout
      obtain ⟨rfl, -⟩ := Prod.mk.inj (Option.some.inj habout)
      exact htimers t hmem
  · exact htimers t' ((List.eraseIdx_sublist ..).subset ht')

/-- Mail from outside is of no concern. -/
lemma mem_append_entering {ms : List Message} (hms : ∀ m ∈ ms, m.about? = none) (m : Message)
    (hm : m.about? ≠ none) : m ∈ s.mailbox ++ s.entering ms ↔ m ∈ s.mailbox := by
  refine ⟨fun h => ?_, List.mem_append_left _⟩
  rcases List.mem_append.mp h with hold | hnew
  · exact hold
  · exact absurd (hms m ((entering_sublist ms).subset hnew)) hm

lemma Attentive.deliver {m : Message} {rest : List Message} (h : Attentive s.mailbox s)
    (horder : Orderly s.mailbox s deeds) (hsound : s.Sound deeds) (hmail : s.mailbox = m :: rest)
    (hopen : s.scheduler.stopped = false) :
    Attentive (s.move .deliver).mailbox (s.move .deliver) := by
  have hbox : ({ s with mailbox := rest }.deliver m).mailbox = rest :=
    (foldl_act_frame _).2.1
  have hrest : ({ s with mailbox := rest } : Session).Sound deeds := hsound.of_frame rfl rfl
  rw [(move_deliver hmail hopen).1, hbox]
  rw [hmail] at h horder
  by_cases hm : m = .shutdown
  · subst hm
    have hflight : ({ s with mailbox := rest }.deliver .shutdown).scheduler.inFlight = none := by
      rw [(deliver_shutdown (s := { s with mailbox := rest }) hopen).1]
    exact ⟨by simp [hflight], by simp [hflight]⟩
  · have hbefore : Attentive (m :: rest) { s with mailbox := rest } :=
      h.of_frame rfl rfl rfl fun _ _ => Iff.rfl
    exact (attentive_delivers.deliver rest hrest hopen hm
      ⟨horder.of_sublist (List.Sublist.refl _) rest, hbefore⟩).2.2.2

lemma Attentive.move {v : Move} (hv : v.Legal) (hresponds : s.Responds v) (hsound : s.Sound deeds)
    (horder : Orderly s.mailbox s deeds) (h : Attentive s.mailbox s) :
    Attentive (s.move v).mailbox (s.move v) := by
  cases v with
  | deliver =>
    obtain hnone | ⟨m, rest, hmail, hopen⟩ := s.delivery_cases
    · rw [(move_deliver_nothing hsound hnone).1]
      refine ⟨fun c hc => ?_, fun c hc => ?_⟩
      all_goals
        have hempty : s.mailbox = [] := by simpa [(hsound.in_flight hc).1] using hnone
        rw [hempty] at h
      · exact (h.attended c hc).mono (fun _ hm _ => hm) (fun _ ht => ht) (fun _ ht => ht)
      · obtain ⟨hmail, htasks, htimers⟩ := h.named c hc
        exact ⟨hmail, htasks, htimers⟩
    · exact h.deliver horder hsound hmail hopen
  | task i =>
    rcases move_task s i with ⟨hmove, -⟩ | ⟨task, plan, htask, hrun, hadvance, -⟩
    · rw [hmove]
      exact h
    · exact h.advance hresponds horder hsound htask hrun hadvance
  | timer i =>
    rcases move_timer s i with hmove | ⟨timer, htimer, hmove⟩
    · rw [hmove]
      exact h
    · rw [hmove, send_eq]
      exact h.fire horder hsound htimer
  | gate | send =>
    obtain ⟨gate, watching, calls, ms, hms, hmove⟩ := move_outside s hv (by simp)
    rw [hmove, sendAll_eq]
    exact h.of_frame rfl rfl rfl (mem_append_entering hms)
  | become w => exact h.of_frame rfl rfl rfl fun _ _ => Iff.rfl

/-! ## Sessions -/

/-- What is known of a session after any moves in which whoever is asked comes back. -/
structure Healthy (s : Session) (deeds : List Deed) : Prop where
  /-- The scheduler is as it should be. -/
  sound : s.Sound deeds
  /-- The ledger and the parties are in order. -/
  orderly : Orderly s.mailbox s deeds
  /-- The item in flight is attended to. -/
  attentive : Attentive s.mailbox s

lemma healthy_starting (world : World) (c : Config) (backends : Backends)
    (gate : Option (Worker × Gate × Nat)) : (starting world c backends gate).Healthy [] :=
  ⟨sound_starting world c backends gate, orderly_starting world c backends gate, nofun, nofun⟩

lemma Healthy.move (h : s.Healthy deeds) {v : Move} (hv : v.Legal ∧ s.Responds v) :
    (s.move v).Healthy (deeds ++ s.deeds v) :=
  ⟨h.sound.move v, h.orderly.move hv.1 h.sound, h.attentive.move hv.1 hv.2 h.sound h.orderly⟩

end Session

end Simulation

end PictureIndex
