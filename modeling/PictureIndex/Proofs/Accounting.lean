import PictureIndex.Proofs.Ledger
import PictureIndex.Proofs.PlanConduct
import PictureIndex.Proofs.SchedulerStatus
/-!
# What is counted and what is done

A record is written by a task before the scheduler hears of it, and the scheduler counts an item
when it hears of its end.  In between anything may happen; above all the item's time may run out,
and then it is counted as timed out although its record is there.  This file says exactly how far
the counts can be trusted.

The invariant is `Orderly`: at most one task lives, that of the item in flight; `Underway` says how
far it has come, whether its time has been asked for, and whether it has written; and the ledger
is right.
-/

namespace PictureIndex.Simulation

open Log

/-- Whether a message asks for the time of a generation to run. -/
def isArmFor (generation : Nat) : Message → Bool
  | .armTimeout _ generation' => generation' == generation
  | _ => false

namespace Session

open Scheduler (Turn)

variable {s : Session} {deeds : List Deed} {box : List Message}

/-- The task of an item in flight has come to some point, as told by the tasks, the mail, the item's
timer and the records written. -/
structure Underway (box : List Message) (s : Session) (deeds : List Deed) (c : InFlight)
    (q : Progress) : Prop where
  /-- It is the only task, and conducts itself from here on; or it is gone. -/
  task : s.tasks = [] ∨ ∃ task, s.tasks = [task] ∧ task.generation = c.generation ∧
    ∀ plan, task.state.plan? = some plan →
      plan.Keeps (!s.scheduler.budget.isExhausted) Progress.Reports q
  /-- What it has reported is how far it came. -/
  report : ∀ p outcome, .completed p c.generation outcome ∈ box → s.tasks = [] ∧ q.Reports outcome
  /-- Its time has been asked for once, and only if it came that far. -/
  arms : box.countP (isArmFor c.generation) + c.timer.toList.length ≤
    if q = .fresh then 0 else 1
  /-- It has written if it came that far. -/
  wrote_eq : wrote deeds c.generation = if q = .written then 1 else 0

/-- The invariant of all sessions, where `box` is the mail that is still to be handled. -/
structure Orderly (box : List Message) (s : Session) (deeds : List Deed) : Prop where
  /-- The ledger is right. -/
  ledger : Ledger deeds s.scheduler.budget
  /-- Mail is about items that were started. -/
  letters : ∀ m ∈ box, ∀ p generation, m.about? = some (p, generation) →
    generation ≤ s.scheduler.generation
  /-- The only timer is that of the item in flight. -/
  timers : ∀ t ∈ s.timers, s.scheduler.ownTimer = some ⟨t.number, t.generation⟩
  /-- Without an item in flight there is no task. -/
  idle : s.scheduler.inFlight = none → s.tasks = []
  /-- Nothing is written for an item that has not been started. -/
  clear : s.scheduler.stopped = false → s.scheduler.queue = [] → wrote deeds (left deeds + 1) = 0
  /-- The task of the item in flight has come to some point. -/
  busy : ∀ c ∈ s.scheduler.inFlight, ∃ q, Underway box s deeds c q

lemma planOf_keeps (s : Session) (item : Item) (exhausted : Bool) :
    (s.planOf item exhausted).Keeps (!exhausted) Progress.Reports .fresh := by
  rw [planOf]
  split
  · exact s.pipeline.keeps_examine item.path exhausted
  · exact Pipeline.keeps_removeStale _ item.path

lemma underway_start {c : InFlight} {exhausted : Bool} {item : Item}
    (hbudget : s.scheduler.budget.isExhausted = exhausted)
    (htasks : s.tasks = [⟨item.path, c.generation, .ready (s.planOf item exhausted)⟩])
    (htimer : c.timer = none)
    (hletters : ∀ m ∈ box, ∀ p generation, m.about? = some (p, generation) →
      generation < c.generation)
    (hwrote : wrote deeds c.generation = 0) : Underway box s deeds c .fresh where
  task := .inr ⟨_, htasks, rfl, fun plan hplan => by
    obtain rfl := Option.some.inj hplan
    rw [hbudget]
    exact s.planOf_keeps item exhausted⟩
  report p outcome hmem := absurd (hletters _ hmem p _ rfl) (Nat.lt_irrefl _)
  arms := by
    have hnone : box.countP (isArmFor c.generation) = 0 := by
      rw [List.countP_eq_zero]
      intro m hm harm
      cases m with
      | armTimeout p generation =>
        have hlt := hletters _ hm p generation rfl
        have heq : generation = c.generation := by simpa [isArmFor] using harm
        omega
      | _ => simp [isArmFor] at harm
    simp [hnone, htimer]
  wrote_eq := hwrote

/-- Mail may be dropped, and what lies in the mailbox plays no part. -/
lemma Orderly.of_sublist {box' : List Message} (h : Orderly box s deeds)
    (hbox : box'.Sublist box) (mailbox : List Message) :
    Orderly box' { s with mailbox := mailbox } deeds where
  ledger := h.ledger
  letters m hm := h.letters m (hbox.subset hm)
  timers := h.timers
  idle := h.idle
  clear := h.clear
  busy c hc := by
    obtain ⟨q, hq⟩ := h.busy c hc
    exact ⟨q, hq.task, fun p o ho => hq.report p o (hbox.subset ho),
      Nat.le_trans (Nat.add_le_add_right hbox.countP_le _) hq.arms, hq.wrote_eq⟩

lemma Orderly.drop {m : Message} (h : Orderly (m :: box) s deeds) : Orderly box s deeds :=
  h.of_sublist (List.sublist_cons_self m box) s.mailbox

/-- No timer runs but that of the item in flight. -/
lemma Orderly.timers_nil (h : Orderly box s deeds) (hown : s.scheduler.ownTimer = none) :
    s.timers = [] := by
  rw [List.eq_nil_iff_forall_not_mem]
  intro t ht
  exact absurd (h.timers t ht) (by simp [hown])

/-- A turn in which the item in flight stays as it is keeps order. -/
lemma Orderly.of_frame {s' : Session} {log : List Event} (h : Orderly box s deeds)
    (htasks : s'.tasks = s.tasks) (htimers : s'.timers = s.timers)
    (hflight : s'.scheduler.inFlight = s.scheduler.inFlight)
    (hbudget : s'.scheduler.budget = s.scheduler.budget)
    (hgeneration : s'.scheduler.generation = s.scheduler.generation)
    (hstopped : s'.scheduler.stopped = s.scheduler.stopped)
    (hqueue : s'.scheduler.queue = [] → s.scheduler.queue = [])
    (hlog : departures log = []) : Orderly box s' (deeds ++ log.map .event) where
  ledger := hbudget ▸ h.ledger.of_events hlog
  letters := hgeneration ▸ h.letters
  timers := by
    rw [htimers, Scheduler.ownTimer, hflight]
    exact h.timers
  idle hf := htasks.trans (h.idle (hflight ▸ hf))
  clear ho hq := by
    have hleft : left (deeds ++ log.map .event) = left deeds := by simp [left, hlog]
    rw [hleft, wrote_events]
    exact h.clear (hstopped ▸ ho) (hqueue hq)
  busy c hc := by
    obtain ⟨q, hq⟩ := h.busy c (hflight ▸ hc)
    refine ⟨q, ?_, ?_, hq.arms, ?_⟩
    · rw [htasks, hbudget]
      exact hq.task
    · rw [htasks]
      exact hq.report
    · rw [wrote_events]
      exact hq.wrote_eq

/-- An item is started where no task and no timer is left. -/
lemma Orderly.of_start {item : Item} {exhausted : Bool} {rest : List Item}
    (hledger : Ledger deeds s.scheduler.budget)
    (hletters : ∀ m ∈ box, ∀ p generation, m.about? = some (p, generation) →
      generation < s.scheduler.generation)
    (htimers : s.timers = []) (hqueue : s.scheduler.queue = item :: rest)
    (hflight : s.scheduler.inFlight = some ⟨item.path, s.scheduler.generation, none⟩)
    (hbudget : s.scheduler.budget.isExhausted = exhausted)
    (htasks : s.tasks =
      [⟨item.path, s.scheduler.generation, .ready (s.planOf item exhausted)⟩])
    (hwrote : wrote deeds s.scheduler.generation = 0) : Orderly box s deeds where
  ledger := hledger
  letters m hm p g hg := Nat.le_of_lt (hletters m hm p g hg)
  timers := by simp [htimers]
  idle hf := by simp [hflight] at hf
  clear _ hq := by simp [hqueue] at hq
  busy c hc := by
    obtain rfl := Option.mem_unique hc hflight
    exact ⟨.fresh, underway_start hbudget htasks rfl hletters hwrote⟩

lemma Orderly.join (item : Item) (hsound : s.Sound deeds) (hopen : s.scheduler.stopped = false)
    (h : Orderly box s deeds) :
    Orderly box (s.turn (.join item)) (deeds ++ s.said (.join item)) := by
  have hcoherent := hsound.coherent hopen
  obtain ⟨log, next, hshift, hnext, hsaid, hturn⟩ :=
    turn_eq (t := .join item) hcoherent hsound.quiet trivial
  rw [hsaid, hturn]
  cases hshift with
  | wait _ hq hs =>
    subst hs
    exact h.of_frame rfl rfl rfl rfl rfl rfl nofun rfl
  | begin _ hq hs =>
    subst hs
    have hgeneration := hsound.generation_eq hopen
    rw [hq] at hgeneration
    have htimers : s.timers = [] :=
      h.timers_nil (by simp [Scheduler.ownTimer, hcoherent.inFlight_of_nil hq])
    have htasks : s.tasks ++ [⟨item.path, s.scheduler.generation + 1,
        .ready (s.planOf item s.scheduler.budget.isExhausted)⟩] = _ :=
      congrArg (· ++ _) (h.idle (hcoherent.inFlight_of_nil hq))
    refine Orderly.of_start (h.ledger.of_events rfl) ?_ htimers rfl rfl rfl htasks ?_
    · exact fun m hm p g hg => Nat.lt_succ_of_le (h.letters m hm p g hg)
    · have hclear := h.clear hopen hq
      rw [← show s.scheduler.generation = left deeds by simpa using hgeneration] at hclear
      rw [wrote_events]
      exact hclear

lemma Orderly.tell (state : GateState) (hsound : s.Sound deeds)
    (hopen : s.scheduler.stopped = false) (h : Orderly box s deeds) :
    Orderly box (s.turn (.tell state)) (deeds ++ s.said (.tell state)) := by
  obtain ⟨log, next, hshift, -, hsaid, hturn⟩ :=
    turn_eq (t := .tell state) (hsound.coherent hopen) hsound.quiet trivial
  rw [hsaid, hturn]
  cases hshift with
  | tell _ hs =>
    subst hs
    exact h.of_frame rfl rfl rfl rfl rfl rfl id rfl

/-- A request for time that is granted is the only one that there ever is. -/
lemma Underway.first {m : Message} {c : InFlight} {q : Progress}
    (h : Underway (m :: box) s deeds c q) (hm : isArmFor c.generation m = true) :
    c.timer = none ∧ q ≠ .fresh ∧ box.countP (isArmFor c.generation) = 0 := by
  have harms := h.arms
  rw [List.countP_cons_of_pos hm] at harms
  split at harms
  · omega
  · rename_i hne
    have hnone : c.timer.toList = [] := List.length_eq_zero_iff.mp (by omega)
    exact ⟨by simpa using hnone, hne, by omega⟩

lemma Orderly.arm (p : Path) (hsound : s.Sound deeds) (hopen : s.scheduler.stopped = false)
    (hqueue : s.scheduler.queue ≠ [])
    (h : Orderly (.armTimeout p s.scheduler.generation :: box) s deeds) :
    Orderly box (s.turn (.arm p s.scheduler.generation))
      (deeds ++ s.said (.arm p s.scheduler.generation)) := by
  obtain ⟨log, next, hshift, -, hsaid, hturn⟩ := turn_eq
    (t := .arm p s.scheduler.generation) (hsound.coherent hopen) hsound.quiet ⟨hqueue, rfl⟩
  rw [hsaid, hturn]
  cases hshift with
  | @arm _ item rest timer _ hq hf hs =>
    subst hs
    obtain ⟨q, hunderway⟩ := h.busy _ hf
    obtain ⟨htimer, hne, hcount⟩ := hunderway.first (by simp [isArmFor])
    obtain rfl : timer = none := htimer
    have htimers : s.timers = [] := h.timers_nil (by simp [Scheduler.ownTimer, hf])
    have hdropped := h.drop
    constructor
    · exact hdropped.ledger.of_events rfl
    · exact hdropped.letters
    · intro t ht
      have htimer : t ∈ s.timers ++ [_] := ht
      rw [htimers, List.nil_append, List.mem_singleton] at htimer
      rw [htimer]
      rfl
    · exact fun hnone => absurd hnone (Option.some_ne_none _)
    · intro _ hnil
      exact absurd hnil hqueue
    · intro c hc
      obtain rfl := Option.some.inj hc
      refine ⟨q, hunderway.task, fun p o ho => ?_, ?_, ?_⟩
      · exact hunderway.report p o (List.mem_cons_of_mem _ ho)
      · simp [hcount, hne]
      · rw [wrote_events]
        exact hunderway.wrote_eq

/-- What there is to be done when the item in flight leaves: its task is gone or aborted, its
timer is stopped, and it has written what it is counted for. -/
lemma Orderly.leaving {m : Message} {c : InFlight} {outcome : Option Outcome}
    (h : Orderly (m :: box) s deeds) (hc : c ∈ s.scheduler.inFlight)
    (hends : m.Ends c.generation outcome) :
    Settled (wrote deeds c.generation) outcome ∧
      (if outcome.isNone then s.tasks.filter (·.generation != c.generation) else s.tasks) = [] ∧
      s.timers.filter (fun t => c.timer.all (t.number != ·)) = [] := by
  obtain ⟨q, hq⟩ := h.busy c hc
  have htimers : s.timers.filter (fun t => c.timer.all (t.number != ·)) = [] := by
    rw [List.filter_eq_nil_iff]
    intro t ht
    have hown := h.timers t ht
    rw [Scheduler.ownTimer, hc, Option.bind_some, Option.map_eq_some_iff] at hown
    obtain ⟨number, hnumber, htimer⟩ := hown
    obtain ⟨rfl, -⟩ := LiveTimer.mk.inj htimer
    simp [hnumber]
  refine ⟨?_, ?_, htimers⟩
  · rw [hq.wrote_eq, Settled]
    cases m with
    | completed p generation outcome' =>
      obtain ⟨rfl, rfl⟩ := hends
      have hreport := (hq.report p outcome' (List.mem_cons_self ..)).2
      rw [Progress.Reports] at hreport
      cases outcome' <;> simp [fate?] at hreport ⊢ <;> exact hreport
    | timedOut p generation =>
      obtain ⟨rfl, rfl⟩ := hends
      simp only [fate?]
      split <;> omega
    | _ => exact absurd hends id
  · cases m with
    | completed p generation outcome' =>
      obtain ⟨rfl, rfl⟩ := hends
      exact (hq.report p outcome' (List.mem_cons_self ..)).1
    | timedOut p generation =>
      obtain ⟨rfl, rfl⟩ := hends
      rcases hq.task with hnone | ⟨task, hone, hgeneration, -⟩
      · simp [hnone]
      · simp [hone, hgeneration]
    | _ => exact absurd hends id

lemma Orderly.leave {m : Message} {outcome : Option Outcome} (hsound : s.Sound deeds)
    (hopen : s.scheduler.stopped = false) (hqueue : s.scheduler.queue ≠ [])
    (hends : m.Ends s.scheduler.generation outcome) (h : Orderly (m :: box) s deeds) :
    Orderly box (s.turn (.leave outcome)) (deeds ++ s.said (.leave outcome)) := by
  obtain ⟨log, next, hshift, -, hsaid, hturn⟩ := turn_eq
    (t := .leave outcome) (hsound.coherent hopen) hsound.quiet hqueue
  have hused := hsound.used_eq
  have hbudget := s.scheduler.budget_count outcome
  rw [hsaid, hturn]
  cases hshift with
  | @next _ item front rest timer _ hq hf hs =>
    subst hs
    obtain ⟨hsettled, htasks, htimers⟩ := h.leaving hf hends
    have hg : s.scheduler.generation = left deeds + 1 := (hsound.in_flight hf).2.2.2
    rw [hg] at hsettled
    rw [List.foldl_append, foldl_act_farewell]
    refine Orderly.of_start ?_ ?_ htimers rfl rfl rfl (congrArg (· ++ _) htasks) ?_
    · show Ledger _ (s.scheduler.count outcome).budget
      rw [hbudget]
      exact h.ledger.of_departure (d := ⟨item, s.scheduler.generation, outcome⟩) (by simp) hg
        hsettled hused
    · exact fun m hm p g hg => Nat.lt_succ_of_le (h.drop.letters m hm p g hg)
    · rw [wrote_events]
      exact h.ledger.wrote_later (hg ▸ Nat.lt_succ_self _)
  | @last _ item timer start _ hq hf hd hs =>
    subst hs
    obtain ⟨hsettled, htasks, htimers⟩ := h.leaving hf hends
    have hg : s.scheduler.generation = left deeds + 1 := (hsound.in_flight hf).2.2.2
    rw [hg] at hsettled
    rw [List.foldl_append, foldl_act_farewell]
    constructor
    · show Ledger _ (s.scheduler.count outcome).budget
      rw [hbudget]
      exact h.ledger.of_departure (d := ⟨item, s.scheduler.generation, outcome⟩) (by simp) hg
        hsettled hused
    · exact h.drop.letters
    · intro t ht
      have hmem : t ∈ s.timers.filter _ := ht
      rw [htimers] at hmem
      exact absurd hmem List.not_mem_nil
    · exact fun _ => htasks
    · intro _ _
      rw [wrote_events,
        left_of_departure (d := ⟨item, s.scheduler.generation, outcome⟩) (by simp)]
      exact h.ledger.wrote_later (Nat.lt_succ_self _)
    · nofun

lemma orderly_delivers : Delivers Orderly where
  drop _ _ _ h := h.drop
  join item := Orderly.join item
  tell state := Orderly.tell state
  arm p := Orderly.arm p
  leave := Orderly.leave

/-! ## The other moves -/

lemma entering_sublist (ms : List Message) : (s.entering ms).Sublist ms := by
  rw [entering]
  split
  · exact List.Sublist.refl ms
  · exact List.nil_sublist ms

/-- A move in which nobody leaves, and in which messages about items are sent only of the item in
flight, keeps order if that item is underway afterwards. -/
lemma Orderly.of_move {s' : Session} {deeds' : List Deed} {ms : List Message}
    (h : Orderly s.mailbox s deeds) (hscheduler : s'.scheduler = s.scheduler)
    (htimers : s'.timers.Sublist s.timers) (hmail : s'.mailbox = s.mailbox ++ s.entering ms)
    (hletters : ∀ m ∈ ms, ∀ p generation, m.about? = some (p, generation) →
      generation ≤ s.scheduler.generation)
    (hledger : Ledger deeds' s.scheduler.budget)
    (hidle : s.scheduler.inFlight = none → s'.tasks = [])
    (hclear : s.scheduler.stopped = false → s.scheduler.queue = [] →
      wrote deeds' (left deeds' + 1) = 0)
    (hbusy : ∀ c ∈ s.scheduler.inFlight, ∃ q, Underway (s.mailbox ++ s.entering ms) s' deeds' c q) :
    Orderly s'.mailbox s' deeds' where
  ledger := hscheduler ▸ hledger
  letters m hm p g hg := by
    rw [hscheduler]
    rw [hmail] at hm
    rcases List.mem_append.mp hm with hold | hnew
    · exact h.letters m hold p g hg
    · exact hletters m ((entering_sublist ms).subset hnew) p g hg
  timers t ht := by
    rw [hscheduler]
    exact h.timers t (htimers.subset ht)
  idle hf := hidle (hscheduler ▸ hf)
  clear ho hq := hclear (hscheduler ▸ ho) (hscheduler ▸ hq)
  busy c hc := by
    rw [hmail]
    exact hbusy c (hscheduler ▸ hc)

/-- A message that neither asks for time nor reports leaves an item underway. -/
lemma Underway.of_mail {s' : Session} {c : InFlight} {q : Progress} {ms : List Message}
    (h : Underway s.mailbox s deeds c q) (htasks : s'.tasks = s.tasks)
    (hscheduler : s'.scheduler = s.scheduler)
    (hms : ∀ m ∈ ms, isArmFor c.generation m = false ∧
      ∀ p outcome, m ≠ .completed p c.generation outcome) :
    Underway (s.mailbox ++ s.entering ms) s' deeds c q where
  task := by
    rw [htasks, hscheduler]
    exact h.task
  report p outcome hm := by
    rw [htasks]
    rcases List.mem_append.mp hm with hold | hnew
    · exact h.report p outcome hold
    · exact absurd rfl ((hms _ ((entering_sublist ms).subset hnew)).2 p outcome)
  arms := by
    have hnone : (s.entering ms).countP (isArmFor c.generation) = 0 := by
      rw [List.countP_eq_zero]
      intro m hm
      simp [(hms m ((entering_sublist ms).subset hm)).1]
    rw [List.countP_append, hnone]
    exact h.arms
  wrote_eq := h.wrote_eq

/-- A request of the task leaves its item underway, as far as the answer takes it. -/
lemma Underway.of_request {s' : Session} {deeds' : List Deed} {c : InFlight} {q q' : Progress}
    {task : Task} {r : Request} {may : Bool} (h : Underway s.mailbox s deeds c q)
    (hne : s.tasks ≠ []) (hallows : q.Allows may r)
    (hq' : q' = .fresh → q = .fresh ∧ r ≠ .arm)
    (htask : s'.tasks = [] ∨ ∃ task', s'.tasks = [task'] ∧ task'.generation = c.generation ∧
      ∀ plan, task'.state.plan? = some plan →
        plan.Keeps (!s'.scheduler.budget.isExhausted) Progress.Reports q')
    (hwrote : wrote deeds' c.generation = if q' = .written then 1 else 0) :
    Underway (s.mailbox ++ s.entering (task.tells r)) s' deeds' c q' where
  task := htask
  report p outcome hm := by
    rcases List.mem_append.mp hm with hold | hnew
    · exact absurd (h.report p outcome hold).1 hne
    · have hmem := (entering_sublist _).subset hnew
      cases r <;> simp [Task.tells] at hmem
  arms := by
    have harms := h.arms
    have hsent := (entering_sublist (s := s) (task.tells r)).countP_le
      (p := isArmFor c.generation)
    rw [List.countP_append]
    by_cases hr : r = .arm
    · subst hr
      have hone : ([.armTimeout task.path task.generation] : List Message).countP
          (isArmFor c.generation) ≤ 1 := List.countP_le_length
      have hq'' : q' ≠ .fresh := fun hf => (hq' hf).2 rfl
      rw [hallows.fresh_of_arm, if_pos rfl] at harms
      rw [if_neg hq'']
      simp only [Task.tells] at hsent ⊢
      omega
    · have hnone : task.tells r = [] := by cases r <;> first | rfl | exact absurd rfl hr
      rw [hnone] at hsent ⊢
      rw [List.countP_nil] at hsent
      split
      · rename_i hf
        rw [(hq' hf).1, if_pos rfl] at harms
        omega
      · split at harms <;> omega
  wrote_eq := hwrote

/-- The report of the task, with which it is gone, leaves its item underway. -/
lemma Underway.of_report {s' : Session} {c : InFlight} {q : Progress} {p : Path} {generation : Nat}
    {outcome : Outcome} (h : Underway s.mailbox s deeds c q) (hgone : s'.tasks = [])
    (hreports : q.Reports outcome) :
    Underway (s.mailbox ++ s.entering [.completed p generation outcome]) s' deeds c q where
  task := .inl hgone
  report p' outcome' hm := by
    refine ⟨hgone, ?_⟩
    rcases List.mem_append.mp hm with hold | hnew
    · exact (h.report p' outcome' hold).2
    · have hmem := List.mem_singleton.mp ((entering_sublist _).subset hnew)
      obtain ⟨-, -, rfl⟩ := Message.completed.inj hmem
      exact hreports
  arms := by
    have hsent := (entering_sublist (s := s) [.completed p generation outcome]).countP_le
      (p := isArmFor c.generation)
    have hcount : ([.completed p generation outcome] : List Message).countP
        (isArmFor c.generation) = 0 := rfl
    have harms := h.arms
    rw [List.countP_append]
    omega
  wrote_eq := h.wrote_eq

/-! ### What a request writes -/

lemma written?_eq_none {task : Task} {r : Request} {next : r.Answer → Plan Outcome}
    (hrun : Task.runnable? s.world.now task = some (.ask r next))
    (hr : ∀ record, r ≠ .insert record) : s.written? task = none := by
  rw [written?, hrun]
  cases r with
  | insert record => exact absurd rfl (hr record)
  | _ => rfl

/-- A record counts as written if the store takes it. -/
lemma written?_insert {task : Task} {record : Record} {next} {a : (Request.insert record).Answer}
    {delay : Nat} {w : World}
    (hrun : Task.runnable? s.world.now task = some (.ask (.insert record) next))
    (hreply : s.world.reply (.insert record) = (.answer a delay, w)) :
    s.written? task = a.toOption.map fun _ => record := by
  have hanswer : s.world.reply (.insert record) =
      (.answer (s.world.update .insert (·.insert record)).1 0,
        (s.world.update .insert (·.insert record)).2) := rfl
  obtain ⟨rfl, -⟩ := Reply.answer.inj (congrArg Prod.fst (hanswer.symm.trans hreply))
  rw [written?, hrun]

/-- A task that has not got to the end with an answer has written nothing with it. -/
lemma written?_of_after_ne {task : Task} {r : Request} {next : r.Answer → Plan Outcome}
    {a : r.Answer} {delay : Nat} {w : World} {q : Progress} {may : Bool}
    (hrun : Task.runnable? s.world.now task = some (.ask r next))
    (hreply : s.world.reply r = (.answer a delay, w)) (hallows : q.Allows may r)
    (hnew : q.after r a ≠ .written) : s.written? task = none := by
  by_cases hr : ∃ record, r = .insert record
  · obtain ⟨record, rfl⟩ := hr
    obtain ⟨rfl, -⟩ := hallows.of_insert
    rw [written?_insert hrun hreply]
    cases a with
    | ok => exact absurd rfl hnew
    | error => rfl
  · exact written?_eq_none hrun fun record he => hr ⟨record, he⟩

/-- What a task has written with the answer that takes it to the end. -/
lemma written?_of_after {task : Task} {r : Request} {next : r.Answer → Plan Outcome}
    {a : r.Answer} {delay : Nat} {w : World} {q : Progress} {may : Bool}
    (hrun : Task.runnable? s.world.now task = some (.ask r next))
    (hreply : s.world.reply r = (.answer a delay, w)) (hallows : q.Allows may r)
    (hwritten : q.after r a = .written) :
    ∃ record, r = .insert record ∧ s.written? task = some record := by
  obtain ⟨record, rfl⟩ := Progress.insert_of_after hallows.ne_written hwritten
  obtain ⟨rfl, -⟩ := hallows.of_insert
  refine ⟨record, rfl, ?_⟩
  rw [written?_insert hrun hreply]
  cases a with
  | ok => rfl
  | error => simp [Progress.after] at hwritten

/-! ### A task advances -/

/-- A task that lives is the only one, and that of the item in flight. -/
lemma Orderly.alone {i : Nat} {task : Task} (h : Orderly box s deeds)
    (htask : s.tasks[i]? = some task) :
    ∃ c q, s.scheduler.inFlight = some c ∧ Underway box s deeds c q ∧ i = 0 ∧
      s.tasks = [task] ∧ task.generation = c.generation ∧ ∀ plan, task.state.plan? = some plan →
        plan.Keeps (!s.scheduler.budget.isExhausted) Progress.Reports q := by
  obtain ⟨c, hc⟩ : ∃ c, s.scheduler.inFlight = some c := by
    cases hf : s.scheduler.inFlight with
    | none => simp [h.idle hf] at htask
    | some c => exact ⟨c, rfl⟩
  obtain ⟨q, hq⟩ := h.busy c hc
  rcases hq.task with hnone | ⟨only, hone, hgeneration, hconduct⟩
  · simp [hnone] at htask
  · rw [hone] at htask
    cases i with
    | zero =>
      obtain rfl : only = task := by simpa using htask
      exact ⟨c, q, hc, hq, rfl, hone, hgeneration, hconduct⟩
    | succ i => simp at htask

section

variable {s' : Session} {c : InFlight} {q q' : Progress} {task : Task}

lemma about_of_tells {r : Request} {m : Message} (hm : m ∈ task.tells r) :
    m.about? = some (task.path, task.generation) := by
  cases r with
  | arm => rw [List.mem_singleton.mp hm]; rfl
  | _ => exact absurd hm List.not_mem_nil

/-- What the task of the item in flight sends keeps order, if the item is underway afterwards. -/
lemma Orderly.of_told {deeds' : List Deed} {ms : List Message} (h : Orderly s.mailbox s deeds)
    (hsound : s.Sound deeds) (hc : s.scheduler.inFlight = some c)
    (hown : task.generation = c.generation)
    (hms : ∀ m ∈ ms, m.about? = some (task.path, task.generation))
    (hledger : Ledger deeds' s.scheduler.budget) (hscheduler : s'.scheduler = s.scheduler)
    (htimers : s'.timers = s.timers) (hmail : s'.mailbox = s.mailbox ++ s.entering ms)
    (hq' : Underway (s.mailbox ++ s.entering ms) s' deeds' c q') :
    Orderly s'.mailbox s' deeds' := by
  obtain ⟨-, hqueue, hgeneration, -⟩ := hsound.in_flight hc
  refine h.of_move hscheduler (htimers ▸ List.Sublist.refl _) hmail ?_ hledger
    (fun hf => absurd hf (by simp [hc])) (fun _ hempty => absurd hempty hqueue) ?_
  · intro m hm p generation habout
    obtain ⟨-, rfl⟩ := Prod.mk.inj (Option.some.inj ((hms m hm).symm.trans habout))
    omega
  · intro c' hc'
    obtain rfl := Option.mem_unique hc hc'
    exact ⟨q', hq'⟩

/-- A request of the task in flight by which nothing is written keeps order. -/
lemma Orderly.of_request {r : Request} {may : Bool} (h : Orderly s.mailbox s deeds)
    (hsound : s.Sound deeds) (hc : s.scheduler.inFlight = some c)
    (hq : Underway s.mailbox s deeds c q) (hne : s.tasks ≠ [])
    (hown : task.generation = c.generation) (hallows : q.Allows may r)
    (hq' : q' = .fresh → q = .fresh ∧ r ≠ .arm) (hnew : q' ≠ .written)
    (hscheduler : s'.scheduler = s.scheduler) (htimers : s'.timers = s.timers)
    (hmail : s'.mailbox = s.mailbox ++ s.entering (task.tells r))
    (htask : s'.tasks = [] ∨ ∃ task', s'.tasks = [task'] ∧ task'.generation = c.generation ∧
      ∀ plan, task'.state.plan? = some plan →
        plan.Keeps (!s'.scheduler.budget.isExhausted) Progress.Reports q') :
    Orderly s'.mailbox s' deeds := by
  refine h.of_told hsound hc hown (fun m hm => about_of_tells hm) h.ledger hscheduler htimers hmail
    (hq.of_request hne hallows hq' htask ?_)
  rw [hq.wrote_eq, if_neg hallows.ne_written, if_neg hnew]

/-- The request by which the record of the item in flight is written keeps order. -/
lemma Orderly.of_insert {record : Record} (h : Orderly s.mailbox s deeds)
    (hsound : s.Sound deeds) (hc : s.scheduler.inFlight = some c)
    (hq : Underway s.mailbox s deeds c q) (hne : s.tasks ≠ [])
    (hown : task.generation = c.generation)
    (hallows : q.Allows (!s.scheduler.budget.isExhausted) (.insert record))
    (hscheduler : s'.scheduler = s.scheduler) (htimers : s'.timers = s.timers)
    (hmail : s'.mailbox = s.mailbox ++ s.entering (task.tells (.insert record)))
    (htask : ∃ task', s'.tasks = [task'] ∧ task'.generation = c.generation ∧
      ∀ plan, task'.state.plan? = some plan →
        plan.Keeps (!s'.scheduler.budget.isExhausted) Progress.Reports .written) :
    Orderly s'.mailbox s' (deeds ++ [.wrote task.generation record]) := by
  obtain ⟨rfl, hmay⟩ := hallows.of_insert
  obtain ⟨-, -, -, hleft⟩ := hsound.in_flight hc
  have hnone : wrote deeds c.generation = 0 := hq.wrote_eq.trans rfl
  have hledger : Ledger (deeds ++ [.wrote task.generation record]) s.scheduler.budget := by
    rw [hown, hleft]
    exact h.ledger.of_write (hleft ▸ hnone) (by simpa using hmay) record
  have hwrote : wrote (deeds ++ [.wrote task.generation record]) c.generation = 1 := by
    rw [hown, wrote_append, hnone]
    simp [wrote, Deed.writes]
  have hlater : Underway (s.mailbox ++ s.entering (task.tells (.insert record))) s'
      (deeds ++ [.wrote task.generation record]) c .written :=
    hq.of_request hne hallows (by simp) (.inr htask) hwrote
  exact h.of_told hsound hc hown (fun m hm => about_of_tells hm) hledger hscheduler htimers hmail
    hlater

end

/-- **A task that advances keeps order.**  It may report and be gone; it may be answered, with its
record written or not; or it may get no answer, with which it hangs or is lost. -/
lemma Orderly.advance {i : Nat} {task : Task} {s' : Session} {plan : Plan Outcome}
    (h : Orderly s.mailbox s deeds) (hsound : s.Sound deeds) (htask : s.tasks[i]? = some task)
    (hrun : Task.runnable? s.world.now task = some plan) (hadvance : Advance s i task s') :
    Orderly s'.mailbox s' (deeds ++ (s.written? task).toList.map (.wrote task.generation)) := by
  obtain ⟨c, q, hc, hq, rfl, htasks, hown, hconduct⟩ := h.alone htask
  have hstate := runnable_plan hrun
  have hkeeps := hconduct plan hstate
  have hne : s.tasks ≠ [] := by simp [htasks]
  have hnothing (hnone : s.written? task = none) (horder : Orderly s'.mailbox s' deeds) :
      Orderly s'.mailbox s' (deeds ++ (s.written? task).toList.map (.wrote task.generation)) := by
    rwa [hnone, Option.toList_none, List.map_nil, List.append_nil]
  cases hadvance with
  | report outcome hplan =>
    obtain rfl := Option.some.inj (hstate.symm.trans hplan)
    have hnone : s.written? task = none := by rw [written?, hrun]
    refine hnothing hnone (h.of_told hsound hc hown (fun m hm => ?_) h.ledger rfl rfl rfl
      (hq.of_report (by simp [htasks]) hkeeps))
    rw [List.mem_singleton.mp hm]
    rfl
  | answered r next a delay w state hplan hreply hnextstate =>
    obtain rfl := Option.some.inj (hstate.symm.trans hplan)
    obtain ⟨hallows, hnext⟩ := hkeeps
    have htask' : ∃ task', s.tasks.set 0 { task with state := state } = [task'] ∧
        task'.generation = c.generation ∧ ∀ plan, task'.state.plan? = some plan →
          plan.Keeps (!s.scheduler.budget.isExhausted) Progress.Reports (q.after r a) := by
      refine ⟨{ task with state := state }, by simp [htasks], hown, fun plan' hplan' => ?_⟩
      obtain rfl := Option.some.inj (hnextstate.symm.trans hplan')
      exact hnext a
    by_cases hwritten : q.after r a = .written
    · obtain ⟨record, rfl, hrecord⟩ := written?_of_after hrun hreply hallows hwritten
      rw [hrecord]
      exact h.of_insert hsound hc hq hne hown hallows rfl rfl rfl (hwritten ▸ htask')
    · exact hnothing (written?_of_after_ne hrun hreply hallows hwritten)
        (h.of_request hsound hc hq hne hown hallows Progress.fresh_of_after hwritten rfl rfl rfl
          (.inr htask'))
  | hang r next w hplan hreply =>
    obtain rfl := Option.some.inj (hstate.symm.trans hplan)
    have hr : ∀ record, r ≠ .insert record := by rintro record rfl; cases hreply
    have harm : r ≠ .arm := by rintro rfl; cases hreply
    refine hnothing (written?_eq_none hrun hr) (h.of_request hsound hc hq hne hown hkeeps.1
      (fun hf => ⟨hf, harm⟩) hkeeps.1.ne_written rfl rfl rfl (.inr ?_))
    exact ⟨{ task with state := .stuck }, by simp [htasks], hown, by simp [TaskState.plan?]⟩
  | die r next w hplan hreply =>
    obtain rfl := Option.some.inj (hstate.symm.trans hplan)
    have hr : ∀ record, r ≠ .insert record := by rintro record rfl; cases hreply
    have harm : r ≠ .arm := by rintro rfl; cases hreply
    exact hnothing (written?_eq_none hrun hr) (h.of_request hsound hc hq hne hown hkeeps.1
      (fun hf => ⟨hf, harm⟩) hkeeps.1.ne_written rfl rfl rfl (.inl (by simp [htasks])))

/-- Moves that leave the tasks alone and send neither reports nor requests for time keep order. -/
lemma Orderly.of_mail {s' : Session} {ms : List Message} (h : Orderly s.mailbox s deeds)
    (hscheduler : s'.scheduler = s.scheduler) (htasks : s'.tasks = s.tasks)
    (htimers : s'.timers.Sublist s.timers) (hmail : s'.mailbox = s.mailbox ++ s.entering ms)
    (hletters : ∀ m ∈ ms, ∀ p generation, m.about? = some (p, generation) →
      generation ≤ s.scheduler.generation)
    (hms : ∀ m ∈ ms, ∀ generation, isArmFor generation m = false ∧
      ∀ p outcome, m ≠ .completed p generation outcome) :
    Orderly s'.mailbox s' deeds := by
  refine h.of_move hscheduler htimers hmail hletters h.ledger (fun hf => htasks.trans (h.idle hf))
    h.clear fun c hc => ?_
  obtain ⟨q, hq⟩ := h.busy c hc
  exact ⟨q, hq.of_mail htasks hscheduler fun m hm => hms m hm c.generation⟩

lemma about_none {m : Message} (hm : m.about? = none) (generation : Nat) :
    isArmFor generation m = false ∧ ∀ p outcome, m ≠ .completed p generation outcome := by
  cases m <;> simp_all [Message.about?, isArmFor]

lemma Orderly.deliver {m : Message} {rest : List Message} (h : Orderly s.mailbox s deeds)
    (hsound : s.Sound deeds) (hmail : s.mailbox = m :: rest)
    (hopen : s.scheduler.stopped = false) :
    Orderly (s.move .deliver).mailbox (s.move .deliver) (deeds ++ s.deeds .deliver) := by
  obtain ⟨hmove, hdeeds⟩ := move_deliver hmail hopen
  have hbox : ({ s with mailbox := rest }.deliver m).mailbox = rest :=
    (foldl_act_frame _).2.1
  have hrest : ({ s with mailbox := rest } : Session).Sound deeds := hsound.of_frame rfl rfl
  rw [hmail] at h
  have hbefore := h.of_sublist (List.Sublist.refl _) rest
  rw [hmove, hdeeds, hbox, hsound.quiet]
  by_cases hm : m = .shutdown
  · subst hm
    obtain ⟨hscheduler, htasks, htimers, hlog⟩ :=
      deliver_shutdown (s := { s with mailbox := rest }) hopen
    rw [hsound.quiet] at hlog
    constructor
    · rw [hscheduler]
      exact h.ledger.of_events hlog
    · rw [hscheduler]
      exact h.drop.letters
    · intro t ht
      rw [htimers] at ht
      obtain ⟨hold, hkept⟩ := List.mem_filter.mp ht
      obtain ⟨c, hc, htimer⟩ := Option.bind_eq_some_iff.mp (h.timers t hold)
      obtain ⟨number, hnumber, he⟩ := Option.map_eq_some_iff.mp htimer
      obtain ⟨rfl, -⟩ := LiveTimer.mk.inj he
      simp [hc, hnumber] at hkept
    · intro _
      rw [htasks]
      cases hf : s.scheduler.inFlight with
      | none => simp [h.idle hf]
      | some c =>
        obtain ⟨q, hq⟩ := h.busy c hf
        rcases hq.task with hnone | ⟨task, hone, hgeneration, -⟩
        · simp [hnone]
        · simp [hone, hgeneration]
    · intro ho
      simp [hscheduler] at ho
    · intro c hc
      simp [hscheduler] at hc
  · exact (orderly_delivers.deliver rest hrest hopen hm hbefore).2.2

lemma Orderly.move {v : Move} (hv : v.Legal) (hsound : s.Sound deeds)
    (h : Orderly s.mailbox s deeds) :
    Orderly (s.move v).mailbox (s.move v) (deeds ++ s.deeds v) := by
  have hnothing (hdeeds : s.deeds v = []) (hmove : Orderly (s.move v).mailbox (s.move v) deeds) :
      Orderly (s.move v).mailbox (s.move v) (deeds ++ s.deeds v) := by
    rwa [hdeeds, List.append_nil]
  cases v with
  | deliver =>
    obtain hnone | ⟨m, rest, hmail, hopen⟩ := s.delivery_cases
    · obtain ⟨hmove, hdeeds⟩ := move_deliver_nothing hsound hnone
      refine hnothing hdeeds ?_
      rw [hmove]
      exact h.of_sublist (List.nil_sublist _) []
    · exact h.deliver hsound hmail hopen
  | task i =>
    rcases move_task s i with ⟨hmove, hdeeds⟩ | ⟨task, plan, htask, hrun, hadvance, hdeeds⟩
    · exact hnothing hdeeds (by rw [hmove]; exact h)
    · rw [hdeeds]
      exact h.advance hsound htask hrun hadvance
  | timer i =>
    refine hnothing rfl ?_
    rcases move_timer s i with hmove | ⟨timer, htimer, hmove⟩
    · rw [hmove]
      exact h
    · rw [hmove, send_eq]
      have hown := h.timers timer (List.mem_of_getElem? htimer)
      refine h.of_mail rfl rfl (List.eraseIdx_sublist ..) rfl ?_ ?_
      · intro m hm p generation habout
        obtain rfl := List.mem_singleton.mp hm
        obtain ⟨-, rfl⟩ := Prod.mk.inj (Option.some.inj habout)
        obtain ⟨c, hc, htimer⟩ := Option.bind_eq_some_iff.mp hown
        obtain ⟨number, -, he⟩ := Option.map_eq_some_iff.mp htimer
        have hgeneration := (hsound.in_flight hc).2.2.1
        have hsame := (LiveTimer.mk.inj he).2
        omega
      · intro m hm generation
        obtain rfl := List.mem_singleton.mp hm
        exact ⟨rfl, nofun⟩
  | gate | send =>
    refine hnothing rfl ?_
    obtain ⟨gate, watching, calls, ms, hms, hmove⟩ := move_outside s hv (by simp)
    rw [hmove, sendAll_eq]
    exact h.of_mail rfl rfl (List.Sublist.refl _) rfl (fun m hm _ _ ha => by simp [hms m hm] at ha)
      (fun m hm => about_none (hms m hm))
  | become w =>
    refine hnothing rfl ?_
    have hmail : (s.move (.become w)).mailbox = s.mailbox ++ s.entering [] := by
      simp [Session.move, entering]
    exact h.of_mail rfl rfl (List.Sublist.refl _) hmail (by simp) (by simp)

/-! ## Sessions -/

/-- A session with a fresh scheduler, and with a gate or without. -/
def starting (world : World) (c : Config) (backends : Backends)
    (gate : Option (Worker × Gate × Nat)) : Session :=
  { ofScheduler world c backends with gate := gate }

lemma sound_starting (world : World) (c : Config) (backends : Backends)
    (gate : Option (Worker × Gate × Nat)) : (starting world c backends gate).Sound [] :=
  (sound_start world c backends).of_frame rfl rfl

lemma orderly_starting (world : World) (c : Config) (backends : Backends)
    (gate : Option (Worker × Gate × Nat)) : Orderly [] (starting world c backends gate) [] where
  ledger := ledger_nil _
  letters := by simp
  timers := by simp [starting, ofScheduler]
  idle _ := rfl
  clear _ _ := rfl
  busy := nofun

/-- **What is counted is what was done, but for lost races.**  Take any session that starts afresh,
and any moves of its parties.  Of the items that left the queue,

* one that is counted as annotated has written exactly one record, one that ended otherwise none,
  and one whose time ran out at most one;
* and every record was written for the item that was in flight, so never after it had left.

A race is lost by an item whose time ran out when it had written its record already.  When the
queue is empty, the records written are as many as the items annotated and the races lost; so they
are as many as the items annotated exactly if no item whose time ran out has written.  The budget
counts the annotated items, up to the largest number that it can hold.  And at every moment the
records written exceed the limit by no more than the races lost. -/
theorem records_written_are_counted_or_raced (world : World) (c : Config) (backends : Backends)
    (gate : Option (Worker × Gate × Nat)) (vs : List Move) (hvs : ∀ v ∈ vs, v.Legal) :
    let s := (starting world c backends gate).moveAll vs
    let deeds := (starting world c backends gate).history vs
    let F := departures (Deed.log deeds)
    (∀ d ∈ F,
      (fate? d.outcome = some .annotated → wrote deeds d.generation = 1) ∧
      (d.outcome ≠ none → fate? d.outcome ≠ some .annotated → wrote deeds d.generation = 0) ∧
      (d.outcome = none → wrote deeds d.generation ≤ 1)) ∧
    (∀ before generation r after, deeds = before ++ .wrote generation r :: after →
      generation = (departures (Deed.log before)).length + 1) ∧
    (s.scheduler.tally.annotated = ended F (some .annotated) ∧
      s.scheduler.tally.timedOut = ended F (some .timedOut) ∧
      s.scheduler.budget.used.toNat = min s.scheduler.tally.annotated (2 ^ 32 - 1)) ∧
    (s.scheduler.stopped = false → s.scheduler.queue = [] →
      (Deed.writes deeds).length = s.scheduler.tally.annotated + raced deeds ∧
      ((Deed.writes deeds).length = s.scheduler.tally.annotated ↔
        ∀ d ∈ F, d.outcome = none → wrote deeds d.generation = 0)) ∧
    ∀ limit ∈ c.indexingLimit, (Deed.writes deeds).length ≤ limit.toNat + raced deeds := by
  intro s deeds F
  obtain ⟨hsound, horderly, hlimit⟩ : s.Sound deeds ∧ Orderly s.mailbox s deeds ∧
      s.scheduler.budget.limit = c.indexingLimit :=
    moveAll_induction
      (P := fun s deeds => s.Sound deeds ∧ Orderly s.mailbox s deeds ∧
        s.scheduler.budget.limit = c.indexingLimit)
      (fun s deeds v hv h => ⟨h.1.move v, h.2.1.move hv h.1, (move_limit v).trans h.2.2⟩) hvs []
      ⟨sound_starting world c backends gate, orderly_starting world c backends gate, rfl⟩
  have hledger := horderly.ledger
  have hannotated : s.scheduler.tally.annotated = ended F (some .annotated) :=
    hsound.tallied.counted_eq .annotated
  refine ⟨fun d hd => ?_, ?_, ⟨hannotated, hsound.tallied.counted_eq .timedOut,
    hsound.tallied.used_eq⟩, fun hopen hqueue => ?_, fun limit hl => ?_⟩
  · have hsettled := hledger.settled d hd
    refine ⟨fun hfate => ?_, fun houtcome hfate => ?_, fun houtcome => ?_⟩
    · rwa [Settled, hfate] at hsettled
    · rw [hsettled.eq, if_neg hfate]
      cases ho : d.outcome <;> simp_all
    · rwa [Settled, houtcome] at hsettled
  · intro before generation r after hdeeds
    exact Always.at_event (hdeeds ▸ hledger.prompt)
  · have hsum := hledger.length_writes
    rw [horderly.clear hopen hqueue, Nat.add_zero, ← hannotated] at hsum
    refine ⟨hsum, ?_⟩
    rw [← hledger.raced_eq_zero]
    omega
  · exact hledger.length_writes_le hsound.used_eq (hlimit ▸ hl)

/-! ### A lost race -/

/-- The path `/a.png`. -/
def pathA : Path := ⟨[0x2F, 0x61, 0x2E, 0x70, 0x6E, 0x67]⟩

/-- The path `/b.png`. -/
def pathB : Path := ⟨[0x2F, 0x62, 0x2E, 0x70, 0x6E, 0x67]⟩

/-- Pictures at the two paths, which text recognition answers at once. -/
def twoPictures : World where
  now := 0
  files :=
    let png : List UInt8 := [0x89, 0x50, 0x4E, 0x47, 0x0D, 0x0A, 0x1A, 0x0A]
    ⟨[([[0x61, 0x2E, 0x70, 0x6E, 0x67]], .file ⟨png, 16⟩ 0),
      ([[0x62, 0x2E, 0x70, 0x6E, 0x67]], .file ⟨png, 16⟩ 0)]⟩
  store := Store.new
  refused := []
  ocr := ⟨some 0, []⟩
  classifier := ⟨some 0, []⟩
  decoder := .scripted [] []
  calls := []

/-- A configuration that allows one picture. -/
def onePicture : Config :=
  { Config.forRoot ⟨[Path.slash]⟩ with
    indexingLimit := some 1, confidenceThreshold := Single.zero, stopWords := [] }

/-- Both pictures are submitted.  The time of the first runs out when its picture is decoded and
its text is yet to be recognised; the task goes on to write the record before the scheduler looks
into its mailbox.  The second picture is annotated in peace. -/
def lostRace : List Move :=
  -- seven requests lead to the decoded picture, two more to the record
  List.flatten [[.send (.submit pathA), .send (.submit pathB), .deliver, .deliver],
    List.replicate 7 (.task 0),
    [.deliver, .become { twoPictures with now := 120000 }, .timer 0, .task 0, .task 0, .deliver],
    List.replicate 7 (.task 0), [.deliver, .task 0, .task 0, .task 0, .deliver]]

/-- The counts of a lost race: of two records one was lost. -/
theorem records_written_in_lost_race :
    let s := (starting twoPictures onePicture ⟨true, false⟩ none).moveAll lostRace
    let deeds := (starting twoPictures onePicture ⟨true, false⟩ none).history lostRace
    (∀ v ∈ lostRace, v.Legal) ∧ s.scheduler.stopped = false ∧ s.scheduler.queue = [] ∧
      (Deed.writes deeds).length = s.scheduler.tally.annotated + raced deeds ∧
      (Deed.writes deeds).length ≤ 1 + raced deeds := by
  intro s deeds
  have hlegal : ∀ v ∈ lostRace, v.Legal := by decide +kernel
  obtain ⟨-, -, -, hidle, hlimit⟩ := records_written_are_counted_or_raced twoPictures onePicture
    ⟨true, false⟩ none lostRace hlegal
  have hopen : s.scheduler.stopped = false := by decide +kernel
  have hqueue : s.scheduler.queue = [] := by decide +kernel
  exact ⟨hlegal, hopen, hqueue, (hidle hopen hqueue).1, hlimit 1 rfl⟩

/-- An item that is counted as timed out may have written its record, so that more records are
written than items are annotated, and more than the limit allows: here two where one is allowed. -/
theorem timed_out_item_wrote_record :
    let s := (starting twoPictures onePicture ⟨true, false⟩ none).moveAll lostRace
    let deeds := (starting twoPictures onePicture ⟨true, false⟩ none).history lostRace
    (∀ v ∈ lostRace, v.Legal) ∧ twoPictures.refused = [] ∧ s.scheduler.stopped = false ∧
      s.scheduler.queue = [] ∧ onePicture.indexingLimit = some 1 ∧
      (departures (Deed.log deeds)).map (fun d => (fate? d.outcome, wrote deeds d.generation)) =
        [(some .timedOut, 1), (some .annotated, 1)] ∧
      s.scheduler.tally.timedOut = 1 ∧ s.scheduler.tally.annotated = 1 ∧
      s.scheduler.budget.used = 1 ∧ (Deed.writes deeds).length = 2 := by
  decide +kernel

end Session

end PictureIndex.Simulation
