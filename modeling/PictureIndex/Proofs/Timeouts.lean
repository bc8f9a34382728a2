import PictureIndex.Proofs.Chronology
/-!
# Whose time runs out

The time of an item is limited only once its task has asked for that.  The request travels as a
message, then as a timer, then as the message of the timer that went off, until the item leaves
without an outcome.  `Clocked` says of each of these that it goes back to a request; so an item
whose plan never asks for its time to run does not leave before it is done (`asked_of_left`).
-/

namespace PictureIndex

open Log

/-- The generation whose time a message is about. -/
def Message.clock? : Message → Option Nat
  | .armTimeout _ generation | .timedOut _ generation => some generation
  | _ => none

lemma Message.clock?_of_about {m : Message} (h : m.about? = none) : m.clock? = none := by
  cases m with
  | armTimeout p generation => cases h
  | timedOut p generation => cases h
  | _ => rfl

namespace Simulation.Session

open Scheduler (Turn)

variable {s : Session} {deeds : List Deed} {box : List Message} {asked : Nat → Prop}

/-- Everything that is about the time of an item goes back to a request, where `box` is the mail
that is still to be handled. -/
structure Clocked (asked : Nat → Prop) (box : List Message) (s : Session) (deeds : List Deed) :
    Prop where
  /-- Mail does. -/
  mail : ∀ m ∈ box, ∀ generation ∈ m.clock?, asked generation
  /-- Timers do. -/
  timers : ∀ t ∈ s.timers, asked t.generation
  /-- So do items that have left without an outcome. -/
  left : ∀ d ∈ departures (Deed.log deeds), d.outcome = none → asked d.generation

/-! ## Deliveries -/

lemma Clocked.drop {m : Message} (h : Clocked asked (m :: box) s deeds) :
    Clocked asked box s deeds :=
  ⟨fun m' hm' => h.mail m' (List.mem_cons_of_mem m hm'), h.timers, h.left⟩

/-- A turn sets a timer only for whom it is asked to, and lets the time run out only of the item in
flight. -/
lemma Clocked.turn (h : Clocked asked box s deeds) (hsound : s.Sound deeds)
    (hopen : s.scheduler.stopped = false) {t : Turn} (ht : t.Fits s.scheduler)
    (harm : ∀ p generation, t = .arm p generation → asked generation)
    (hleave : t = .leave none → asked s.scheduler.generation) :
    Clocked asked box (s.turn t) (deeds ++ s.said t) := by
  obtain ⟨log, next, hshift, -, hsaid, hturn⟩ := turn_eq (hsound.coherent hopen) hsound.quiet ht
  have hquiet (hlog : departures log = []) : ∀ d ∈ departures (Deed.log (deeds ++ log.map .event)),
      d.outcome = none → asked d.generation := by
    rw [departures_events_of_nil hlog]
    exact h.left
  have hdeparted (item : Item) (outcome : Option Outcome) (hout : t = .leave outcome)
      (hlog : departures log = [⟨item, s.scheduler.generation, outcome⟩]) :
      ∀ d ∈ departures (Deed.log (deeds ++ log.map .event)), d.outcome = none →
        asked d.generation := by
    rw [departures_events, hlog]
    intro d hd hnone
    rcases List.mem_append.mp hd with hold | hnew
    · exact h.left d hold hnone
    · obtain rfl := List.mem_singleton.mp hnew
      obtain rfl : outcome = none := hnone
      exact hleave hout
  rw [hsaid, hturn]
  cases hshift with
  | wait _ hq hs => exact ⟨h.mail, h.timers, hquiet rfl⟩
  | begin _ hq hs => exact ⟨h.mail, h.timers, hquiet rfl⟩
  | tell _ hs => exact ⟨h.mail, h.timers, hquiet rfl⟩
  | @arm p item rest timer _ hq hf hs =>
    have hset : asked s.scheduler.generation := harm p _ rfl
    refine ⟨h.mail, fun x hx => ?_, hquiet (by cases timer <;> rfl)⟩
    have hmem : x ∈ s.timers ∨ x.generation = s.scheduler.generation := by
      cases timer with
      | none =>
        refine (List.mem_append.mp hx).imp_right fun hnew => ?_
        rw [List.mem_singleton.mp hnew]
      | some number =>
        refine (List.mem_append.mp (List.mem_filter.mp hx).1).imp_right fun hnew => ?_
        rw [List.mem_singleton.mp hnew]
    rcases hmem with hold | hnew
    · exact h.timers x hold
    · exact hnew ▸ hset
  | @next outcome item front rest timer _ hq hf hs =>
    refine ⟨h.mail, fun x hx => ?_, hdeparted item outcome rfl ?_⟩
    · rw [List.foldl_append, foldl_act_farewell] at hx
      exact h.timers x (List.mem_filter.mp hx).1
    · simp
  | @last outcome item timer start _ hq hf hd hs =>
    refine ⟨h.mail, fun x hx => ?_, hdeparted item outcome rfl ?_⟩
    · rw [List.foldl_append, foldl_act_farewell] at hx
      exact h.timers x (List.mem_filter.mp hx).1
    · simp

lemma clocked_delivers : Delivers (Clocked asked) where
  drop _ _ _ h := h.drop
  join _ hsound hopen h := h.turn hsound hopen trivial nofun nofun
  tell _ hsound hopen h := h.turn hsound hopen trivial nofun nofun
  arm p hsound hopen hqueue h := by
    refine h.drop.turn hsound hopen ⟨hqueue, rfl⟩ (fun q generation harm => ?_) nofun
    obtain ⟨-, rfl⟩ := Turn.arm.inj harm
    exact h.mail _ List.mem_cons_self _ rfl
  leave {m} {box s deeds outcome} hsound hopen hqueue hends h := by
    refine h.drop.turn hsound hopen hqueue nofun fun hnone => ?_
    obtain rfl := Turn.leave.inj hnone
    cases m with
    | timedOut p generation => exact hends.1 ▸ h.mail _ List.mem_cons_self _ rfl
    | completed p generation outcome => cases hends.2
    | _ => exact absurd hends id

/-! ## The other moves -/

/-- Mail about the time of items is added on request only. -/
lemma Clocked.of_mail {s' : Session} {deeds' : List Deed} {ms : List Message}
    (h : Clocked asked s.mailbox s deeds) (hmail : s'.mailbox = s.mailbox ++ s.entering ms)
    (htimers : ∀ t ∈ s'.timers, t ∈ s.timers) (hlog : Deed.log deeds' = Deed.log deeds)
    (hms : ∀ m ∈ ms, ∀ generation ∈ m.clock?, asked generation) :
    Clocked asked s'.mailbox s' deeds' where
  mail m hm := by
    rw [hmail] at hm
    rcases List.mem_append.mp hm with hold | hnew
    · exact h.mail m hold
    · exact hms m ((entering_sublist ms).subset hnew)
  timers t ht := h.timers t (htimers t ht)
  left := by
    rw [hlog]
    exact h.left

lemma Clocked.deliver (h : Clocked asked s.mailbox s deeds) (hsound : s.Sound deeds) :
    Clocked asked (s.move .deliver).mailbox (s.move .deliver) (deeds ++ s.deeds .deliver) := by
  obtain hnone | ⟨m, rest, hmail, hopen⟩ := s.delivery_cases
  · obtain ⟨hmove, hdeeds⟩ := move_deliver_nothing hsound hnone
    rw [hmove, hdeeds, List.append_nil]
    exact ⟨nofun, h.timers, h.left⟩
  obtain ⟨hmove, hdeeds⟩ := move_deliver hmail hopen
  have hbox : ({ s with mailbox := rest }.deliver m).mailbox = rest := (foldl_act_frame _).2.1
  have hrest : ({ s with mailbox := rest } : Session).Sound deeds := hsound.of_frame rfl rfl
  have hbefore : Clocked asked (m :: rest) { s with mailbox := rest } deeds :=
    ⟨hmail ▸ h.mail, h.timers, h.left⟩
  rw [hmove, hdeeds, hbox, hsound.quiet]
  by_cases hm : m = .shutdown
  · subst hm
    obtain ⟨-, -, htimers, hlog⟩ := deliver_shutdown (s := { s with mailbox := rest }) hopen
    rw [hsound.quiet] at hlog
    refine ⟨hbefore.drop.mail, fun t ht => ?_, ?_⟩
    · rw [htimers] at ht
      exact h.timers t (List.mem_filter.mp ht).1
    · rw [departures_events_of_nil hlog]
      exact h.left
  · exact (clocked_delivers.deliver rest hrest hopen hm hbefore).2.2

theorem Clocked.move {v : Move} (h : Clocked asked s.mailbox s deeds) (hlegal : v.Legal)
    (hsound : s.Sound deeds)
    (hasked : ∀ generation, s.asked? v = some (generation, .arm) → asked generation) :
    Clocked asked (s.move v).mailbox (s.move v) (deeds ++ s.deeds v) := by
  by_cases hv : v = .deliver
  · subst hv
    exact h.deliver hsound
  have hlog : Deed.log (deeds ++ s.deeds v) = Deed.log deeds := by
    rw [Deed.log_append, (move_scheduler hv).2, List.append_nil]
  have hkept {s' : Session} (hmail : s'.mailbox = s.mailbox) (htimers : s'.timers = s.timers) :
      Clocked asked s'.mailbox s' (deeds ++ s.deeds v) :=
    ⟨hmail ▸ h.mail, htimers ▸ h.timers, hlog ▸ h.left⟩
  have hnone (ms : List Message) (hms : ∀ m ∈ ms, m.about? = none) :
      ∀ m ∈ ms, ∀ generation ∈ m.clock?, asked generation := by
    intro m hm generation hgeneration
    cases (Message.clock?_of_about (hms m hm)).symm.trans hgeneration
  cases v with
  | deliver => exact absurd rfl hv
  | task i =>
    rcases move_task s i with ⟨hmove, -⟩ | ⟨task, plan, htask, hrun, hadvance, -⟩
    · rw [hmove]
      exact hkept rfl rfl
    -- only the request for time is told to the scheduler
    have htells {r : Request} {next : r.Answer → Plan Outcome}
        (hplan : task.state.plan? = some (.ask r next)) :
        ∀ m ∈ task.tells r, ∀ generation ∈ m.clock?, asked generation := by
      intro m hm generation hgeneration
      obtain rfl := Option.some.inj ((runnable_plan hrun).symm.trans hplan)
      cases r with
      | arm =>
        rw [List.mem_singleton.mp hm] at hgeneration
        obtain rfl := Option.some.inj hgeneration
        exact hasked _ (by rw [asked?_eq, put?_task htask hrun]; rfl)
      | _ => exact absurd hm List.not_mem_nil
    generalize s.move (.task i) = s' at hadvance
    cases hadvance with
    | report outcome hplan =>
      exact h.of_mail rfl (fun _ ht => ht) hlog (by simp [Message.clock?])
    | answered r next a delay w state hplan =>
      exact h.of_mail rfl (fun _ ht => ht) hlog (htells hplan)
    | hang r next w hplan => exact h.of_mail rfl (fun _ ht => ht) hlog (htells hplan)
    | die r next w hplan => exact h.of_mail rfl (fun _ ht => ht) hlog (htells hplan)
  | timer i =>
    rcases move_timer s i with hmove | ⟨timer, htimer, hmove⟩
    · rw [hmove]
      exact hkept rfl rfl
    · rw [hmove, send_eq]
      refine h.of_mail rfl (fun t ht => List.mem_of_mem_eraseIdx ht) hlog fun m hm => ?_
      rw [List.mem_singleton.mp hm]
      intro generation hgeneration
      obtain rfl := Option.some.inj hgeneration
      exact h.timers timer (List.mem_of_getElem? htimer)
  | gate | send =>
    obtain ⟨gate, watching, calls, ms, hms, hmove⟩ := move_outside s hlegal (by simp)
    rw [hmove, sendAll_eq]
    exact h.of_mail rfl (fun _ ht => ht) hlog (hnone ms hms)
  | become w => exact hkept rfl rfl

/-! ## Runs -/

/-- **The time of an item runs out only if its task has asked for it to run.** -/
theorem asked_of_left (world : World) (c : Config) (backends : Backends)
    (gate : Option (Worker × Gate × Nat)) {moves : Nat → Move} {n : Nat}
    (hlegal : ∀ k < n, (moves k).Legal) {d : Departure}
    (hd : d ∈ (starting world c backends gate).finished moves n) (hnone : d.outcome = none) :
    ∃ k < n, ((starting world c backends gate).after moves k).asked? (moves k) =
      some (d.generation, .arm) := by
  let asked (generation : Nat) : Prop := ∃ k < n,
    ((starting world c backends gate).after moves k).asked? (moves k) = some (generation, .arm)
  have hclocked (k : Nat) (hk : k ≤ n) : Clocked asked
      ((starting world c backends gate).after moves k).mailbox
      ((starting world c backends gate).after moves k)
      ((starting world c backends gate).chronicle moves k) := by
    induction k with
    | zero => exact ⟨nofun, nofun, nofun⟩
    | succ k ih =>
      refine (ih (by omega)).move (hlegal k (by omega)) ?_ fun generation h => ⟨k, by omega, h⟩
      exact (budgeted_after world c backends gate fun j hj => hlegal j (by omega)).sound
  exact (hclocked n (Nat.le_refl n)).left d hd hnone

end Simulation.Session

end PictureIndex
