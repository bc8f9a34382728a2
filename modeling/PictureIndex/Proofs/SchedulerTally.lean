import PictureIndex.Proofs.SchedulerTurns
/-!
# The counts of the scheduler

Whatever ends an item is counted in one place of the tally, except for the items that only led to
others, which are not counted beyond being processed.  `Fate` names the places, and `Tallied` says
that the counts are those of the departures in the log.  The budget counts annotated items too, up
to the largest number it can hold.
-/

namespace PictureIndex

open Log

/-- The ends of an item that are counted. -/
inductive Fate
  | annotated
  | removed
  | skipped
  | failed
  | timedOut
deriving DecidableEq, Repr

/-- What becomes of an item with an outcome, or without one; nothing if it only led to others. -/
def fate? : Option Outcome → Option Fate
  | none => some .timedOut
  | some (.expanded _) | some (.staleDescendants _) => none
  | some .removed => some .removed
  | some .rejected | some (.skipped _) => some .skipped
  | some (.annotated _) => some .annotated
  | some (.failed _) => some .failed

/-- The count of a fate. -/
def Tally.counted (t : Tally) : Fate → Nat
  | .annotated => t.annotated
  | .removed => t.removed
  | .skipped => t.skipped
  | .failed => t.failed
  | .timedOut => t.timedOut

/-- How many of some departures came to an end. -/
def ended (F : List Departure) (fate : Option Fate) : Nat :=
  F.countP fun d => fate? d.outcome = fate

lemma ended_append (F F' : List Departure) (fate : Option Fate) :
    ended (F ++ F') fate = ended F fate + ended F' fate :=
  List.countP_append

lemma ended_cons (d : Departure) (F : List Departure) (fate : Option Fate) :
    ended (d :: F) fate = ended F fate + if fate? d.outcome = fate then 1 else 0 := by
  simp [ended, List.countP_cons]

/-- Each departure has one fate. -/
lemma length_eq_ended (F : List Departure) :
    F.length = ended F (some .annotated) + ended F (some .removed) + ended F (some .skipped) +
      ended F (some .failed) + ended F (some .timedOut) + ended F none := by
  induction F with
  | nil => rfl
  | cons d F ih =>
    simp only [ended_cons, List.length_cons]
    rcases fate? d.outcome with _ | (_ | _ | _ | _ | _) <;> simp <;> omega

lemma Budget.toNat_used_spend (b : Budget) :
    b.spend.used.toNat = min (b.used.toNat + 1) (2 ^ 32 - 1) := by
  have hlt := b.used.toNat_lt
  simp only [Budget.spend, UInt32.size]
  split
  · rw [UInt32.toNat_add]
    simp
    omega
  · omega

namespace Scheduler

variable {s : Scheduler} {now : Nat}

lemma counted_count (s : Scheduler) (outcome : Option Outcome) (fate : Fate) :
    (s.count outcome).tally.counted fate =
      s.tally.counted fate + if fate? outcome = some fate then 1 else 0 := by
  rcases outcome with _ | (_ | _ | _ | _ | _ | _ | _) <;> cases fate <;> rfl

lemma budget_count (s : Scheduler) (outcome : Option Outcome) :
    (s.count outcome).budget =
      if fate? outcome = some .annotated then s.budget.spend else s.budget := by
  rcases outcome with _ | (_ | _ | _ | _ | _ | _ | _) <;> rfl

/-- The tally and the budget count what the log tells. -/
structure Tallied (s : Scheduler) : Prop where
  /-- All that left were counted. -/
  processed_eq : s.tally.processed = (departures s.events).length
  /-- Each fate was counted. -/
  counted_eq : ∀ fate, s.tally.counted fate = ended (departures s.events) (some fate)
  /-- The budget counted as far as it can. -/
  used_eq : s.budget.used.toNat = min s.tally.annotated (2 ^ 32 - 1)

lemma tallied_new (excluded : List String) (limit : Option UInt32) :
    (new excluded limit).Tallied :=
  ⟨rfl, fun fate => by cases fate <;> rfl, rfl⟩

/-- Turns that let nothing leave keep the counts. -/
lemma Tallied.of_frame {s' : Scheduler} (h : s.Tallied) (htally : s'.tally = s.tally)
    (hbudget : s'.budget = s.budget) (hlog : departures s'.events = departures s.events) :
    s'.Tallied := by
  constructor
  · rw [htally, hlog]; exact h.processed_eq
  · rw [htally, hlog]; exact h.counted_eq
  · rw [htally, hbudget]; exact h.used_eq

lemma Tallied.of_departure {s' : Scheduler} (h : s.Tallied) {d : Departure}
    (hprocessed : s'.tally.processed = s.tally.processed + 1)
    (hcounted : ∀ fate, s'.tally.counted fate = (s.count d.outcome).tally.counted fate)
    (hbudget : s'.budget = (s.count d.outcome).budget)
    (hlog : departures s'.events = departures s.events ++ [d]) : s'.Tallied := by
  constructor
  · rw [hprocessed, hlog, h.processed_eq, List.length_append, List.length_singleton]
  · intro fate
    rw [hcounted, counted_count, hlog, ended_append, h.counted_eq]
    simp [ended, List.countP_cons]
  · have hannotated := (hcounted .annotated).trans (counted_count s d.outcome .annotated)
    simp only [Tally.counted] at hannotated
    rw [hbudget, budget_count, hannotated]
    have hused := h.used_eq
    split
    · rw [Budget.toNat_used_spend]
      omega
    · exact hused

lemma Tallied.turn (hd : s.Tallied) (h : s.Coherent) {t : Turn} (ht : t.Fits s) :
    (s.turn now t).Tallied := by
  obtain ⟨log, s', hs, he⟩ := h.shift now ht
  rw [he]
  cases hs with
  | wait item hq hs => subst hs; exact hd.of_frame rfl rfl (by simp)
  | begin item hq hs => subst hs; exact hd.of_frame rfl rfl (by simp)
  | arm p hq hf hs => subst hs; exact hd.of_frame rfl rfl (by simp)
  | tell state hs => subst hs; exact hd.of_frame rfl rfl (by simp)
  | next outcome item front hq hf hs =>
    subst hs
    exact hd.of_departure (d := ⟨item, s.generation, outcome⟩) rfl
      (fun fate => by cases fate <;> rfl) rfl (by simp)
  | last outcome item hq hf hstart hs =>
    subst hs
    exact hd.of_departure (d := ⟨item, s.generation, outcome⟩) rfl
      (fun fate => by cases fate <;> rfl) rfl (by simp)

/-! ## The limit -/

lemma turn_limit (t : Turn) : (s.turn now t).budget.limit = s.budget.limit := by
  have hpump (s : Scheduler) : (s.pump now).budget = s.budget := by
    rw [pump]
    split
    · rfl
    · rw [drain]; split <;> rfl
    · rfl
  cases t with
  | join item =>
    simp only [turn, push, publish, emit]
    split
    · rw [hpump]
    · rfl
  | arm p generation =>
    simp only [turn, setTimer]
    split <;> rfl
  | tell state => rfl
  | leave outcome =>
    have hcount : (s.count outcome).budget.limit = s.budget.limit := by
      rw [budget_count]
      split <;> rfl
    rw [turn, leave]
    split
    · simp only [publish, emit, hpump]
      split <;> split <;> exact hcount
    · exact hcount

lemma handle_limit (m : Message) : (s.handle now m).budget.limit = s.budget.limit := by
  have hturns (ts : List Turn) (s : Scheduler) :
      (s.turnAll now ts).budget.limit = s.budget.limit := by
    induction ts generalizing s with
    | nil => rfl
    | cons t ts ih => rw [turnAll_cons, ih, turn_limit]
  cases hs : s.stopped with
  | true => simp [handle, hs]
  | false =>
    by_cases hm : m = .shutdown
    · subst hm
      rw [handle_shutdown hs, stop]
      rcases s.inFlight with _ | ⟨path, generation, _ | timer⟩ <;> rfl
    · rw [handle_eq_turns hs hm, hturns]

end Scheduler

end PictureIndex
