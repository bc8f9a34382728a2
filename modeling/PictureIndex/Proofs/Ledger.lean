import PictureIndex.Proofs.Deliveries
/-!
# The ledger of a session

What was done is told by the deeds of a session: who left the queue and how, and which item's
task wrote a record.  A ledger is right if

* an item that was counted as annotated has written one record, an item whose time ran out at most
  one, and any other item none;
* records were written only for items that left and for the one after them, for which at most one
  was written, and only while the budget lasted;
* no more items were annotated than the limit allows.

`Ledger.length_writes` adds this up: the records written are as many as the items annotated, but
for those that were written for an item whose time then ran out (`raced`), and for the one that
may have been written for the item in flight.
-/

namespace PictureIndex.Simulation

open Log

/-- How many records were written for a generation. -/
def wrote (deeds : List Deed) (generation : Nat) : Nat :=
  (Deed.writes deeds).countP (·.1 = generation)

/-- Whether an item that ended in some way has written as many records as it may have. -/
def Settled (records : Nat) (outcome : Option Outcome) : Prop :=
  match fate? outcome with
  | some .annotated => records = 1
  | some .timedOut => records ≤ 1
  | _ => records = 0

/-- A record may be written for the item after those that have left, which is the one in flight. -/
def Prompt (before : List Deed) : Deed → Prop
  | .wrote generation _ => generation = left before + 1
  | .event _ => True

/-- The number of items whose time ran out when their record was written already. -/
def raced (deeds : List Deed) : Nat :=
  (departures (Deed.log deeds)).countP fun d => d.outcome.isNone && wrote deeds d.generation == 1

/-- The deeds are in order, and the budget agrees with them. -/
structure Ledger (deeds : List Deed) (budget : Budget) : Prop where
  /-- The items left under successive generations. -/
  generations_eq : (departures (Deed.log deeds)).map (·.generation) = List.range' 1 (left deeds)
  /-- Each of them has written what it may have. -/
  settled : ∀ d ∈ departures (Deed.log deeds), Settled (wrote deeds d.generation) d.outcome
  /-- Nothing was written for an item that was not in flight. -/
  prompt : Always Prompt [] deeds
  /-- So nothing was written but for those that left and for the next one. -/
  bounded : ∀ w ∈ Deed.writes deeds, 1 ≤ w.1 ∧ w.1 ≤ left deeds + 1
  /-- For the next one, one record at most was written. -/
  unsettled : wrote deeds (left deeds + 1) ≤ 1
  /-- It was written within the budget. -/
  within : wrote deeds (left deeds + 1) = 1 → budget.isExhausted = false
  /-- The limit is kept. -/
  annotated_le : ∀ limit ∈ budget.limit,
    ended (departures (Deed.log deeds)) (some .annotated) ≤ limit.toNat

variable {deeds deeds' : List Deed} {budget : Budget}

lemma ledger_nil (limit : Option UInt32) : Ledger [] (Budget.ofLimit limit) where
  generations_eq := rfl
  settled := by simp
  prompt := trivial
  bounded := by simp
  unsettled := Nat.zero_le _
  within h := absurd h (by decide)
  annotated_le _ _ := Nat.zero_le _

lemma wrote_append (generation : Nat) :
    wrote (deeds ++ deeds') generation = wrote deeds generation + wrote deeds' generation := by
  rw [wrote, Deed.writes_append, List.countP_append]
  rfl

lemma wrote_events (log : List Event) (generation : Nat) :
    wrote (deeds ++ log.map .event) generation = wrote deeds generation := by
  simp [wrote]

lemma prompt_events (before : List Deed) (log : List Event) :
    Always Prompt before (log.map .event) := by
  refine always_of_forall fun e he _ => ?_
  obtain ⟨_, -, rfl⟩ := List.mem_map.mp he
  trivial

lemma left_of_departure {log : List Event} {d : Departure} (hlog : departures log = [d]) :
    left (deeds ++ log.map .event) = left deeds + 1 := by
  simp [left, hlog]

/-- Events of which none is a departure change nothing. -/
lemma Ledger.of_events (h : Ledger deeds budget) {log : List Event} (hlog : departures log = []) :
    Ledger (deeds ++ log.map .event) budget := by
  have hleft : left (deeds ++ log.map .event) = left deeds := by simp [left, hlog]
  constructor
  · simpa [hleft, hlog] using h.generations_eq
  · simpa [hlog, wrote_events] using h.settled
  · exact always_append.mpr ⟨h.prompt, prompt_events _ _⟩
  · simpa [hleft] using h.bounded
  · simpa [hleft, wrote_events] using h.unsettled
  · simpa [hleft, wrote_events] using h.within
  · simpa [hlog] using h.annotated_le

lemma Ledger.generation_le (h : Ledger deeds budget) {d : Departure}
    (hd : d ∈ departures (Deed.log deeds)) : d.generation ≤ left deeds := by
  have hmem : d.generation ∈ (departures (Deed.log deeds)).map (·.generation) :=
    List.mem_map_of_mem hd
  rw [h.generations_eq, List.mem_range'_1] at hmem
  omega

/-- Nothing is written for later items than the next one. -/
lemma Ledger.wrote_later (h : Ledger deeds budget) {generation : Nat}
    (hlater : left deeds + 1 < generation) : wrote deeds generation = 0 := by
  rw [wrote, List.countP_eq_zero]
  intro w hw
  have hle := (h.bounded w hw).2
  simp; omega

lemma Ledger.of_write (h : Ledger deeds budget) (hnone : wrote deeds (left deeds + 1) = 0)
    (hbudget : budget.isExhausted = false) (r : Record) :
    Ledger (deeds ++ [.wrote (left deeds + 1) r]) budget := by
  have hlog : Deed.log (deeds ++ [.wrote (left deeds + 1) r]) = Deed.log deeds := by
    rw [Deed.log_append]
    exact List.append_nil _
  have hleft : left (deeds ++ [.wrote (left deeds + 1) r]) = left deeds := by rw [left, hlog, left]
  have hone (generation : Nat) : wrote [.wrote (left deeds + 1) r] generation =
      if left deeds + 1 = generation then 1 else 0 := by
    simp [wrote, Deed.writes, List.countP_cons]
  constructor
  · rw [hlog, hleft]
    exact h.generations_eq
  · intro d hd
    rw [hlog] at hd
    have hne : left deeds + 1 ≠ d.generation := by
      have hle := h.generation_le hd
      omega
    rw [wrote_append, hone, if_neg hne]
    exact h.settled d hd
  · exact always_append.mpr ⟨h.prompt, rfl, trivial⟩
  · intro w hw
    rw [hleft]
    rw [Deed.writes_append] at hw
    rcases List.mem_append.mp hw with hold | hnew
    · exact h.bounded w hold
    · obtain rfl := List.mem_singleton.mp hnew
      exact ⟨Nat.le_add_left 1 _, Nat.le_refl _⟩
  · simp [hleft, wrote_append, hnone, hone]
  · exact fun _ => hbudget
  · rw [hlog]
    exact h.annotated_le

lemma used_lt_limit {limit : UInt32} (hlimit : limit ∈ budget.limit)
    (hbudget : budget.isExhausted = false) : budget.used.toNat < limit.toNat := by
  rw [Option.mem_def] at hlimit
  simpa [Budget.isExhausted, hlimit, UInt32.lt_iff_toNat_lt] using hbudget

lemma Ledger.of_departure (h : Ledger deeds budget) {log : List Event} {d : Departure}
    (hlog : departures log = [d]) (hd : d.generation = left deeds + 1)
    (hsettled : Settled (wrote deeds (left deeds + 1)) d.outcome)
    (hused : budget.used.toNat =
      min (ended (departures (Deed.log deeds)) (some .annotated)) (2 ^ 32 - 1)) :
    Ledger (deeds ++ log.map .event)
      (if fate? d.outcome = some .annotated then budget.spend else budget) := by
  have hF : departures (Deed.log (deeds ++ log.map .event)) =
      departures (Deed.log deeds) ++ [d] := by simp [hlog]
  have hleft : left (deeds ++ log.map .event) = left deeds + 1 := left_of_departure hlog
  -- nothing has been written yet for the item after this one
  have hnone : wrote (deeds ++ log.map .event) (left deeds + 1 + 1) = 0 := by
    rw [wrote_events]
    exact h.wrote_later (Nat.lt_succ_self _)
  constructor
  · have hsnoc := Scheduler.generations_snoc h.generations_eq hd
    rwa [← hF] at hsnoc
  · intro d' hd'
    rw [wrote_events]
    rw [hF] at hd'
    rcases List.mem_append.mp hd' with hold | hnew
    · exact h.settled d' hold
    · obtain rfl := List.mem_singleton.mp hnew
      rw [hd]
      exact hsettled
  · exact always_append.mpr ⟨h.prompt, prompt_events _ _⟩
  · intro w hw
    rw [Deed.writes_append, Deed.writes_events, List.append_nil] at hw
    have hbounds := h.bounded w hw
    omega
  · rw [hleft, hnone]
    exact Nat.zero_le _
  · rw [hleft, hnone]
    exact fun h => absurd h (by decide)
  · intro limit hlimit
    rw [hF, ended_append]
    by_cases hfate : fate? d.outcome = some .annotated
    · rw [if_pos hfate] at hlimit
      rw [Settled, hfate] at hsettled
      have hlt : budget.used.toNat < limit.toNat := used_lt_limit hlimit (h.within hsettled)
      have hbound := limit.toNat_lt
      simp only [ended, hfate, List.countP_singleton, decide_true, if_true] at hused ⊢
      omega
    · rw [if_neg hfate] at hlimit
      simpa [ended, hfate] using h.annotated_le limit hlimit

/-! ## The sum -/

/-- Numbers between one and a bound are counted by counting each of them. -/
lemma length_eq_sum_countP {l : List Nat} (n : Nat) (h : ∀ x ∈ l, 1 ≤ x ∧ x ≤ n) :
    l.length = ((List.range' 1 n).map fun g => l.countP (· = g)).sum := by
  have hnext (n : Nat) : l.countP (fun x => 1 ≤ x ∧ x ≤ n + 1) =
      l.countP (fun x => 1 ≤ x ∧ x ≤ n) + l.countP (· = n + 1) := by
    induction l with
    | nil => rfl
    | cons x l ih =>
      have hx := ih fun y hy => h y (List.mem_cons_of_mem x hy)
      simp only [List.countP_cons, hx, decide_eq_true_eq]
      split <;> split <;> split <;> omega
  have hsum (n : Nat) : l.countP (fun x => 1 ≤ x ∧ x ≤ n) =
      ((List.range' 1 n).map fun g => l.countP (· = g)).sum := by
    induction n with
    | zero =>
      rw [List.range'_zero, List.map_nil, List.sum_nil, List.countP_eq_zero]
      intro x _
      simp; omega
    | succ n ih =>
      rw [hnext, ih, List.range'_1_concat, List.map_append, List.sum_append, List.map_singleton,
        List.sum_singleton, Nat.add_comm 1]
  rw [← hsum, List.countP_eq_length.mpr]
  simpa using h

/-- What an item has written is what it was counted for, unless it lost a race. -/
lemma Settled.eq {records : Nat} {outcome : Option Outcome} (h : Settled records outcome) :
    records = (if fate? outcome = some .annotated then 1 else 0) +
      if outcome.isNone && records == 1 then 1 else 0 := by
  rcases outcome with _ | (_ | _ | _ | _ | _ | _ | _) <;> simp only [Settled, fate?] at h <;>
    simp [fate?, h]
  split <;> omega

/-- **The records written**, added up. -/
theorem Ledger.length_writes (h : Ledger deeds budget) :
    (Deed.writes deeds).length = ended (departures (Deed.log deeds)) (some .annotated) +
      raced deeds + wrote deeds (left deeds + 1) := by
  have hall : (Deed.writes deeds).length =
      ((List.range' 1 (left deeds + 1)).map (wrote deeds)).sum := by
    have hbounded : ∀ g ∈ (Deed.writes deeds).map (·.1), 1 ≤ g ∧ g ≤ left deeds + 1 := by
      simpa using h.bounded
    have hlength := length_eq_sum_countP _ hbounded
    rw [List.length_map] at hlength
    rw [hlength]
    refine congrArg List.sum (List.map_congr_left fun g _ => ?_)
    rw [List.countP_map, wrote]
    rfl
  have hsettled (F : List Departure) (hF : ∀ d ∈ F, Settled (wrote deeds d.generation) d.outcome) :
      (F.map fun d => wrote deeds d.generation).sum = ended F (some .annotated) +
        F.countP fun d => d.outcome.isNone && wrote deeds d.generation == 1 := by
    induction F with
    | nil => rfl
    | cons d F ih =>
      obtain ⟨hd, hF⟩ := List.forall_mem_cons.mp hF
      have hone := hd.eq
      rw [List.map_cons, List.sum_cons, ih hF, ended_cons, List.countP_cons]
      omega
  rw [hall, List.range'_1_concat, List.map_append, List.sum_append, ← h.generations_eq,
    List.map_map, Function.comp_def, hsettled _ h.settled]
  simp [raced, Nat.add_comm 1]

/-- No race was lost if no item whose time ran out has written. -/
lemma Ledger.raced_eq_zero (h : Ledger deeds budget) :
    raced deeds = 0 ↔ ∀ d ∈ departures (Deed.log deeds), d.outcome = none →
      wrote deeds d.generation = 0 := by
  rw [raced, List.countP_eq_zero]
  refine forall_congr' fun d => forall_congr' fun hd => ?_
  have hsettled := h.settled d hd
  cases houtcome : d.outcome with
  | none =>
    rw [houtcome] at hsettled
    simp only [Settled, fate?] at hsettled
    simp
    omega
  | some => simp

/-- No more records are written than the limit allows, but for lost races. -/
lemma Ledger.length_writes_le (h : Ledger deeds budget) (hused : budget.used.toNat =
      min (ended (departures (Deed.log deeds)) (some .annotated)) (2 ^ 32 - 1))
    {limit : UInt32} (hlimit : limit ∈ budget.limit) :
    (Deed.writes deeds).length ≤ limit.toNat + raced deeds := by
  have hannotated := h.annotated_le limit hlimit
  have hlast := h.unsettled
  have hbound := limit.toNat_lt
  rw [h.length_writes]
  by_cases hone : wrote deeds (left deeds + 1) = 1
  · have hlt := used_lt_limit hlimit (h.within hone)
    omega
  · omega

end PictureIndex.Simulation
