import PictureIndex.Proofs.SpentBudget
/-!
# The budget is kept

Here the budget is followed through sessions, in which anything may happen between the start of an
item and its end.  `Session.requests` lists what the tasks asked for, with the generation of the
item concerned.  A costly request is put only for the item in flight, and only if the limit was not
reached when that item was started; since then nobody has left, so it is not reached now.
-/

namespace PictureIndex.Simulation

open Log

/-- The outlook of somebody who sees nothing and so is surprised by nothing. -/
def blind : Outlook Unit where
  view _ := ()
  surroundings _ _ _ _ _ := True
  view_calls _ _ := rfl

namespace Session

variable {s : Session} {deeds : List Deed}

lemma blind_allows (s : Session) (v : Move) : blind.Allows s v := by
  cases v with
  | task i =>
    intro task _ r next _
    rcases s.world.reply r with ⟨_ | _ | _, w⟩
    · trivial
    · rfl
    · rfl
  | become w => rfl
  | _ => trivial

/-- The request that a move puts, with the generation of the item on whose behalf it is put. -/
def asked? (s : Session) : Move → Option (Nat × Request)
  | .task i =>
    (s.tasks[i]?).bind fun task =>
      match Task.runnable? s.world.now task with
      | some (.ask r _) => some (task.generation, r)
      | _ => none
  | _ => none

/-- The requests put in some moves. -/
def requests : Session → List Move → List (Nat × Request)
  | _, [] => []
  | s, v :: vs => (s.asked? v).toList ++ requests (s.move v) vs

/-- A request is put at some moment of a run. -/
lemma mem_requests {vs : List Move} {x : Nat × Request} (h : x ∈ s.requests vs) :
    ∃ vs₁ v vs₂, vs = vs₁ ++ v :: vs₂ ∧ (s.moveAll vs₁).asked? v = some x := by
  induction vs generalizing s with
  | nil => simp [requests] at h
  | cons v vs ih =>
    rw [requests, List.mem_append] at h
    rcases h with hnow | hlater
    · exact ⟨[], v, vs, rfl, by simpa using hnow⟩
    · obtain ⟨vs₁, v', vs₂, rfl, hasked⟩ := ih hlater
      exact ⟨v :: vs₁, v', vs₂, rfl, hasked⟩

/-! ## When items are started -/

lemma timely_stop {scheduler : Scheduler} (hevents : scheduler.events = []) (before : List Event) :
    Always Timely before scheduler.stop.events := by
  refine always_of_forall fun e he before => ?_
  cases e with
  | started item generation exhausted =>
    exfalso
    rw [Scheduler.stop] at he
    rcases hf : scheduler.inFlight with _ | ⟨path, generation', _ | timer⟩ <;>
      simp [hf, hevents, Scheduler.emit, Scheduler.publish] at he
  | _ => trivial

/-- Items are started when those before them have left, until the scheduler stops and also then. -/
lemma Sound.timely_move (h : s.Sound deeds) (htimely : Always Timely [] (Deed.log deeds))
    (v : Move) : Always Timely [] (Deed.log (deeds ++ s.deeds v)) := by
  by_cases hv : v = .deliver
  · subst hv
    obtain hnone | ⟨m, rest, hmail, hopen⟩ := s.delivery_cases
    · rw [(move_deliver_nothing h hnone).2, List.append_nil]
      exact htimely
    · obtain ⟨hmove, hdeeds⟩ := move_deliver hmail hopen
      by_cases hm : m = .shutdown
      · subst hm
        have hstop : s.scheduler.quiet.handle s.world.now .shutdown = s.scheduler.quiet.stop :=
          Scheduler.handle_shutdown (s := s.scheduler.quiet) hopen _
        rw [hdeeds, hstop, Deed.log_append, Deed.log_events]
        exact always_append.mpr ⟨htimely, timely_stop rfl _⟩
      · have hrest : ({ s with mailbox := rest } : Session).Sound deeds := h.of_frame rfl rfl
        have htrue : Delivers fun _ _ _ => True := by constructor <;> intros <;> trivial
        obtain ⟨hsound, hopen', -⟩ := htrue.deliver rest hrest hopen hm trivial
        have hordered := (hsound.ordered hopen').timely
        rw [hdeeds, h.quiet]
        exact hordered
  · rw [Deed.log_append, (move_scheduler hv).2, List.append_nil]
    exact htimely

/-! ## What is known of any session -/

/-- What is known of a session after any moves, as far as the budget is concerned. -/
structure Budgeted (c : Config) (backends : Backends) (s : Session) (deeds : List Deed) :
    Prop where
  /-- The scheduler is as it should be. -/
  sound : s.Sound deeds
  /-- The parties are in order. -/
  orderly : Orderly s.mailbox s deeds
  /-- Items are started when those before them have left. -/
  timely : Always Timely [] (Deed.log deeds)
  /-- Items follow their plans. -/
  tracked : Tracked blind (Pipeline.ofConfig c backends) c.indexingLimit () s.mailbox s deeds

variable {c : Config} {backends : Backends}

lemma Budgeted.move (h : s.Budgeted c backends deeds) {v : Move} (hv : v.Legal) :
    (s.move v).Budgeted c backends (deeds ++ s.deeds v) where
  sound := h.sound.move v
  orderly := h.orderly.move hv h.sound
  timely := h.sound.timely_move h.timely v
  tracked := h.tracked.move hv (blind_allows s v) h.orderly h.sound

lemma budgeted_starting (world : World) (c : Config) (backends : Backends)
    (gate : Option (Worker × Gate × Nat)) :
    (starting world c backends gate).Budgeted c backends [] :=
  ⟨sound_starting world c backends gate, orderly_starting world c backends gate, trivial,
    tracked_starting world c backends gate⟩

lemma budgeted_moveAll (world : World) (c : Config) (backends : Backends)
    (gate : Option (Worker × Gate × Nat)) {vs : List Move} (hvs : ∀ v ∈ vs, v.Legal) :
    ((starting world c backends gate).moveAll vs).Budgeted c backends
      ((starting world c backends gate).history vs) :=
  moveAll_induction (P := Budgeted c backends) (fun _ _ _ hv h => h.move hv) hvs []
    (budgeted_starting world c backends gate)

/-- A costly request is put for the item after those that left, and these have not reached the
limit. -/
lemma Budgeted.within_limit (h : s.Budgeted c backends deeds) {v : Move} {generation : Nat}
    {r : Request} (hasked : s.asked? v = some (generation, r)) (hcostly : r.isCostly = true) :
    generation = left deeds + 1 ∧
      isSpent c.indexingLimit (departures (Deed.log deeds)) = false := by
  cases v with
  | task i =>
    obtain ⟨task, htask, hrun⟩ := Option.bind_eq_some_iff.mp hasked
    split at hrun
    · rename_i r' next hplan
      obtain ⟨rfl, rfl⟩ := Prod.mk.inj (Option.some.inj hrun)
      obtain ⟨f, -, hf, -, -, htasks, hown, -⟩ := h.orderly.alone htask
      obtain ⟨hopen, hqueue, -, hleft⟩ := h.sound.in_flight hf
      refine ⟨hown.trans hleft, ?_⟩
      obtain ⟨a, -, hstanding⟩ := h.tracked.relay
      cases hstanding with
      | stopped hstopped => simp [hopen] at hstopped
      | idle hnone => simp [hqueue] at hnone
      | busy item plan _ hreach hplans =>
        obtain rfl := (hplans task (by simp [htasks])).2 _ (runnable_plan hplan)
        have hspends := (s.pipeline.spends_process _ item).of_reaches hreach
        rw [h.tracked.limit_eq] at hspends
        rw [← Bool.not_eq_true]
        intro hspent
        have hcheap := hspends.1 hspent
        simp [hcostly] at hcheap
    · exact nomatch hrun
  | _ => exact nomatch hasked

/-- Without a limit the budget is never blamed. -/
lemma relay_fair {e : Pipeline} {F : List Departure} (h : blind.Relay e none () F ()) :
    ∀ d ∈ F, d.outcome ≠ some (.skipped .budgetReached) := by
  generalize ha : () = a at h
  induction h with
  | nil => simp
  | @snoc F d a b _ hstint ih =>
    intro d' hd'
    rcases List.mem_append.mp hd' with hold | hnew
    · exact ih rfl d' hold
    · obtain rfl := List.mem_singleton.mp hnew
      obtain ⟨plan, hreach, hdone⟩ := hstint
      intro houtcome
      obtain rfl := hdone _ houtcome
      have hfair := (e.spends_process _ d'.item).of_reaches hreach rfl
      simp [isSpent] at hfair

/-! ## The promise -/

/-- **The budget is kept, and blocks nothing but new records.**  Take any session that starts
afresh, and any moves of its parties.

* No more items are annotated than the limit allows.
* For an item that was started when that many had been annotated, its task asks neither the decoder
  nor a backend for anything, and it writes no record.
* Without a limit no item is skipped on account of the budget.

And compare, in any world, an item that is processed with a spent budget and the same item with
budget left.  If the latter comes to decode a picture, the former is skipped on account of the
budget and leaves the world as it was; if not, both have the same outcome and leave the same world
behind. -/
theorem budget_blocks_new_records_only (world : World) (c : Config) (backends : Backends)
    (gate : Option (Worker × Gate × Nat)) (vs : List Move) (hvs : ∀ v ∈ vs, v.Legal) :
    let s := (starting world c backends gate).moveAll vs
    let log := Deed.log ((starting world c backends gate).history vs)
    (∀ limit ∈ c.indexingLimit, s.scheduler.tally.annotated ≤ limit.toNat) ∧
    (∀ limit ∈ c.indexingLimit, ∀ before item generation exhausted after,
      log = before ++ .started item generation exhausted :: after →
      ended (departures before) (some .annotated) = limit.toNat →
      ∀ r, (generation, r) ∈ (starting world c backends gate).requests vs → r.isCostly = false) ∧
    (c.indexingLimit = none → ∀ d ∈ departures log, d.outcome ≠ some (.skipped .budgetReached)) ∧
    ∀ (w : World) (item : Item),
      let spent := w.carryOut false (s.planOf item true)
      let ample := w.carryOut false (s.planOf item false)
      ((∃ r ∈ w.puts (s.planOf item false), r.isDecode = true) →
        spent = (some (.skipped .budgetReached), false, w)) ∧
      ((∀ r ∈ w.puts (s.planOf item false), r.isDecode = false) → spent = ample) := by
  intro s log
  have hend : s.Budgeted c backends _ := budgeted_moveAll world c backends gate hvs
  refine ⟨fun limit hlimit => ?_, ?_, fun hnone d hd => ?_, fun w item => ?_⟩
  · have hannotated : s.scheduler.tally.annotated = _ := hend.sound.tallied.counted_eq .annotated
    rw [hannotated]
    exact hend.orderly.ledger.annotated_le limit (hend.tracked.limit_eq ▸ hlimit)
  · intro limit hlimit before item generation exhausted after hlog hreached r hr
    obtain ⟨vs₁, v, vs₂, hvs₁, hasked⟩ := mem_requests hr
    have hthen : (((starting world c backends gate).moveAll vs₁).Budgeted c backends _) :=
      budgeted_moveAll world c backends gate fun v' hv' =>
        hvs v' (hvs₁ ▸ List.mem_append_left _ hv')
    by_contra hcostly
    obtain ⟨hgeneration, hspent⟩ := hthen.within_limit hasked (by simpa using hcostly)
    -- those that had left by the start are those that have left by the request
    have htimely : Always Timely [] log := hend.timely
    rw [hlog] at htimely
    have hstart : generation = (departures before).length + 1 := Always.at_event htimely
    have hbefore : departures before <+: departures log := by
      rw [hlog, departures_append]
      exact List.prefix_append _ _
    have hput : departures (Deed.log ((starting world c backends gate).history vs₁)) <+:
        departures log := by
      have hsplit : log = Deed.log ((starting world c backends gate).history (vs₁ ++ v :: vs₂)) :=
        hvs₁ ▸ rfl
      rw [hsplit, history_append, Deed.log_append, departures_append]
      exact List.prefix_append _ _
    have hlength : (departures before).length =
        (departures (Deed.log ((starting world c backends gate).history vs₁))).length := by
      have hleft := hgeneration
      rw [left] at hleft
      omega
    have hsame := (List.prefix_of_prefix_length_le hbefore hput hlength.le).eq_of_length hlength
    rw [← hsame, isSpent, hlimit] at hspent
    simp [hreached] at hspent
  · obtain ⟨a, hrelay, -⟩ := hend.tracked.relay
    rw [hnone] at hrelay
    exact relay_fair hrelay d hd
  · have hcut : s.planOf item true = (s.planOf item false).cut := s.pipeline.process_cut item
    obtain ⟨hsame, hgiven⟩ :=
      World.carryOut_cut (s.pipeline.looksFirst_process false item) w false
    simp only [hcut]
    exact ⟨hgiven, hsame⟩

/-- Both pictures are submitted and processed in peace. -/
def twoInTurn : List Move :=
  List.flatten [[.send (.submit pathA), .send (.submit pathB), .deliver, .deliver],
    List.replicate 10 (.task 0), [.deliver, .deliver], List.replicate 7 (.task 0), [.deliver]]

/-- The budget of one picture is spent by the first of two.  The second is started when one was
annotated, and nothing costly is asked on its behalf. -/
theorem budget_blocks_second_picture :
    let s := (starting twoPictures onePicture ⟨true, false⟩ none).moveAll twoInTurn
    let log := Deed.log ((starting twoPictures onePicture ⟨true, false⟩ none).history twoInTurn)
    (∀ v ∈ twoInTurn, v.Legal) ∧ onePicture.indexingLimit = some 1 ∧
      (departures log).map (·.outcome) = [some (.annotated 0), some (.skipped .budgetReached)] ∧
      s.scheduler.tally.annotated ≤ 1 ∧
      ∀ r, (2, r) ∈ (starting twoPictures onePicture ⟨true, false⟩ none).requests twoInTurn →
        r.isCostly = false := by
  intro s log
  have hlegal : ∀ v ∈ twoInTurn, v.Legal := by decide +kernel
  obtain ⟨hannotated, hcheap, -⟩ := budget_blocks_new_records_only twoPictures onePicture
    ⟨true, false⟩ none twoInTurn hlegal
  have hdepartures : (departures log).map (·.outcome) =
      [some (.annotated 0), some (.skipped .budgetReached)] := by decide +kernel
  -- the start of the second picture, with what comes before and after it
  have hstart : ∃ k item exhausted, log[k]? = some (.started item 2 exhausted) ∧
      ended (departures (log.take k)) (some .annotated) = 1 := by
    refine ⟨8, ⟨pathB, .examine⟩, true, ?_, ?_⟩ <;> decide +kernel
  obtain ⟨k, item, exhausted, hk, hone⟩ := hstart
  obtain ⟨hlt, hget⟩ := List.getElem?_eq_some_iff.mp hk
  have hlog : log = log.take k ++ .started item 2 exhausted :: log.drop (k + 1) := by
    rw [← hget, ← List.drop_eq_getElem_cons hlt, List.take_append_drop]
  exact ⟨hlegal, rfl, hdepartures, hannotated 1 rfl,
    hcheap 1 rfl _ item 2 exhausted _ hlog hone⟩

end Session

end PictureIndex.Simulation
