import PictureIndex.Proofs.Drainage
import PictureIndex.Proofs.Timeouts
/-!
# When the queue drains

The queue drains if no record is a trap (`Drainage`).  Conversely, an item that is caught in a trap
leads to itself whenever it leaves: nothing stands at its path, the store lists its own text below
it, and nobody removes the record.  For a record is removed only because it is stale or because its
path has an extension or leads to a file, and the text of a trap ends with a slash
(`FileTree.IsTrap.not_mayRemove`).  Nor does the item's time run out, since it never asks for it.
So it is in the queue for ever (`queued_after`).  So is an item that breaks its task down, since it
never leaves (`not_left_of_breaksDown`).  `queue_drains_unless_trapped` puts all this together.

`queue_never_drains` is such a queue: the record of `/a/` in a world without files.
-/

namespace PictureIndex

open Log

namespace Path

open Utf8

/-- A path ends with a slash if its text does. -/
lemma getLast?_of_respell {bs : List UInt8} (h : (respell bs).getLast? = some slash) :
    bs.getLast? = some slash := by
  have hmem : slash ∈ bs := mem_of_mem_respell (List.mem_of_getLast? h) slash_ascii
  obtain ⟨x, y, hxy, hx⟩ := List.eq_append_cons_of_mem (List.mem_reverse.mpr hmem)
  have hbs : bs = y.reverse ++ slash :: x.reverse := by
    have hsame := congrArg List.reverse hxy
    simpa using hsame
  have hnot : slash ∉ x.reverse := fun hin => hx (List.mem_reverse.mp hin)
  rw [hbs, respell_append_ascii slash_ascii, List.getLast?_append, List.getLast?_cons,
    Option.some_or] at h
  cases hlast : (respell x.reverse).getLast? with
  | none =>
    have hnil : x.reverse = [] := (respell_eq_nil _).mp (List.getLast?_eq_none_iff.mp hlast)
    rw [hbs, hnil]
    simp
  | some a =>
    rw [hlast, Option.getD_some, Option.some.injEq] at h
    exact absurd (mem_of_mem_respell (List.mem_of_getLast? (h ▸ hlast)) slash_ascii) hnot

end Path

/-- Whether an item is not there to remove the record of a text. -/
def Item.Retains (item : Item) (k : String) : Prop := item.work = .removeStale → item.path.text ≠ k

/-- What an item leads to is to be looked at. -/
lemma Departure.work_of_mem_followers {d : Departure} {excluded : List String} {item : Item}
    (h : item ∈ d.followers excluded) : item.work = .examine := by
  cases houtcome : d.outcome with
  | none => simp [Departure.followers, houtcome] at h
  | some outcome => exact ((Simulation.mem_followers houtcome).mp h).1

namespace FileTree

open PictureIndex.Path (slash)

variable {t : FileTree} {k : String}

/-- No item but one that is there for that removes the record of a trap. -/
lemma IsTrap.not_mayRemove (h : t.IsTrap k) {item : Item} (htext : item.path.text = k)
    (hwork : item.work ≠ .removeStale) : ¬ item.MayRemove t := by
  have hsame : item.path.respelled = .ofText k := by rw [Path.respelled, htext]
  rintro (hremove | hfile | hname)
  · exact hwork hremove
  · have hlast : (Path.ofText k).bytes.getLast? = some slash := by
      obtain ⟨front, hfront⟩ := List.getLast?_eq_some_iff.mp (Path.lists_itself_iff.mp h.lists).2
      rw [Path.ofText, Text.bytes, hfront, Utf8.encode_append]
      exact List.getLast?_concat
    rw [← hsame, Path.respelled_bytes] at hlast
    cases kind?_of_slash (Path.getLast?_of_respell hlast) hfile
  · have hnone := h.hasExtension_eq
    rw [← hsame, Path.hasExtension_respelled, hname] at hnone
    cases hnone

end FileTree

namespace Pipeline

open Plan

/-- An item that is caught in a trap leads to itself, and does not ask for its time to run. -/
lemma abides_trap (e : Pipeline) (exhausted : Bool) {k : String}
    {answers : (r : Request) → r.Answer → Prop} (hname : (Path.ofText k).hasExtension = false)
    (hgone : ∀ a, answers (.kind (.ofText k)) a → a = none)
    (hlisted : ∀ a, answers (.under (.ofText k)) a → ∃ ks, a = .ok ks ∧ k ∈ ks) :
    (e.process exhausted ⟨.ofText k, .examine⟩).Abides answers (· ≠ .arm)
      fun outcome => .ofText k ∈ outcome.discovered := by
  refine abides_request (by simp) fun kind hkind => ?_
  obtain rfl : kind = none := hgone _ hkind
  change (examineMissing (.ofText k)).Abides _ _ _
  rw [examineMissing, hname]
  refine abides_request (by simp) fun answer hanswer => ?_
  obtain ⟨ks, rfl, hk⟩ := hlisted _ hanswer
  exact List.mem_map_of_mem hk

end Pipeline

namespace Simulation

/-- A request that does not remove the record of a path leaves it one. -/
lemma World.row?_ne_none_reply {w : World} {p : Path} {r : Request}
    (hremove : ∀ q, r = .remove q → q.text ≠ p.text) (h : w.row? p ≠ none) :
    (w.reply r).2.row? p ≠ none := by
  cases r with
  | insert record =>
    change (w.update .insert (·.insert record)).2.row? p ≠ none
    rcases w.update_cases .insert (·.insert record) with ⟨e, hkept⟩ | ⟨s, hs, hset⟩
    · rwa [hkept]
    · obtain ⟨t, ht, rfl⟩ := pictures_of_insert hs
      rw [row?, ht] at h
      simp only [hset, row?, Option.bind_some, Table.find?_insert]
      split
      · exact Option.some_ne_none _
      · exact h
  | remove q =>
    rwa [row?_reply]
    rintro _ ⟨⟩
    exact hremove q rfl
  | decode q => rwa [row?, reply_store_of_outward rfl]
  | _ => exact h

namespace Session

variable {world : World} {c : Config} {backends : Backends} {moves : Nat → Move} {n : Nat}
  {k : String}

/-- Where no mail asks for the removal and the move does not send it, none does afterwards. -/
lemma retains_move {s : Session} {v : Move} (hsteady : s.Steady v)
    (hsent : ∀ q, v = .send (.removeStale q) → q.text ≠ k)
    (hmail : ∀ m ∈ s.mailbox, ∀ y ∈ m.items c.excludedPrefixes, y.Retains k) :
    ∀ m ∈ (s.move v).mailbox, ∀ y ∈ m.items c.excludedPrefixes, y.Retains k := by
  intro m hm y hy
  have hnothing (habout : m.about?.isSome) : y.Retains k := by
    rw [Message.items_of_about habout] at hy
    cases hy
  rcases mem_mailbox_move hm with hold | ⟨-, htask⟩ | ⟨-, htimer⟩ | hgate | hsend
  · exact hmail m hold y hy
  · exact hnothing (Message.about_of_isFromTask htask)
  · exact hnothing htimer
  · rw [hgate] at hsteady
    exact absurd hsteady id
  · cases m with
    | submit p =>
      intro hwork
      rw [Message.items] at hy
      split at hy
      · cases hy
      · rw [List.mem_singleton.mp hy] at hwork
        cases hwork
    | removeStale p =>
      rw [List.mem_singleton.mp hy]
      exact fun _ => hsent p hsend
    | _ => cases hy

/-- Unless a removal is sent, no item is there for it. -/
lemma retains_after
    (herrands : (starting world c backends none).Errands moves n)
    (hsent : ∀ j < n, ∀ q, moves j = .send (.removeStale q) → q.text ≠ k) :
    (∀ y ∈ joined (Deed.log ((starting world c backends none).chronicle moves n)), y.Retains k) ∧
      ∀ m ∈ ((starting world c backends none).after moves n).mailbox,
        ∀ y ∈ m.items c.excludedPrefixes, y.Retains k := by
  induction n with
  | zero => exact ⟨nofun, nofun⟩
  | succ n ih =>
    obtain ⟨hjoined, hmail⟩ := ih (fun j hj => herrands j (by omega)) fun j hj => hsent j (by omega)
    have hbusy : ((starting world c backends none).after moves n).Busy world c
        ((starting world c backends none).chronicle moves n) :=
      busy_after fun j hj => herrands j (by omega)
    refine ⟨?_, retains_move (herrands n (by omega)).1 (hsent n (by omega)) hmail⟩
    rw [chronicle]
    by_cases hv : moves n = .deliver
    swap
    · rw [Deed.log_append, (move_scheduler hv).2, List.append_nil]
      exact hjoined
    rw [hv]
    cases hbox : ((starting world c backends none).after moves n).mailbox with
    | nil =>
      rw [(move_deliver_nothing hbusy.sound (.inl hbox)).2, List.append_nil]
      exact hjoined
    | cons m rest =>
      have hm : m ∈ ((starting world c backends none).after moves n).mailbox := by simp [hbox]
      obtain ⟨hadded, -⟩ := hbusy.sound.log_deliver hbusy.stopped_eq hbox
        (hbusy.not_shutdown hm)
      rw [hadded, Scheduler.additions_eq, hbusy.excluded_eq]
      intro y hy
      rcases List.mem_append.mp hy with hold | hnew
      · exact hjoined y hold
      rcases List.mem_append.mp hnew with hasked | hfollows
      · exact hmail m hm y hasked
      · obtain ⟨d, -, hy⟩ := List.mem_flatMap.mp hfollows
        intro hwork
        cases (Departure.work_of_mem_followers hy).symm.trans hwork

/-- **The record of a trap stays**, unless its removal is sent. -/
lemma row?_of_trap
    (herrands : (starting world c backends none).Errands moves n)
    (hsent : ∀ j < n, ∀ q, moves j = .send (.removeStale q) → q.text ≠ k)
    (htrap : world.files.IsTrap k) (hrow : world.row? (.ofText k) ≠ none) :
    ((starting world c backends none).after moves n).world.row? (.ofText k) ≠ none := by
  induction n with
  | zero => exact hrow
  | succ n ih =>
    have hbefore : (starting world c backends none).Errands moves n := fun j hj =>
      herrands j (by omega)
    have hsent' : ∀ j < n, ∀ q, moves j = .send (.removeStale q) → q.text ≠ k :=
      fun j hj => hsent j (by omega)
    have hnow := ih hbefore hsent'
    rw [after]
    cases hput : ((starting world c backends none).after moves n).put? (moves n) with
    | none =>
      rw [row?_move (fun w hw => (herrands n (by omega)).1.row?_eq hw _) fun task r hr => ?_]
      · exact hnow
      · cases hput.symm.trans hr
    | some x =>
      obtain ⟨task, r⟩ := x
      rw [world_of_put? hput]
      refine World.row?_ne_none_reply (fun q hr hq => ?_) hnow
      subst hr
      rw [Path.text_ofText] at hq
      have hbusy := busy_after hbefore
      obtain ⟨item, l, next, -, hl, hdescends, -⟩ :=
        (chronicled world c backends none fun j hj => (hbefore j hj).1.legal).of_put hput
      have hstarted := hdescends.started hl
      obtain ⟨j, exhausted, -, hreach⟩ := hdescends
      have hpath : q = item.path := by
        have hown := ((Pipeline.puts_process (Pipeline.ofConfig c backends) exhausted item
          fun _ h => h).of_reaches hreach).1
        exact Option.some.inj (hown.resolve_left (Option.some_ne_none q))
      have hplan : ((Pipeline.ofConfig c backends).process exhausted item).Abides
          ((starting world c backends none).answered moves task.generation j n) _ _ :=
        Pipeline.abides_leadsTo (Pipeline.ofConfig c backends) exhausted
          (fun r a => answered_fixed hbefore) item
      have hmay : item.MayRemove world.files := (abides_of_heard hplan hreach (by omega) hl).1 rfl
      have hretains := (retains_after hbefore hsent').1 item
        (hbusy.sound.joined_of_started hbusy.stopped_eq hstarted)
      exact htrap.not_mayRemove (hpath ▸ hq) (fun hwork => hretains hwork (hpath ▸ hq)) hmay

/-- What the task of an item that is caught in a trap is told: that nothing stands there, and that
its own text is recorded below it. -/
lemma answered_in_trap
    (herrands : (starting world c backends none).Errands moves n)
    (hsent : ∀ j < n, ∀ q, moves j = .send (.removeStale q) → q.text ≠ k)
    (htrap : world.files.IsTrap k) (hrow : world.row? (.ofText k) ≠ none)
    (hserves : StoreCall.under ∉ world.refused) {generation m : Nat} :
    (∀ a, (starting world c backends none).answered moves generation m n (.kind (.ofText k)) a →
      a = none) ∧
    ∀ a, (starting world c backends none).answered moves generation m n (.under (.ofText k)) a →
      ∃ ks, a = .ok ks ∧ k ∈ ks := by
  refine ⟨fun a ha => (answered_fixed herrands ha).trans htrap.gone, fun a ha => ?_⟩
  obtain ⟨j, -, hj, -, delay, w, hreply⟩ := ha
  obtain ⟨rfl, -⟩ := Reply.answer.inj (Prod.mk.inj hreply).1
  have hbefore : (starting world c backends none).Errands moves j := fun i hi =>
    herrands i (by omega)
  have hstays := row?_of_trap hbefore (fun i hi => hsent i (by omega)) htrap hrow
  have hserves' := hserves
  rw [← (busy_after hbefore).refused_eq] at hserves'
  obtain ⟨ks, hks⟩ := World.exists_under (p := .ofText k) hserves' fun hnone => hstays (by
    rw [World.row?, hnone, Option.bind_none])
  exact ⟨ks, hks, (World.mem_under hks).mpr ⟨htrap.lists, hstays⟩⟩

/-- **How an item ends whose plan abides by something**: if it does not ask for its time to run, it
leaves with an outcome, and one that is allowed. -/
lemma outcome_of_left (herrands : (starting world c backends none).Errands moves n)
    {d : Departure} (hd : d ∈ (starting world c backends none).finished moves n)
    {reports : Outcome → Prop}
    (hplan : ∀ exhausted l, ((Pipeline.ofConfig c backends).process exhausted d.item).Abides
      ((starting world c backends none).answered moves d.generation l n) (· ≠ .arm) reports) :
    ∃ outcome, d.outcome = some outcome ∧ reports outcome := by
  have hlegal : ∀ j < n, (moves j).Legal := fun j hj => (herrands j hj).1.legal
  have hbusy := busy_after herrands
  cases houtcome : d.outcome with
  | none =>
    -- its time cannot run out, since its task does not ask for it to run
    obtain ⟨i, hi, hasked⟩ := asked_of_left world c backends none hlegal hd houtcome
    rw [asked?_eq] at hasked
    obtain ⟨⟨task, r⟩, hput, hsame⟩ := Option.map_eq_some_iff.mp hasked
    obtain ⟨hgeneration, rfl⟩ := Prod.mk.inj hsame
    obtain ⟨item, l, next, -, hl, hdescends, -⟩ :=
      (chronicled world c backends none fun j hj => hlegal j (by omega)).of_put hput
    have hnumbered := hbusy.sound.numbered hbusy.stopped_eq
    have hstarted := hdescends.started (by omega : l ≤ n)
    rw [show task.generation = d.generation from hgeneration] at hstarted hdescends
    obtain rfl := hnumbered.item_eq hstarted (hnumbered.departed d hd)
    obtain ⟨j, exhausted, -, hreach⟩ := hdescends
    exact absurd rfl (abides_of_heard (hplan exhausted j) hreach (by omega) (by omega)).1
  | some outcome =>
    obtain ⟨l, hl, j, exhausted, -, hreach⟩ :=
      (chronicled world c backends none hlegal).left d hd outcome houtcome
    exact ⟨outcome, rfl, abides_of_heard (hplan exhausted j) hreach (by omega) hl⟩

/-- **An item that is caught in a trap leads to itself**, whenever it leaves. -/
lemma follows_itself (herrands : (starting world c backends none).Errands moves n)
    (hsent : ∀ j < n, ∀ q, moves j = .send (.removeStale q) → q.text ≠ k)
    (htrap : world.files.IsTrap k) (hrow : world.row? (.ofText k) ≠ none)
    (hserves : StoreCall.under ∉ world.refused)
    (hadmitted : (Path.ofText k).isExcluded c.excludedPrefixes = false) {d : Departure}
    (hd : d ∈ (starting world c backends none).finished moves n)
    (hitem : d.item = ⟨.ofText k, .examine⟩) : d.item ∈ d.followers c.excludedPrefixes := by
  have hplan (exhausted : Bool) (l : Nat) :
      ((Pipeline.ofConfig c backends).process exhausted d.item).Abides
        ((starting world c backends none).answered moves d.generation l n) (· ≠ .arm)
        fun outcome => .ofText k ∈ outcome.discovered := by
    obtain ⟨hmissing, hunder⟩ := answered_in_trap herrands hsent htrap hrow hserves
    rw [hitem]
    exact Pipeline.abides_trap _ exhausted htrap.hasExtension_eq hmissing hunder
  obtain ⟨outcome, houtcome, hdiscovered⟩ := outcome_of_left herrands hd hplan
  rw [mem_followers houtcome, hitem]
  exact ⟨rfl, hadmitted, hdiscovered⟩

/-- **An item that breaks its task down never leaves.** -/
lemma not_left_of_breaksDown (herrands : (starting world c backends none).Errands moves n)
    {item : Item} (hbroken : item.BreaksDown (Pipeline.ofConfig c backends).maxSize world.files)
    {d : Departure} (hd : d ∈ (starting world c backends none).finished moves n) :
    d.item ≠ item := by
  rintro rfl
  obtain ⟨-, -, hnever⟩ := outcome_of_left herrands hd fun exhausted l =>
    Pipeline.abides_broken (Pipeline.ofConfig c backends) exhausted
      (fun _ _ h => Pipeline.told_of_fixed (answered_fixed herrands h)) hbroken
  exact hnever

/-- An item that leads to itself whenever it leaves stays in the queue. -/
theorem queued_after (herrands : ∀ n, (starting world c backends none).Errands moves n)
    {item : Item} (hself : ∀ n, ∀ d ∈ (starting world c backends none).finished moves n,
      d.item = item → d.item ∈ d.followers c.excludedPrefixes)
    (hqueued : item ∈ ((starting world c backends none).after moves n).scheduler.queue) {m : Nat}
    (hm : n ≤ m) : item ∈ ((starting world c backends none).after moves m).scheduler.queue := by
  induction m, hm using Nat.le_induction with
  | base => exact hqueued
  | succ m hm ih =>
    have hbusy := busy_after (herrands m)
    rw [after]
    by_cases hv : moves m = .deliver
    swap
    · rwa [(move_scheduler hv).1]
    cases hbox : ((starting world c backends none).after moves m).mailbox with
    | nil => rwa [hv, (move_deliver_nothing hbusy.sound (.inl hbox)).1]
    | cons message rest =>
      obtain ⟨hjoined, hleft, hstays, -, -⟩ := hbusy.sound.log_deliver hbusy.stopped_eq
        hbox (hbusy.not_shutdown (by simp [hbox]))
      have hqueue := hbusy.sound.queue_move hbusy.stopped_eq hstays hleft hjoined
      rw [hv]
      rcases accepted_eq ((starting world c backends none).after moves m).scheduler message with
        hnone | ⟨d, hone, -⟩
      · rw [hnone, List.map_nil, List.nil_append] at hqueue
        rw [hqueue]
        exact List.mem_append_left _ ih
      · -- the front leaves, and what it leads to joins
        obtain ⟨front, waiting, hfront⟩ := List.exists_cons_of_ne_nil (List.ne_nil_of_mem ih)
        rw [hone, List.map_singleton, List.singleton_append, hfront, List.cons_append,
          List.cons.injEq] at hqueue
        obtain ⟨hitem, hqueue⟩ := hqueue
        rw [hqueue, List.mem_append]
        rw [hfront] at ih
        rcases List.mem_cons.mp ih with hleaves | hwaits
        · right
          rw [Scheduler.additions_eq, hone, hbusy.excluded_eq, List.flatMap_singleton]
          have hd : d ∈ (starting world c backends none).finished moves (m + 1) := by
            rw [finished, chronicle, hv, hleft, hone]
            simp
          have hagain := hself (m + 1) d hd (hitem.trans hleaves.symm)
          rw [hitem, ← hleaves] at hagain
          exact List.mem_append_right _ hagain
        · exact .inl hwaits

/-- **The queue drains unless a record is a trap or an item breaks its task down.**  Take any store,
well-formed files that stay as they are, a configuration, a decoder that comes back and errands that
are sent up to some point; directories may list their entries in another order each time, and the
backends and the decoder may become others.

* If no record is a trap, but for those of excluded paths, then there is a last item to leave; and
  if no item breaks its task down that is ever queued and nobody is put off for ever, the queue is
  empty from then on.
* An item that is caught in a trap never leaves the queue for good, unless the record is asked to be
  removed or the store refuses to list.
* An item that breaks its task down, because a picture stands at its path whose modification time no
  record can hold, never leaves the queue at all. -/
theorem queue_drains_unless_trapped (world : World) (hfiles : world.files.WellFormed)
    (hreturns : world.decoder.Returns) (c : Config) (backends : Backends) (moves : Nat → Move)
    (hmoves : ∀ n, ((starting world c backends none).after moves n).Steady (moves n) ∧
      (moves n).Returns) (sent : Nat) (hsent : ∀ n ≥ sent, ∀ m, moves n ≠ .send m) :
    let first := starting world c backends none
    let breaks := Item.BreaksDown c.maxFileSizeBytes.toNat world.files
    ((∀ k, world.row? (.ofText k) ≠ none →
        (Path.ofText k).isExcluded c.excludedPrefixes = false → ¬ world.files.IsTrap k) →
      ∃ last, (∀ n ≥ last, first.finished moves n = first.finished moves last) ∧
        ((∀ n, ∀ item ∈ (first.after moves n).scheduler.queue, ¬ breaks item) →
          first.Fair moves → ∀ n ≥ last, (first.after moves n).scheduler.queue = [])) ∧
    (∀ k, world.row? (.ofText k) ≠ none →
      (Path.ofText k).isExcluded c.excludedPrefixes = false → world.files.IsTrap k →
      StoreCall.under ∉ world.refused →
      (∀ j q, moves j = .send (.removeStale q) → q.text ≠ k) →
      ∀ n, ⟨.ofText k, .examine⟩ ∈ (first.after moves n).scheduler.queue →
        ∀ m ≥ n, ⟨.ofText k, .examine⟩ ∈ (first.after moves m).scheduler.queue) ∧
    ∀ item, breaks item → ∀ n, item ∈ (first.after moves n).scheduler.queue →
      ∀ m ≥ n, item ∈ (first.after moves m).scheduler.queue := by
  intro first breaks
  have herrands (n : Nat) : first.Errands moves n := fun k _ => hmoves k
  refine ⟨fun htrap => ?_, fun k hrow hadmitted htrap hserves hkeeps n hqueued m hm => ?_,
    fun item hbroken n hqueued m hm => ?_⟩
  · obtain ⟨last, -, hlast⟩ := exists_last_left hfiles htrap herrands hsent
    refine ⟨last, fun n hn => ?_, fun hunbroken hfair n hn => ?_⟩
    · induction n, hn using Nat.le_induction with
      | base => rfl
      | succ n hn ih => exact (hlast n hn).trans ih
    · exact queue_eq_nil_of_last hreturns herrands hunbroken hfair hlast hn
  · refine queued_after herrands (fun n d hd hitem => ?_) hqueued hm
    exact follows_itself (herrands n) (fun j _ => hkeeps j) htrap hrow hserves hadmitted hd hitem
  · refine queued_after herrands (fun n d hd hitem => ?_) hqueued hm
    exact absurd hitem (not_left_of_breaksDown (herrands n) hbroken hd)

/-! ### A queue that drains and two that do not -/

section

variable {ms : List Message}

/-- Nothing but errands happens where one runs errands and then only mail is delivered. -/
lemma steady_errands (hms : ∀ m ∈ ms, m.isErrand = true) (s : Session) (n : Nat) :
    s.Steady ((errands 0 ms).getD n .deliver) ∧ ((errands 0 ms).getD n .deliver).Returns := by
  have hwhich : ((errands 0 ms).getD n .deliver).IsInner ∨
      ∃ m ∈ ms, (errands 0 ms).getD n .deliver = .send m := by
    cases hn : (errands 0 ms)[n]? with
    | none => exact .inl (.inl (by simp [List.getD, hn]))
    | some v =>
      rw [show (errands 0 ms).getD n .deliver = v by simp [List.getD, hn]]
      exact mem_errands (List.mem_of_getElem? hn)
  rcases hwhich with (hv | ⟨i, hv⟩) | ⟨m, hm, hv⟩ <;> rw [hv]
  · exact ⟨trivial, trivial⟩
  · exact ⟨trivial, trivial⟩
  · exact ⟨hms m hm, trivial⟩

lemma getD_errands_ne_send {n : Nat} (hn : n ≥ (errands 0 ms).length) (m : Message) :
    (errands 0 ms).getD n .deliver ≠ .send m := by
  simp [List.getD, List.getElem?_eq_none hn]

end

/-- A world with one picture, at `/a.png`, which says that it was modified nine trillion seconds
after 1970. -/
def remote : World where
  now := 0
  files := ⟨[([[0x61, 0x2E, 0x70, 0x6E, 0x67]],
    .file ⟨PictureType.pngSignature, 16⟩ 9000000000000000000000)]⟩
  store := Store.new
  refused := []
  ocr := wooded.ocr
  classifier := wooded.classifier
  decoder := wooded.decoder
  calls := []

/-- When the visits are over, the queue stays empty.  The picture that says it was modified in a
year too far away stays in the queue, though nobody is put off there either. -/
theorem queue_drains_after_visits :
    let first := starting revisited everyPicture ⟨true, false⟩ none
    let moves (n : Nat) : Move := (errands 0 visits).getD n .deliver
    (∀ n, (first.after moves n).Steady (moves n) ∧ (moves n).Returns) ∧
      (∀ n ≥ 147, ∀ m, moves n ≠ .send m) ∧ first.Fair moves ∧
      (∃ last, (∀ n ≥ last, first.finished moves n = first.finished moves last) ∧
        ∀ n ≥ last, (first.after moves n).scheduler.queue = []) ∧
    let stuck := starting remote everyPicture ⟨true, false⟩ none
    let moves (n : Nat) : Move := (errands 0 [.submit pathA]).getD n .deliver
    stuck.Fair moves ∧
      ∀ n ≥ 12, ⟨pathA, .examine⟩ ∈ (stuck.after moves n).scheduler.queue := by
  intro first moves
  have hmoves (n : Nat) : (first.after moves n).Steady (moves n) ∧ (moves n).Returns :=
    steady_errands (by decide) _ n
  have hsent (n : Nat) (hn : n ≥ 147) (m : Message) : moves n ≠ .send m :=
    getD_errands_ne_send hn m
  have hfair : first.Fair moves :=
    fair_of_quiet 147 (fun n hn => List.getD_eq_default _ _ hn) (by decide +kernel)
      (List.isEmpty_iff.mp (by decide +kernel)) (by decide +kernel)
  -- the only record is that of a picture
  have htrap (k : String) (hrow : revisited.row? (.ofText k) ≠ none)
      (_ : (Path.ofText k).isExcluded everyPicture.excludedPrefixes = false) :
      ¬ revisited.files.IsTrap k := by
    intro htrapped
    have hk : k = "/old/x.png" := by
      by_contra hne
      rw [World.row?, revisited, Option.bind_some, Path.text_ofText, Table.find?_insert,
        if_neg hne] at hrow
      exact hrow rfl
    have hname := htrapped.hasExtension_eq
    rw [hk, show (Path.ofText "/old/x.png").hasExtension = true by decide +kernel] at hname
    cases hname
  obtain ⟨last, hlast, hqueue⟩ := (queue_drains_unless_trapped revisited wellFormed_gallery
    (by decide) everyPicture ⟨true, false⟩ moves hmoves 147 hsent).1 htrap
  have hempty := hqueue (fun _ item _ => Item.not_breaksDown (by decide +kernel) _ item) hfair
  refine ⟨hmoves, hsent, hfair, ⟨last, hlast, hempty⟩, ?_⟩
  intro stuck moves
  have hmoves (n : Nat) : (stuck.after moves n).Steady (moves n) ∧ (moves n).Returns :=
    steady_errands (by decide) _ n
  have hsent (n : Nat) (hn : n ≥ 145) (m : Message) : moves n ≠ .send m :=
    getD_errands_ne_send hn m
  have hfair : stuck.Fair moves :=
    fair_of_quiet 145 (fun n hn => List.getD_eq_default _ _ hn) (by decide +kernel)
      (List.isEmpty_iff.mp (by decide +kernel)) (by decide +kernel)
  have hfiles : remote.files.WellFormed :=
    ⟨by decide +kernel, by decide +kernel, by decide +kernel⟩
  refine ⟨hfair, ?_⟩
  exact (queue_drains_unless_trapped remote hfiles (by decide) everyPicture ⟨true, false⟩ moves
    hmoves 145 hsent).2.2 _ (by decide +kernel) 12 (by decide +kernel)

/-- A world without files and with a record of `/a/`. -/
def slashed : World where
  now := 0
  files := .empty
  store := { Store.new with pictures := some (Table.empty.insert "/a/" ⟨0, 1, "[]"⟩) }
  refused := []
  ocr := wooded.ocr
  classifier := wooded.classifier
  decoder := wooded.decoder
  calls := []

/-- The item of `/a/` is in flight, and its task has come to some point. -/
def caught (tally : Tally) (status : Status) (generation : Nat) (plan : Plan Outcome) : Session :=
  { starting slashed everyPicture ⟨true, false⟩ none with
    status := status
    tasks := [⟨.ofText "/a/", generation, .ready plan⟩]
    scheduler := { Scheduler.new everyPicture.excludedPrefixes none with
      queue := [⟨.ofText "/a/", .examine⟩]
      inFlight := some ⟨.ofText "/a/", generation, none⟩
      generation := generation
      tally := tally
      drainStart := some 0 } }

/-- The four sessions of which each leads to the next one: nothing is found at `/a/`, `/a/` is found
below itself, and this is reported. -/
def turning (tally : Tally) (status : Status) (generation : Nat) : Nat → Session
  | 0 => caught tally status generation
    ((Pipeline.ofConfig everyPicture ⟨true, false⟩).examine false (.ofText "/a/"))
  | 1 => caught tally status generation (Pipeline.examineMissing (.ofText "/a/"))
  | 2 => caught tally status generation (.done (.staleDescendants [.ofText "/a/"]))
  | _ => { caught tally status generation (.done (.staleDescendants [.ofText "/a/"])) with
    tasks := []
    mailbox := [.completed (.ofText "/a/") generation (.staleDescendants [.ofText "/a/"])] }

/-- The path is submitted once, and then the parties act in turn. -/
def circle (n : Nat) : Move :=
  if n = 0 then .send (.submit (.ofText "/a/")) else if n % 4 = 1 then .deliver else .task 0

lemma turning_task (tally : Tally) (status : Status) (generation : Nat) {i : Nat} (hi : i < 3) :
    (turning tally status generation i).move (.task 0) =
      turning tally status generation (i + 1) := by
  rcases i with _ | _ | _ | i
  · rfl
  · rfl
  · rfl
  · omega

/-- When the report is delivered, the item is started once more. -/
lemma turning_deliver (tally : Tally) (status : Status) (generation : Nat) :
    ∃ status', (turning tally status generation 3).move .deliver =
      turning { tally with processed := tally.processed + 1 } status' (generation + 1) 0 := by
  have hmail : (turning tally status generation 3).mailbox =
    [.completed (.ofText "/a/") generation (.staleDescendants [.ofText "/a/"])] := rfl
  have hcurrent : (turning tally status generation 3).scheduler.isCurrent (.ofText "/a/")
      generation = true := by
    rw [Scheduler.isCurrent, Bool.and_eq_true]
    exact ⟨sameAs_refl _, beq_self_eq_true generation⟩
  let tally' := { tally with processed := tally.processed + 1 }
  refine ⟨⟨.waiting, 1, true, tally', 0⟩, ?_⟩
  rw [(move_deliver hmail rfl).1,
    deliver_eq_turns (m := .completed (.ofText "/a/") generation _) rfl rfl (by simp),
    Scheduler.turns, if_pos hcurrent]
  rfl

/-- **The item is started again and again.** -/
lemma after_circle (j : Nat) : ∃ tally status, tally.processed = j ∧ ∀ i < 4,
    (starting slashed everyPicture ⟨true, false⟩ none).after circle (4 * j + 2 + i) =
      turning tally status (j + 1) i := by
  have hround (j : Nat) {tally : Tally} {status : Status}
      (hnow : (starting slashed everyPicture ⟨true, false⟩ none).after circle (4 * j + 2) =
        turning tally status (j + 1) 0) : ∀ i < 4,
      (starting slashed everyPicture ⟨true, false⟩ none).after circle (4 * j + 2 + i) =
        turning tally status (j + 1) i := by
    intro i hi
    induction i with
    | zero => exact hnow
    | succ i ih =>
      rw [← Nat.add_assoc, after, ih (by omega), circle, if_neg (by omega), if_neg (by omega)]
      exact turning_task tally status (j + 1) (by omega)
  induction j with
  | zero => exact ⟨Tally.zero, _, rfl, hround 0 rfl⟩
  | succ j ih =>
    obtain ⟨tally, status, hprocessed, hall⟩ := ih
    obtain ⟨status', hlater⟩ := turning_deliver tally status (j + 1)
    refine ⟨{ tally with processed := tally.processed + 1 }, status', by rw [← hprocessed],
      hround (j + 1) ?_⟩
    rw [show 4 * (j + 1) + 2 = 4 * j + 2 + 3 + 1 by omega, after, hall 3 (by omega), circle,
      if_neg (by omega), if_pos (by omega)]
    exact hlater

/-- What can be seen of the four sessions. -/
lemma turning_view (tally : Tally) (status : Status) (generation i : Nat) :
    (turning tally status generation i).scheduler.queue = [⟨.ofText "/a/", .examine⟩] ∧
    (turning tally status generation i).timers = [] ∧
    (∀ t ∈ (turning tally status generation i).tasks, t.generation = generation) ∧
    (turning tally status generation i).scheduler.tally = tally := by
  rcases i with _ | _ | _ | i
  · exact ⟨rfl, rfl, fun t ht => by rw [List.mem_singleton.mp ht], rfl⟩
  · exact ⟨rfl, rfl, fun t ht => by rw [List.mem_singleton.mp ht], rfl⟩
  · exact ⟨rfl, rfl, fun t ht => by rw [List.mem_singleton.mp ht], rfl⟩
  · exact ⟨rfl, rfl, fun t ht => absurd ht List.not_mem_nil, rfl⟩

/-- Every point after the start lies in one of the rounds. -/
lemma exists_round {n : Nat} (hn : n ≥ 2) : ∃ j tally status, ∃ i < 4, n = 4 * j + 2 + i ∧
    (starting slashed everyPicture ⟨true, false⟩ none).after circle n =
      turning tally status (j + 1) i := by
  obtain ⟨tally, status, -, hall⟩ := after_circle ((n - 2) / 4)
  refine ⟨(n - 2) / 4, tally, status, (n - 2) % 4, Nat.mod_lt _ (by omega), by omega, ?_⟩
  rw [← hall _ (Nat.mod_lt _ (by omega))]
  congr 1
  omega

lemma circle_cases (n : Nat) : circle n = .deliver ∨ circle n = .task 0 ∨
    n = 0 ∧ circle n = .send (.submit (.ofText "/a/")) := by
  rw [circle]
  split
  · exact .inr (.inr ⟨by assumption, rfl⟩)
  · split
    · exact .inl rfl
    · exact .inr (.inl rfl)

/-- Nobody is put off: mail is delivered in every round, and in each only the task of its generation
lives. -/
lemma fair_circle : (starting slashed everyPicture ⟨true, false⟩ none).Fair circle := by
  refine ⟨fun n _ => ⟨4 * n + 1, by omega, ?_⟩, fun n t ht _ => ?_, fun n t ht => ?_⟩
  · rw [circle, if_neg (by omega), if_pos (by omega)]
  · rcases n with _ | _ | n
    · exact absurd ht List.not_mem_nil
    · exact absurd ht List.not_mem_nil
    obtain ⟨j, tally, status, i, hi, hn, hnow⟩ := exists_round (by omega : n + 2 ≥ 2)
    obtain ⟨tally', status', -, hall⟩ := after_circle (j + 1)
    refine ⟨4 * (j + 1) + 2, by omega, fun hlater => ?_⟩
    have hold := (turning_view tally status (j + 1) i).2.2.1 t (hnow ▸ ht)
    have hnew := (turning_view tally' status' (j + 2) 0).2.2.1 t (hall 0 (by omega) ▸ hlater)
    omega
  · rcases n with _ | _ | n
    · exact absurd ht List.not_mem_nil
    · exact absurd ht List.not_mem_nil
    obtain ⟨j, tally, status, i, hi, hn, hnow⟩ := exists_round (by omega : n + 2 ≥ 2)
    rw [hnow, (turning_view tally status (j + 1) i).2.1] at ht
    exact absurd ht List.not_mem_nil

/-- **A queue that never drains.**  One path is submitted once, and the parties act in turn for
ever. -/
theorem queue_never_drains :
    let first := starting slashed everyPicture ⟨true, false⟩ none
    slashed.files.WellFormed ∧ slashed.decoder.Returns ∧
      (∀ n, (first.after circle n).Steady (circle n) ∧ (circle n).Returns) ∧
      (∀ n ≥ 1, ∀ m, circle n ≠ .send m) ∧ first.Fair circle ∧
      (∀ n ≥ 2, (first.after circle n).scheduler.queue = [⟨.ofText "/a/", .examine⟩]) ∧
      ∀ j, ∃ n, (first.after circle n).scheduler.tally.processed = j := by
  intro first
  refine ⟨⟨List.nodup_nil, nofun, nofun⟩, by decide, fun n => ?_, fun n hn m => ?_, fair_circle,
    fun n hn => ?_, fun j => ?_⟩
  · rcases circle_cases n with hv | hv | ⟨-, hv⟩ <;> rw [hv]
    · exact ⟨trivial, trivial⟩
    · exact ⟨trivial, trivial⟩
    · exact ⟨rfl, trivial⟩
  · rcases circle_cases n with hv | hv | ⟨hzero, -⟩
    · simp [hv]
    · simp [hv]
    · omega
  · obtain ⟨j, tally, status, i, -, -, hnow⟩ := exists_round hn
    rw [hnow]
    exact (turning_view tally status (j + 1) i).1
  · obtain ⟨tally, status, hprocessed, hall⟩ := after_circle j
    refine ⟨4 * j + 2, ?_⟩
    rw [show first.after circle (4 * j + 2) = _ from hall 0 (by omega),
      (turning_view tally status (j + 1) 0).2.2.2, hprocessed]

end Session

end Simulation

end PictureIndex
