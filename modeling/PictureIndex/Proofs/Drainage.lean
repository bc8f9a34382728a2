import Mathlib.Logic.Hydra
import PictureIndex.Proofs.Descent
import PictureIndex.Proofs.EventOrder
import PictureIndex.Proofs.LawfulRecords
/-!
# The queue drains

Items lead to other items, and the records that a path which is gone leads to are still there when
they are looked at.  So that there is an end is not plain.  If no record is a trap, every item is
further from it than those to which it leads (`rank_lt_of_leadsTo`).  What is left to be done
(`Session.toDo`) is what is queued and what messages in the mailbox ask for; when an item leaves,
it is replaced there by those to which it has led (`Busy.toDo_move`).  So the ranks of what is left
to be done are changed like the heads of a hydra: one is cut off, and finitely many lower ones grow
in its place.  That comes to an end (`exists_last_left`).

Nothing is assumed here about the order of events, nor that anybody answers in time.  That the last
item leaves a queue behind that is empty takes moves that put nobody off, and a queue without items
that break their tasks down (`queue_eq_nil_of_last`).
-/

namespace PictureIndex

open Log

/-- Whether a request removes a record. -/
def Request.isRemove : Request → Bool
  | .remove _ => true
  | _ => false

/-- Whether an item may remove the record of its path. -/
def Item.MayRemove (files : FileTree) (item : Item) : Prop :=
  item.work = .removeStale ∨ files.kind? item.path = some .file ∨ item.path.hasExtension = true

namespace Pipeline

open Plan

variable (e : Pipeline) (exhausted : Bool) (p : Path) {files : FileTree} {recorded : String → Prop}
  {answers : (r : Request) → r.Answer → Prop}

/-- The answers of fixed files, and of a store that has no records but certain ones. -/
def fixed (files : FileTree) (recorded : String → Prop) : (r : Request) → r.Answer → Prop
  | .list p, a => Store.SamePaths a (files.list p)
  | .under p, a => ∀ ks, a = .ok ks → ∀ k ∈ ks, p.Lists k ∧ recorded k
  | r, a => told files r a

/-- So what is asked about the files is answered as they are. -/
lemma told_of_fixed {r : Request} {a : r.Answer} (h : fixed files recorded r a) :
    told files r a := by
  cases r with
  | list | under => trivial
  | _ => exact h

lemma abides_describe_nowhere (b : Bitmap) (time : Instant) (size : Nat) :
    (e.describe p b time size).Abides answers (fun _ => True) (·.discovered = []) := by
  rw [describe]
  split
  · rfl
  · refine abides_bind.mpr ((abides_anyhow _).mono fun found _ => ?_)
    simp only
    split
    · rfl
    · refine abides_request trivial fun answer _ => ?_
      cases answer <;> rfl

/-- A picture leads nowhere. -/
lemma abides_annotate_nowhere :
    (e.annotate exhausted p).Abides answers (fun _ => True) (·.discovered = []) := by
  refine e.abides_annotate_of exhausted p trivial trivial trivial rfl (fun _ _ _ => trivial)
    fun info time _ _ => ?_
  refine abides_request trivial fun recorded _ => ?_
  split
  · rfl
  split
  · rfl
  refine abides_request trivial fun decoded _ => ?_
  cases decoded with
  | none => rfl
  | some b => exact abides_request trivial fun _ _ => e.abides_describe_nowhere p b time _

/-- **An item discovers only paths to which it leads**, and removes no record unless it may. -/
theorem abides_leadsTo (hanswers : ∀ r a, answers r a → fixed files recorded r a) (item : Item) :
    (e.process exhausted item).Abides answers
      (fun r => r.isRemove = true → item.MayRemove files)
      fun outcome => ∀ q ∈ outcome.discovered, LeadsTo files recorded item q := by
  have hnowhere {outcome : Outcome} (hnone : outcome.discovered = []) :
      ∀ q ∈ outcome.discovered, LeadsTo files recorded item q := by
    simp [hnone]
  obtain ⟨p, work⟩ := item
  cases work with
  | removeStale =>
    refine abides_request (by simp [Request.isRemove]) fun kind _ => ?_
    cases kind with
    | none =>
      exact (within_removeRecord p (fun _ => .inl rfl) (hnowhere rfl) (hnowhere rfl)).abides
    | some kind => exact hnowhere rfl
  | examine =>
    refine abides_request (by simp [Request.isRemove]) fun kind hkind => ?_
    have hkind' : kind = files.kind? p := hanswers _ _ hkind
    rcases kind with _ | (_ | _ | _ | _)
    · change (examineMissing p).Abides _ _ _
      rw [examineMissing]
      split
      · rename_i hname
        exact (within_removeRecord p (fun _ => .inr (.inr hname)) (hnowhere rfl)
          (hnowhere rfl)).abides
      · rename_i hname
        refine abides_request (by simp [Request.isRemove]) fun answer hanswer => ?_
        have hunder : ∀ ks, answer = .ok ks → ∀ k ∈ ks, p.Lists k ∧ recorded k :=
          hanswers _ _ hanswer
        cases answer with
        | error => exact hnowhere rfl
        | ok ks =>
          intro q hq
          obtain ⟨k, hk, rfl⟩ := List.mem_map.mp hq
          obtain ⟨hlists, hrecorded⟩ := hunder ks rfl k hk
          exact .below hkind'.symm (by simpa using hname) hlists hrecorded
    · exact hnowhere rfl
    · refine abides_request (by simp [Request.isRemove]) fun children hchildren => ?_
      have hlisted : Store.SamePaths children (files.list p) := hanswers _ _ hchildren
      exact fun q hq => .entry hkind'.symm ((hlisted q).mp hq)
    · refine abides_request (by simp [Request.isRemove]) fun type _ => ?_
      split
      · exact hnowhere rfl
      · exact ((e.abides_annotate_nowhere exhausted p).allowing
          fun r _ _ => .inr (.inl hkind'.symm)).mono fun _ => hnowhere
    · exact hnowhere rfl

end Pipeline

/-- Whether a text may come to have a record in a world: it has one, or the path that it spells has
an extension, as all have for which records are written. -/
def Simulation.World.MayRecord (w : Simulation.World) (k : String) : Prop :=
  w.row? (.ofText k) ≠ none ∨ (Path.ofText k).hasExtension = true

namespace Simulation.World

variable {w : World} {p : Path}

/-- The store lists what it has a record for. -/
lemma mem_under {ks : List String} (h : w.query .under (·.under p) = .ok ks) {k : String} :
    k ∈ ks ↔ p.Lists k ∧ w.row? (.ofText k) ≠ none := by
  rw [query] at h
  split at h
  · cases h
  rw [row?, Path.text_ofText]
  cases ht : w.store.pictures with
  | none => simp [Store.under, Store.pictureTable, ht, bind, Except.bind] at h
  | some t =>
    obtain ⟨ks', hks', hlisted⟩ := Store.under_lists ht p
    obtain rfl := Except.ok.inj (hks'.symm.trans h)
    rw [hlisted, Option.bind_some, ← Option.isSome_iff_ne_none, and_comm]

lemma exists_under (hserves : StoreCall.under ∉ w.refused) (hpictures : w.store.pictures ≠ none) :
    ∃ ks, w.query .under (·.under p) = .ok ks := by
  obtain ⟨t, ht⟩ := Option.ne_none_iff_exists'.mp hpictures
  obtain ⟨ks, hks, -⟩ := Store.under_lists ht p
  refine ⟨ks, ?_⟩
  rw [query, if_neg (by simpa using hserves), hks]

end Simulation.World

namespace Simulation.Session

variable {s : Session} {deeds : List Deed} {world : World} {c : Config} {v : Move}

/-! ## What is left to be done -/

/-- What is known of a session that has been given errands only. -/
structure Busy (world : World) (c : Config) (s : Session) (deeds : List Deed) : Prop where
  /-- The scheduler is as it should be. -/
  sound : s.Sound deeds
  /-- The ledger and the parties are in order. -/
  orderly : Orderly s.mailbox s deeds
  /-- The files are the same. -/
  files_agree : s.world.files.Agrees world.files
  /-- The store refuses the same. -/
  refused_eq : s.world.refused = world.refused
  /-- The scheduler has not stopped. -/
  stopped_eq : s.scheduler.stopped = false
  /-- What is excluded stays excluded. -/
  excluded_eq : s.scheduler.excludedPrefixes = c.excludedPrefixes
  /-- Mail comes from tasks and timers, or it is an errand. -/
  mail : ∀ m ∈ s.mailbox, m.about?.isSome ∨ m.isErrand = true

lemma Busy.not_shutdown (h : s.Busy world c deeds) {m : Message} (hm : m ∈ s.mailbox) :
    m ≠ .shutdown := by
  rintro rfl
  simpa [Message.about?, Message.isErrand] using h.mail _ hm

lemma Busy.move (h : s.Busy world c deeds) (hsteady : s.Steady v) :
    (s.move v).Busy world c (deeds ++ s.deeds v) := by
  have hsound := h.sound.move v
  have horderly := h.orderly.move hsteady.legal h.sound
  obtain ⟨hfiles, hrefused⟩ : (s.move v).world.files.Agrees world.files ∧
      (s.move v).world.refused = world.refused := by
    refine world_move (R := fun w => w.files.Agrees world.files ∧ w.refused = world.refused)
      (fun w hw => ?_) (fun _ r _ => ?_) fun _ => ⟨h.files_agree, h.refused_eq⟩
    · cases v with
      | become w' =>
        obtain rfl : w' = w := Option.some.inj hw
        exact ⟨fun l => (hsteady.1 l).trans (h.files_agree l), hsteady.2.2.trans h.refused_eq⟩
      | _ => exact nomatch hw
    · obtain ⟨hsame, hkept, -⟩ := s.world.reply_frame r
      rw [hsame, hkept]
      exact ⟨h.files_agree, h.refused_eq⟩
  have hmail : ∀ m ∈ (s.move v).mailbox, m.about?.isSome ∨ m.isErrand = true := by
    intro m hm
    rcases mem_mailbox_move hm with hold | ⟨-, hfrom⟩ | ⟨-, habout⟩ | rfl | rfl
    · exact h.mail m hold
    · exact .inl (Message.about_of_isFromTask hfrom)
    · exact .inl habout
    · exact absurd hsteady id
    · exact .inr hsteady
  by_cases hv : v = .deliver
  · subst hv
    cases hbox : s.mailbox with
    | nil =>
      have hsame : (s.move .deliver).scheduler = s.scheduler := by
        rw [(move_deliver_nothing h.sound (.inl hbox)).1]
      exact ⟨hsound, horderly, hfiles, hrefused, by rw [hsame]; exact h.stopped_eq,
        by rw [hsame]; exact h.excluded_eq, hmail⟩
    | cons m rest =>
      obtain ⟨-, -, hopen, hexcluded, -⟩ := h.sound.log_deliver h.stopped_eq hbox
        (h.not_shutdown (by simp [hbox]))
      exact ⟨hsound, horderly, hfiles, hrefused, hopen, hexcluded.trans h.excluded_eq, hmail⟩
  · have hsame := (move_scheduler (s := s) hv).1
    exact ⟨hsound, horderly, hfiles, hrefused, by rw [hsame]; exact h.stopped_eq,
      by rw [hsame]; exact h.excluded_eq, hmail⟩

/-- The items that are queued, and those that messages still ask for. -/
def toDo (excluded : List String) (s : Session) : List Item :=
  s.scheduler.queue ++ s.mailbox.flatMap (·.items excluded)

/-- What was queued leaves or is still queued, and so is what has joined. -/
lemma Sound.queue_move (h : s.Sound deeds) (hopen : s.scheduler.stopped = false)
    (hstays : (s.move v).scheduler.stopped = false) {F : List Departure} {items : List Item}
    (hleft : departures (Deed.log (deeds ++ s.deeds v)) = departures (Deed.log deeds) ++ F)
    (hjoined : joined (Deed.log (deeds ++ s.deeds v)) = joined (Deed.log deeds) ++ items) :
    F.map (·.item) ++ (s.move v).scheduler.queue = s.scheduler.queue ++ items := by
  have hbefore := h.joined_eq hopen
  have hafter := (h.move v).joined_eq hstays
  rw [hjoined, hbefore, hleft, List.map_append, List.append_assoc, List.append_assoc] at hafter
  exact (List.append_cancel_left hafter).symm

/-- **Unless a message is sent, the only things that are added to what is left to be done are those
to which an item that leaves has led.** -/
theorem Busy.toDo_move (h : s.Busy world c deeds) (hsteady : s.Steady v)
    (hsend : ∀ m, v ≠ .send m) :
    ∃ F, departures (Deed.log (deeds ++ s.deeds v)) = departures (Deed.log deeds) ++ F ∧
      (F = [] ∨ ∃ d, F = [d]) ∧
      (F.map (·.item) ++ (s.move v).toDo c.excludedPrefixes).Perm
        (s.toDo c.excludedPrefixes ++ F.flatMap (·.followers c.excludedPrefixes)) := by
  by_cases hv : v = .deliver
  · subst hv
    cases hbox : s.mailbox with
    | nil =>
      obtain ⟨hmove, hdeeds⟩ := move_deliver_nothing h.sound (.inl hbox)
      refine ⟨[], by rw [hdeeds, List.append_nil, List.append_nil], .inl rfl, ?_⟩
      simp [toDo, hmove, hbox]
    | cons m rest =>
      obtain ⟨hjoined, hleft, hstays, -, hrest⟩ := h.sound.log_deliver h.stopped_eq hbox
        (h.not_shutdown (by simp [hbox]))
      refine ⟨s.scheduler.accepted m, hleft, ?_, ?_⟩
      · exact (accepted_eq s.scheduler m).imp_right fun ⟨d, hd, _⟩ => ⟨d, hd⟩
      · have hqueue := h.sound.queue_move h.stopped_eq hstays hleft hjoined
        rw [s.scheduler.additions_eq, h.excluded_eq] at hqueue
        rw [toDo, toDo, hbox, hrest, List.flatMap_cons, ← List.append_assoc, hqueue]
        simp only [List.append_assoc]
        exact (List.Perm.append_left _ (List.Perm.append_left _ List.perm_append_comm))
  · obtain ⟨more, hmore, hfrom⟩ := mailbox_move (s := s) hv
    obtain ⟨hscheduler, hlog⟩ := move_scheduler (s := s) hv
    refine ⟨[], by rw [Deed.log_append, hlog, List.append_nil, List.append_nil], .inl rfl, ?_⟩
    -- nobody but the host asks for items
    have hnone : more.flatMap (·.items c.excludedPrefixes) = [] := by
      refine List.flatMap_eq_nil_iff.mpr fun m hm => ?_
      refine Message.items_of_about ?_ _
      rcases hfrom m hm with ⟨-, htask⟩ | ⟨-, htimer⟩ | rfl | rfl
      · exact Message.about_of_isFromTask htask
      · exact htimer
      · exact absurd hsteady id
      · exact absurd rfl (hsend m)
    simp [toDo, hscheduler, hmore, hnone]

/-! ## Endless errands -/

section

variable {backends : Backends} {moves : Nat → Move} {n : Nat}

lemma Steady.row?_eq (h : s.Steady v) {w : World} (hw : w ∈ v.world?) (p : Path) :
    w.row? p = s.world.row? p := by
  cases v with
  | become w' =>
    obtain rfl : w' = w := Option.some.inj hw
    rw [World.row?, World.row?, h.2.1]
  | _ => cases hw

/-- What is known of all moves up to some point: nothing happens but errands, and the decoder comes
back. -/
def Errands (first : Session) (moves : Nat → Move) (n : Nat) : Prop :=
  ∀ k < n, (first.after moves k).Steady (moves k) ∧ (moves k).Returns

lemma busy_after (herrands : (starting world c backends none).Errands moves n) :
    ((starting world c backends none).after moves n).Busy world c
      ((starting world c backends none).chronicle moves n) := by
  induction n with
  | zero =>
    exact ⟨sound_starting world c backends none, orderly_starting world c backends none,
      fun _ => rfl, rfl, rfl, rfl, nofun⟩
  | succ n ih => exact (ih fun k hk => herrands k (by omega)).move (herrands n (by omega)).1

/-- As long as errands are all that happens, the decoder comes back. -/
lemma decoder_returns (hreturns : world.decoder.Returns)
    (herrands : (starting world c backends none).Errands moves n) :
    ((starting world c backends none).after moves n).world.decoder.Returns := by
  induction n with
  | zero => exact hreturns
  | succ n ih =>
    have hnow := ih fun k hk => herrands k (by omega)
    refine world_move (R := fun w => w.decoder.Returns) (fun w hw => ?_) (fun _ r _ => ?_)
      fun _ => hnow
    · have hmove := (herrands n (by omega)).2
      cases hv : moves n with
      | become w' =>
        rw [hv] at hw hmove
        obtain rfl : w' = w := Option.some.inj hw
        exact hmove
      | _ => rw [hv] at hw; cases hw
    · rw [(World.reply_frame _ r).2.2]
      exact hnow

/-- Only texts that may have a record ever have one. -/
lemma mayRecord_of_row?
    (hsteady : ∀ k < n, ((starting world c backends none).after moves k).Steady (moves k))
    {k : String} {row : Row}
    (hrow : ((starting world c backends none).after moves n).world.row? (.ofText k) = some row) :
    world.MayRecord k := by
  rcases row?_after (fun j hj w hw => (hsteady j hj).row?_eq hw _) hrow with
    hold | ⟨generation, record, hwrote, htext, -⟩
  · exact .inl (by simp [show world.row? (.ofText k) = some row from hold])
  · right
    have hlawful := lawful_of_written (fun j hj => (hsteady j hj).legal) hwrote
    rw [← Path.text_ofText k, ← htext]
    exact Path.hasExtension_of_isCandidate hlawful.candidate

/-- What tasks are told of the files and the store. -/
lemma fixed_of_told
    (hbusy : ((starting world c backends none).after moves n).Busy world c
      ((starting world c backends none).chronicle moves n))
    (hsteady : ∀ k < n, ((starting world c backends none).after moves k).Steady (moves k))
    {generation : Nat} {r : Request} {a : r.Answer}
    (htold : ((starting world c backends none).after moves n).Told (moves n) generation r a) :
    Pipeline.fixed world.files world.MayRecord r a := by
  obtain ⟨-, delay, w, hreply⟩ := htold
  have hfiles := hbusy.files_agree
  cases r with
  | kind p =>
    obtain ⟨rfl, -⟩ := Reply.answer.inj (Prod.mk.inj hreply).1
    exact hfiles.kind?_eq
  | sniff p =>
    obtain ⟨rfl, -⟩ := Reply.answer.inj (Prod.mk.inj hreply).1
    exact hfiles.pictureType_eq
  | info p =>
    obtain ⟨rfl, -⟩ := Reply.answer.inj (Prod.mk.inj hreply).1
    exact hfiles.info?_eq
  | list p =>
    obtain ⟨rfl, -⟩ := Reply.answer.inj (Prod.mk.inj hreply).1
    exact fun q => hfiles.mem_list
  | under p =>
    obtain ⟨rfl, -⟩ := Reply.answer.inj (Prod.mk.inj hreply).1
    intro ks hks k hk
    obtain ⟨hlists, hrow⟩ := (World.mem_under hks).mp hk
    obtain ⟨row, hrow⟩ := Option.ne_none_iff_exists'.mp hrow
    exact ⟨hlists, mayRecord_of_row? hsteady hrow⟩
  | _ => trivial

lemma answered_fixed
    (herrands : (starting world c backends none).Errands moves n) {generation m : Nat}
    {r : Request} {a : r.Answer}
    (h : (starting world c backends none).answered moves generation m n r a) :
    Pipeline.fixed world.files world.MayRecord r a := by
  obtain ⟨k, -, hk, htold⟩ := h
  have hbefore : ∀ j < k, _ := fun j hj => herrands j (by omega)
  exact fixed_of_told (busy_after hbefore) (fun j hj => (hbefore j hj).1) htold

/-- **Items that have left have led only to paths to which they lead.** -/
theorem leadsTo_of_left
    (herrands : (starting world c backends none).Errands moves n) {d : Departure}
    (hd : d ∈ (starting world c backends none).finished moves n) :
    ∀ y ∈ d.followers c.excludedPrefixes, y.work = .examine ∧
      y.path.isExcluded c.excludedPrefixes = false ∧
      PictureIndex.LeadsTo world.files world.MayRecord d.item y.path := by
  intro y hy
  cases houtcome : d.outcome with
  | none => simp [Departure.followers, houtcome] at hy
  | some outcome =>
    obtain ⟨hwork, hadmitted, hdiscovered⟩ := (mem_followers houtcome).mp hy
    obtain ⟨k, hk, l, exhausted, -, hreach⟩ :=
      (chronicled world c backends none fun k hk => (herrands k hk).1.legal).left d hd outcome
        houtcome
    have hplan : ((Pipeline.ofConfig c backends).process exhausted d.item).Abides
        ((starting world c backends none).answered moves d.generation l n) _ _ :=
      Pipeline.abides_leadsTo (Pipeline.ofConfig c backends) exhausted
        (fun r a => answered_fixed herrands) d.item
    exact ⟨hwork, hadmitted, abides_of_heard hplan hreach (by omega) hk _ hdiscovered⟩

/-! ## There is an end -/

/-- There are only so many records, so there is a longest text among those without an extension. -/
lemma exists_longest (world : World) : ∃ longest, ∀ k, world.MayRecord k →
    (Path.ofText k).hasExtension = false → k.toList.length ≤ longest := by
  cases ht : world.store.pictures with
  | none =>
    refine ⟨0, fun k hk hname => ?_⟩
    have hnone : world.row? (.ofText k) = none := by rw [World.row?, ht, Option.bind_none]
    exact absurd hk (by simp [World.MayRecord, hnone, hname])
  | some t =>
    refine ⟨(t.keys.map fun k => k.toList.length).sum, fun k hk hname => ?_⟩
    have hrow := hk.resolve_right (by simp [hname])
    rw [World.row?, ht, Option.bind_some, Path.text_ofText] at hrow
    refine List.le_sum_of_mem (List.mem_map_of_mem (Table.mem_keys.mpr ?_))
    exact Option.isSome_iff_ne_none.mpr hrow

/-- What descends whenever something happens stops happening. -/
lemma exists_last {α : Type*} {r : α → α → Prop} (hr : WellFounded r) {f : Nat → α}
    {P : Nat → Prop} {first : Nat} (hstep : ∀ n ≥ first, P n → r (f (n + 1)) (f n))
    (hstay : ∀ n ≥ first, ¬ P n → f (n + 1) = f n) : ∃ last ≥ first, ∀ n ≥ last, ¬ P n := by
  obtain ⟨_, ⟨last, hlast, rfl⟩, hleast⟩ :=
    hr.has_min (f '' {n | first ≤ n}) ⟨_, first, le_refl first, rfl⟩
  have hnot (n : Nat) (hn : last ≤ n) (hsame : f n = f last) : ¬ P n := fun hP =>
    hleast _ ⟨n + 1, show first ≤ n + 1 from le_trans hlast (by omega), rfl⟩
      (hsame ▸ hstep n (le_trans hlast hn) hP)
  have hsame (n : Nat) (hn : last ≤ n) : f n = f last := by
    induction n, hn using Nat.le_induction with
    | base => rfl
    | succ n hn ih => exact (hstay n (le_trans hlast hn) (hnot n hn ih)).trans ih
  exact ⟨last, hlast, fun n hn => hnot n hn (hsame n hn)⟩

/-- How far away all those items are from the end that are left to be done. -/
def ranks (world : World) (c : Config) (longest : Nat) (s : Session) : Multiset Nat :=
  ((s.toDo c.excludedPrefixes).map (·.rank world.files longest) : List Nat)

/-- **An item that leaves is replaced by items which are nearer to the end**, if no record is a
trap. -/
theorem cutExpand_of_left (hfiles : world.files.WellFormed)
    {longest : Nat} (hlongest : ∀ k, world.MayRecord k → (Path.ofText k).hasExtension = false →
      k.toList.length ≤ longest)
    (htrap : ∀ k, world.row? (.ofText k) ≠ none →
      (Path.ofText k).isExcluded c.excludedPrefixes = false → ¬ world.files.IsTrap k)
    (herrands : (starting world c backends none).Errands moves (n + 1))
    (hsend : ∀ m, moves n ≠ .send m) :
    let first := starting world c backends none
    (first.finished moves (n + 1) ≠ first.finished moves n →
      Relation.CutExpand (· < ·) ((first.after moves (n + 1)).ranks world c longest)
        ((first.after moves n).ranks world c longest)) ∧
    (first.finished moves (n + 1) = first.finished moves n →
      (first.after moves (n + 1)).ranks world c longest =
        (first.after moves n).ranks world c longest) := by
  intro first
  have hbusy : (first.after moves n).Busy world c (first.chronicle moves n) :=
    busy_after fun k hk => herrands k (by omega)
  obtain ⟨F, hleft, hone, hperm⟩ := hbusy.toDo_move (herrands n (by omega)).1 hsend
  have hleft' : first.finished moves (n + 1) = first.finished moves n ++ F := hleft
  have hperm' := hperm.map (·.rank world.files longest)
  change (List.map _ (_ ++ (first.after moves (n + 1)).toDo _)).Perm _ at hperm'
  rw [← Multiset.coe_eq_coe, List.map_append, List.map_append, ← Multiset.coe_add,
    ← Multiset.coe_add] at hperm'
  rcases hone with rfl | ⟨d, rfl⟩
  · refine ⟨fun hne => absurd (by simpa using hleft') hne, fun _ => ?_⟩
    simpa [ranks] using hperm'
  · refine ⟨fun _ => ?_, fun hsame => absurd (hsame.symm.trans hleft') (by simp)⟩
    refine ⟨(d.followers c.excludedPrefixes).map (·.rank world.files longest),
      d.item.rank world.files longest, fun a ha => ?_, ?_⟩
    · obtain ⟨y, hy, rfl⟩ := List.mem_map.mp (Multiset.mem_coe.mp ha)
      obtain ⟨hwork, hadmitted, hleads⟩ :=
        leadsTo_of_left herrands (d := d) (by rw [hleft']; simp) y hy
      obtain ⟨q, work⟩ := y
      obtain rfl : work = .examine := hwork
      refine rank_lt_of_leadsTo hfiles hlongest hleads fun k hk hq htrapped => ?_
      subst hq
      exact htrap k (hk.resolve_right (by simp [htrapped.hasExtension_eq])) hadmitted htrapped
    · simp only [List.map_cons, List.map_nil, List.flatMap_cons, List.flatMap_nil,
        List.append_nil] at hperm'
      rw [add_comm]
      exact hperm'

/-- **There is a last item to leave**, if no record is a trap and nothing is sent any more. -/
theorem exists_last_left (hfiles : world.files.WellFormed)
    (htrap : ∀ k, world.row? (.ofText k) ≠ none →
      (Path.ofText k).isExcluded c.excludedPrefixes = false → ¬ world.files.IsTrap k)
    (herrands : ∀ n, (starting world c backends none).Errands moves n) {sent : Nat}
    (hsent : ∀ n ≥ sent, ∀ m, moves n ≠ .send m) :
    let first := starting world c backends none
    ∃ last ≥ sent, ∀ n ≥ last, first.finished moves (n + 1) = first.finished moves n := by
  intro first
  obtain ⟨longest, hlongest⟩ := exists_longest world
  have hcut (n : Nat) (hn : n ≥ sent) := cutExpand_of_left hfiles hlongest htrap
    (herrands (n + 1)) (hsent n hn)
  have hr : WellFounded (Relation.CutExpand ((· < ·) : Nat → Nat → Prop)) :=
    wellFounded_lt.cutExpand
  obtain ⟨last, hlast, hnot⟩ := exists_last hr
    (f := fun n => (first.after moves n).ranks world c longest)
    (P := fun n => first.finished moves (n + 1) ≠ first.finished moves n)
    (fun n (hn : n ≥ sent) => (hcut n hn).1) fun n hn hsame => (hcut n hn).2 (not_not.mp hsame)
  exact ⟨last, hlast, fun n hn => not_not.mp (hnot n hn)⟩

/-- Where no item breaks its task down that is queued, whoever is asked comes back. -/
lemma responds_of_unbroken (hreturns : world.decoder.Returns)
    (herrands : (starting world c backends none).Errands moves n)
    (hqueue : ∀ item ∈ ((starting world c backends none).after moves n).scheduler.queue,
      ¬ item.BreaksDown (Pipeline.ofConfig c backends).maxSize world.files) :
    ((starting world c backends none).after moves n).Responds (moves n) := by
  refine responds_of_returns (decoder_returns hreturns herrands) fun task hput => ?_
  have hbusy := busy_after herrands
  obtain ⟨item, k, next, -, hk, hdescends, -⟩ :=
    (chronicled world c backends none fun k hk => (herrands k hk).1.legal).of_put hput
  -- its item is the one in flight, at the front of the queue
  obtain ⟨i, -, -, htask, -⟩ := plan_of_put? hput
  obtain ⟨f, -, hf, -, -, -, hgeneration, -⟩ := hbusy.orderly.alone htask
  obtain ⟨front, waiting, hfront⟩ := List.exists_cons_of_ne_nil (hbusy.sound.in_flight hf).2.1
  obtain rfl := hbusy.sound.item_eq hf (by rw [hfront]; rfl) (hgeneration ▸ hdescends.started hk)
  obtain ⟨l, exhausted, -, hreach⟩ := hdescends
  have hplan : ((Pipeline.ofConfig c backends).process exhausted item).Abides
      ((starting world c backends none).answered moves task.generation l n) _ _ :=
    (Pipeline.ofConfig c backends).abides_unbroken exhausted
      (fun r a h => Pipeline.told_of_fixed (answered_fixed herrands h))
      (hqueue item (by simp [hfront]))
  exact (abides_of_heard hplan hreach (by omega) hk).1 rfl

/-- Where no further item leaves, the queue is empty, if no item breaks its task down that is queued
and nobody is put off for ever. -/
lemma queue_eq_nil_of_last (hreturns : world.decoder.Returns)
    (herrands : ∀ n, (starting world c backends none).Errands moves n)
    (hqueued : ∀ n, ∀ item ∈ ((starting world c backends none).after moves n).scheduler.queue,
      ¬ item.BreaksDown (Pipeline.ofConfig c backends).maxSize world.files)
    (hfair : (starting world c backends none).Fair moves) {last : Nat}
    (hlast : ∀ n ≥ last, (starting world c backends none).finished moves (n + 1) =
      (starting world c backends none).finished moves n) {n : Nat} (hn : last ≤ n) :
    ((starting world c backends none).after moves n).scheduler.queue = [] := by
  have hbusy (n : Nat) := busy_after (herrands n)
  have hmoves (n : Nat) : (moves n).Legal ∧
      ((starting world c backends none).after moves n).Responds (moves n) :=
    ⟨(herrands (n + 1) n (by omega)).1.legal,
      responds_of_unbroken hreturns (herrands n) (hqueued n)⟩
  have hsame (k : Nat) : (starting world c backends none).finished moves (n + k) =
      (starting world c backends none).finished moves n := by
    induction k with
    | zero => rfl
    | succ k ih => exact (hlast (n + k) (by omega)).trans ih
  by_contra hqueue
  have hhealthy := (healthy_starting world c backends none).after hmoves n
  obtain ⟨k, hk⟩ := hhealthy.passes (hbusy n).stopped_eq hqueue
    (fun j => by rw [after_after]; exact hmoves (n + j)) (hfair.after n)
  rw [after_after] at hk
  have hprocessed (j : Nat) :
      ((starting world c backends none).after moves j).scheduler.tally.processed =
        ((starting world c backends none).finished moves j).length :=
    (hbusy j).sound.tallied.processed_eq
  rcases hk with hstopped | ⟨outcome, hpassed, -⟩
  · simp [(hbusy (n + k)).stopped_eq] at hstopped
  · have hone := hpassed.processed
    rw [hprocessed, hprocessed, hsame k] at hone
    omega

end

end Simulation.Session

end PictureIndex
