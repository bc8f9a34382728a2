import PictureIndex.Proofs.Courses
import PictureIndex.Proofs.Requests
/-!
# The order of events makes no difference

Paths are submitted and records are to be removed if they are stale, in any order and as often as
one likes, while tasks finish whenever they do and directories list their entries in any order.  As
long as nothing else comes from outside, the items that have left when the queue has drained are a
course (`Situation.Course`) for the messages sent.  So two sessions to which the same messages were
sent end with the same store (`final_store_independent_of_order`).

A path that is not UTF-8 shares its record with the path that its text spells.  If something stands
there, the order does matter (`final_store_depends_on_order`).
-/

namespace PictureIndex

open Log

/-- The items that a message from outside asks for. -/
def Message.items (excluded : List String) : Message → List Item
  | .submit p => if p.isExcluded excluded then [] else [⟨p, .examine⟩]
  | .removeStale p => [⟨p, .removeStale⟩]
  | _ => []

/-- Whether a message asks for a path to be looked at or for a stale record to be removed. -/
def Message.isErrand : Message → Bool
  | .submit _ | .removeStale _ => true
  | _ => false

/-- What is about an item asks for none. -/
lemma Message.items_of_about {m : Message} (h : m.about?.isSome) (excluded : List String) :
    m.items excluded = [] := by
  cases m with
  | submit p => cases h
  | removeStale p => cases h
  | _ => rfl

namespace Scheduler

/-- What joins with a message is what it asks for, and what the item that it finishes has led to. -/
lemma additions_eq (s : Scheduler) (m : Message) : s.additions m = m.items s.excludedPrefixes ++
    (s.accepted m).flatMap (·.followers s.excludedPrefixes) := by
  cases m with
  | submit p =>
    cases hp : p.isExcluded s.excludedPrefixes <;>
      simp [additions, admitted, Message.items, accepted, hp]
  | completed p generation outcome =>
    simp only [additions, accepted, Message.items, List.nil_append]
    split
    · rename_i hc
      cases hqueue : s.queue with
      | nil => simp [isCurrent, hqueue] at hc
      | cons item rest =>
        rw [List.head?_cons, Option.toList_some, List.map_singleton, List.flatMap_singleton]
        rfl
    · rfl
  | timedOut p generation =>
    simp only [additions, accepted, Message.items, List.nil_append]
    split
    · cases s.queue <;> rfl
    · rfl
  | _ => rfl

end Scheduler

namespace Simulation

/-- The outlook on the store alone, where the files are these, listed in any order. -/
def strewn (files : FileTree) (may : Path → (r : Request) → r.Answer → Prop) : Outlook Store :=
  { still files may with surroundings p := Store.strews files (may p) }

section

variable {S : Situation} {start a : Store} {t : Table Row} {F : List Departure}

lemma mem_followers {d : Departure} {outcome : Outcome} (houtcome : d.outcome = some outcome)
    {excluded : List String} {y : Item} : y ∈ d.followers excluded ↔
      y.work = .examine ∧ y.path.isExcluded excluded = false ∧ y.path ∈ outcome.discovered := by
  rw [Departure.followers, houtcome, Option.elim_some, Outcome.followers, List.mem_map]
  simp only [List.mem_filter, Bool.not_eq_true']
  constructor
  · rintro ⟨q, ⟨hq, hadmitted⟩, rfl⟩
    exact ⟨rfl, hadmitted, hq⟩
  · rintro ⟨hwork, hadmitted, hq⟩
    obtain ⟨q, work⟩ := y
    obtain rfl : work = .examine := hwork
    exact ⟨q, ⟨hq, hadmitted⟩, rfl⟩

/-- Items that left with outcomes have made the rows that they should, and have led to what follows
from them. -/
lemma Outlook.Relay.rows (hrelay : (strewn S.files S.findings.may).Relay S.pipeline none start F a)
    (ht : start.pictures = some t) (hrows : ∀ k, S.rows k = t.find? k)
    (hpunctual : ∀ d ∈ F, d.outcome ≠ none) :
    (∃ t', a = { start with pictures := some t' } ∧ ∀ k, t'.find? k = S.row (F.map (·.item)) k) ∧
      Always (fun before d => ∀ y, y ∈ d.followers S.excluded ↔
        S.Follows (before.map (·.item)) d.item y) [] F := by
  induction hrelay with
  | nil => exact ⟨⟨t, by rw [← ht], fun k => (hrows k).symm⟩, trivial⟩
  | @snoc F d a b _ hstint ih =>
    obtain ⟨⟨t', rfl, hfind⟩, hled⟩ := ih fun d hd => hpunctual d (List.mem_append_left _ hd)
    obtain ⟨outcome, houtcome⟩ := Option.ne_none_iff_exists'.mp
      (hpunctual d (List.mem_append_right _ (List.mem_singleton_self d)))
    obtain ⟨plan, hreach, hdone⟩ := hstint
    obtain rfl := hdone outcome houtcome
    obtain ⟨⟨t'', hb, hfind'⟩, hdiscovered⟩ := Pipeline.runs_process rfl hreach
    refine ⟨⟨t'', hb, fun k => ?_⟩, always_append.mpr ⟨hled, fun y => ?_, trivial⟩⟩
    · rw [List.map_append, List.map_singleton, Situation.row_concat, hfind']
      by_cases hk : k = d.item.path.text
      · subst hk
        rw [if_pos rfl, if_pos rfl, hfind]
      · rw [if_neg hk, if_neg (Ne.symm hk), hfind]
    · rw [mem_followers houtcome, hdiscovered]
      simp only [hfind]
      rfl

end

namespace Session

variable {s : Session} {deeds : List Deed}

/-- Whether nothing comes from outside in a move but errands, and that time passes, that the decoder
and the backends become others and that directories list their entries in another order. -/
def Steady (s : Session) : Move → Prop
  | .deliver | .task _ | .timer _ => True
  | .send m => m.isErrand = true
  | .become w => w.files.Agrees s.world.files ∧ w.store = s.world.store ∧
      w.refused = s.world.refused
  | .gate => False

lemma Steady.legal {v : Move} (h : s.Steady v) : v.Legal := by
  cases v with
  | send m =>
    cases m with
    | submit p => rfl
    | removeStale p => rfl
    | _ => exact nomatch (h : _ = true)
  | _ => trivial

lemma Steady.allows {S : Situation} {v : Move} (hsteady : s.Steady v)
    (hheeds : s.Heeds S.findings.may v) (hfiles : s.world.files.Agrees S.files)
    (hrefused : s.world.refused = []) : (strewn S.files S.findings.may).Allows s v := by
  cases v with
  | task i =>
    intro task htask r next hrun
    have hserved := hheeds.serves hrefused htask hrun
    rcases hreply : s.world.reply r with ⟨⟨a, delay⟩ | _ | _, w⟩
    all_goals rw [hreply] at hserved
    · exact Store.strews_of_serves hfiles hserved
    · exact hserved
    · exact hserved
  | become w => exact hsteady.2.1
  | _ => trivial

/-! ## The invariant -/

/-- What is known of a session after steady moves. -/
structure Ongoing (S : Situation) (start : Store) (s : Session) (deeds : List Deed) : Prop where
  /-- The log is in order. -/
  sound : s.Sound deeds
  /-- Tasks and mail are in order. -/
  orderly : Orderly s.mailbox s deeds
  /-- Items change the store as if they were alone. -/
  tracked : Tracked (strewn S.files S.findings.may) S.pipeline none start s.mailbox s deeds
  /-- The files are the same. -/
  files_agree : s.world.files.Agrees S.files
  /-- The store refuses nothing. -/
  refused_eq : s.world.refused = []
  /-- The scheduler has not stopped. -/
  stopped_eq : s.scheduler.stopped = false
  /-- What is excluded stays excluded. -/
  excluded_eq : s.scheduler.excludedPrefixes = S.excluded
  /-- Mail comes from tasks and timers, or it asks for items that are asked for. -/
  mail : ∀ m ∈ s.mailbox, m.about?.isSome ∨ m ≠ .shutdown ∧ ∀ y ∈ m.items S.excluded, S.asked y
  /-- What joined was asked for, or an item that left has led to it. -/
  joined_fed : ∀ y ∈ joined (Deed.log deeds), S.asked y ∨
    ∃ d ∈ departures (Deed.log deeds), y ∈ d.followers S.excluded
  /-- What items that left have led to has joined. -/
  joined_led : ∀ d ∈ departures (Deed.log deeds), ∀ y ∈ d.followers S.excluded,
    y ∈ joined (Deed.log deeds)
  /-- What left was asked for, or an item that left before has led to it. -/
  fed : Always (fun before d => S.asked d.item ∨ ∃ d' ∈ before, d.item ∈ d'.followers S.excluded) []
    (departures (Deed.log deeds))

section

variable {S : Situation} {start : Store}

lemma Ongoing.ne_shutdown (h : s.Ongoing S start deeds) {m : Message} (hm : m ∈ s.mailbox) :
    m ≠ .shutdown := by
  rintro rfl
  simpa [Message.about?] using h.mail _ hm

/-- A message makes join what it asks for, and what the item that it finishes has led to. -/
lemma Ongoing.additions_eq (h : s.Ongoing S start deeds) (m : Message) : s.scheduler.additions m =
    m.items S.excluded ++ (s.scheduler.accepted m).flatMap (·.followers S.excluded) := by
  rw [Scheduler.additions_eq, h.excluded_eq]

/-- What a message asks for is asked for. -/
lemma Ongoing.asked_of_mail (h : s.Ongoing S start deeds) {m : Message} (hm : m ∈ s.mailbox)
    {y : Item} (hy : y ∈ m.items S.excluded) : S.asked y := by
  rcases h.mail m hm with habout | ⟨-, hasked⟩
  · rw [Message.items_of_about habout] at hy
    cases hy
  · exact hasked y hy

/-- A message finishes the front of the queue or nothing. -/
lemma accepted_eq (s : Scheduler) (m : Message) :
    s.accepted m = [] ∨ ∃ d, s.accepted m = [d] ∧ d.item ∈ s.queue := by
  have hfront (f : Item → Departure) (hf : ∀ item, (f item).item = item) :
      s.queue.head?.toList.map f = [] ∨
        ∃ d, s.queue.head?.toList.map f = [d] ∧ d.item ∈ s.queue := by
    cases hqueue : s.queue with
    | nil => exact .inl rfl
    | cons item rest => exact .inr ⟨f item, rfl, by simp [hf]⟩
  cases m with
  | completed p generation outcome =>
    simp only [Scheduler.accepted]
    split
    · exact hfront _ fun _ => rfl
    · exact .inl rfl
  | timedOut p generation =>
    simp only [Scheduler.accepted]
    split
    · exact hfront _ fun _ => rfl
    · exact .inl rfl
  | _ => exact .inl rfl

/-- What handling a message makes of the log. -/
lemma Ongoing.deliver (h : s.Ongoing S start deeds) {m : Message} {rest : List Message}
    (hmail : s.mailbox = m :: rest) :
    let s' := s.move .deliver
    let deeds' := deeds ++ s.deeds .deliver
    s'.scheduler.stopped = false ∧ s'.scheduler.excludedPrefixes = S.excluded ∧
      s'.mailbox = rest ∧ (∀ y ∈ m.items S.excluded, y ∈ joined (Deed.log deeds')) ∧
      (∀ y ∈ joined (Deed.log deeds'), S.asked y ∨
        ∃ d ∈ departures (Deed.log deeds'), y ∈ d.followers S.excluded) ∧
      (∀ d ∈ departures (Deed.log deeds'), ∀ y ∈ d.followers S.excluded,
        y ∈ joined (Deed.log deeds')) ∧
      Always (fun before d => S.asked d.item ∨ ∃ d' ∈ before, d.item ∈ d'.followers S.excluded) []
        (departures (Deed.log deeds')) := by
  intro s' deeds'
  have hin : m ∈ s.mailbox := by simp [hmail]
  have hm : m ≠ .shutdown := h.ne_shutdown hin
  obtain ⟨hjoined, hleft, hopen, hexcluded, hrest⟩ := h.sound.log_deliver h.stopped_eq hmail hm
  rw [h.additions_eq] at hjoined
  refine ⟨hopen, hexcluded.trans h.excluded_eq, hrest, fun y hy => ?_, fun y hy => ?_,
    fun d hd y hy => ?_, ?_⟩
  · rw [hjoined]
    exact List.mem_append_right _ (List.mem_append_left _ hy)
  · rw [hjoined] at hy
    rw [hleft]
    rcases List.mem_append.mp hy with hold | hnew
    · refine (h.joined_fed y hold).imp_right ?_
      rintro ⟨d, hd, hy⟩
      exact ⟨d, List.mem_append_left _ hd, hy⟩
    · rcases List.mem_append.mp hnew with hitem | hfollows
      · exact .inl (h.asked_of_mail hin hitem)
      · obtain ⟨d, hd, hy⟩ := List.mem_flatMap.mp hfollows
        exact .inr ⟨d, List.mem_append_right _ hd, hy⟩
  · rw [hleft] at hd
    rw [hjoined]
    rcases List.mem_append.mp hd with hold | hnew
    · exact List.mem_append_left _ (h.joined_led d hold y hy)
    · exact List.mem_append_right _ (List.mem_append_right _ (List.mem_flatMap.mpr ⟨d, hnew, hy⟩))
  · rw [hleft]
    refine always_append.mpr ⟨h.fed, ?_⟩
    rcases accepted_eq s.scheduler m with hnone | ⟨d, hone, hqueue⟩
    · rw [hnone]
      trivial
    · -- the item that leaves was in the queue, so it had joined
      rw [hone]
      refine ⟨h.joined_fed d.item ?_, trivial⟩
      rw [h.sound.joined_eq h.stopped_eq]
      exact List.mem_append_right _ hqueue

/-- What a steady move makes of the mail. -/
lemma Ongoing.steady_mail {v : Move} (h : s.Ongoing S start deeds) (hsteady : s.Steady v)
    (hsent : ∀ m, v = .send m → ∀ y ∈ m.items S.excluded, S.asked y) :
    ∀ m ∈ (s.move v).mailbox, m.about?.isSome ∨
      m ≠ .shutdown ∧ ∀ y ∈ m.items S.excluded, S.asked y := by
  intro m hm
  rcases mem_mailbox_move hm with hold | ⟨-, hfrom⟩ | ⟨-, habout⟩ | rfl | rfl
  · exact h.mail m hold
  · exact .inl (Message.about_of_isFromTask hfrom)
  · exact .inl habout
  · exact absurd hsteady id
  · refine .inr ⟨?_, hsent m rfl⟩
    rintro rfl
    cases (hsteady : Message.isErrand _ = true)

/-- Steady moves go on, and so do those of the gate if it asks for no other items. -/
theorem Ongoing.move {v : Move} (h : s.Ongoing S start deeds) (hsteady : v = .gate ∨ s.Steady v)
    (hheeds : s.Heeds S.findings.may v)
    (hmail : ∀ m ∈ (s.move v).mailbox, m.about?.isSome ∨
      m ≠ .shutdown ∧ ∀ y ∈ m.items S.excluded, S.asked y) :
    (s.move v).Ongoing S start (deeds ++ s.deeds v) := by
  have hlegal : v.Legal := by
    rcases hsteady with rfl | hsteady
    · trivial
    · exact hsteady.legal
  have hallows : (strewn S.files S.findings.may).Allows s v := by
    rcases hsteady with rfl | hsteady
    · trivial
    · exact hsteady.allows hheeds h.files_agree h.refused_eq
  have hsound := h.sound.move v
  have horderly := h.orderly.move hlegal h.sound
  have htracked := h.tracked.move hlegal hallows h.orderly h.sound
  obtain ⟨hfiles, hrefused⟩ : (s.move v).world.files.Agrees S.files ∧
      (s.move v).world.refused = [] := by
    refine world_move (R := fun w => w.files.Agrees S.files ∧ w.refused = []) (fun w hw => ?_)
      (fun task r _ => ?_) fun calls => ⟨h.files_agree, h.refused_eq⟩
    · cases v with
      | become w' =>
        obtain rfl : w' = w := Option.some.inj hw
        obtain ⟨hfiles, -, hrefused⟩ := hsteady.resolve_left nofun
        exact ⟨fun l => (hfiles l).trans (h.files_agree l), hrefused.trans h.refused_eq⟩
      | _ => exact nomatch hw
    · obtain ⟨hsame, hkept, -⟩ := s.world.reply_frame r
      rw [hsame, hkept]
      exact ⟨h.files_agree, h.refused_eq⟩
  by_cases hv : v = .deliver
  · subst hv
    cases hbox : s.mailbox with
    | nil =>
      obtain ⟨hmove, hdeeds⟩ := move_deliver_nothing h.sound (.inl hbox)
      have hsame : s.move .deliver = s := by rw [hmove, ← hbox]
      rw [hsame, hdeeds, List.append_nil]
      exact h
    | cons m rest =>
      obtain ⟨hopen, hexcluded, -, -, hfed, hled, halways⟩ := h.deliver hbox
      exact ⟨hsound, horderly, htracked, hfiles, hrefused, hopen, hexcluded, hmail, hfed, hled,
        halways⟩
  · obtain ⟨hscheduler, hlog⟩ := move_scheduler (s := s) hv
    have hsame : Deed.log (deeds ++ s.deeds v) = Deed.log deeds := by
      rw [Deed.log_append, hlog, List.append_nil]
    exact ⟨hsound, horderly, htracked, hfiles, hrefused, by rw [hscheduler]; exact h.stopped_eq,
      by rw [hscheduler]; exact h.excluded_eq, hmail, by rw [hsame]; exact h.joined_fed,
      by rw [hsame]; exact h.joined_led, by rw [hsame]; exact h.fed⟩

/-! ## What was sent -/

/-- Whether a message is still to be handled, or its items have joined. -/
def Noted (S : Situation) (m : Message) (s : Session) (deeds : List Deed) : Prop :=
  m ∈ s.mailbox ∨ ∀ y ∈ m.items S.excluded, y ∈ joined (Deed.log deeds)

lemma Ongoing.noted_move (h : s.Ongoing S start deeds) {v : Move} {m : Message}
    (hm : v = .send m ∨ Noted S m s deeds) : Noted S m (s.move v) (deeds ++ s.deeds v) := by
  have hjoined {y : Item} (hy : y ∈ joined (Deed.log deeds)) :
      y ∈ joined (Deed.log (deeds ++ s.deeds v)) := by
    rw [Deed.log_append, joined_append]
    exact List.mem_append_left _ hy
  rcases hm with rfl | hbox | hitems
  · left
    rw [Session.move, send_eq]
    simp [entering, isOpen, h.stopped_eq]
  · by_cases hv : v = .deliver
    · subst hv
      obtain ⟨first, rest, hmail⟩ := List.exists_cons_of_ne_nil (List.ne_nil_of_mem hbox)
      obtain ⟨-, -, hrest, hfirst, -⟩ := h.deliver hmail
      rw [hmail] at hbox
      rcases List.mem_cons.mp hbox with rfl | hlater
      · exact .inr hfirst
      · exact .inl (hrest ▸ hlater)
    · obtain ⟨more, hmore⟩ := (move_frame hv).1
      exact .inl (hmore ▸ List.mem_append_left more hbox)
  · exact .inr fun y hy => hjoined (hitems y hy)

/-- Steady moves in a row go on, and whatever they sent is noted. -/
lemma Ongoing.along {vs : List Move} (h : s.Ongoing S start deeds)
    (hvs : Along (fun s v => s.Steady v ∧ s.Heeds S.findings.may v) s vs)
    (hsent : ∀ m, .send m ∈ vs → ∀ y ∈ m.items S.excluded, S.asked y) :
    (s.moveAll vs).Ongoing S start (deeds ++ s.history vs) ∧
      ∀ m, .send m ∈ vs ∨ Noted S m s deeds → Noted S m (s.moveAll vs) (deeds ++ s.history vs) := by
  induction vs generalizing s deeds with
  | nil =>
    rw [history, List.append_nil]
    exact ⟨h, fun m hm => hm.resolve_left List.not_mem_nil⟩
  | cons v vs ih =>
    obtain ⟨⟨hsteady, hheeds⟩, hvs⟩ := hvs
    have hnext := h.move (.inr hsteady) hheeds
      (h.steady_mail hsteady fun m hm => hsent m (hm ▸ List.mem_cons_self))
    obtain ⟨hend, hnoted⟩ :=
      ih hnext hvs fun m hm => hsent m (List.mem_cons_of_mem v hm)
    rw [moveAll_cons, history, ← List.append_assoc]
    refine ⟨hend, fun m hm => hnoted m ?_⟩
    rw [List.mem_cons, or_assoc] at hm
    rcases hm with hnow | hlater | hbefore
    · exact .inr (h.noted_move (.inl hnow.symm))
    · exact .inl hlater
    · exact .inr (h.noted_move (.inr hbefore))

/-! ## Courses -/

/-- **The items that have left are a course** when all is done and no item's time has run out. -/
theorem Ongoing.course {t : Table Row} (h : s.Ongoing S start deeds)
    (hqueue : s.scheduler.queue = []) (hmailbox : s.mailbox = [])
    (hpunctual : ∀ d ∈ departures (Deed.log deeds), d.outcome ≠ none)
    (hasked : ∀ y, S.asked y → ∃ m, y ∈ m.items S.excluded ∧ Noted S m s deeds)
    (ht : start.pictures = some t) (hrows : ∀ k, S.rows k = t.find? k) :
    ∃ items t', S.Course items ∧ s.world.store = { start with pictures := some t' } ∧
      ∀ k, t'.find? k = S.row items k := by
  have hrelay := h.tracked.relay_of_empty h.stopped_eq hqueue
  obtain ⟨⟨t', hstore, hfind⟩, hled⟩ := hrelay.rows ht hrows hpunctual
  have hjoined : joined (Deed.log deeds) = (departures (Deed.log deeds)).map (·.item) := by
    rw [h.sound.joined_eq h.stopped_eq, hqueue, List.append_nil]
  refine ⟨(departures (Deed.log deeds)).map (·.item), t', ⟨?_, ?_, ?_⟩, hstore, hfind⟩
  · intro before y after hitems
    obtain ⟨F, F', hF, rfl, hlater⟩ := List.map_eq_append_iff.mp hitems
    obtain ⟨d, F', rfl, rfl, rfl⟩ := List.map_eq_cons_iff.mp hlater
    have hfed := h.fed
    rw [hF] at hfed hled
    refine hfed.at_event.imp_right ?_
    rintro ⟨d', hd', hfollows⟩
    obtain ⟨G, G', rfl⟩ := List.append_of_mem hd'
    rw [List.append_assoc, List.cons_append] at hled
    exact ⟨G.map (·.item), d'.item, G'.map (·.item), by simp, (hled.at_event _).mp hfollows⟩
  · intro y hy
    obtain ⟨m, hmem, hnoted⟩ := hasked y hy
    rw [← hjoined]
    exact hnoted.resolve_left (by simp [hmailbox]) y hmem
  · intro before x after hitems y hfollows
    obtain ⟨F, F', hF, rfl, hlater⟩ := List.map_eq_append_iff.mp hitems
    obtain ⟨d, F', rfl, rfl, rfl⟩ := List.map_eq_cons_iff.mp hlater
    rw [← hjoined]
    refine h.joined_led d (by simp [hF]) y ?_
    rw [hF] at hled
    exact (hled.at_event y).mpr hfollows

end

/-- What is given to sessions that start in the same world and to which the same messages are
sent. -/
def situation (world : World) (c : Config) (backends : Backends) (A : Findings)
    (sent : Message → Prop) : Situation where
  pipeline := Pipeline.ofConfig c backends
  findings := A
  files := world.files
  excluded := c.excludedPrefixes
  rows k := world.store.pictures.bind (·.find? k)
  asked y := ∃ m, sent m ∧ y ∈ m.items c.excludedPrefixes

lemma ongoing_starting {world : World} (hrefused : world.refused = []) {c : Config}
    (hlimit : c.indexingLimit = none) (backends : Backends) (A : Findings)
    (sent : Message → Prop) :
    (starting world c backends none).Ongoing (situation world c backends A sent) world.store []
    where
  sound := sound_starting world c backends none
  orderly := orderly_starting world c backends none
  tracked := hlimit ▸ tracked_starting world c backends none
  files_agree := fun _ => rfl
  refused_eq := hrefused
  stopped_eq := rfl
  excluded_eq := rfl
  mail := nofun
  joined_fed := nofun
  joined_led := nofun
  fed := trivial

/-- Whether some moves are steady, whatever is found out being as said, no item's time runs out, and
in the end nothing is left to be done. -/
structure Drains (A : Findings) (s : Session) (vs : List Move) : Prop where
  /-- The moves are steady, and answers are as said. -/
  steady : Along (fun s v => s.Steady v ∧ s.Heeds A.may v) s vs
  /-- No item's time runs out. -/
  punctual : ∀ d ∈ departures (Deed.log (s.history vs)), d.outcome ≠ none
  /-- No item is left. -/
  queue_eq : (s.moveAll vs).scheduler.queue = []
  /-- No message is left. -/
  mailbox_eq : (s.moveAll vs).mailbox = []

/-- **The order of events makes no difference.**  Take a world whose file names are UTF-8 and whose
store has a table and refuses nothing, a configuration without a limit, and what is found out about
each picture.  Let paths be submitted to two sessions, and records be removed there if they are
stale, the same ones to both, but in any order and as often as one likes; let the parties act in any
order, too, and directories list their entries in any order.  If each of the paths is UTF-8, or
nothing stands at the path that its text spells, then the two sessions have the same store when
nothing is left to be done. -/
theorem final_store_independent_of_order (world : World) (hnames : world.files.HasTextNames)
    (hpictures : world.store.pictures ≠ none) (hrefused : world.refused = []) (c : Config)
    (hlimit : c.indexingLimit = none) (backends : Backends) (A : Findings) (vs vs' : List Move)
    (hsame : ∀ m, .send m ∈ vs ↔ .send m ∈ vs')
    (hspelled : ∀ m, .send m ∈ vs → ∀ y ∈ m.items c.excludedPrefixes,
      y.path.IsText ∨ world.files.kind? y.path.respelled = none)
    (hdrains : Drains A (starting world c backends none) vs)
    (hdrains' : Drains A (starting world c backends none) vs') :
    ((starting world c backends none).moveAll vs).world.store =
      ((starting world c backends none).moveAll vs').world.store := by
  obtain ⟨t, ht⟩ := Option.ne_none_iff_exists'.mp hpictures
  let S := situation world c backends A fun m => .send m ∈ vs
  have hrows (k : String) : S.rows k = t.find? k := by
    show world.store.pictures.bind _ = _
    rw [ht, Option.bind_some]
  have hS : S.Unambiguous := ⟨hnames, fun y ⟨m, hm, hy⟩ => hspelled m hm y hy⟩
  have hcourse {us : List Move} (hus : ∀ m, .send m ∈ us ↔ .send m ∈ vs)
      (h : Drains A (starting world c backends none) us) :
      ∃ items t', S.Course items ∧ ((starting world c backends none).moveAll us).world.store =
        { world.store with pictures := some t' } ∧ ∀ k, t'.find? k = S.row items k := by
    obtain ⟨hend, hnoted⟩ := (ongoing_starting hrefused hlimit backends A _).along (S := S)
      h.steady fun m hm y hy => ⟨m, (hus m).mp hm, hy⟩
    refine hend.course h.queue_eq h.mailbox_eq h.punctual (fun y hy => ?_) ht hrows
    obtain ⟨m, hm, hmem⟩ := hy
    exact ⟨m, hmem, hnoted m (.inl ((hus m).mpr hm))⟩
  obtain ⟨items, u, hitems, hstore, hfind⟩ := hcourse (fun m => Iff.rfl) hdrains
  obtain ⟨items', u', hitems', hstore', hfind'⟩ := hcourse (fun m => (hsame m).symm) hdrains'
  have hu : u = u' := Table.ext_find? fun k => by
    rw [hfind, hfind', hitems.row_eq hitems' hS]
  rw [hstore, hstore', hu]

/-! ### Two orders of the same errands -/

/-- The parties act in turn, so many times. -/
def rounds (n : Nat) : List Move :=
  List.flatten (List.replicate n (List.replicate 10 (.task 0) ++ [.deliver, .deliver]))

/-- Messages are sent, the parties act so many times after each, and then until all is done. -/
def errands (n : Nat) (ms : List Message) : List Move :=
  ms.flatMap (fun m => .send m :: rounds n) ++ rounds 12

lemma isInner_of_mem_rounds {n : Nat} {v : Move} (hv : v ∈ rounds n) : v.IsInner := by
  obtain ⟨round, hround, hv⟩ := List.mem_flatten.mp hv
  rw [List.eq_of_mem_replicate hround, List.mem_append] at hv
  rcases hv with htask | hdeliver
  · exact .inr ⟨0, List.eq_of_mem_replicate htask⟩
  · exact .inl (by simpa using hdeliver)

lemma mem_errands {n : Nat} {ms : List Message} {v : Move} (hv : v ∈ errands n ms) :
    v.IsInner ∨ ∃ m ∈ ms, v = .send m := by
  rcases List.mem_append.mp hv with hsent | hlast
  · obtain ⟨m, hm, hv⟩ := List.mem_flatMap.mp hsent
    rcases List.mem_cons.mp hv with rfl | hinner
    · exact .inr ⟨m, hm, rfl⟩
    · exact .inl (isInner_of_mem_rounds hinner)
  · exact .inl (isInner_of_mem_rounds hlast)

lemma send_mem_errands {n : Nat} {ms : List Message} {m : Message} :
    .send m ∈ errands n ms ↔ m ∈ ms := by
  constructor
  · intro hm
    rcases mem_errands hm with hinner | ⟨m', hm', hsame⟩
    · rcases hinner with h | ⟨i, h⟩ <;> exact nomatch h
    · exact Move.send.inj hsame ▸ hm'
  · intro hm
    exact List.mem_append_left _ (List.mem_flatMap.mpr ⟨m, hm, List.mem_cons_self⟩)

/-- What is found out in a world that reads `Forest` in every picture. -/
def clearing : Findings := { forests with picture := fun _ => some ⟨1, 1⟩ }

lemma heeds_clearing (h : IsWooded s.world) (v : Move) : s.Heeds clearing.may v := by
  cases v with
  | task i =>
    intro task htask r next hrun hr a delay w hreply
    have hread := h.heeds (.task i) task htask r next hrun hr a delay w hreply
    cases r with
    | decode p =>
      rw [World.reply, World.decode, h.2.2] at hreply
      obtain ⟨ha, -⟩ := Reply.answer.inj (Prod.mk.inj hreply).1
      exact ha.symm
    | recognise b => exact hread
    | classify p => exact hread
    | _ => cases hr
  | _ => trivial

/-- A world that reads `Forest` in every picture goes on to do so. -/
lemma along_clearing {P : Session → Move → Prop} {vs : List Move} (h : IsWooded s.world)
    (hvs : ∀ v ∈ vs, v.world? = none ∧ ∀ s : Session, P s v) :
    Along (fun s v => P s v ∧ s.Heeds clearing.may v) s vs := by
  induction vs generalizing s with
  | nil => trivial
  | cons v vs ih =>
    obtain ⟨⟨hworld, hv⟩, hvs⟩ := List.forall_mem_cons.mp hvs
    refine ⟨⟨hv s, heeds_clearing h v⟩, ih (world_move ?_ (fun _ r _ => h.reply r) fun _ => h) hvs⟩
    simp [hworld]

lemma along_errands {n : Nat} {ms : List Message} (h : IsWooded s.world)
    (hms : ∀ m ∈ ms, m.isErrand = true) :
    Along (fun s v => s.Steady v ∧ s.Heeds clearing.may v) s (errands n ms) := by
  refine along_clearing h fun v hv => ?_
  rcases mem_errands hv with (rfl | ⟨i, rfl⟩) | ⟨m, hm, rfl⟩
  · exact ⟨rfl, fun _ => trivial⟩
  · exact ⟨rfl, fun _ => trivial⟩
  · exact ⟨rfl, fun _ => hms m hm⟩

/-- The gallery, and the record of a picture in a directory that is gone. -/
def revisited : World where
  now := 0
  files := gallery
  store := { Store.new with
    pictures := some (Table.empty.insert "/old/x.png" ⟨0, 16, "[]"⟩) }
  refused := []
  ocr := wooded.ocr
  classifier := wooded.classifier
  decoder := wooded.decoder
  calls := []

/-- The same with all directories listed the other way round. -/
def revisitedBackwards : World := { revisited with files := ⟨gallery.entries.reverse⟩ }

/-- The directory that is there and the one that is gone are submitted, and the sweep has found the
old record. -/
def visits : List Message :=
  [.submit (.ofText "/r"), .submit (.ofText "/old"), .removeStale (.ofText "/old/x.png")]

/-- The same messages in another order, with one of them twice. -/
def visitsAgain : List Message :=
  [.removeStale (.ofText "/old/x.png"), .submit (.ofText "/r"), .submit (.ofText "/old"),
    .submit (.ofText "/r")]

/-- Errands in two orders end with the same store. -/
theorem same_store_after_visits :
    (∀ m, .send m ∈ errands 0 visits ↔
      .send m ∈ .become revisitedBackwards :: errands 3 visitsAgain) ∧
    Drains clearing (starting revisited everyPicture ⟨true, false⟩ none) (errands 0 visits) ∧
    Drains clearing (starting revisited everyPicture ⟨true, false⟩ none)
      (.become revisitedBackwards :: errands 3 visitsAgain) ∧
    ((starting revisited everyPicture ⟨true, false⟩ none).moveAll
      (errands 0 visits)).world.store =
    ((starting revisited everyPicture ⟨true, false⟩ none).moveAll
      (.become revisitedBackwards :: errands 3 visitsAgain)).world.store := by
  have hwooded : IsWooded revisited := ⟨rfl, rfl, rfl⟩
  have hsame : ∀ m, .send m ∈ errands 0 visits ↔
      .send m ∈ .become revisitedBackwards :: errands 3 visitsAgain := by
    intro m
    rw [List.mem_cons, send_mem_errands, send_mem_errands]
    simp only [visits, visitsAgain, List.mem_cons, List.not_mem_nil, reduceCtorEq]
    tauto
  have hdrains : Drains clearing (starting revisited everyPicture ⟨true, false⟩ none)
      (errands 0 visits) :=
    ⟨along_errands hwooded (by decide), by decide +kernel, by decide +kernel, by decide +kernel⟩
  have hagrees : revisitedBackwards.files.Agrees gallery :=
    (FileTree.agrees_of_perm wellFormed_gallery.nodup (List.reverse_perm _).symm).symm
  have hdrains' : Drains clearing (starting revisited everyPicture ⟨true, false⟩ none)
      (.become revisitedBackwards :: errands 3 visitsAgain) :=
    ⟨⟨⟨⟨hagrees, rfl, rfl⟩, trivial⟩, along_errands ⟨rfl, rfl, rfl⟩ (by decide)⟩,
      by decide +kernel, by decide +kernel, by decide +kernel⟩
  have hspelled : ∀ m, .send m ∈ errands 0 visits → ∀ y ∈ m.items everyPicture.excludedPrefixes,
      y.path.IsText ∨ revisited.files.kind? y.path.respelled = none := by
    have hall : ∀ m ∈ visits, ∀ y ∈ m.items everyPicture.excludedPrefixes, y.path.IsText := by
      decide +kernel
    exact fun m hm y hy => .inl (hall m (send_mem_errands.mp hm) y hy)
  exact ⟨hsame, hdrains, hdrains', final_store_independent_of_order revisited hasTextNames_gallery
    nofun rfl everyPicture rfl ⟨true, false⟩ clearing _ _ hsame hspelled hdrains hdrains'⟩

/-- A world with one picture, whose name is U+FFFD with an extension. -/
def lookalike : World where
  now := 0
  files :=
    let png : List UInt8 := [0x89, 0x50, 0x4E, 0x47, 0x0D, 0x0A, 0x1A, 0x0A]
    ⟨[([[0xEF, 0xBF, 0xBD, 0x2E, 0x70, 0x6E, 0x67]], .file ⟨png, 16⟩ 0)]⟩
  store := Store.new
  refused := []
  ocr := wooded.ocr
  classifier := wooded.classifier
  decoder := wooded.decoder
  calls := []

/-- The picture is submitted, and then a path that is not UTF-8 and has the same text. -/
def lookalikes : List Message :=
  [.submit (.ofText "/\uFFFD.png"), .submit ⟨[Path.slash, 0xFF, 0x2E, 0x70, 0x6E, 0x67]⟩]

/-- **Paths with the same text get in each other's way.**  The path that is not UTF-8 leads nowhere,
and so the record of its text is removed, which is that of the picture.  If the picture is submitted
once more, it has its record in the end. -/
theorem final_store_depends_on_order :
    lookalike.files.HasTextNames ∧ lookalike.store.pictures ≠ none ∧ lookalike.refused = [] ∧
    everyPicture.indexingLimit = none ∧
    (∀ m, .send m ∈ errands 2 lookalikes ↔
      .send m ∈ errands 2 (lookalikes ++ lookalikes.take 1)) ∧
    Drains clearing (starting lookalike everyPicture ⟨true, false⟩ none) (errands 2 lookalikes) ∧
    Drains clearing (starting lookalike everyPicture ⟨true, false⟩ none)
      (errands 2 (lookalikes ++ lookalikes.take 1)) ∧
    ((starting lookalike everyPicture ⟨true, false⟩ none).moveAll
      (errands 2 lookalikes)).world.store ≠
    ((starting lookalike everyPicture ⟨true, false⟩ none).moveAll
      (errands 2 (lookalikes ++ lookalikes.take 1))).world.store := by
  have hnames : lookalike.files.HasTextNames := .of_bytes (by decide +kernel)
  have hsame : ∀ m, .send m ∈ errands 2 lookalikes ↔
      .send m ∈ errands 2 (lookalikes ++ lookalikes.take 1) := by
    intro m
    rw [send_mem_errands, send_mem_errands, List.mem_append]
    exact ⟨.inl, fun hm => hm.elim id fun htaken => List.take_subset _ _ htaken⟩
  have hwooded : IsWooded lookalike := ⟨rfl, rfl, rfl⟩
  refine ⟨hnames, nofun, rfl, rfl, hsame,
    ⟨along_errands hwooded (by decide), by decide +kernel, by decide +kernel, by decide +kernel⟩,
    ⟨along_errands hwooded (by decide), by decide +kernel, by decide +kernel, by decide +kernel⟩,
    fun hstores => ?_⟩
  have hgone : ((starting lookalike everyPicture ⟨true, false⟩ none).moveAll
      (errands 2 lookalikes)).world.row? (.ofText "/\uFFFD.png") = none := by
    decide +kernel
  have hthere : ((starting lookalike everyPicture ⟨true, false⟩ none).moveAll
      (errands 2 (lookalikes ++ lookalikes.take 1))).world.row? (.ofText "/\uFFFD.png") ≠ none := by
    decide +kernel
  rw [World.row?, hstores] at hgone
  exact hthere hgone

end Session

end Simulation

end PictureIndex
