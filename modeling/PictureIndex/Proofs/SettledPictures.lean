import PictureIndex.Proofs.Rows
import PictureIndex.Proofs.StaleRecords
/-!
# Pictures are annotated once

A picture that has been annotated is left alone as long as its file keeps the time that was
recorded.  Many an item may come by its record: those of its own path, those that the sweep and
look-ups of removed directories lead to, and those of other paths that write and remove records of
their own.  The former look at the file, find the recorded time and do nothing; the latter do not
reach its record, since paths that are UTF-8 differ in their texts.

For this, the time has to come back from the store as it was read from the file
(`FileTree.ofMicros?_of_keptTime`).  `settled` is the covenant that tasks keep as long as nobody
disturbs the picture, and `written_by_annotated` says what an item leaves behind that annotated it.
-/

namespace PictureIndex

open Log

/-! ## Recorded times -/

/-- Times are recorded in whole microseconds. -/
lemma Instant.nanos_of_ofMicros? {us : Int} {t : Instant} (h : ofMicros? us = some t) :
    t.nanos % 1000 = 0 := by
  rw [ofMicros?, of?] at h
  split at h
  · obtain rfl := Option.some.inj h
    exact Nat.mul_mod_left _ _
  · cases h

/-- No recorded time is in a leap second. -/
lemma Instant.isOrdinary_of_ofMicros? {us : Int} {t : Instant} (h : ofMicros? us = some t) :
    t.IsOrdinary := by
  rw [ofMicros?, of?] at h
  split at h
  · rename_i hrange
    obtain rfl := Option.some.inj h
    have hnanos : (us % 1000000).toNat * 1000 < 1000000000 := by omega
    exact ⟨hrange.1, hrange.2.1, hnanos⟩
  · cases h

/-- The time of a file comes back from the store as it was. -/
lemma FileTree.ofMicros?_of_keptTime {modified : Int} {time : Instant}
    (h : keptTime? modified = some time) : Instant.ofMicros? time.micros = some time := by
  obtain ⟨read, hread, rfl⟩ := Option.map_eq_some_iff.mp h
  rw [Instant.ofNanos?, Instant.of?] at hread
  split at hread
  · rename_i hrange
    obtain rfl := Option.some.inj hread
    set secs := modified / 1000000000
    set nanos := (modified % 1000000000).toNat
    have hround (n : Nat) (hn : n < 1000000000) :
        Instant.ofMicros? (Instant.mk secs n).micros = some ⟨secs, n / 1000 * 1000⟩ :=
      Instant.ofMicros?_micros ⟨hrange.1, hrange.2.1, hn⟩
    -- rounding down once or twice makes no difference
    rw [Instant.truncate, hround nanos (by omega), Option.getD_some, hround _ (by omega),
      Nat.mul_div_cancel _ (by decide)]
  · cases hread

lemma FileTree.ofMicros?_of_info {t : FileTree} {p : Path} {info : FileInfo} {time : Instant}
    (h : t.info? p = some info) (htime : info.modified = some time) :
    Instant.ofMicros? time.micros = some time := by
  rw [info?] at h
  split at h
  · obtain rfl := Option.some.inj h
    exact ofMicros?_of_keptTime htime
  · cases h

/-- Whether a picture worth indexing with a modification time stands at a path. -/
def FileTree.holdsPictureOf (t : FileTree) (maxSize : Nat) (p : Path) (time : Instant) : Bool :=
  t.holdsPicture maxSize p && (t.info? p).any (·.modified = some time)

lemma FileTree.holdsPictureOf_iff {t : FileTree} {maxSize : Nat} {p : Path} {time : Instant} :
    t.holdsPictureOf maxSize p time = true ↔ t.kind? p = some .file ∧
      (t.pictureType p).isIndexable = true ∧
      ∃ size, t.info? p = some ⟨size, some time⟩ ∧ 1 ≤ size ∧ size ≤ maxSize := by
  cases hinfo : t.info? p with
  | none => simp [holdsPictureOf, hinfo]
  | some info =>
    obtain ⟨size, modified⟩ := info
    simp [holdsPictureOf, holdsPicture, hinfo]
    tauto

namespace Simulation

/-! ## Items that leave a picture alone -/

/-- What is expected as long as nobody disturbs a picture: the items of its path find it as it was
recorded and only look, and the others have other texts and do not ask about it. -/
def settled (maxSize : Nat) (p : Path) (time : Instant) : Covenant where
  answers q _ r a := q = p → match r, a with
    | .kind _, a => a = some .file
    | .sniff _, a => a.isIndexable = true
    | .info _, a => ∃ size, a = some ⟨size, some time⟩ ∧ 1 ≤ size ∧ size ≤ maxSize
    | .recordedTime _, a => a.toOption = some (some time)
    | _, _ => True
  allows q _ r := r.IsOf q ∧ (q = p → r.isLook = true) ∧ (q ≠ p → q.text ≠ p.text)
  reports _ _ := True

/-- Items of paths that are UTF-8 keep the covenant. -/
lemma settled_binds (e : Pipeline) {p : Path} (hp : p.IsText) (time : Instant) (generation : Nat)
    (exhausted : Bool) {item : Item} (hitem : item.path.IsText) :
    (settled e.maxSize p time).Binds item.path generation (e.process exhausted item) := by
  obtain ⟨q, work⟩ := item
  by_cases hq : q = p
  · subst hq
    have hlook {r : Request} (hr : r.IsOf q) (hlook : r.isLook = true) :
        (settled e.maxSize q time).allows q generation r :=
      ⟨hr, fun _ => hlook, fun hne => absurd rfl hne⟩
    cases work with
    | removeStale =>
      refine Plan.abides_request (hlook (.inr rfl) rfl) fun kind hkind => ?_
      obtain rfl := hkind rfl
      trivial
    | examine =>
      refine Plan.abides_request (hlook (.inr rfl) rfl) fun kind hkind => ?_
      obtain rfl := hkind rfl
      refine Plan.abides_request (hlook (.inr rfl) rfl) fun type _ => ?_
      split
      · trivial
      refine Plan.abides_request (hlook (.inr rfl) rfl) fun info hinfo => ?_
      obtain ⟨size, rfl, hlow, hhigh⟩ := hinfo rfl
      simp only
      rw [if_neg (by simp; omega)]
      refine Plan.abides_request (hlook (.inr rfl) rfl) fun type htype => ?_
      have hindexable : PictureType.isIndexable type = true := htype rfl
      rw [hindexable, if_neg (by simp)]
      refine Plan.abides_request (hlook (.inr rfl) rfl) fun recorded hrecorded => ?_
      rw [if_pos (hrecorded rfl)]
      trivial
  · refine Plan.Within.abides (e.puts_process exhausted ⟨q, work⟩ fun r hr => ?_)
    exact ⟨hr, fun hsame => absurd hsame hq, fun _ htext => hq (hitem.eq_of_text hp htext)⟩

namespace Session

variable {s : Session} {deeds : List Deed} {c : Config} {backends : Backends} {p : Path}
  {time : Instant}

/-- Whether a picture that was recorded is not disturbed in a move: it stands where it was, with
the recorded time; the recorded times can be read; nobody but the tasks touches its record; and the
paths of all items that are started are UTF-8. -/
structure Undisturbed (p : Path) (time : Instant) (s : Session) (v : Move) : Prop where
  /-- Nobody outside speaks for a task. -/
  legal : v.Legal
  /-- The picture is there. -/
  picture : s.world.files.holdsPictureOf s.pipeline.maxSize p time = true
  /-- Recorded times can be read. -/
  reads : StoreCall.recordedTime ∉ s.world.refused
  /-- Its record is not touched from outside. -/
  record : ∀ w ∈ v.world?, w.row? p = s.world.row? p
  /-- Items are started for paths only that are UTF-8. -/
  texts : ∀ x ∈ starts (Deed.log (s.deeds v)), x.1.path.IsText

instance (v : Move) : Decidable (s.Undisturbed p time v) :=
  decidable_of_iff (v.Legal ∧ s.world.files.holdsPictureOf s.pipeline.maxSize p time = true ∧
      StoreCall.recordedTime ∉ s.world.refused ∧ (∀ w ∈ v.world?, w.row? p = s.world.row? p) ∧
      ∀ x ∈ starts (Deed.log (s.deeds v)), x.1.path.IsText)
    ⟨fun ⟨h₁, h₂, h₃, h₄, h₅⟩ => ⟨h₁, h₂, h₃, h₄, h₅⟩, fun ⟨h₁, h₂, h₃, h₄, h₅⟩ =>
      ⟨h₁, h₂, h₃, h₄, h₅⟩⟩

/-- Whether a move asks the decoder or a backend for something on account of a path. -/
def Consults (p : Path) (s : Session) (v : Move) : Prop :=
  ∃ task r, s.put? v = some (task, r) ∧ r.isOutward = true ∧
    (task.path = p ∨ r.path? = some p)

/-- What is known of a session as long as nobody disturbs a recorded picture. -/
structure Settled (c : Config) (backends : Backends) (p : Path) (time : Instant) (row : Row)
    (s : Session) (deeds : List Deed) : Prop where
  /-- The parties are in order. -/
  budgeted : s.Budgeted c backends deeds
  /-- The tasks leave the picture alone. -/
  abiding : Abiding (settled (Pipeline.ofConfig c backends).maxSize p time) s deeds
  /-- The record is there. -/
  row_eq : s.world.row? p = some row

/-- The picture is found as it was recorded. -/
lemma Settled.honours {row : Row} (h : s.Settled c backends p time row deeds) {v : Move}
    (hv : s.Undisturbed p time v) (hp : p.IsText)
    (hrow : Instant.ofMicros? row.micros = some time) :
    Honours (settled (Pipeline.ofConfig c backends).maxSize p time) s v where
  legal := hv.legal
  answers task r hput a delay w hreply hpath := by
    obtain ⟨hown, -⟩ := h.abiding.allowed hput
    rw [hpath] at hown
    have hpipeline := h.budgeted.tracked.pipeline_eq
    have hpicture := hv.picture
    rw [hpipeline] at hpicture
    obtain ⟨hkind, htype, size, hinfo, hsize⟩ := FileTree.holdsPictureOf_iff.mp hpicture
    have hsame {q : Path} (hq : r.path? = some q) : q = p := by
      rcases hown with hnone | hsome
      · exact nomatch hnone.symm.trans hq
      · exact Option.some.inj (hq.symm.trans hsome)
    cases r with
    | kind q =>
      obtain rfl := hsame rfl
      obtain ⟨rfl, -⟩ := Reply.answer.inj (Prod.mk.inj hreply).1
      exact hkind
    | sniff q =>
      obtain rfl := hsame rfl
      obtain ⟨rfl, -⟩ := Reply.answer.inj (Prod.mk.inj hreply).1
      exact htype
    | info q =>
      obtain rfl := hsame rfl
      obtain ⟨rfl, -⟩ := Reply.answer.inj (Prod.mk.inj hreply).1
      exact ⟨size, hinfo, hsize⟩
    | recordedTime q =>
      obtain rfl := hsame rfl
      obtain ⟨rfl, -⟩ := Reply.answer.inj (Prod.mk.inj hreply).1
      obtain ⟨t, ht, hfind⟩ := Option.bind_eq_some_iff.mp h.row_eq
      simp [World.query, hv.reads, Store.lastModified?_eq ht, hfind, hrow, Except.toOption]
    | _ => trivial
  starts item generation exhausted hstart := by
    rw [h.budgeted.tracked.pipeline_eq]
    exact settled_binds (Pipeline.ofConfig c backends) hp time generation exhausted
      (hv.texts (item, generation) (mem_starts hstart))

/-- **A picture that nobody disturbs is left alone** in every move, and its record stays. -/
lemma Settled.move {row : Row} (h : s.Settled c backends p time row deeds) {v : Move}
    (hv : s.Undisturbed p time v) (hp : p.IsText)
    (hrow : Instant.ofMicros? row.micros = some time) :
    (s.move v).Settled c backends p time row (deeds ++ s.deeds v) ∧ ¬ s.Consults p v := by
  refine ⟨⟨h.budgeted.move hv.legal, h.abiding.move h.budgeted.sound (h.honours hv hp hrow), ?_⟩,
    ?_⟩
  · rw [← h.row_eq]
    refine row?_move hv.record fun task r hput => ?_
    obtain ⟨hown, hlook, hother⟩ := h.abiding.allowed hput
    by_cases hpath : task.path = p
    · obtain ⟨a, hreply⟩ := s.world.reply_look (hlook hpath)
      rw [hreply]
    · refine World.row?_reply fun q hq => ?_
      obtain rfl : task.path = q := by
        rcases hown with hnone | hsome
        · exact nomatch hnone.symm.trans hq
        · exact Option.some.inj (hsome.symm.trans hq)
      exact hother hpath
  · rintro ⟨task, r, hput, houtward, hpath⟩
    obtain ⟨hown, hlook, -⟩ := h.abiding.allowed hput
    have hsame : task.path = p := by
      rcases hpath with hpath | hpath
      · exact hpath
      · rcases hown with hnone | hsome
        · exact nomatch hnone.symm.trans hpath
        · exact Option.some.inj (hsome.symm.trans hpath)
    have hlooks := hlook hsame
    cases r <;> simp [Request.isLook] at hlooks <;> simp [Request.isOutward] at houtward

lemma Settled.along {row : Row} (h : s.Settled c backends p time row deeds) {vs : List Move}
    (hvs : Along (Undisturbed p time) s vs) (hp : p.IsText)
    (hrow : Instant.ofMicros? row.micros = some time) :
    (s.moveAll vs).Settled c backends p time row (deeds ++ s.history vs) ∧
      Along (fun s v => ¬ s.Consults p v) s vs :=
  hvs.induction (fun _ _ _ hv hs => hs.move hv hp hrow) h

/-! ## What an annotated item leaves behind -/

/-- The task of a generation asked for size and time of the file at a path, in one of some moves,
and was told this time. -/
def Saw (first : Session) (vs : List Move) (generation : Nat) (q : Path) (time : Instant) : Prop :=
  ∃ us v ws, vs = us ++ v :: ws ∧ (first.moveAll us).asked? v = some (generation, .info q) ∧
    ∃ size, (first.moveAll us).world.files.info? q = some ⟨size, some time⟩

/-- What is expected of items: one that is reported as annotated has seen the file's time and has
written a record with it. -/
def witnessed (first : Session) (vs : List Move) : Covenant where
  answers _ generation r a := match r, a with
    | .info q, a => ∀ info, a = some info → ∀ time, info.modified = some time →
      first.Saw vs generation q time
    | .insert record, a => a = .ok () → .wrote generation record ∈ first.history vs
    | _, _ => True
  allows _ _ _ := True
  reports generation outcome := ∀ n, outcome = .annotated n → ∃ item record,
    (item, generation) ∈ starts (Deed.log (first.history vs)) ∧
      .wrote generation record ∈ first.history vs ∧ record.path = item.path ∧
      first.Saw vs generation item.path record.lastModified

end Session

end Simulation

namespace Pipeline

open Plan

variable (e : Pipeline) (exhausted : Bool) (p : Path)
  {answers : (r : Request) → r.Answer → Prop} {reports : Outcome → Prop}

/-- A plan of which nothing is expected. -/
lemma abides_anyhow {α : Type} (plan : Plan α) :
    plan.Abides answers (fun _ => True) fun _ => True := by
  induction plan with
  | done => trivial
  | ask r next ih => exact ⟨trivial, fun a _ => ih a⟩

section

variable (hquiet : ∀ outcome, (∀ n, outcome ≠ .annotated n) → reports outcome)

include hquiet

variable {time : Instant}
  (hwritten : ∀ record n, answers (.insert record) (.ok ()) → record.path = p →
    record.lastModified = time → reports (.annotated n))

include hwritten

lemma abides_develop (size : Nat) :
    (e.develop p time size).Abides answers (fun _ => True) reports := by
  refine abides_request trivial fun decoded _ => ?_
  cases decoded with
  | none => exact hquiet _ (by rintro n ⟨⟩)
  | some b =>
    refine abides_request trivial fun _ _ => ?_
    rw [describe]
    split
    · exact hquiet _ (by rintro n ⟨⟩)
    · refine abides_bind.mpr ((abides_anyhow _).mono fun found _ => ?_)
      simp only
      split
      · exact hquiet _ (by rintro n ⟨⟩)
      · refine abides_request trivial fun answer hanswer => ?_
        cases answer with
        | ok => exact hwritten _ _ hanswer rfl rfl
        | error => exact hquiet _ (by rintro n ⟨⟩)

end

/-- **An item that is reported as annotated has read the time of its file and written a record with
it.** -/
theorem abides_process (item : Item) {seen : Instant → Prop} {wrote : Record → Prop}
    (hseen : ∀ info time, answers (.info item.path) (some info) → info.modified = some time →
      seen time)
    (hwrote : ∀ record, answers (.insert record) (.ok ()) → wrote record) :
    (e.process exhausted item).Abides answers (fun _ => True) fun outcome =>
      ∀ n, outcome = .annotated n → ∃ record, wrote record ∧ record.path = item.path ∧
        seen record.lastModified := by
  obtain ⟨p, work⟩ := item
  have hquiet : ∀ outcome : Outcome, (∀ n, outcome ≠ .annotated n) → ∀ n, outcome = .annotated n →
      ∃ record, wrote record ∧ record.path = p ∧ seen record.lastModified :=
    fun outcome hne n h => absurd h (hne n)
  have hremoved := hquiet .removed nofun
  have hrefused := hquiet (.failed .store) nofun
  cases work with
  | removeStale =>
    refine abides_request trivial fun kind _ => ?_
    cases kind with
    | none => exact (within_removeRecord p trivial hremoved hrefused).abides
    | some kind => exact hquiet _ nofun
  | examine =>
    refine abides_request trivial fun kind _ => ?_
    rcases kind with _ | (_ | _ | _ | _)
    · exact (within_examineMissing p trivial trivial hremoved hrefused
        fun paths => hquiet (.staleDescendants paths) nofun).abides
    · exact hquiet _ nofun
    · exact abides_request trivial fun _ _ => hquiet _ nofun
    · refine abides_request trivial fun type _ => ?_
      split
      · exact hquiet _ nofun
      refine e.abides_annotate_of exhausted p trivial trivial trivial (hquiet .rejected nofun)
        (fun _ _ _ => trivial) fun info time hfinds hmodified => ?_
      refine abides_request trivial fun recorded _ => ?_
      split
      · exact hquiet _ nofun
      split
      · exact hquiet _ nofun
      refine e.abides_develop p hquiet (fun record n hok hpath htime _ _ => ?_) info.sizeBytes
      subst htime
      exact ⟨record, hwrote record hok, hpath, hseen info _ hfinds.told hmodified⟩
    · exact hquiet _ nofun

end Pipeline

namespace Simulation

namespace Session

variable {s : Session} {deeds : List Deed} {c : Config} {backends : Backends} {p : Path}
  {time : Instant}

/-- Whether nobody outside touches the record of a path in a move. -/
def Spares (p : Path) (s : Session) (v : Move) : Prop :=
  v.Legal ∧ ∀ w ∈ v.world?, w.row? p = s.world.row? p

instance (v : Move) : Decidable (s.Spares p v) := by
  unfold Spares
  infer_instance

/-- What has been written for the item in flight is in the store. -/
def Lasting (p : Path) (s : Session) (deeds : List Deed) : Prop :=
  ∀ record, record.path = p → .wrote (left deeds + 1) record ∈ deeds →
    s.world.row? p = some (Store.rowOf record)

lemma wrote_pos {generation : Nat} {record : Record} (h : .wrote generation record ∈ deeds) :
    0 < wrote deeds generation :=
  List.countP_pos_iff.mpr ⟨(generation, record), List.mem_filterMap.mpr ⟨_, h, rfl⟩, by simp⟩

/-- A task that has written asks for nothing more. -/
lemma Orderly.unwritten (h : Orderly s.mailbox s deeds) (hsound : s.Sound deeds) {v : Move}
    {task : Task} {r : Request} (hput : s.put? v = some (task, r)) :
    task.generation = left deeds + 1 ∧ wrote deeds (left deeds + 1) = 0 := by
  obtain ⟨i, next, -, htask, hrun⟩ := plan_of_put? hput
  obtain ⟨f, q, hf, hunderway, -, -, hown, hkeeps⟩ := h.alone htask
  obtain ⟨-, -, -, hleft⟩ := hsound.in_flight hf
  have hallows := (hkeeps _ (runnable_plan hrun)).1
  refine ⟨hown.trans hleft, ?_⟩
  rw [← hleft, hunderway.wrote_eq, if_neg hallows.ne_written]

lemma Lasting.move (h : s.Lasting p deeds) (hsound : s.Sound deeds)
    (horder : Orderly s.mailbox s deeds) {v : Move} (hv : s.Spares p v) :
    (s.move v).Lasting p (deeds ++ s.deeds v) := by
  intro record hpath hwrote
  have hleft : left deeds ≤ left (deeds ++ s.deeds v) := by
    simp [left, Deed.log_append]
  rcases List.mem_append.mp hwrote with hold | hnew
  · -- it was written before, and its item is still in flight
    have hpos := wrote_pos hold
    have hsame : left (deeds ++ s.deeds v) = left deeds := by
      by_contra hne
      have hlater : left deeds + 1 < left (deeds ++ s.deeds v) + 1 := by omega
      have hnone := horder.ledger.wrote_later hlater
      omega
    rw [hsame] at hold hpos
    rw [← h record hpath hold]
    refine row?_move hv.2 fun task r hput => ?_
    have hnone := (horder.unwritten hsound hput).2
    omega
  · obtain ⟨task, hput, -, hok⟩ := mem_deeds_wrote.mp hnew
    subst hpath
    rw [world_of_put? hput]
    exact World.row?_insert (Prod.ext (congrArg (Reply.answer · 0) hok) rfl)

/-- Every move of a run honours what is expected of the items of this very run. -/
lemma honours_witnessed {first : Session} {vs us ws : List Move} {v : Move}
    (hvs : vs = us ++ v :: ws) (hv : v.Legal) :
    Honours (first.witnessed vs) (first.moveAll us) v where
  legal := hv
  answers task r hput a delay w hreply := by
    cases r with
    | info q =>
      obtain ⟨rfl, -⟩ := Reply.answer.inj (Prod.mk.inj hreply).1
      intro info hinfo time htime
      refine ⟨us, v, ws, hvs, by rw [asked?_eq, hput]; rfl, info.sizeBytes, ?_⟩
      rw [hinfo, ← htime]
    | insert record =>
      obtain ⟨rfl, -⟩ := Reply.answer.inj (Prod.mk.inj hreply).1
      intro hok
      rw [hvs]
      exact deeds_subset_history (mem_deeds_wrote.mpr ⟨task, hput, rfl, hok⟩)
    | _ => trivial
  starts item generation exhausted hstart := by
    have hstarted : (item, generation) ∈ starts (Deed.log (first.history vs)) := by
      subst hvs
      exact starts_subset deeds_subset_history (mem_starts hstart)
    have hseen : ∀ info time, (first.witnessed vs).answers item.path generation (.info item.path)
        (some info) → info.modified = some time → first.Saw vs generation item.path time :=
      fun info time hinfo htime => hinfo info rfl time htime
    have hwrote : ∀ record, (first.witnessed vs).answers item.path generation (.insert record)
        (.ok ()) → .wrote generation record ∈ first.history vs :=
      fun record h => h rfl
    refine ((first.moveAll us).pipeline.abides_process exhausted item hseen hwrote).mono ?_
    intro outcome hreport n houtcome
    obtain ⟨record, hwrote, hpath, hsaw⟩ := hreport n houtcome
    exact ⟨item, record, hstarted, hwrote, hpath, hsaw⟩

/-- **An annotated item has written the time that it saw.**  When an item leaves as annotated, its
path has the record that the item wrote, with the time that it saw of the file, and no task lives
that was started before. -/
theorem written_by_annotated {world : World} {gate : Option (Worker × Gate × Nat)}
    {vs : List Move}
    (hvs : Along (Spares p) (starting world c backends gate) vs) {d : Departure} {n : Nat}
    (hd : d ∈ departures (Deed.log (((starting world c backends gate).moveAll vs).deeds .deliver)))
    (hpath : d.item.path = p) (hannotated : d.outcome = some (.annotated n)) :
    let first := starting world c backends gate
    let s := first.moveAll vs
    s.Budgeted c backends (first.history vs) ∧ s.tasks = [] ∧
      (d.item, d.generation) ∈ starts (Deed.log (first.history vs)) ∧ ∃ record,
        record.path = p ∧ s.world.row? p = some (Store.rowOf record) ∧
        first.Saw vs d.generation p record.lastModified := by
  intro first s
  obtain ⟨⟨hbudgeted, habiding, hlasting⟩, -⟩ := hvs.located.induction (R := fun _ _ => True)
    (P := fun s deeds => s.Budgeted c backends deeds ∧ Abiding (first.witnessed vs) s deeds ∧
      s.Lasting p deeds)
    (fun s deeds v ⟨hv, us, ws, hsplit, hs⟩ ⟨hbudgeted, habiding, hlasting⟩ => by
      refine ⟨⟨hbudgeted.move hv.1, ?_, ?_⟩, trivial⟩
      · exact habiding.move hbudgeted.sound (hs ▸ honours_witnessed hsplit hv.1)
      · exact hlasting.move hbudgeted.sound hbudgeted.orderly hv)
    ⟨budgeted_starting world c backends gate, abiding_of_nil rfl rfl,
      fun _ _ hnone => absurd hnone List.not_mem_nil⟩
  rw [List.nil_append] at hbudgeted habiding hlasting
  obtain ⟨q, rest, hmail, hopen, hflight, hfront⟩ := hbudgeted.sound.reported hd hannotated
  obtain ⟨f, hf, hgeneration⟩ := Option.map_eq_some_iff.mp hflight
  obtain ⟨-, hqueue, -, hleft⟩ := hbudgeted.sound.in_flight hf
  obtain ⟨progress, hunderway⟩ := hbudgeted.orderly.busy f hf
  have hreport : .completed q f.generation (.annotated n) ∈ s.mailbox := by
    rw [hmail, hgeneration]
    exact List.mem_cons_self
  obtain ⟨item, record, hstart, hwrote, hitem, hsaw⟩ :=
    habiding.mail q f.generation _ hreport n rfl
  -- the item that was reported is the one that leaves
  obtain rfl := hbudgeted.sound.item_eq hf hfront hstart
  rw [hpath] at hitem hsaw
  rw [hgeneration] at hsaw
  refine ⟨hbudgeted, (hunderway.report q _ hreport).1, hgeneration ▸ hstart, record, hitem, ?_,
    hsaw⟩
  exact hlasting record hitem (hleft ▸ hwrote)

/-- Where no task lives, the items that a delivery starts leave a picture alone. -/
lemma settled_deliver {row : Row} (h : s.Budgeted c backends deeds) (htasks : s.tasks = [])
    (hp : p.IsText) (hrow : s.world.row? p = some row)
    (htexts : ∀ x ∈ starts (Deed.log (s.deeds .deliver)), x.1.path.IsText) :
    (s.move .deliver).Settled c backends p time row (deeds ++ s.deeds .deliver) where
  budgeted := h.move (v := .deliver) trivial
  abiding := {
    tasks := fun task htask plan hplan => by
      rcases mem_deliver_tasks htask with hold | ⟨item, generation, exhausted, hstart, rfl⟩
      · simp [htasks] at hold
      · obtain rfl := Option.some.inj hplan
        rw [h.tracked.pipeline_eq]
        exact settled_binds (Pipeline.ofConfig c backends) hp time generation exhausted
          (htexts (item, generation) (mem_starts hstart))
    mail := fun _ _ _ _ => trivial
    left := fun _ _ _ _ => trivial }
  row_eq := by
    rw [← hrow]
    exact row?_move nofun nofun

/-- A session that starts with the record of a picture leaves the picture alone. -/
lemma settled_starting {world : World} {row : Row} (c : Config) (backends : Backends)
    (gate : Option (Worker × Gate × Nat)) (hrow : world.row? p = some row) :
    (starting world c backends gate).Settled c backends p time row [] where
  budgeted := budgeted_starting world c backends gate
  abiding := abiding_of_nil rfl rfl
  row_eq := hrow

end Session

/-! ## Later sittings -/

/-- A session that starts afresh, and the moves that it takes. -/
structure Sitting where
  /-- Clock, files, store and backends at the start. -/
  world : World
  /-- The configuration. -/
  config : Config
  /-- The backends in use. -/
  backends : Backends
  /-- The gate, if there is one. -/
  gate : Option (Worker × Gate × Nat)
  /-- The moves. -/
  moves : List Move

namespace Sitting

open Session

/-- The session at the start. -/
def first (t : Sitting) : Session := starting t.world t.config t.backends t.gate

/-- The session at the end. -/
def last (t : Sitting) : Session := t.first.moveAll t.moves

/-- Whether each of some sittings begins with the store that the one before it left behind, and a
recorded picture is disturbed in none of them. -/
def Resume (p : Path) (time : Instant) : Store → List Sitting → Prop
  | _, [] => True
  | store, t :: ts => t.world.store = store ∧ Along (Undisturbed p time) t.first t.moves ∧
      Resume p time t.last.world.store ts

lemma Resume.spares {p : Path} {time : Instant} {row : Row} {store : Store} {ts : List Sitting}
    (h : Resume p time store ts) (hp : p.IsText) (hrow : Instant.ofMicros? row.micros = some time)
    (hstore : store.pictures.bind (·.find? p.text) = some row) :
    ∀ t ∈ ts, Along (fun s v => ¬ s.Consults p v) t.first t.moves ∧
      t.last.world.row? p = some row := by
  induction ts generalizing store with
  | nil => simp
  | cons t ts ih =>
    obtain ⟨hsame, hundisturbed, hlater⟩ := h
    have hfirst : t.world.row? p = some row := by rw [World.row?, hsame, hstore]
    obtain ⟨hsettled, hspared⟩ :=
      (settled_starting t.config t.backends t.gate hfirst).along hundisturbed hp hrow
    refine List.forall_mem_cons.mpr ⟨⟨hspared, hsettled.row_eq⟩, ?_⟩
    exact ih hlater hsettled.row_eq

end Sitting

namespace Session

/-- **An annotated picture is left alone.**  Take any session that starts afresh and any moves in
which nobody else touches the record of a path, let its item leave as annotated in the delivery
after them, and let the paths of all items that were started be UTF-8.  Then the path has a record,
and its time is one that the item was told of the file.

And whatever happens afterwards, in this session and in later ones on the same store, with whatever
messages, files, backends, budgets and configurations: as long as a picture worth indexing with
this time stands at the path, the recorded times can be read, nobody else touches the record, and
the paths of all items that are started are UTF-8, neither the decoder nor a backend is asked for
anything on account of the path, and its record stays as it is. -/
theorem annotated_picture_left_alone (world : World) (c : Config) (backends : Backends)
    (gate : Option (Worker × Gate × Nat)) (vs : List Move) (p : Path) (d : Departure) (n : Nat)
    (hvs : Along (Spares p) (starting world c backends gate) vs)
    (htexts : ∀ x ∈ starts (Deed.log
      ((starting world c backends gate).history (vs ++ [.deliver]))), x.1.path.IsText)
    (hd : d ∈ departures (Deed.log
      (((starting world c backends gate).moveAll vs).deeds .deliver)))
    (hpath : d.item.path = p) (hannotated : d.outcome = some (.annotated n)) :
    let first := starting world c backends gate
    let s := first.moveAll (vs ++ [.deliver])
    ∃ row time, s.world.row? p = some row ∧ Instant.ofMicros? row.micros = some time ∧
      first.Saw vs d.generation p time ∧
      ∀ (vs' : List Move) (ts : List Sitting), Along (Undisturbed p time) s vs' →
        Sitting.Resume p time (s.moveAll vs').world.store ts →
        (Along (fun s v => ¬ s.Consults p v) s vs' ∧
          (s.moveAll vs').world.row? p = some row) ∧
        ∀ t ∈ ts, Along (fun s v => ¬ s.Consults p v) t.first t.moves ∧
          t.last.world.row? p = some row := by
  intro first s
  obtain ⟨hbudgeted, htasks, hstart, record, hrecord, hrow, hsaw⟩ :=
    written_by_annotated hvs hd hpath hannotated
  have htime : Instant.ofMicros? (Store.rowOf record).micros = some record.lastModified := by
    obtain ⟨us, v, ws, -, -, size, hinfo⟩ := hsaw
    exact FileTree.ofMicros?_of_info hinfo rfl
  have hdeliver : s = (first.moveAll vs).move .deliver := List.foldl_append
  have hp : p.IsText := by
    rw [← hpath]
    refine htexts (d.item, d.generation) (starts_subset ?_ hstart)
    rw [history_append]
    exact List.subset_append_left _ _
  have hsettled : s.Settled c backends p record.lastModified (Store.rowOf record)
      (first.history vs ++ (first.moveAll vs).deeds .deliver) := by
    rw [hdeliver]
    refine settled_deliver hbudgeted htasks hp hrow fun x hx => htexts x (starts_subset ?_ hx)
    exact deeds_subset_history
  refine ⟨Store.rowOf record, record.lastModified, hsettled.row_eq, htime, hsaw,
    fun vs' ts hvs' hts => ?_⟩
  obtain ⟨hend, hspared⟩ := hsettled.along hvs' hp htime
  exact ⟨⟨hspared, hend.row_eq⟩, hts.spares hp htime hend.row_eq⟩

/-- A picture is submitted and annotated. -/
def annotatedOnce (p : Path) : List Move :=
  [.send (.submit p), .deliver] ++ List.replicate 10 (.task 0) ++ [.deliver]

/-- The picture comes by again in every way: by itself, as a stale record, and in a listing. -/
def comeAgain : List Move :=
  List.flatten [[.send (.submit pathA), .send (.removeStale pathA), .send (.submit ⟨[Path.slash]⟩)],
    List.replicate 3 .deliver, List.replicate 6 (.task 0), [.deliver], List.replicate 2 (.task 0),
    [.deliver], List.replicate 3 (.task 0), [.deliver], List.replicate 6 (.task 0), [.deliver]]

/-- A later session on a store in which the backends would answer otherwise. -/
def comesAgainLater (store : Store) : Sitting :=
  ⟨{ twoPictures with store := store }, onePicture, ⟨true, true⟩, none,
    annotatedOnce pathA ++ comeAgain⟩

/-- A picture comes by again in the same session and in a later one. -/
theorem picture_left_alone_when_it_comes_again :
    let s := (starting twoPictures onePicture ⟨true, false⟩ none).moveAll
      (annotatedOnce pathA ++ [.deliver])
    Along (fun s v => ¬ s.Consults pathA v) s comeAgain ∧ ∃ row,
      s.world.row? pathA = some row ∧ (s.moveAll comeAgain).world.row? pathA = some row ∧
      ∃ later : Sitting, later.world.store = (s.moveAll comeAgain).world.store ∧
        Along (fun s v => ¬ s.Consults pathA v) later.first (annotatedOnce pathA ++ comeAgain) ∧
        later.last.world.row? pathA = some row := by
  intro s
  have hspares : Along (Spares pathA) (starting twoPictures onePicture ⟨true, false⟩ none)
      (annotatedOnce pathA) := by decide +kernel
  have htexts : ∀ x ∈ starts (Deed.log ((starting twoPictures onePicture ⟨true, false⟩ none).history
      (annotatedOnce pathA ++ [.deliver]))), x.1.path.IsText := by decide +kernel
  have hleft : ⟨⟨pathA, .examine⟩, 1, some (.annotated 0)⟩ ∈ departures (Deed.log
      (((starting twoPictures onePicture ⟨true, false⟩ none).moveAll (annotatedOnce pathA)).deeds
        .deliver)) := by decide +kernel
  have hrow : s.world.row? pathA = some ⟨0, 16, "[]"⟩ := by decide +kernel
  have hepoch : Instant.ofMicros? 0 = some ⟨0, 0⟩ := by decide
  obtain ⟨row, time, hwritten, hread, -, hspared⟩ := annotated_picture_left_alone twoPictures
    onePicture ⟨true, false⟩ none (annotatedOnce pathA) pathA _ 0 hspares htexts hleft rfl rfl
  obtain rfl := Option.some.inj (hrow.symm.trans hwritten)
  obtain rfl := Option.some.inj (hepoch.symm.trans hread)
  have hundisturbed : Along (Undisturbed pathA ⟨0, 0⟩) s comeAgain := by decide +kernel
  have hlater : Along (Undisturbed pathA ⟨0, 0⟩)
      (comesAgainLater (s.moveAll comeAgain).world.store).first
      (annotatedOnce pathA ++ comeAgain) := by decide +kernel
  specialize hspared comeAgain
  -- what the store holds in between does not matter here
  generalize (s.moveAll comeAgain).world.store = store at hlater hspared ⊢
  obtain ⟨⟨hhere, hstays⟩, hthere⟩ :=
    hspared [comesAgainLater store] hundisturbed ⟨rfl, hlater, trivial⟩
  obtain ⟨hquiet, hremains⟩ := hthere _ List.mem_cons_self
  exact ⟨hhere, _, hrow, hstays, comesAgainLater store, rfl, hquiet, hremains⟩

end Session

end Simulation

end PictureIndex
