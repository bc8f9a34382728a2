import PictureIndex.Proofs.Findings
import PictureIndex.Proofs.SettledPictures
import PictureIndex.Proofs.Vocabulary
/-!
# Every record is as the configuration wants it

The scheduler is told of paths by the host, the watcher, the sweep, listed directories and look-ups
of directories that are gone.  Paths to be looked at are asked whether they are excluded when they
join the queue, and nowhere else; paths of records to be removed are not.  So nothing is ever done
for an excluded path but to look whether it is there and to remove its record (`screened_after`),
and the records that are written have all been asked for by items that were admitted.

`Record.Lawful` says what is promised of a record, and `every_record_is_lawful` that it holds of all
records at every moment, whatever happens to the files meanwhile and whatever the backends answer.
-/

namespace PictureIndex

open Log

/-- What is promised of a record in a configuration and with some backends in use. -/
structure Record.Lawful (c : Config) (backends : Backends) (r : Record) : Prop where
  /-- The text of its path starts with no prefix that is excluded. -/
  admitted : ∀ e ∈ c.excludedPrefixes, e ≠ "" → ¬ e.toList <+: r.path.text.toList
  /-- The path that this text spells has the extension of a picture. -/
  candidate : (Path.ofText r.path.text).isCandidate = true
  /-- Its size is one that is indexed. -/
  size : 1 ≤ r.sizeBytes.toNat ∧ r.sizeBytes.toNat ≤ c.maxFileSizeBytes.toNat
  /-- Its time is a whole number of microseconds. -/
  time : r.lastModified.nanos % 1000 = 0
  /-- Its time is read as it was written. -/
  read : Instant.ofMicros? r.lastModified.micros = some r.lastModified
  /-- If there is a backend, its words are as promised, and none is the lower-case form of a stop
  word. -/
  words : backends.isEmpty = false → ∀ w ∈ r.annotations.keys,
    (WordFilter.ofStopWords c.stopWords).Keeps w ∧ ∀ stop ∈ c.stopWords, w ≠ Text.lower stop

lemma Path.not_prefix_of_isExcluded {p : Path} {prefixes : List String}
    (h : p.isExcluded prefixes = false) :
    ∀ e ∈ prefixes, e ≠ "" → ¬ e.toList <+: p.text.toList := by
  intro e he hne hstarts
  have hexcluded : p.isExcluded prefixes = true :=
    List.any_eq_true.mpr ⟨e, he, by simp [List.isPrefixOf_iff_prefix.mpr hstarts, hne]⟩
  rw [h] at hexcluded
  cases hexcluded

/-- Where there are backends, words that they have led to are as promised. -/
lemma Pipeline.Yields.keeps {c : Config} {backends : Backends} {p : Path} {w : String}
    {answers : (r : Request) → r.Answer → Prop} (hsome : backends.isEmpty = false)
    (h : (ofConfig c backends).Yields answers p w) :
    (WordFilter.ofStopWords c.stopWords).Keeps w := by
  cases h with
  | line b answer hdecode hanswer l hl hw => exact WordFilter.keeps_extract hw
  | label answer hanswer hok l hl hcounts hw => exact WordFilter.keeps_extract hw
  | name hnone hw => cases hsome.symm.trans hnone

namespace Simulation.Session

variable {s : Session} {deeds : List Deed} {excluded : List String}

/-! ## Admission -/

/-- Whether an item may be there: only for the removal of a record is no path refused. -/
def Admitted (excluded : List String) (item : Item) : Prop :=
  item.work = .examine → item.path.isExcluded excluded = false

/-- Whether all items that joined the queue or were started may be there. -/
structure Screened (excluded : List String) (s : Session) (deeds : List Deed) : Prop where
  /-- The scheduler knows which paths are excluded. -/
  excluded_eq : s.scheduler.excludedPrefixes = excluded
  /-- What joined may be there. -/
  join : s.scheduler.stopped = false → ∀ item ∈ joined (Deed.log deeds), Admitted excluded item
  /-- What was started may be there. -/
  start : ∀ x ∈ starts (Deed.log deeds), Admitted excluded x.1

lemma admitted_additions {scheduler : Scheduler} {m : Message} :
    ∀ item ∈ scheduler.additions m, Admitted scheduler.excludedPrefixes item := by
  have hpaths (paths : List Path) :
      ∀ item ∈ scheduler.admitted paths, Admitted scheduler.excludedPrefixes item := by
    intro item hitem _
    obtain ⟨p, hp, rfl⟩ := List.mem_map.mp hitem
    simpa using (List.mem_filter.mp hp).2
  intro item hitem
  cases m with
  | submit p => exact hpaths [p] item hitem
  | removeStale p =>
    rw [List.mem_singleton.mp hitem]
    rintro ⟨⟩
  | completed p generation outcome =>
    rw [Scheduler.additions] at hitem
    split at hitem
    · exact hpaths _ item hitem
    · exact absurd hitem List.not_mem_nil
  | _ => exact absurd hitem List.not_mem_nil

/-- What was started has joined before. -/
lemma Sound.joined_of_started (h : s.Sound deeds) (hopen : s.scheduler.stopped = false)
    {x : Item × Nat} (hx : x ∈ starts (Deed.log deeds)) : x.1 ∈ joined (Deed.log deeds) := by
  rw [show starts (Deed.log deeds) = _ from (h.ordered hopen).starts_eq] at hx
  rw [h.joined_eq hopen]
  obtain ⟨item, generation⟩ := x
  rcases List.mem_append.mp (List.fst_mem_of_mem_zipIdx hx) with hleft | hfront
  · exact List.mem_append_left _ hleft
  · exact List.mem_append_right _ (List.mem_of_mem_head? (Option.mem_toList.mp hfront))

lemma Screened.move (h : s.Screened excluded deeds) (hsound : s.Sound deeds) (v : Move) :
    (s.move v).Screened excluded (deeds ++ s.deeds v) := by
  have hquiet (hexcluded : (s.move v).scheduler = s.scheduler)
      (hdeeds : Deed.log (s.deeds v) = []) : (s.move v).Screened excluded (deeds ++ s.deeds v) := by
    have hlog : Deed.log (deeds ++ s.deeds v) = Deed.log deeds := by
      rw [Deed.log_append, hdeeds, List.append_nil]
    refine ⟨by rw [hexcluded]; exact h.excluded_eq, fun hopen => ?_, ?_⟩
    · rw [hlog]
      exact h.join (hexcluded ▸ hopen)
    · rw [hlog]
      exact h.start
  by_cases hv : v = .deliver
  swap
  · exact hquiet (move_scheduler hv).1 (move_scheduler hv).2
  subst hv
  obtain hnone | ⟨m, rest, hmail, hopen⟩ := s.delivery_cases
  · obtain ⟨hmove, hdeeds⟩ := move_deliver_nothing hsound hnone
    exact hquiet (by rw [hmove]) (by rw [hdeeds]; rfl)
  by_cases hm : m = .shutdown
  · -- nothing joins any more, and nothing is started
    subst hm
    have hscheduler := scheduler_shutdown hmail hopen
    refine ⟨by rw [hscheduler]; exact h.excluded_eq, fun hstill => ?_, fun x hx => ?_⟩
    · rw [hscheduler] at hstill
      cases hstill
    · rcases hsound.open_or_idle .deliver with hstill | ⟨hidle, -⟩
      · rw [hscheduler] at hstill
        cases hstill
      · rw [Deed.log_append, starts_append, hidle, List.append_nil] at hx
        exact h.start x hx
  · obtain ⟨hjoined, -, hstays, hexcluded, -⟩ := hsound.log_deliver hopen hmail hm
    have hall : ∀ item ∈ joined (Deed.log (deeds ++ s.deeds .deliver)),
        Admitted excluded item := by
      intro item hitem
      rw [hjoined] at hitem
      rcases List.mem_append.mp hitem with hold | hnew
      · exact h.join hopen item hold
      · exact h.excluded_eq ▸ admitted_additions item hnew
    refine ⟨hexcluded.trans h.excluded_eq, fun _ => hall, fun x hx => ?_⟩
    exact hall x.1 ((hsound.move .deliver).joined_of_started hstays hx)

variable {world : World} {c : Config} {backends : Backends} {gate : Option (Worker × Gate × Nat)}
  {moves : Nat → Move} {n : Nat}

/-- **No path that is excluded is ever looked at**, however it came to be known. -/
theorem screened_after (hlegal : ∀ k < n, (moves k).Legal) :
    ((starting world c backends gate).after moves n).Screened c.excludedPrefixes
      ((starting world c backends gate).chronicle moves n) := by
  induction n with
  | zero => exact ⟨rfl, by simp [chronicle], by simp [chronicle]⟩
  | succ n ih =>
    have hbefore : ∀ k < n, (moves k).Legal := fun k hk => hlegal k (by omega)
    exact (ih hbefore).move (budgeted_after world c backends gate hbefore).sound (moves n)

/-- A record is removed without asking anybody outside. -/
lemma removeStale_stays_inside (p : Path) :
    (Pipeline.removeStale p).Puts (·.isOutward = false) := by
  refine ⟨rfl, fun kind => ?_⟩
  cases kind with
  | none => exact ⟨rfl, fun answer => by cases answer <;> trivial⟩
  | some kind => trivial

lemma Chronicled.admitted {item : Item} {generation k : Nat} {plan : Plan Outcome}
    (hlegal : ∀ k < n, (moves k).Legal) (hk : k ≤ n)
    (h : (starting world c backends gate).Descends moves (Pipeline.ofConfig c backends) item
      generation plan k) (hwork : item.work = .examine) :
    item.path.isExcluded c.excludedPrefixes = false :=
  (screened_after hlegal).start (item, generation) (h.started hk) hwork

/-- **The decoder and the backends are asked for nothing on account of an excluded path.** -/
theorem admitted_of_outward (hlegal : ∀ k < n, (moves k).Legal) {task : Task} {r : Request}
    (hput : ((starting world c backends gate).after moves n).put? (moves n) = some (task, r))
    (houtward : r.isOutward = true) :
    task.path.isExcluded c.excludedPrefixes = false ∧ ∀ q ∈ r.path?, q = task.path := by
  obtain ⟨item, k, next, hpath, hk, hdescends, -⟩ :=
    (chronicled world c backends gate hlegal).of_put hput
  have hadmitted := Chronicled.admitted hlegal hk hdescends
  obtain ⟨l, exhausted, -, hreach⟩ := hdescends
  have hown : r.IsOf item.path := ((Pipeline.puts_process (Pipeline.ofConfig c backends) exhausted
    item fun _ h => h).of_reaches hreach).1
  rw [← hpath]
  refine ⟨hadmitted ?_, fun q hq => ?_⟩
  · cases hwork : item.work with
    | examine => rfl
    | removeStale =>
      rw [Pipeline.process, hwork] at hreach
      have hinside : r.isOutward = false :=
        ((removeStale_stays_inside item.path).of_reaches hreach).1
      rw [houtward] at hinside
      cases hinside
  · rcases hown with hnone | hsome
    · cases hnone.symm.trans hq
    · exact Option.some.inj (hq.symm.trans hsome)

/-- A record that is written is as promised. -/
theorem lawful_of_written (hlegal : ∀ k < n, (moves k).Legal) {generation : Nat} {record : Record}
    (hwrote : .wrote generation record ∈ (starting world c backends gate).chronicle moves n) :
    record.Lawful c backends := by
  obtain ⟨x, hx, hdeed⟩ := exists_of_mem_chronicle hwrote
  have hbefore : ∀ k < x, (moves k).Legal := fun k hk => hlegal k (by omega)
  obtain ⟨task, hput, rfl, -⟩ := mem_deeds_wrote.mp hdeed
  have hchronicled := chronicled world c backends gate hbefore
  obtain ⟨item, l, exhausted, b, m, type, size, hpath, hwork, hrecord, hstart, hlb, hbm, hmx,
    hsniff, htype, hinfo, hpos, hmax, hsize, hwords, -⟩ := hchronicled.of_insert hput
  have hadmitted : item.path.isExcluded c.excludedPrefixes = false :=
    Chronicled.admitted hbefore (by omega : l + 1 ≤ x) ⟨l, exhausted, hstart, .refl⟩ hwork
  have hcandidate : record.path.isCandidate = true := by
    obtain ⟨-, delay, w, hreply⟩ := hsniff
    obtain ⟨rfl, -⟩ := Reply.answer.inj (Prod.mk.inj hreply).1
    rw [hrecord]
    exact FileTree.isCandidate_of_pictureType htype
  have hread : Instant.ofMicros? record.lastModified.micros = some record.lastModified := by
    obtain ⟨-, delay, w, hreply⟩ := hinfo
    exact FileTree.ofMicros?_of_info (Reply.answer.inj (Prod.mk.inj hreply).1).1 rfl
  have hmax' : size ≤ c.maxFileSizeBytes.toNat := hmax
  have hbytes : record.sizeBytes.toNat = size := hsize ▸ Config.toNat_ofNat_size hmax'
  have hkeeps (hsome : backends.isEmpty = false) (w : String) (hw : w ∈ record.annotations.keys) :=
    (hwords w hw).keeps hsome
  exact {
    admitted := Path.not_prefix_of_isExcluded (hrecord ▸ hadmitted)
    candidate := Path.isCandidate_respelled hcandidate
    size := by rw [hbytes]; exact ⟨hpos, hmax'⟩
    time := Instant.nanos_of_ofMicros? hread
    read := hread
    words := fun hsome w hw => ⟨hkeeps hsome w hw, fun stop hstop hsame =>
      (hkeeps hsome w hw).stops (hsame ▸ List.mem_map_of_mem hstop)⟩ }

/-- **Every record is as the configuration wants it.**  Take any session that starts afresh on a
store without records, and any moves of its parties in which nobody outside touches the store; the
clock, the files, the backends, the decoder and what the store refuses may become others at any
moment.  Then at every moment

* every row of the store is that of a record whose path has the row's key for its text, and the
  record is as promised: its path is not excluded and that of a picture, its size and its time are
  as said, and so are its words, if there is any backend;
* what the decoder or a backend is asked for is asked on account of a path that is not excluded, and
  it is about no other path. -/
theorem every_record_is_lawful (world : World) (c : Config) (backends : Backends)
    (gate : Option (Worker × Gate × Nat)) (moves : Nat → Move) (n : Nat)
    (hempty : ∀ p, world.row? p = none) (hlegal : ∀ k < n, (moves k).Legal)
    (houtside : ∀ k < n, ∀ w ∈ (moves k).world?,
      w.store = ((starting world c backends gate).after moves k).world.store) :
    let s := (starting world c backends gate).after moves n
    (∀ t ∈ s.world.store.pictures, ∀ k row, t.find? k = some row →
      ∃ record, record.path.text = k ∧ row = Store.rowOf record ∧ record.Lawful c backends) ∧
    ∀ task r, s.put? (moves n) = some (task, r) → r.isOutward = true →
      task.path.isExcluded c.excludedPrefixes = false ∧ ∀ q ∈ r.path?, q = task.path := by
  intro s
  refine ⟨fun t ht k row hrow => ?_, fun task r hput houtward =>
    admitted_of_outward hlegal hput houtward⟩
  have hfind : s.world.row? (Path.ofText k) = some row := by
    rw [World.row?, ht, Option.bind_some, Path.text_ofText, hrow]
  rcases row?_after (fun k hk w hw => by rw [World.row?, World.row?, houtside k hk w hw]) hfind with
    hold | ⟨generation, record, hwrote, htext, hsame⟩
  · cases (hempty (Path.ofText k)).symm.trans hold
  · exact ⟨record, htext.trans (Path.text_ofText k), hsame, lawful_of_written hlegal hwrote⟩

/-! ### An excluded picture -/

/-- The pictures `/a.png` and `/b.png`; text recognition answers with a line. -/
def twoReadable : World :=
  { twoPictures with ocr := ⟨some 0, [.answer (.ok ⟨["The Forest of 2024 at dawn"]⟩) 0]⟩ }

/-- A configuration that excludes `/a.png`. -/
def withoutFirst : Config :=
  { onePicture with excludedPrefixes := ["/a"], stopWords := ["THE"] }

/-- The first picture is submitted, its record is to be removed, and the directory of both is
submitted.  The second one is annotated. -/
def reachedInThreeWays : List Move :=
  List.flatten [[.send (.submit pathA), .send (.removeStale pathA), .send (.submit ⟨[Path.slash]⟩)],
    List.replicate 3 .deliver, List.replicate 2 (.task 0), [.deliver], List.replicate 3 (.task 0),
    [.deliver], List.replicate 10 (.task 0), List.replicate 2 .deliver]

/-- Only the second picture has a record, and only for it the decoder is asked. -/
theorem excluded_picture_has_no_record :
    let first := starting twoReadable withoutFirst ⟨true, false⟩ none
    let moves (k : Nat) : Move := (reachedInThreeWays[k]?).getD .deliver
    ((∀ p, twoReadable.row? p = none) ∧ (∀ k < 25, (moves k).Legal) ∧
      ∀ k < 25, (moves k).world?.isNone = true) ∧
    (first.after moves 25).world.row? pathA = none ∧
    (∃ record, (first.after moves 25).world.row? pathB = some (Store.rowOf record) ∧
      (Store.rowOf record).annotations = "[\"dawn\",\"forest\"]" ∧
      record.Lawful withoutFirst ⟨true, false⟩) ∧
    ∃ task r, (first.after moves 18).put? (moves 18) = some (task, r) ∧ r.isOutward = true ∧
      task.path = pathB ∧ task.path.isExcluded withoutFirst.excludedPrefixes = false := by
  intro first moves
  have hempty : ∀ p, twoReadable.row? p = none := fun _ => rfl
  have hlegal : ∀ k < 25, (moves k).Legal := by decide +kernel
  have hnobody : ∀ k < 25, (moves k).world?.isNone = true := by decide +kernel
  have hnone : (first.after moves 25).world.row? pathA = none := by decide +kernel
  have hrow : (first.after moves 25).world.row? pathB =
      some ⟨0, 16, "[\"dawn\",\"forest\"]"⟩ := by decide +kernel
  have hasks : ((first.after moves 18).put? (moves 18)).any
      (fun x => x.2.isOutward ∧ x.1.path = pathB) = true := by decide +kernel
  have hfirst : starting twoReadable withoutFirst ⟨true, false⟩ none = first := rfl
  have hlawful (n : Nat) (hn : n ≤ 25) :=
    every_record_is_lawful twoReadable withoutFirst ⟨true, false⟩ none moves n hempty
      (fun k hk => hlegal k (by omega))
      (fun k hk w hw => by simp [Option.isNone_iff_eq_none.mp (hnobody k (by omega))] at hw)
  rw [hfirst] at hlawful
  clear_value first
  refine ⟨⟨hempty, hlegal, hnobody⟩, hnone, ?_, ?_⟩
  · obtain ⟨t, ht, hfind⟩ := Option.bind_eq_some_iff.mp hrow
    obtain ⟨record, htext, hsame, hrecord⟩ := (hlawful 25 (by omega)).1 t ht pathB.text _ hfind
    exact ⟨record, hsame ▸ hrow, hsame ▸ rfl, hrecord⟩
  · cases hput : (first.after moves 18).put? (moves 18) with
    | none => simp [hput] at hasks
    | some x =>
      rw [hput, Option.any_some, decide_eq_true_eq] at hasks
      have hadmitted := ((hlawful 18 (by omega)).2 x.1 x.2 hput hasks.1).1
      exact ⟨x.1, x.2, rfl, hasks.1, hasks.2, hadmitted⟩

end Simulation.Session

end PictureIndex
